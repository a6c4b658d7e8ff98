import Synoik.Accounting.Covers

/-!
# What an operation does to one monitor

`Alters` says what every operation on a monitor respects: the display stays,
its workspaces are covered by what was there, and none is given a foreign home
that was not on the monitor before.  `Shifts` adds that every window stays
on the monitor and that the shape of the strip is kept; this is what switching,
moving and reordering do.
-/

namespace Synoik.Monitor

open List

open FreshM

variable {mon mon' mon'' : Monitor} {next next' next'' : Nat}

def ids (mon : Monitor) : List WorkspaceId := mon.workspaces.map Workspace.id

def homes (mon : Monitor) : List OutputIdentity := mon.workspaces.map Workspace.originalOutput

def keys (mon : Monitor) : List TileKey := mon.workspaces.flatMap Workspace.keys

/-- The home is the monitor's own display or one already present on it. -/
def KnownHome (mon : Monitor) (home : OutputIdentity) : Prop :=
  home.matchesOutput mon.output = true ∨ home ∈ mon.homes

/-- The same display, and no foreign home that was not there before. -/
structure StaysHome (mon mon' : Monitor) : Prop where
  output : mon'.output = mon.output
  homes : ∀ home ∈ mon'.homes, mon.KnownHome home

namespace StaysHome

lemma refl (mon : Monitor) : StaysHome mon mon := ⟨rfl, fun _ mem => .inr mem⟩

lemma trans (one : StaysHome mon mon')
    (last : StaysHome mon' mon'') : StaysHome mon mon'' := by
  refine ⟨last.output.trans one.output, ?_⟩
  intro home mem
  rcases last.homes home mem with own | old
  · left
    rwa [one.output] at own
  · exact one.homes home old

lemma ofHomes (out : mon'.output = mon.output)
    (same : mon'.homes = mon.homes) : StaysHome mon mon' := by
  refine ⟨out, ?_⟩
  intro _ mem
  right
  rwa [same] at mem

end StaysHome

structure Alters (mon : Monitor) (next : Nat) (mon' : Monitor)
    (next' : Nat) : Prop where
  output : mon'.output = mon.output
  windowingMode : mon'.windowingMode = mon.windowingMode
  thumbDrag : mon'.thumbDrag = mon.thumbDrag
  covers : Covers mon.workspaces next mon'.workspaces next'
  homes : ∀ home ∈ mon'.homes, mon.KnownHome home

namespace Alters

lemma stays (alters : Alters mon next mon' next') : StaysHome mon mon' :=
  ⟨alters.output, alters.homes⟩

lemma trans (one : Alters mon next mon' next')
    (last : Alters mon' next' mon'' next'') : Alters mon next mon'' next'' where
  output := last.output.trans one.output
  windowingMode := last.windowingMode.trans one.windowingMode
  thumbDrag := last.thumbDrag.trans one.thumbDrag
  covers := one.covers.trans last.covers
  homes := (one.stays.trans last.stays).homes

lemma ofSubperm (out : mon'.output = mon.output)
    (mode : mon'.windowingMode = mon.windowingMode)
    (thumbDrag : mon'.thumbDrag = mon.thumbDrag) (fewer : mon'.workspaces.Subperm mon.workspaces) :
    Alters mon next mon' next where
  output := out
  windowingMode := mode
  thumbDrag := thumbDrag
  covers := .ofSubperm fewer
  homes := by
    intro _ mem
    obtain ⟨ws, here, rfl⟩ := mem_map.mp mem
    exact .inr (mem_map.mpr ⟨ws, fewer.subset here, rfl⟩)

lemma ofSameList (out : mon'.output = mon.output)
    (mode : mon'.windowingMode = mon.windowingMode)
    (thumbDrag : mon'.thumbDrag = mon.thumbDrag)
    (same : mon'.workspaces = mon.workspaces) : Alters mon next mon' next :=
  ofSubperm out mode thumbDrag (same ▸ .refl _)

lemma refl (mon : Monitor) (next : Nat) : Alters mon next mon next := ofSameList rfl rfl rfl rfl

lemma ofCores (alters : Alters mon next mon' next') (out : mon''.output = mon'.output)
    (mode : mon''.windowingMode = mon'.windowingMode)
    (thumbDrag : mon''.thumbDrag = mon'.thumbDrag)
    (sameCores : mon''.workspaces.map Workspace.core =
      mon'.workspaces.map Workspace.core) : Alters mon next mon'' next' where
  output := out.trans alters.output
  windowingMode := mode.trans alters.windowingMode
  thumbDrag := thumbDrag.trans alters.thumbDrag
  covers := alters.covers.trans (.ofCores sameCores)
  homes := by
    have same : mon''.homes = mon'.homes := Workspace.ignoresOrdinal_originalOutput.map_eq sameCores
    rw [same]
    exact alters.homes

lemma ofNew {workspaces : List Workspace} (grown : workspaces.Perm
      (Workspace.new next mon.output :: mon.workspaces)) :
    Alters mon next { mon with workspaces } (next + 1) where
  output := rfl
  windowingMode := rfl
  thumbDrag := rfl
  covers := .ofNew rfl rfl grown
  homes := by
    intro _ mem
    obtain ⟨ws, here, rfl⟩ := mem_map.mp mem
    rcases mem_cons.mp (grown.mem_iff.mp here) with rfl | old
    · exact .inl (OutputIdentity.fromOutput_matchesOutput _)
    · exact .inr (mem_map.mpr ⟨ws, old, rfl⟩)

lemma ofSet {idx : Nat} {ws new : Workspace}
    (got : mon.workspaces[idx]? = some ws) (sameId : new.id = ws.id)
    (fewerNames : new.name = ws.name ∨ new.name = none)
    (known : mon.KnownHome new.originalOutput) : Alters mon next
      { mon with workspaces := mon.workspaces.set idx new } next where
  output := rfl
  windowingMode := rfl
  thumbDrag := rfl
  covers := .ofSet got sameId fewerNames
  homes := by
    intro _ mem
    obtain ⟨other, here, rfl⟩ := mem_map.mp mem
    rcases mem_or_eq_of_mem_set here with old | rfl
    · exact .inr (mem_map.mpr ⟨other, old, rfl⟩)
    · exact known

end Alters

lemma GrewBottom.alters (grew : GrewBottom mon next mon' next') : Alters mon next mon' next' := by
  have whole : Alters mon next { mon with
      workspaces := mon.workspaces ++ fillers mon.output next next' }
      next' := by
    refine ⟨rfl, rfl, rfl, .ofFillers _ grew.le, ?_⟩
    intro _ mem
    obtain ⟨ws, here, rfl⟩ := mem_map.mp mem
    rcases mem_append.mp here with old | new
    · exact .inr (mem_map.mpr ⟨ws, old, rfl⟩)
    · obtain ⟨_, _, rfl⟩ := mem_map.mp new
      exact .inl (OutputIdentity.fromOutput_matchesOutput _)
  have frame := grew.frame
  exact whole.ofCores (by rw [frame]) (by rw [frame]) (by rw [frame]) grew.cores

lemma GrewBottom.preserves (grew : GrewBottom mon next mon' next') :
    Preserves mon.workspaces next mon'.workspaces next' :=
  (Preserves.ofFillers mon.output grew.le).trans (.ofCores grew.cores)

variable {idx : Nat}

lemma grownAt_alters (lt : idx ≤ mon.workspaces.length) :
    Alters mon next (mon.grownAt idx next) (next + 1) := by
  have grown : Alters mon next { mon with
      workspaces := mon.workspaces.insertIdx idx
        (Workspace.new next mon.output) } (next + 1) :=
    .ofNew (perm_insertIdx _ _ lt)
  exact grown.ofCores rfl rfl rfl (grownAt_cores idx next)

/-- The monitor takes in these windows and the shape of its strip is kept. -/
structure Receives (mon : Monitor) (next : Nat) (mon' : Monitor)
    (next' : Nat) (gained : List TileKey) : Prop
    extends Alters mon next mon' next' where
  keys : mon'.keys.Perm (gained ++ mon.keys)
  inside : mon.Inside → mon'.Inside
  sound : mon.Sound → mon'.Sound

lemma Receives.trans {first last : List TileKey} (one : Receives mon next mon' next' first)
    (two : Receives mon' next' mon'' next'' last) :
    Receives mon next mon'' next'' (last ++ first) where
  toAlters := one.toAlters.trans two.toAlters
  keys := by
    rw [append_assoc]
    exact two.keys.trans (one.keys.append_left _)
  inside := two.inside ∘ one.inside
  sound := two.sound ∘ one.sound

/-- The windows stay on the monitor and the shape of its strip is kept. -/
abbrev Shifts (mon : Monitor) (next : Nat) (mon' : Monitor)
    (next' : Nat) : Prop :=
  Receives mon next mon' next' []

/-- Every outcome of the change shifts. -/
def Shifting (mon : Monitor) (change : FreshM Monitor) : Prop :=
  ∀ ⦃next mon' next'⦄, change.run next = some (mon', next') → Shifts mon next mon' next'

namespace Shifts

lemma refl (mon : Monitor) (next : Nat) : Shifts mon next mon next := ⟨.refl _ _, .refl _, id, id⟩

lemma trans (one : Shifts mon next mon' next')
    (last : Shifts mon' next' mon'' next'') : Shifts mon next mon'' next'' :=
  Receives.trans one last

lemma receives {gained : List TileKey} (one : Shifts mon next mon' next')
    (last : Receives mon' next' mon'' next'' gained) : Receives mon next mon'' next'' gained := by
  simpa using Receives.trans one last

lemma ofSameStrip (out : mon'.output = mon.output)
    (mode : mon'.windowingMode = mon.windowingMode)
    (thumbDrag : mon'.thumbDrag = mon.thumbDrag)
    (same : mon'.workspaces = mon.workspaces) (inside : mon.Inside → mon'.Inside)
    (idle : mon'.workspaceSwitch = none → mon.workspaceSwitch = none) :
    Shifts mon next mon' next where
  toAlters := .ofSameList out mode thumbDrag same
  keys := by rw [Monitor.keys, same]; rfl
  inside := inside
  sound := by
    intro inv
    refine ⟨?_, inside inv.active, ?_⟩
    · rw [same]
      exact inv.enough
    · rw [same]
      exact inv.trailing ∘ idle

end Shifts

lemma Shifting.pure : Shifting mon (pure mon) := by
  rintro _ _ _ ⟨⟩
  exact .refl _ _

lemma Receives.shift {gained : List TileKey} (one : Receives mon next mon' next' gained)
    (last : Shifts mon' next' mon'' next'') : Receives mon next mon'' next'' gained :=
  one.trans last

lemma keys_of_cores {left right : List Workspace}
    (sameCores : left.map Workspace.core = right.map Workspace.core) :
    left.flatMap Workspace.keys = right.flatMap Workspace.keys := by
  rw [flatMap_def, flatMap_def, Workspace.ignoresOrdinal_keys.map_eq sameCores]

@[simp] lemma keys_new (id : WorkspaceId) (out : Output) : (Workspace.new id out).keys = [] := rfl

section

variable (lt : idx ≤ mon.workspaces.length)
include lt

lemma grownAt_keys (id : WorkspaceId) : (mon.grownAt idx id).keys.Perm mon.keys := by
  unfold Monitor.keys
  rw [keys_of_cores (grownAt_cores idx id)]
  have grown := (perm_insertIdx (Workspace.new id mon.output)
    mon.workspaces lt).flatMap_right Workspace.keys
  simpa using grown

lemma grownAt_length (id : WorkspaceId) :
    (mon.grownAt idx id).workspaces.length = mon.workspaces.length + 1 := by
  simp [grownAt, stampHomeOrdinals, length_insertIdx, lt]

lemma grownAt_inside (inside : mon.Inside) : (mon.grownAt idx next).Inside := by
  unfold Inside at *
  rw [grownAt_length lt]
  simp only [grownAt, stampHomeOrdinals]
  split <;> omega

lemma grownAt_shifts : Shifts mon next (mon.grownAt idx next) (next + 1) where
  toAlters := grownAt_alters lt
  keys := grownAt_keys lt next
  inside := grownAt_inside lt
  sound := by
    intro inv
    have longer := grownAt_length lt next
    refine ⟨?_, grownAt_inside lt inv.active, ?_⟩
    · have := inv.enough
      omega
    · intro idle
      have wasIdle : mon.workspaceSwitch = none := by
        simpa [grownAt, stampHomeOrdinals] using idle
      rw [lacksTrailingEmpty_congr (grownAt_cores idx next)]
      obtain ⟨last, atEnd, unused⟩ := lacksTrailingEmpty_eq_false.mp (inv.trailing wasIdle)
      rw [lacksTrailingEmpty_eq_false, length_insertIdx, if_pos lt, Nat.add_sub_cancel]
      by_cases atBottom : idx = mon.workspaces.length
      · subst atBottom
        refine ⟨Workspace.new next mon.output, ?_, rfl⟩
        simp
      · refine ⟨last, ?_, unused⟩
        rw [getElem?_insertIdx_of_gt (by omega)]
        exact atEnd

end

lemma GrewBottom.keys (grew : GrewBottom mon next mon' next') : mon'.keys = mon.keys := by
  unfold Monitor.keys
  rw [keys_of_cores grew.cores, flatMap_append]
  simp [fillers, flatMap_map]

lemma addWorkspaceAt_shifts : Shifting mon (mon.addWorkspaceAt idx) := by
  intro _ _ _ added
  obtain ⟨lt, rfl, rfl⟩ := addWorkspaceAt_eq added
  exact grownAt_shifts lt

lemma cleanUpWorkspaces_alters (clean : mon.cleanUpWorkspaces.run next = some (mon', next')) :
    Alters mon next mon' next' ∧ mon'.keys = mon.keys ∧ (mon.Inside → mon'.Sound) := by
  obtain ⟨_, grew, count⟩ := cleanUpWorkspaces_grew clean
  exact ⟨grew.alters, grew.keys, grew.sound count⟩

lemma cleanUpStopped_alters
    (clean : { mon with workspaceSwitch := none }.cleanUpWorkspaces.run next =
      some (mon', next')) : Alters mon next mon' next' ∧ mon'.keys = mon.keys ∧
      (mon.Inside → mon'.Sound) := by
  obtain ⟨alters, keys, inv⟩ := cleanUpWorkspaces_alters clean
  have stopped : Alters mon next { mon with workspaceSwitch := none } next :=
    .ofSameList rfl rfl rfl rfl
  exact ⟨stopped.trans alters, keys, inv⟩

lemma cleanUpWorkspaces_shifts (clean : mon.cleanUpWorkspaces.run next = some (mon', next')) :
    Shifts mon next mon' next' := by
  obtain ⟨alters, keys, inv⟩ := cleanUpWorkspaces_alters clean
  exact ⟨alters, .of_eq keys, fun inside => (inv inside).active, fun shape => inv shape.active⟩

lemma cleanUpIfIdle_shifts (clean : mon.cleanUpIfIdle.run next = some (mon', next')) :
    Shifts mon next mon' next' := by
  unfold cleanUpIfIdle at clean
  split at clean
  · exact cleanUpWorkspaces_shifts clean
  · cases clean
    exact .refl _ _

end Synoik.Monitor
