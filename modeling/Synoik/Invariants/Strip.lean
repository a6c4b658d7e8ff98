import Synoik.Accounting.Steps

/-!
# Every strip is sound

Every monitor has enough spaces, one of them in front, and an unused one
last while nothing slides; and no two spaces share an id. Two operations
break this. Naming a workspace adds the trailing one on the active monitor
only, and an arriving display that takes every workspace of the primary strip
leaves a position behind that the refilled strip does not have.
-/

namespace Synoik.Layout

open List Monitor

open FreshM

variable {layout layout' : Layout} {next next' : Nat}

def activeIdx? (layout : Layout) : Option Nat :=
  match layout.monitorSet with
  | .normal _ _ activeMonitorIdx => some activeMonitorIdx
  | .noOutputs _ => none

/-- The workspace is the last one of a monitor at rest that is not the active
one. -/
abbrev EndsAnother (layout : Layout) (id : WorkspaceId) : Prop :=
  ∃ entry ∈ layout.monitors.zipIdx, layout.activeIdx? ≠ some entry.2 ∧
    entry.1.workspaceSwitch = none ∧
    entry.1.workspaces.getLast?.map Workspace.id = some id

variable {monitors : List Monitor} {idx primaryIdx activeIdx : Nat}
  {mon' mon : Monitor} {output : Output} {mode : WindowingMode}

lemma Sound.set (inv : ∀ mon ∈ monitors, mon.Sound) (new : mon'.Sound) :
    ∀ mon ∈ monitors.set idx mon', mon.Sound := by
  intro mon mem
  rcases mem_or_eq_of_mem_set mem with old | rfl
  · exact inv mon old
  · exact new

variable {name : String} {id : WorkspaceId} {entry : NamedWorkspace}

/-- A name does not matter to a strip unless it goes to its last workspace at
rest. -/
lemma named_sound {wsIdx : Nat} {ws : Workspace} (inv : mon.Sound)
    (harmless : wsIdx + 1 ≠ mon.workspaces.length ∨ mon.workspaceSwitch ≠ none) :
    { mon with workspaces := mon.workspaces.set wsIdx (named ws name) }.Sound := by
  refine ⟨by simpa using inv.enough, inv.active.set, fun idle => ?_⟩
  rcases harmless with notLast | moving
  · exact lacksTrailingEmpty_set_of_ne _ notLast (inv.trailing idle)
  · exact (moving idle).elim

lemma setWorkspaceName_sound {reference : Option WorkspaceReference}
    (inv : layout.Sound) (spared : layout.nameTaken name = false →
      ∀ id ∈ layout.resolveTarget reference, ¬ layout.EndsAnother id)
    (run : (layout.setWorkspaceName name reference).run next =
      some (layout', next')) : layout'.Sound := by
  rcases setWorkspaceName_cases run with ⟨rfl, _⟩ |
    ⟨id, mid, later, free, resolved, naming, growing⟩
  · exact inv
  · have spared := spared free id resolved
    -- Where the strip of the named workspace stays sound, growing keeps it so.
    have keeps : mid.Sound → layout'.Sound := by
      refine (onActiveMonitor_retains (fun mon _ _ _ grew => ?_) growing).sound
      exact (addBottomIf_shifts grew).retains
    obtain ⟨rfl, ⟨rfl, _⟩ | ⟨_, _, activeIdx, idx, mon, wsIdx, ws,
      shape, got, here, rfl, rfl⟩ | ⟨_, wsIdx, ws, shape, here, rfl, rfl⟩⟩ :=
        nameWorkspace_cases naming
    · exact keeps inv
    · unfold Sound at inv
      rw [(parts_normal shape).1] at inv
      have pre := inv mon (mem_of_getElem? got)
      by_cases harmless : wsIdx + 1 ≠ mon.workspaces.length ∨ mon.workspaceSwitch ≠ none
      · exact keeps (Sound.set inv (named_sound pre harmless))
      · obtain ⟨last, idle⟩ : wsIdx + 1 = mon.workspaces.length ∧
            mon.workspaceSwitch = none := by simpa using harmless
        have atEnd : mon.workspaces.getLast? = some ws := by
          rw [getLast?_eq_getElem?, ← last, Nat.add_sub_cancel]
          exact here
        have front : activeIdx = idx := by
          by_contra elsewhere
          refine spared ⟨(mon, idx), ?_, ?_, idle, by simp [atEnd]⟩
          · rw [(parts_normal shape).1]
            exact mk_mem_zipIdx_iff_getElem?.mpr got
          · unfold activeIdx?
            rw [shape]
            simpa using elsewhere
        subst front
        unfold onActiveMonitor at growing
        obtain ⟨_, _, has, grew, rfl⟩ := updateMonitor_normal rfl growing
        have lt := Vec.lt_length got
        rw [getElem?_set_self lt] at has
        cases has
        have ended : ((mon.workspaces.set wsIdx (named ws name)).getLast?.any
            fun last => last.id == ws.id) = true := by
          rw [getLast?_eq_getElem?, length_set, ← last,
            Nat.add_sub_cancel, getElem?_set_self (by omega)]
          simp [named]
        rw [if_pos ended, run_addWorkspaceBottom] at grew
        cases grew
        rw [set_set]
        refine .set inv (grownBottom_sound ?_ pre.active.set)
        simpa using pre.enough
    · exact keeps fun _ mem => nomatch mem

lemma monitorIdx_unique {one other : Nat} {first last : Monitor}
    (nodup : (monitors.flatMap Monitor.ids).Nodup) (foundFirst : monitors[one]? = some first)
    (foundSecond : monitors[other]? = some last) (inFirst : id ∈ first.ids)
    (inSecond : id ∈ last.ids) : one = other := by
  have disjoint := (nodup_flatMap.mp nodup).2
  obtain ⟨oneInside, rfl⟩ := List.getElem?_eq_some_iff.mp foundFirst
  obtain ⟨otherInside, rfl⟩ := List.getElem?_eq_some_iff.mp foundSecond
  rw [pairwise_iff_getElem] at disjoint
  rcases Nat.lt_trichotomy one other with less | same | more
  · exact (disjoint one other oneInside otherInside less inFirst inSecond).elim
  · exact same
  · exact (disjoint other one otherInside oneInside more inSecond inFirst).elim

/-- Enough workspaces and one of them in front, whatever stands last. -/
structure Roomy (mon : Monitor) : Prop where
  enough : minNumWorkspaces ≤ mon.workspaces.length
  active : mon.Inside

lemma Monitor.insertRestoreWorkspace_inside {order : List OutputIdentity} {home : OutputIdentity}
    {ordinal : Nat} (inside : mon.Inside)
    (added : (mon.insertRestoreWorkspace order home ordinal).run next =
      some ((id, mon'), next')) : mon'.Inside ∧
      (minNumWorkspaces ≤ mon.workspaces.length → minNumWorkspaces ≤ mon'.workspaces.length) := by
  unfold Monitor.insertRestoreWorkspace at added
  split at added
  · obtain ⟨_, _, _, _, rfl⟩ := claimAt_eq added
    exact ⟨inside.set, by simp⟩
  · obtain ⟨_, _, _, added⟩ := of_ite added
    obtain ⟨⟨_, _⟩, _, _, added⟩ := of_bind added
    obtain ⟨_, _, settling, ret⟩ := of_bind added
    cases ret
    obtain ⟨_, inv⟩ := settleStrip_spec settling
    exact ⟨inv.active, fun _ => inv.enough⟩

/-- Every strip is sound, but the one of this display may end in use. -/
structure SoundExcept (layout : Layout) (output : Output) : Prop where
  roomy : ∀ mon ∈ layout.monitors, Roomy mon
  others : ∀ idx mon, layout.monitors[idx]? = some mon →
    layout.monitorIdx output ≠ some idx → mon.Sound

lemma Sound.except (inv : layout.Sound) (output : Output) : layout.SoundExcept output :=
  ⟨fun mon mem => ⟨(inv mon mem).enough, (inv mon mem).active⟩,
    fun _ mon got _ => inv mon (mem_of_getElem? got)⟩

lemma monitorIdx_set (shape : layout.monitorSet = .normal monitors primaryIdx activeIdx)
    (got : monitors[idx]? = some mon) (same : mon'.output = mon.output)
    (output : Output) : monitorIdx { layout with
      monitorSet := .normal (monitors.set idx mon') primaryIdx activeIdx } output =
      layout.monitorIdx output := by
  unfold monitorIdx
  rw [(parts_normal shape).1, parts_normal rfl |>.1]
  have outputs := Vec.map_set_of_eq got same
  have through : ∀ list : List Monitor, (list.findIdx? fun mon => mon.output == output) =
        (list.map Monitor.output).findIdx? (· == output) := by
    intro _
    rw [findIdx?_map]
    rfl
  rw [through, through, outputs]

lemma SoundExcept.set (except : layout.SoundExcept output)
    (shape : layout.monitorSet = .normal monitors primaryIdx activeIdx)
    (loc : layout.monitorIdx output = some idx)
    (got : monitors[idx]? = some mon) (same : mon'.output = mon.output)
    (roomy : Roomy mon') : SoundExcept { layout with
      monitorSet := .normal (monitors.set idx mon') primaryIdx activeIdx } output := by
  refine ⟨fun other mem => ?_, fun pos other here elsewhere => ?_⟩
  · rcases mem_or_eq_of_mem_set mem with old | rfl
    · apply except.roomy other
      rw [(parts_normal shape).1]
      exact old
    · exact roomy
  · rw [monitorIdx_set shape got same, loc] at elsewhere
    rw [parts_normal rfl |>.1, getElem?_set_ne (by simpa using elsewhere)] at here
    refine except.others pos other ?_ ?_
    · rw [(parts_normal shape).1]
      exact here
    · rw [loc]
      exact elsewhere

lemma allIds_eq (shape : layout.monitorSet = .normal monitors primaryIdx activeIdx) :
    layout.allIds = monitors.flatMap Monitor.ids ++ layout.parkedWorkspaces.map Workspace.id := by
  unfold allIds allWorkspaces
  rw [(parts_normal shape).2, map_append, map_flatMap]
  rfl

lemma serveEntry_except {claimedId : WorkspaceId} {restored : Layout} {last : Nat}
    (uniq : Distinct layout.allIds next) (except : layout.SoundExcept output)
    (puts : (layout.insertRestoreWorkspace output entry.home entry.ordinal).run
      next = some ((some claimedId, restored), last))
    (naming : (restored.nameWorkspace claimedId entry.name).run last =
      some (layout', next')) : layout'.SoundExcept output := by
  have nodup := (insertRestoreWorkspace_keeps puts).books.ids.distinct uniq
  rcases insertRestoreWorkspace_cases puts with ⟨impossible, _⟩ |
    ⟨monitors, primaryIdx, activeIdx, idx, mon, claimed, _, shape, loc, got, same, added, rfl⟩
  · cases impossible
  · cases same
    have rehouses := (insertRestoreWorkspace_spec added).1
    have room := except.roomy mon (by
      rw [(parts_normal shape).1]
      exact mem_of_getElem? got)
    have kept := Monitor.insertRestoreWorkspace_inside room.active added
    have roomy : Roomy claimed := ⟨kept.2 room.enough, kept.1⟩
    have claims := insertRestoreWorkspace_mem added
    have settled := except.set shape loc got rehouses.output roomy
    have lt := Vec.lt_length got
    have here : (monitors.set idx claimed)[idx]? = some claimed := getElem?_set_self lt
    obtain ⟨rfl, ⟨rfl, _⟩ | ⟨_, _, _, pos, _, _, ws, sameShape, has,
      present, rfl, rfl⟩ | ⟨_, _, _, impossible, _⟩⟩ := nameWorkspace_cases naming
    · exact settled
    · cases sameShape
      -- The claimed workspace is on this strip, and its id on no other.
      have unique : idx = pos := by
        rw [allIds_eq rfl] at nodup
        exact monitorIdx_unique (nodup_append.mp nodup.nodup).1 here has claims
          (mem_map.mpr ⟨ws, mem_of_getElem? present, rfl⟩)
      subst unique
      rw [here] at has
      cases has
      refine settled.set rfl ?_ here rfl ⟨?_, roomy.active.set⟩
      · rw [monitorIdx_set shape got rehouses.output, loc]
      · simpa using roomy.enough
    · cases impossible

lemma Serves.except (serves : Serves output layout next entry layout' next')
    (uniq : Distinct layout.allIds next) (except : layout.SoundExcept output) :
    layout'.SoundExcept output := by
  cases serves with
  | skipped | unplaced => exact except
  | placed _ puts naming => exact serveEntry_except uniq except puts naming

lemma materializeEntries_except {entries : List NamedWorkspace}
    (uniq : Distinct layout.allIds next) (except : layout.SoundExcept output)
    (run : (materializeEntries output entries layout).run next = some (layout', next')) :
    layout'.SoundExcept output :=
  (materializeEntries_invariant
    (fun served later => Distinct served.allIds later ∧ served.SoundExcept output)
    (fun _ _ _ _ _ _ serves kept =>
      ⟨serves.books.ids.distinct kept.1, serves.except kept.1 kept.2⟩)
    run ⟨uniq, except⟩).2

lemma cleanUpIfIdle_sound (roomy : Roomy mon)
    (clean : mon.cleanUpIfIdle.run next = some (mon', next')) : mon'.Sound := by
  unfold Monitor.cleanUpIfIdle at clean
  split at clean
  · exact (cleanUpWorkspaces_alters clean).2.2 roomy.active
  next moving =>
  cases clean
  exact ⟨roomy.enough, roomy.active, fun idle => by simp [idle] at moving⟩

lemma SoundExcept.cleanUp (except : layout.SoundExcept output)
    (clean : (layout.onOutput output Monitor.cleanUpIfIdle).run next = some (layout', next')) :
    layout'.Sound := by
  unfold onOutput at clean
  split at clean
  next missing =>
    cases clean
    intro mon mem
    obtain ⟨idx, got⟩ := mem_iff_getElem?.mp mem
    exact except.others idx mon got (by simp [missing])
  next idx loc =>
  rcases updateMonitor_cases clean with ⟨_, shape, rfl, rfl⟩ |
    ⟨monitors, _, _, mon, mon', shape, got, cleans, rfl⟩
  · intro mon mem
    rw [(parts_noOutputs shape).1] at mem
    cases mem
  · have roomy := except.roomy mon (by
      rw [(parts_normal shape).1]
      exact mem_of_getElem? got)
    intro other mem
    obtain ⟨pos, here⟩ := mem_iff_getElem?.mp mem
    rw [parts_normal rfl |>.1, getElem?_set] at here
    split at here
    · split at here
      · cases here
        exact cleanUpIfIdle_sound roomy cleans
      · cases here
    next elsewhere =>
    refine except.others pos other ?_ (by simpa [loc] using elsewhere)
    rw [(parts_normal shape).1]
    exact here

lemma materializePendingNamed_sound (uniq : Distinct layout.allIds next)
    (inv : layout.Sound) (run : (layout.materializePendingNamed output).run next =
      some (layout', next')) : layout'.Sound := by
  rcases materializePendingNamed_cases run with ⟨_, rfl, _⟩ | ⟨_, _, served, clean⟩
  · exact inv
  · have forgotten : Sound { layout with pendingNamed := [] } := inv
    have still : Distinct (allIds { layout with pendingNamed := [] }) next := uniq
    exact (materializeEntries_except still (forgotten.except output) served).cleanUp clean

def primary? (layout : Layout) : Option Monitor :=
  match layout.monitorSet with
  | .normal monitors primaryIdx _ => monitors[primaryIdx]?
  | .noOutputs _ => none

/-- The arriving display takes every workspace of the primary strip. -/
abbrev TakesPrimary (layout : Layout) (output : Output) : Prop :=
  ∃ primary ∈ layout.primary?, primary.TakesAll output

lemma Reclaims.inside {primary primary' : Monitor}
    (reclaims : Reclaims primary output next primary' next') (inside : primary.Inside)
    (some : ¬ primary.TakesAll output) : primary'.Inside := by
  by_cases nothing : (primary.reclaimFor output).1 = []
  · rw [(reclaims.untouched nothing).1]
    exact inside
  · exact (reclaims.grew.sound (reclaims.count nothing) (reclaimFor_inside inside some)).active

lemma Reclaims.sound {primary primary' : Monitor}
    (reclaims : Reclaims primary output next primary' next') (inv : primary.Sound)
    (some : ¬ primary.TakesAll output) : primary'.Sound := by
  by_cases nothing : (primary.reclaimFor output).1 = []
  · rw [(reclaims.untouched nothing).1]
    exact inv
  · exact reclaims.grew.sound (reclaims.count nothing) (reclaimFor_inside inv.active some)

/-- What holds of a new monitor, and of the primary one when it has handed over what is the new
display's, holds of all monitors. -/
lemma attachOutput_all {holds : Monitor → Prop} (all : ∀ mon ∈ layout.monitors, holds mon)
    (new : ∀ {mon : Monitor}, mon.Sound → holds mon)
    (handsOver : ∀ {primary primary' : Monitor} {next'}, Reclaims primary output next primary' next' →
      ¬ primary.TakesAll output → holds primary → holds primary')
    (spared : ¬ layout.TakesPrimary output)
    (run : (layout.attachOutput output mode).run next = some (layout', next')) :
    ∀ mon ∈ layout'.monitors, holds mon := by
  unfold attachOutput at run
  split at run
  next _ _ _ shape =>
    obtain ⟨primary, primary', _, _, got, reclaims, links, rfl⟩ := addOutputNormal_spec run
    rw [(parts_normal shape).1] at all
    have some : ¬ primary.TakesAll output := fun takes => spared ⟨primary, by
      unfold primary?
      rw [shape]
      exact got, takes⟩
    have kept := handsOver reclaims some (all primary (mem_of_getElem? got))
    intro other mem
    rcases mem_append.mp mem with old | arrived
    · rcases mem_or_eq_of_mem_set old with old | rfl
      · exact all other old
      · exact kept
    · cases mem_singleton.mp arrived
      exact new links.sound
  · obtain ⟨_, links, rfl⟩ := addOutputFirst_spec run
    intro _ mem
    cases mem_singleton.mp mem
    exact new links.sound

lemma attachOutput_sound (inv : layout.Sound) (spared : ¬ layout.TakesPrimary output)
    (run : (layout.attachOutput output mode).run next = some (layout', next')) : layout'.Sound :=
  attachOutput_all inv id (fun reclaims some inv => reclaims.sound inv some) spared run

lemma addOutput_sound (uniq : Distinct layout.allIds next) (inv : layout.Sound)
    (spared : ¬ layout.TakesPrimary output)
    (run : (layout.addOutput output mode).run next = some (layout', next')) : layout'.Sound := by
  obtain ⟨_, _, ran, materialized⟩ := of_bind run
  exact materializePendingNamed_sound
    ((attachOutput_keeps ran).preserves.ids.distinct uniq)
    (attachOutput_sound inv spared ran) materialized

/-- Sound strips and distinct ids, over monitors, loose and parked workspaces. -/
structure WellKept (layout : Layout) (next : Nat) : Prop where
  sound : layout.Sound
  distinct : Distinct layout.allIds next

/-- The step neither names the end of a strip at rest away from the active
monitor, nor plugs in a display that takes the whole primary strip. -/
def SparesStrips (layout : Layout) : Op → Prop
  | .setWorkspaceName name reference => layout.nameTaken name = false →
      ∀ id ∈ layout.resolveTarget reference, ¬ layout.EndsAnother id
  | .addOutput output _ => ¬ layout.TakesPrimary output
  | _ => True

instance : ∀ op, Decidable (layout.SparesStrips op) := by
  rintro ⟨⟩ <;> dsimp only [SparesStrips] <;> infer_instance

lemma Effect.wellKept {op : Op} (effect : Effect layout next layout' next' op)
    (spares : layout.SparesStrips op) (kept : layout.WellKept next) : layout'.WellKept next' := by
  obtain ⟨_, _, books⟩ := effect.books
  refine ⟨?_, books.ids.distinct kept.distinct⟩
  cases effect with
  | arrived run => exact addOutput_sound kept.distinct kept.sound spares run
  | left run => exact removeOutput_sound run kept.sound
  | named run => exact setWorkspaceName_sound kept.sound spares run
  | configured run =>
    rcases ensureNamedWorkspace_cases run with ⟨rfl, _⟩ | ⟨_, _, joins, _⟩
    · exact kept.sound
    · exact joins.sound kept.sound
  | unmapped handles | handled _ handles => exact handles.sound kept.sound
  | shuffled _ shuffles => exact shuffles.sound kept.sound

lemma start_wellKept (mode : WindowingMode) : (start mode).1.WellKept (start mode).2 :=
  ⟨fun _ mem => (nomatch mem), nodup_nil, fun _ mem => (nomatch mem)⟩

lemma runs_wellKept {ops : List Op}
    (run : Runs step (fun st op => st.1.SparesStrips op) (start mode) ops (layout, next)) :
    layout.WellKept next :=
  run.invariant (fun st => st.1.WellKept st.2)
    (fun spares ran kept => (apply_effect ran).wellKept spares kept)
    (start_wellKept mode)

/-- The invariant of the workspace lists: enough workspaces on every monitor, one
of them active and, at rest, the last one without windows or a name; and no id
twice among monitors, loose and parked workspaces. -/
structure StripsSound (layout : Layout) : Prop where
  enough : ∀ mon ∈ layout.monitors, minNumWorkspaces ≤ mon.workspaces.length
  active : ∀ mon ∈ layout.monitors, mon.activeWorkspaceIdx < mon.workspaces.length
  trailing : ∀ mon ∈ layout.monitors, mon.workspaceSwitch = none →
    ∃ last, mon.workspaces.getLast? = some last ∧ last.hasWindows = false ∧ last.name = none
  ids : (layout.allWorkspaces.map Workspace.id).Nodup

lemma WellKept.stripsSound (kept : layout.WellKept next) : layout.StripsSound where
  enough := fun mon mem => (kept.sound mon mem).enough
  active := fun mon mem => (kept.sound mon mem).active
  trailing := by
    intro mon mem idle
    obtain ⟨last, atEnd, unused⟩ := Monitor.lacksTrailingEmpty_eq_false.mp
      ((kept.sound mon mem).trailing idle)
    refine ⟨last, by rw [getLast?_eq_getElem?, atEnd], ?_⟩
    simpa [Workspace.hasWindowsOrName] using unused
  ids := kept.distinct.nodup

/-- Every run that spares the strips keeps the invariant of the workspace
lists. -/
theorem strips_sound_of_runs {windowingMode : WindowingMode} {ops : List Op}
    (run : Runs step (fun state op => state.1.SparesStrips op) (start windowingMode) ops
      (layout, next)) : layout.StripsSound :=
  (runs_wellKept run).stripsSound

def displayA : Output := { handle := 0, identity := { connector := "DP-1" } }

def displayB : Output := { handle := 1, identity := { connector := "DP-2" } }

def displayC : Output := { handle := 2, identity := { connector := "DP-3" } }

theorem strips_sound_of_naming_active :
    ∃ layout next, Runs step (fun state op => state.1.SparesStrips op) (start .scrolling)
        [.addOutput displayA .scrolling, .addOutput displayB .scrolling,
          .setWorkspaceName "mail" (some (.index 2)),
          .insertRestoreWorkspace displayA displayC.identity 0, .removeOutput displayB,
          .addOutput displayC .scrolling] (layout, next) ∧
      layout.monitors.length = 2 ∧ layout.StripsSound := by
  exact ⟨_, _, runs_get_pair (by decide +kernel), by decide +kernel,
    strips_sound_of_runs (runs_get_pair _)⟩

/-- The last workspace of the second display gets a name and no trailing one
after it; and a display that takes the whole primary strip leaves the active
position past the end of the refilled one. -/
theorem strips_unsound :
    (((applyAll [.addOutput displayA .scrolling, .addOutput displayB .scrolling,
        .setWorkspaceName "mail" (some (.id 4))] (withOptions .scrolling)).run
          firstWorkspaceId).any fun state => state.1.monitors.any fun monitor =>
            monitor.workspaceSwitch.isNone &&
              monitor.workspaces.getLast?.any fun last => last.name == some "mail") = true ∧
    (((applyAll [.addOutput displayA .scrolling,
        .insertRestoreWorkspace displayA displayB.identity 0,
        .insertRestoreWorkspace displayA displayB.identity 1,
        .addOutput displayB .scrolling] (withOptions .scrolling)).run
          firstWorkspaceId).any fun state => state.1.monitors.any fun monitor =>
            monitor.workspaces.length ≤ monitor.activeWorkspaceIdx) = true := by
  constructor <;> decide +kernel

end Synoik.Layout
