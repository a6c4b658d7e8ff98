import Synoik.Accounting.Workspaces
import Synoik.Layout.Monitor
import Synoik.Support.Ledger

/-!
# The strip of a monitor under its elementary changes

Adding a workspace, stamping the home ordinals and cleaning up, which every
longer operation ends with. Stamping touches nothing but home ordinals, so the
statements speak about cores: spaces without their ordinal.
-/

namespace Synoik

open List

open FreshM

namespace Workspace

/-- A workspace without its home ordinal. -/
def core (ws : Workspace) : Workspace :=
  { ws with homeOrdinal := 0 }

/-- Observations that the home ordinal does not enter. -/
def IgnoresOrdinal {β : Type} (observe : Workspace → β) : Prop :=
  ∀ (ws : Workspace) (homeOrdinal : Nat), observe { ws with homeOrdinal } = observe ws

variable {β : Type} {view : Workspace → β}

lemma IgnoresOrdinal.core
    (ignores : IgnoresOrdinal view) (ws : Workspace) : view ws.core = view ws :=
  ignores ws 0

lemma IgnoresOrdinal.map_eq (ignores : IgnoresOrdinal view) {left right : List Workspace}
    (sameCores : left.map Workspace.core = right.map Workspace.core) :
    left.map view = right.map view := by
  have through : ∀ spaces : List Workspace,
      spaces.map view = (spaces.map Workspace.core).map view := by
    intro _
    simp [Function.comp_def, ignores.core]
  rw [through left, through right, sameCores]

lemma ignoresOrdinal_core : IgnoresOrdinal Workspace.core := fun _ _ => rfl

lemma ignoresOrdinal_id : IgnoresOrdinal Workspace.id := fun _ _ => rfl

lemma ignoresOrdinal_name : IgnoresOrdinal Workspace.name := fun _ _ => rfl

lemma ignoresOrdinal_originalOutput : IgnoresOrdinal Workspace.originalOutput := fun _ _ => rfl

lemma ignoresOrdinal_keys : IgnoresOrdinal Workspace.keys := fun _ _ => rfl

lemma ignoresOrdinal_hasWindowsOrName : IgnoresOrdinal Workspace.hasWindowsOrName := fun _ _ => rfl

end Workspace

lemma restamp_map {β : Type} {view : Workspace → β}
    (ignores : Workspace.IgnoresOrdinal view) (own : Workspace → Bool)
    (spaces : List Workspace) (rank : Nat) (slots : List Nat) :
    (restamp own spaces rank slots).map view = spaces.map view := by
  induction spaces generalizing rank slots with
  | nil => simp [restamp]
  | cons ws _ ih =>
    unfold restamp
    split
    · simp [ih, ignores ws rank]
    · split
      · simp [ih]
      next slot slots => simp [ih, ignores ws slot]

lemma length_restamp (own : Workspace → Bool) (spaces : List Workspace)
    (rank : Nat) (slots : List Nat) : (restamp own spaces rank slots).length = spaces.length := by
  have lengths := congrArg List.length
    (restamp_map Workspace.ignoresOrdinal_id own spaces rank slots)
  simpa using lengths

namespace Monitor

variable {mon mon' : Monitor} {next next' : Nat}

lemma stampedWorkspaces_map {β : Type} {view : Workspace → β}
    (ignores : Workspace.IgnoresOrdinal view) (out : Output) (spaces : List Workspace) :
    (stampedWorkspaces out spaces).map view = spaces.map view :=
  restamp_map ignores _ _ _ _

@[simp] lemma length_stampedWorkspaces (out : Output) (spaces : List Workspace) :
    (stampedWorkspaces out spaces).length = spaces.length :=
  length_restamp _ _ _ _

lemma lacksTrailingEmpty_eq (spaces : List Workspace) :
    lacksTrailingEmpty spaces = (spaces.map Workspace.hasWindowsOrName).getLast?.all id := by
  rw [getLast?_map]
  unfold lacksTrailingEmpty
  cases spaces.getLast? <;> rfl

lemma lacksTrailingEmpty_congr {left right : List Workspace}
    (sameCores : left.map Workspace.core = right.map Workspace.core) :
    lacksTrailingEmpty left = lacksTrailingEmpty right := by
  rw [lacksTrailingEmpty_eq, lacksTrailingEmpty_eq,
    Workspace.ignoresOrdinal_hasWindowsOrName.map_eq sameCores]

lemma lacksTrailingEmpty_append_new (spaces : List Workspace) (id : WorkspaceId)
    (out : Output) : lacksTrailingEmpty (spaces ++ [Workspace.new id out]) = false := by
  unfold lacksTrailingEmpty
  rw [getLast?_append]
  rfl

variable {spaces : List Workspace} {idx : Nat}

lemma lacksTrailingEmpty_eq_false : lacksTrailingEmpty spaces = false ↔
      ∃ last, spaces[spaces.length - 1]? = some last ∧ last.hasWindowsOrName = false := by
  unfold lacksTrailingEmpty
  rw [getLast?_eq_getElem?]
  cases spaces[spaces.length - 1]? with
  | none | some => simp

lemma lacksTrailingEmpty_set {ws new : Workspace} (got : spaces[idx]? = some ws)
    (fewer : new.hasWindowsOrName = true → ws.hasWindowsOrName = true)
    (trailing : lacksTrailingEmpty spaces = false) :
    lacksTrailingEmpty (spaces.set idx new) = false := by
  obtain ⟨last, atEnd, idle⟩ := lacksTrailingEmpty_eq_false.mp trailing
  rw [lacksTrailingEmpty_eq_false, length_set, getElem?_set]
  split
  next same =>
    subst same
    rw [got] at atEnd
    cases atEnd
    have lt := Vec.lt_length got
    refine ⟨new, by simp [lt], ?_⟩
    cases used : new.hasWindowsOrName with
    | false => rfl
    | true => rw [fewer used] at idle; exact idle
  · exact ⟨last, atEnd, idle⟩

lemma lacksTrailingEmpty_set_of_ne (new : Workspace) (notLast : idx + 1 ≠ spaces.length)
    (trailing : lacksTrailingEmpty spaces = false) :
    lacksTrailingEmpty (spaces.set idx new) = false := by
  obtain ⟨last, atEnd, idle⟩ := lacksTrailingEmpty_eq_false.mp trailing
  have bounded := Vec.lt_length atEnd
  rw [lacksTrailingEmpty_eq_false, length_set, getElem?_set, if_neg (by omega)]
  exact ⟨last, atEnd, idle⟩

/-- The monitor with a new workspace before a position. -/
def grownAt (mon : Monitor) (idx : Nat) (id : WorkspaceId) : Monitor :=
  stampHomeOrdinals
    { mon with
      workspaces := mon.workspaces.insertIdx idx (Workspace.new id mon.output)
      activeWorkspaceIdx :=
        if idx ≤ mon.activeWorkspaceIdx then mon.activeWorkspaceIdx + 1
        else mon.activeWorkspaceIdx
      workspaceSwitch := mon.workspaceSwitch.map fun switch =>
        if (idx : ℚ) ≤ switch.targetIdx then switch.offsetOne else switch }

lemma run_addWorkspaceAt (lt : idx ≤ mon.workspaces.length) :
    (mon.addWorkspaceAt idx).run next = some (mon.grownAt idx next, next + 1) := by
  simp [addWorkspaceAt, run_bind, Vec.insertAt, lt, grownAt]

lemma addWorkspaceAt_eq (added : (mon.addWorkspaceAt idx).run next = some (mon', next')) :
    idx ≤ mon.workspaces.length ∧ mon' = mon.grownAt idx next ∧ next' = next + 1 := by
  by_cases lt : idx ≤ mon.workspaces.length
  · rw [run_addWorkspaceAt lt] at added
    cases added
    exact ⟨lt, rfl, rfl⟩
  · simp [addWorkspaceAt, run_bind, Vec.insertAt, lt] at added

lemma run_addWorkspaceBottom :
    mon.addWorkspaceBottom.run next = some (mon.grownAt mon.workspaces.length next, next + 1) :=
  run_addWorkspaceAt le_rfl

lemma grownAt_cores (idx : Nat) (id : WorkspaceId) :
    (mon.grownAt idx id).workspaces.map Workspace.core = (mon.workspaces.insertIdx idx
        (Workspace.new id mon.output)).map Workspace.core :=
  stampedWorkspaces_map Workspace.ignoresOrdinal_core _ _

lemma grownBottom_cores (id : WorkspaceId) :
    (mon.grownAt mon.workspaces.length id).workspaces.map Workspace.core =
      (mon.workspaces ++ [Workspace.new id mon.output]).map Workspace.core := by
  rw [grownAt_cores]
  simp

/-- The workspaces added at the bottom while the counter advanced. -/
def fillers (output : Output) (next next' : Nat) : List Workspace :=
  (freshNumbers next next').map (Workspace.new · output)

@[simp] lemma fillers_self (out : Output) (next : Nat) : fillers out next next = [] := by
  simp [fillers]

@[simp] lemma fillers_succ (out : Output) (next : Nat) :
    fillers out next (next + 1) = [Workspace.new next out] := by
  simp [fillers]

lemma fillers_append {out : Output} {later last : Nat}
    (one : next ≤ later) (second : later ≤ last) :
    fillers out next later ++ fillers out later last = fillers out next last := by
  rw [fillers, fillers, ← map_append, freshNumbers_append one second]
  rfl

/-- The list grew at the bottom by new workspaces; an active position inside
the old list stays. -/
structure GrewBottom (mon : Monitor) (next : Nat) (mon' : Monitor)
    (next' : Nat) : Prop where
  frame : mon' =
    { mon with
      workspaces := mon'.workspaces
      activeWorkspaceIdx := mon'.activeWorkspaceIdx }
  le : next ≤ next'
  cores : mon'.workspaces.map Workspace.core =
    (mon.workspaces ++ fillers mon.output next next').map Workspace.core
  active : mon.activeWorkspaceIdx < mon.workspaces.length →
    mon'.activeWorkspaceIdx = mon.activeWorkspaceIdx

namespace GrewBottom

lemma refl (mon : Monitor) (next : Nat) : GrewBottom mon next mon next where
  frame := rfl
  le := le_rfl
  cores := by simp
  active := fun _ => rfl

lemma output (grew : GrewBottom mon next mon' next') : mon'.output = mon.output := by
  rw [grew.frame]

lemma length (grew : GrewBottom mon next mon' next') :
    mon'.workspaces.length = mon.workspaces.length + (next' - next) := by
  have lengths := congrArg List.length grew.cores
  simpa [fillers, freshNumbers] using lengths

lemma trans {mon'' : Monitor} {next'' : Nat} (one : GrewBottom mon next mon' next')
    (last : GrewBottom mon' next' mon'' next'') : GrewBottom mon next mon'' next'' where
  frame := by
    rw [last.frame, one.frame]
  le := one.le.trans last.le
  cores := by
    rw [last.cores, map_append, one.cores, one.output,
      ← map_append, append_assoc, fillers_append one.le last.le]
  active := by
    intro inside
    have kept := one.active inside
    have stillInside : mon'.activeWorkspaceIdx < mon'.workspaces.length := by
      rw [kept, one.length]
      omega
    exact (last.active stillInside).trans kept

lemma stamp (grew : GrewBottom mon next mon' next') :
    GrewBottom mon next mon'.stampHomeOrdinals next' where
  frame := by
    rw [grew.frame]
    rfl
  le := grew.le
  cores := (stampedWorkspaces_map Workspace.ignoresOrdinal_core _ _).trans grew.cores
  active := grew.active

lemma idle (grew : GrewBottom mon next mon' next') (idle : mon.workspaceSwitch = none) :
    mon'.workspaceSwitch = none := by
  rw [grew.frame]
  exact idle

end GrewBottom

lemma grownBottom_grew (idle : mon.workspaceSwitch = none) (next : Nat) :
    GrewBottom mon next (mon.grownAt mon.workspaces.length next) (next + 1) where
  frame := by
    simp [grownAt, stampHomeOrdinals, idle]
  le := by omega
  cores := by
    rw [grownBottom_cores, fillers_succ]
  active := by
    intro _
    simp only [grownAt, stampHomeOrdinals]
    rw [if_neg (by omega)]

def missingWorkspaces (workspaces : List Workspace) : Nat :=
  let trailing := if lacksTrailingEmpty workspaces then 1 else 0
  trailing + (minNumWorkspaces - (workspaces.length + trailing))

lemma padToMinimum_spec (steps : Nat) (idle : mon.workspaceSwitch = none)
    (enoughSteps : minNumWorkspaces ≤ mon.workspaces.length + steps) :
    Returns (padToMinimum steps mon) next fun mon' next' => GrewBottom mon next mon' next' ∧
        next' = next + (minNumWorkspaces - mon.workspaces.length) := by
  induction steps generalizing mon next with
  | zero =>
    refine returns_pure ⟨.refl _ _, ?_⟩
    omega
  | succ _ ih =>
    unfold padToMinimum
    split
    next _ =>
      apply returns_bind_of_run run_addWorkspaceBottom
      have grew := grownBottom_grew idle next
      have longer := grew.length
      have stillIdle := grew.idle idle
      apply returns_mono (ih stillIdle (by omega))
      rintro mon' next' ⟨rest, _⟩
      exact ⟨grew.trans rest, by omega⟩
    next _ =>
    refine returns_pure ⟨.refl _ _, ?_⟩
    omega

lemma cleanUpWorkspaces_spec (idle : mon.workspaceSwitch = none) :
    Returns mon.cleanUpWorkspaces next fun mon' next' =>
      GrewBottom mon next mon' next' ∧ next' = next + missingWorkspaces mon.workspaces := by
  unfold cleanUpWorkspaces
  rw [idle]
  simp only [Option.isNone_none, ensure_true, FreshM.pure_bind]
  unfold missingWorkspaces
  cases lacking : lacksTrailingEmpty mon.workspaces with
  | true =>
    simp only [if_true]
    apply returns_bind_of_run run_addWorkspaceBottom
    have grew := grownBottom_grew idle next
    have longer := grew.length
    have stillIdle := grew.idle idle
    apply returns_bind (padToMinimum_spec minNumWorkspaces stillIdle (by omega))
    rintro mon' next' ⟨rest, count⟩
    exact returns_pure ⟨(grew.trans rest).stamp, by omega⟩
  | false =>
    simp only [Bool.false_eq_true, if_false]
    apply returns_bind (padToMinimum_spec minNumWorkspaces idle (by omega))
    rintro mon' next' ⟨rest, count⟩
    exact returns_pure ⟨rest.stamp, by omega⟩

lemma cleanUpWorkspaces_grew (clean : mon.cleanUpWorkspaces.run next = some (mon', next')) :
    mon.workspaceSwitch = none ∧ GrewBottom mon next mon' next' ∧
      next' = next + missingWorkspaces mon.workspaces := by
  have idle : mon.workspaceSwitch = none := by
    obtain ⟨_, _, ensured, _⟩ := of_bind clean
    simpa using (run_ensure_eq_some.mp ensured).1
  exact ⟨idle, (cleanUpWorkspaces_spec idle).ensures _ _ clean⟩

/-- The active position is one of the list. -/
def Inside (mon : Monitor) : Prop := mon.activeWorkspaceIdx < mon.workspaces.length

/-- Enough workspaces, the active position among them, and an unused one last
unless a switch is in progress. -/
structure Sound (mon : Monitor) : Prop where
  enough : minNumWorkspaces ≤ mon.workspaces.length
  active : mon.Inside
  trailing : mon.workspaceSwitch = none → lacksTrailingEmpty mon.workspaces = false

section

variable (grew : GrewBottom mon next mon' next')
include grew

section

variable (count : next' = next + missingWorkspaces mon.workspaces)
include count

lemma GrewBottom.enough : minNumWorkspaces ≤ mon'.workspaces.length := by
  rw [grew.length, count, missingWorkspaces]
  omega

lemma GrewBottom.trailing : lacksTrailingEmpty mon'.workspaces = false := by
  rw [lacksTrailingEmpty_congr grew.cores]
  by_cases none : next' = next
  · subst none
    have notLacking : missingWorkspaces mon.workspaces = 0 := by omega
    cases lacking : lacksTrailingEmpty mon.workspaces with
    | true => simp [missingWorkspaces, lacking] at notLacking
    | false => simpa using lacking
  · have last : next ≤ next' - 1 := by have := grew.le; omega
    rw [← fillers_append last (by omega : next' - 1 ≤ next'),
      show next' = next' - 1 + 1 by have := grew.le; omega]
    simp only [Nat.add_sub_cancel, fillers_succ, ← append_assoc]
    exact lacksTrailingEmpty_append_new _ _ _

lemma GrewBottom.sound (inside : mon.Inside) : mon'.Sound where
  enough := grew.enough count
  active := by
    unfold Inside at *
    rw [grew.active inside, grew.length]
    omega
  trailing := fun _ => grew.trailing count

end

end

end Monitor

end Synoik
