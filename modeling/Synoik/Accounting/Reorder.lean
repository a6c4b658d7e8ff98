import Synoik.Accounting.Moves

/-!
# Workspaces leaving, arriving and changing places

A workspace taken off a monitor and one put on it, with what becomes of the
active position and of the trailing empty one; then the reordering of a strip
and the gestures that end in a switch.
-/

namespace Synoik

open List

open FreshM

namespace Workspace

variable (ws : Workspace) (output : Option Output)

@[simp] lemma setOutput_label :
    (ws.setOutput output).id = ws.id ∧ (ws.setOutput output).name = ws.name := by
  unfold setOutput
  repeat' split
  all_goals exact ⟨rfl, rfl⟩

@[simp] lemma setOutput_keys : (ws.setOutput output).keys = ws.keys := by
  unfold setOutput
  repeat' split
  all_goals rfl

@[simp] lemma setOutput_none_originalOutput :
    (ws.setOutput none).originalOutput = ws.originalOutput := by
  unfold setOutput
  split <;> rfl

lemma setOutput_originalOutput (display : Output) :
    (ws.setOutput (some display)).originalOutput = ws.originalOutput ∨
      (ws.originalOutput.matchesOutput display = true ∧
        (ws.setOutput (some display)).originalOutput = .fromOutput display) := by
  unfold setOutput
  split
  · exact .inl rfl
  · dsimp only
    split
    next own => exact .inr ⟨own, rfl⟩
    · exact .inl rfl

end Workspace

namespace Monitor

variable {mon mon' mon'' : Monitor} {next next' next'' : Nat}

/-- The monitor that a workspace is taken from: one with something after it. -/
def withSuccessor (mon : Monitor) (idx next : Nat) : Monitor × Nat :=
  if idx + 1 = mon.workspaces.length then
    (mon.grownAt mon.workspaces.length next, next + 1)
  else (mon, next)

/-- What remains when the workspace at a position is taken, before cleaning. -/
def without (mon : Monitor) (idx : Nat) : Monitor :=
  { mon with
    workspaces := mon.workspaces.eraseIdx idx
    workspaceSwitch := none
    activeWorkspaceIdx :=
      if idx ≤ mon.activeWorkspaceIdx then mon.activeWorkspaceIdx - 1
      else mon.activeWorkspaceIdx }

variable {idx newIdx : Nat} {ws : Workspace}

lemma removeWorkspaceByIdx_eq (gone : (mon.removeWorkspaceByIdx idx).run next =
      some ((ws, mon'), next')) :
    ∃ taken, (mon.withSuccessor idx next).1.workspaces[idx]? = some taken ∧
      ws = taken.setOutput none ∧ ((mon.withSuccessor idx next).1.without idx).cleanUpWorkspaces.run
        (mon.withSuccessor idx next).2 = some (mon', next') := by
  unfold removeWorkspaceByIdx at gone
  unfold withSuccessor
  split at gone
  case' isTrue last =>
    rw [if_pos last]
    obtain ⟨_, _, growing, gone⟩ := of_bind gone
    rw [run_addWorkspaceBottom] at growing
    cases growing
  case' isFalse notLast => rw [if_neg notLast]
  all_goals
  obtain ⟨⟨taken, _⟩, out, gone⟩ := of_unwrap gone
  obtain ⟨got, rfl⟩ := Vec.removeAt_eq_some.mp out
  obtain ⟨_, _, cleans, ret⟩ := of_bind gone
  cases ret
  exact ⟨taken, got, rfl, cleans⟩

lemma withSuccessor_shifts (idx : Nat) :
    Shifts mon next (mon.withSuccessor idx next).1 (mon.withSuccessor idx next).2 := by
  unfold withSuccessor
  split
  · exact grownAt_shifts le_rfl
  · exact .refl _ _

lemma withSuccessor_length (got : (mon.withSuccessor idx next).1.workspaces[idx]? = some ws) :
    idx + 1 < (mon.withSuccessor idx next).1.workspaces.length := by
  have inside := Vec.lt_length got
  unfold withSuccessor at inside ⊢
  split
  · rw [grownAt_length le_rfl]
    omega
  next notLast =>
  rw [if_neg notLast] at inside
  dsimp only at inside ⊢
  omega

/-- A workspace leaves: what is on the monitor and the workspace together are
covered by what was there. -/
structure Releases (mon : Monitor) (next : Nat) (ws : Workspace)
    (mon' : Monitor) (next' : Nat) : Prop where
  output : mon'.output = mon.output
  covers : Covers mon.workspaces next (ws :: mon'.workspaces) next'
  homes : ∀ home ∈ mon'.homes, mon.KnownHome home
  keys : mon.keys.Perm (ws.keys ++ mon'.keys)
  sound : mon.Inside → mon'.Sound

lemma without_alters (idx : Nat) : Alters mon next (mon.without idx) next :=
  .ofSubperm rfl rfl rfl (eraseIdx_sublist _ _).subperm

lemma without_inside (several : idx + 1 < mon.workspaces.length)
    (inside : mon.Inside) : (mon.without idx).Inside := by
  unfold Inside without at *
  dsimp only
  rw [length_eraseIdx_of_lt (by omega)]
  split <;> omega

lemma removeWorkspaceByIdx_releases (gone : (mon.removeWorkspaceByIdx idx).run next =
      some ((ws, mon'), next')) : Releases mon next ws mon' next' := by
  obtain ⟨taken, got, rfl, clean⟩ := removeWorkspaceByIdx_eq gone
  have grew : Shifts mon next (mon.withSuccessor idx next).1
      (mon.withSuccessor idx next).2 := withSuccessor_shifts idx
  have several := withSuccessor_length got
  generalize mon.withSuccessor idx next = grown at *
  obtain ⟨base, later⟩ := grown
  have erased := Vec.removeAt_perm (Vec.removeAt_eq_some.mpr ⟨got, rfl⟩)
  obtain ⟨cleanedUp, keys, inv⟩ := cleanUpWorkspaces_alters clean
  have whole := (grew.toAlters.trans (without_alters idx)).trans cleanedUp
  refine ⟨whole.output, ?_, whole.homes, ?_,
    fun shape => inv (without_inside several (grew.inside shape))⟩
  · have out : Covers base.workspaces later
        (taken.setOutput none :: base.workspaces.eraseIdx idx) later :=
      (Covers.ofPerm erased.symm).trans (.ofMap (by simp) (by simp))
    exact (grew.covers.trans out).trans (cleanedUp.covers.append_left [taken.setOutput none])
  · rw [keys]
    have shrunk := erased.flatMap_right Workspace.keys
    rw [Workspace.setOutput_keys]
    exact grew.keys.symm.trans shrunk

/-- The monitor with the workspace before a position, before cleaning. -/
def withInserted (mon : Monitor) (ws : Workspace) (idx : Nat) : Monitor :=
  { mon with
    workspaces := mon.workspaces.insertIdx idx (ws.setOutput (some mon.output))
    activeWorkspaceIdx :=
      if idx ≤ mon.activeWorkspaceIdx then mon.activeWorkspaceIdx + 1
      else mon.activeWorkspaceIdx }

/-- The end of the list stands for the position before the trailing empty. -/
def insertionIdx (mon : Monitor) (idx : Nat) : Nat :=
  if idx = mon.workspaces.length then idx - 1 else idx

variable {activate : Bool} {id : WorkspaceId} {cond : Prop} {oldIdx landed : Nat}

lemma insertWorkspace_eq (added : (mon.insertWorkspace ws idx activate).run next =
      some (mon', next')) : mon.insertionIdx idx ≤ mon.workspaces.length ∧
      ∃ mid later, (if activate then
          activateWorkspace { mon.withInserted ws (mon.insertionIdx idx) with
            workspaceSwitch := none } (mon.insertionIdx idx)
        else pure (mon.withInserted ws (mon.insertionIdx idx))).run next = some (mid, later) ∧
        ({ mid with workspaceSwitch := none }).cleanUpWorkspaces.run later =
          some (mon', next') := by
  obtain ⟨_, computed, added⟩ := of_unwrap added
  obtain ⟨lt, rfl⟩ := Vec.insertAt_eq_some.mp computed
  refine ⟨lt, ?_⟩
  cases activate with
  | true => exact of_bind added
  | false => exact ⟨_, next, rfl, added⟩

/-- A workspace arrives: what is on the monitor is covered by what was there
and the workspace together. -/
structure Adopts (mon : Monitor) (next : Nat) (ws : Workspace)
    (mon' : Monitor) (next' : Nat) : Prop where
  output : mon'.output = mon.output
  covers : Covers (ws :: mon.workspaces) next mon'.workspaces next'
  homes : ∀ home ∈ mon'.homes, mon.KnownHome home ∨ home = ws.originalOutput
  keys : mon'.keys.Perm (ws.keys ++ mon.keys)
  sound : mon.Inside → mon'.Sound

section

variable (lt : idx ≤ mon.workspaces.length)
include lt

lemma withInserted_perm :
    (mon.withInserted ws idx).workspaces.Perm (ws.setOutput (some mon.output) :: mon.workspaces) :=
  perm_insertIdx _ _ lt

lemma withInserted_inside (inside : mon.Inside) : (mon.withInserted ws idx).Inside := by
  unfold Inside withInserted at *
  dsimp only
  rw [length_insertIdx, if_pos lt]
  split <;> omega

lemma withInserted_homes :
    ∀ home ∈ (mon.withInserted ws idx).homes, mon.KnownHome home ∨ home = ws.originalOutput := by
  intro _ mem
  obtain ⟨other, here, rfl⟩ := mem_map.mp mem
  rcases mem_cons.mp ((withInserted_perm lt).mem_iff.mp here) with rfl | old
  · rcases ws.setOutput_originalOutput mon.output with same | ⟨_, refreshed⟩
    · exact .inr same
    · left
      left
      rw [refreshed]
      exact OutputIdentity.fromOutput_matchesOutput _
  · exact .inl (.inr (mem_map.mpr ⟨other, old, rfl⟩))

lemma Adopts.ofWithInserted (alters : Alters (mon.withInserted ws idx) next mon' next')
    (keys : mon'.keys.Perm (mon.withInserted ws idx).keys)
    (inv : (mon.withInserted ws idx).Inside → mon'.Sound) : Adopts mon next ws mon' next' where
  output := alters.output
  covers := by
    refine .trans (.ofMap (by simp) (by simp)) ((Covers.ofPerm
      (withInserted_perm lt)).trans alters.covers)
  homes := by
    intro home mem
    rcases alters.homes home mem with own | old
    · exact .inl (.inl own)
    · exact withInserted_homes lt home old
  keys := by
    have permuted : (mon.withInserted ws idx).workspaces.Perm
        (ws.setOutput (some mon.output) :: mon.workspaces) := withInserted_perm lt
    have grown := permuted.flatMap_right Workspace.keys
    rw [flatMap_cons, Workspace.setOutput_keys] at grown
    exact keys.trans grown
  sound := fun inside => inv (withInserted_inside lt inside)

end

lemma insertWorkspace_adopts (added : (mon.insertWorkspace ws idx activate).run next =
      some (mon', next')) : Adopts mon next ws mon' next' := by
  obtain ⟨lt, _, _, ran, clean⟩ := insertWorkspace_eq added
  obtain ⟨cleanedUp, keys, inv⟩ := cleanUpStopped_alters clean
  cases activate with
  | true =>
    have shifts := activateWorkspace_shifts ran
    have stopped : Alters (mon.withInserted ws (mon.insertionIdx idx)) next
        { mon.withInserted ws (mon.insertionIdx idx) with
          workspaceSwitch := none } next := .ofSameList rfl rfl rfl rfl
    exact .ofWithInserted lt ((stopped.trans shifts.toAlters).trans cleanedUp)
      ((Perm.of_eq keys).trans shifts.keys) (fun inside => inv (shifts.inside inside))
  | false =>
    cases ran
    exact .ofWithInserted lt cleanedUp (.of_eq keys) inv

lemma eraseIdx_keys (got : mon.workspaces[idx]? = some ws) (bare : ws.keys = []) :
    ((mon.workspaces.eraseIdx idx).flatMap Workspace.keys).Perm mon.keys := by
  have erased := Vec.removeAt_perm (Vec.removeAt_eq_some.mpr ⟨got, rfl⟩)
  have shrunk := erased.flatMap_right Workspace.keys
  rw [flatMap_cons, bare] at shrunk
  exact shrunk.symm

lemma closeWorkspace_shifts {closed : Bool} (run : (mon.closeWorkspace id).run next =
      some ((closed, mon'), next')) : Shifts mon next mon' next' := by
  unfold closeWorkspace at run
  split at run
  · cases run
    exact .refl _ _
  next idx got =>
  split at run
  next closable =>
    obtain ⟨ws, here⟩ := positionOf_eq_some got
    obtain ⟨_, _, cleans, ret⟩ := of_bind run
    cases ret
    simp only [workspaceIsClosable, here, Option.any_some,
      Bool.and_eq_true, decide_eq_true_eq, Bool.not_eq_true'] at closable
    obtain ⟨⟨_, _⟩, bare⟩ := closable
    obtain ⟨cleanedUp, keys, inv⟩ := cleanUpWorkspaces_alters cleans
    have erased : Alters mon next
        { mon with
          workspaceSwitch := none
          workspaces := mon.workspaces.eraseIdx idx
          activeWorkspaceIdx :=
            if idx < mon.activeWorkspaceIdx then
              mon.activeWorkspaceIdx - 1
            else mon.activeWorkspaceIdx } next :=
      .ofSubperm rfl rfl rfl (eraseIdx_sublist _ _).subperm
    have stillInside : mon.Inside → mon'.Sound := by
      intro inside
      apply inv
      unfold Inside at *
      dsimp only
      rw [length_eraseIdx_of_lt (by omega)]
      split <;> omega
    have empty : ws.keys = [] := Workspace.keys_of_windowless bare
    exact ⟨erased.trans cleanedUp, (Perm.of_eq keys).trans (eraseIdx_keys here empty),
      fun inside => (stillInside inside).active, fun shape => stillInside shape.active⟩
  · cases run
    exact .refl _ _

lemma unnameWorkspace_shifts {unnamed : Bool} (run : (mon.unnameWorkspace id).run next =
      some ((unnamed, mon'), next')) : Shifts mon next mon' next' := by
  unfold unnameWorkspace at run
  split at run
  · cases run
    exact .refl _ _
  next idx got =>
  obtain ⟨ws, here⟩ := positionOf_eq_some got
  obtain ⟨_, _, cleans, ret⟩ := of_bind run
  cases ret
  have modified : mon.workspaces.modify idx Workspace.unname =
      mon.workspaces.set idx ws.unname := by
    rw [modify_eq_set_getElem?, here]
    rfl
  rw [modified] at cleans
  refine .trans ?_ (cleanUpIfIdle_shifts cleans)
  refine ⟨.ofSet here rfl (.inr rfl) (.inr ?_),
    flatMap_set_gains here (.refl _), Inside.set, fun inv => ?_⟩
  · exact mem_map.mpr ⟨ws, mem_of_getElem? here, rfl⟩
  · refine inv.set here fun _ => ?_
    unfold Workspace.hasWindowsOrName at *
    simp_all [Workspace.unname, Workspace.hasWindows, Workspace.tiles]

/-- Windows and display are kept, and so is some position in front; the end of
the strip may be in disorder. -/
structure Stirs (mon : Monitor) (next : Nat) (mon' : Monitor)
    (next' : Nat) : Prop extends Alters mon next mon' next' where
  keys : mon'.keys.Perm mon.keys
  inside : mon.Inside → mon'.Inside

namespace Stirs

lemma ofShifts (shifts : Shifts mon next mon' next') : Stirs mon next mon' next' :=
  ⟨shifts.toAlters, shifts.keys, shifts.inside⟩

lemma trans (one : Stirs mon next mon' next')
    (last : Stirs mon' next' mon'' next'') : Stirs mon next mon'' next'' :=
  ⟨one.toAlters.trans last.toAlters, last.keys.trans one.keys, last.inside ∘ one.inside⟩

lemma ofPerm (output : mon'.output = mon.output) (mode : mon'.windowingMode = mon.windowingMode)
    (thumbDrag : mon'.thumbDrag = mon.thumbDrag) (perm : mon'.workspaces.Perm mon.workspaces)
    (inside : mon.Inside → mon'.Inside) : Stirs mon next mon' next :=
  ⟨.ofSubperm output mode thumbDrag perm.subperm, perm.flatMap_right _, inside⟩

lemma cleanUp (stirs : Stirs mon next mon' next')
    (clean : mon'.cleanUpWorkspaces.run next' = some (mon'', next'')) :
    Shifts mon next mon'' next'' := by
  obtain ⟨cleanedUp, keys, inv⟩ := cleanUpWorkspaces_alters clean
  exact ⟨stirs.toAlters.trans cleanedUp, (Perm.of_eq keys).trans stirs.keys,
    fun inside => (inv (stirs.inside inside)).active, fun shape => inv (stirs.inside shape.active)⟩

end Stirs

lemma swapWorkspaces_stirs {one last : Nat}
    (swapped : (mon.swapWorkspaces one last).run next = some (mon', next')) :
    Stirs mon next mon' next' := by
  obtain ⟨_, atFirst, swapped⟩ := of_unwrap swapped
  obtain ⟨_, atSecond, ret⟩ := of_unwrap swapped
  cases ret
  obtain ⟨firstInside, rfl⟩ := List.getElem?_eq_some_iff.mp atFirst
  obtain ⟨secondInside, rfl⟩ := List.getElem?_eq_some_iff.mp atSecond
  exact .ofPerm rfl rfl rfl (set_set_perm firstInside secondInside)
    (fun inside => by simpa [Inside] using inside)

lemma addBottomIf_shifts [Decidable cond] :
    Shifting mon (if cond then mon.addWorkspaceBottom else pure mon) := by
  split
  · exact addWorkspaceAt_shifts
  · exact .pure

lemma addBottomIf_length [Decidable cond]
    (grown : (if cond then mon.addWorkspaceBottom else pure mon).run
      next = some (mon', next')) : mon.workspaces.length ≤ mon'.workspaces.length := by
  split at grown
  · rw [run_addWorkspaceBottom] at grown
    cases grown
    rw [grownAt_length le_rfl]
    omega
  · cases grown
    exact le_rfl

lemma moveActiveTo_shifts : Shifting mon (mon.moveActiveTo newIdx) := by
  unfold moveActiveTo
  split
  · exact .pure
  · intro _ _ _ moved
    obtain ⟨_, later, swapping, moved⟩ := of_bind moved
    obtain ⟨grown, later, growing, moved⟩ := of_ite moved
    obtain ⟨ran, later, activating, clean⟩ := of_bind moved
    have stirs := ((swapWorkspaces_stirs swapping).trans
      (.ofShifts (addBottomIf_shifts growing))).trans
      (.ofShifts (activateWorkspace_shifts activating))
    have stopped : Stirs ran later { ran with
        workspaceSwitch := none
        previousWorkspaceId := grown.previousWorkspaceId } later :=
      .ofPerm rfl rfl rfl (.refl _) id
    exact (stirs.trans stopped).cleanUp clean

lemma moveWorkspaceToIdx_shifts : Shifting mon (mon.moveWorkspaceToIdx oldIdx newIdx) := by
  intro next _ _ moved
  dsimp only [moveWorkspaceToIdx] at moved
  split at moved
  · cases moved
    exact .refl _ _
  next moves =>
  push Not at moves
  obtain ⟨⟨_, _⟩, out, moved⟩ := of_unwrap moved
  obtain ⟨workspaces, back, moved⟩ := of_unwrap moved
  obtain ⟨grown, later, growing, clean⟩ := of_ite moved
  have perm := (Vec.insertAt_perm back).trans (Vec.removeAt_perm out).symm
  have reordered : Stirs mon next { mon with workspaces } next := by
    refine .ofPerm rfl rfl rfl perm fun inside => ?_
    rw [Inside, perm.length_eq]
    exact inside
  have atLeast := addBottomIf_length growing
  have followed : Stirs grown later { grown with
      workspaceSwitch := none
      activeWorkspaceIdx := followMove grown.activeWorkspaceIdx oldIdx
        (min newIdx (mon.workspaces.length - 1)) } later := by
    rw [perm.length_eq] at atLeast
    refine .ofPerm rfl rfl rfl (.refl _) fun inside => ?_
    dsimp only [Inside, followMove] at *
    repeat' split
    all_goals omega
  exact ((reordered.trans (.ofShifts (addBottomIf_shifts growing))).trans followed).cleanUp clean

lemma dndScrollGestureBegin_shifts (renderIdx : ℚ) :
    Shifts mon next (mon.dndScrollGestureBegin renderIdx) next := by
  unfold dndScrollGestureBegin
  split
  · exact .refl _ _
  · exact switching_shifts _

lemma workspaceSwitchGestureUpdate_shifts (isTouchpad : Bool) (pos : ℚ) :
    Shifts mon next (mon.workspaceSwitchGestureUpdate isTouchpad pos) next := by
  unfold workspaceSwitchGestureUpdate
  split
  · split
    · exact .refl _ _
    · exact switching_shifts _
  · exact .refl _ _

lemma dndScrollGestureScroll_shifts {forward : Bool} {pos : ℚ} :
    Shifting mon (mon.dndScrollGestureScroll forward pos) := by
  unfold dndScrollGestureScroll
  split
  · exact .pure
  · split
    · split
      all_goals
        split
        · exact activateWorkspace_shifts
        · exact .pure
    · rintro _ _ _ ⟨⟩
      exact switching_shifts _

lemma workspaceSwitchGestureEnd_shifts {isTouchpad : Option Bool} :
    Shifting mon (mon.workspaceSwitchGestureEnd isTouchpad landed) := by
  intro _ _ _ ended
  unfold workspaceSwitchGestureEnd at ended
  split at ended
  · split at ended
    · cases ended
      exact .refl _ _
    · dsimp only at ended
      split at ended
      · cases ended
        exact switching_shifts _
      · obtain ⟨_, got, ended⟩ := of_unwrap ended
        obtain ⟨⟨_, _⟩, _, held, ended⟩ := of_bind ended
        have moved := carryStickyTo_eq held
        obtain ⟨_, _, switched, ended⟩ := of_bind ended
        obtain ⟨_, _, kept, ret⟩ := of_bind ended
        cases ret
        -- The carry leaves the target where it was, so its position is inside.
        have inside := Vec.lt_length got
        have longer := carryAll_length moved
        exact (((carryAll_shifts moved).trans (setActive_shifts (by omega) switched)).trans
          (keepFocusOn_shifts kept)).trans (switching_shifts _)
  · cases ended
    exact .refl _ _

lemma dndScrollGestureEnd_shifts : Shifting mon (mon.dndScrollGestureEnd landed) := by
  unfold dndScrollGestureEnd
  split
  · exact workspaceSwitchGestureEnd_shifts
  · exact .pure

lemma advanceAnimations_shifts {isDone : Bool} : Shifting mon (mon.advanceAnimations isDone) := by
  unfold advanceAnimations
  split
  · split
    · intro next _ _ advanced
      have stopped : Stirs mon next { mon with workspaceSwitch := none } next :=
        .ofPerm rfl rfl rfl (.refl _) id
      exact stopped.cleanUp advanced
    · exact .pure
  · exact .pure

end Monitor

end Synoik
