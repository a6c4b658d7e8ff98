import Synoik.Accounting.Plugging

/-!
# Operations that return

An operation aborts where the program would panic. On sound strips the
operations on workspace lists do not: every position they use is one of the
list.
-/

namespace Synoik.Monitor

open List

open FreshM

variable {mon mon' : Monitor} {next next' : Nat} {idx : Nat}
  {inv : List OutputIdentity} {home : OutputIdentity}

lemma addWorkspaceAt_completes (lt : idx ≤ mon.workspaces.length) :
    Completes (mon.addWorkspaceAt idx) next := by
  refine completes_bind ⟨next, next + 1, rfl⟩ fun _ _ _ => ?_
  exact completes_unwrap (Vec.insertAt_eq_some.mpr ⟨lt, rfl⟩) (completes_pure _)

lemma cleanUpWorkspaces_completes (idle : mon.workspaceSwitch = none) :
    Completes mon.cleanUpWorkspaces next :=
  (cleanUpWorkspaces_spec idle).completes

lemma cleanUpIfIdle_completes : Completes mon.cleanUpIfIdle next := by
  unfold cleanUpIfIdle
  split
  next idle => exact cleanUpWorkspaces_completes (by simpa using idle)
  · exact completes_pure _

lemma activeWorkspace_of_inside (inside : mon.Inside) :
    ∃ active, mon.activeWorkspace = some active :=
  ⟨_, getElem?_eq_getElem inside⟩

lemma appendWorkspaces_completes {spaces : List Workspace}
    (some : 0 < mon.workspaces.length) : Completes (mon.appendWorkspaces spaces) next := by
  unfold appendWorkspaces
  split
  · exact completes_pure _
  · have nonempty := ne_nil_of_length_pos some
    exact completes_unwrap (getLast?_eq_some_getLast nonempty)
      (cleanUpWorkspaces_completes rfl)

lemma restoreStripInvariants_completes {activeId : WorkspaceId} :
    Completes (mon.restoreStripInvariants activeId) next :=
  completes_map (cleanUpWorkspaces_completes rfl)

lemma settleStrip_completes (inside : mon.Inside) : Completes (mon.settleStrip inv) next := by
  obtain ⟨_, shown⟩ := activeWorkspace_of_inside inside
  exact completes_unwrap shown restoreStripInvariants_completes

lemma reblock_completes (inside : mon.Inside) : Completes (mon.reblock inv) next := by
  obtain ⟨_, shown⟩ := activeWorkspace_of_inside inside
  apply completes_unwrap shown
  refine completes_bind restoreStripInvariants_completes fun _ _ _ => ?_
  split <;> exact completes_pure _

lemma claimAt_completes {ordinal : Nat} (inside : idx < mon.workspaces.length) :
    Completes (mon.claimAt idx home ordinal) next :=
  completes_unwrap (getElem?_eq_getElem inside) (completes_pure _)

lemma restoreInsertionPoint_le (inv : List OutputIdentity) (spaces : List Workspace)
    (key : BlockKey) : restoreInsertionPoint inv spaces key ≤ spaces.length := by
  unfold restoreInsertionPoint
  split
  next idx got => exact Nat.le_of_lt (findIdx?_eq_some_iff_getElem.mp got).1
  · split
    next idx last =>
      have listed := (mem_filter.mp (mem_of_getLast? last)).1
      exact mem_range.mp listed
    · exact Nat.zero_le _

lemma insertRestoreWorkspace_completes {ordinal : Nat} (inside : mon.Inside) :
    Completes (mon.insertRestoreWorkspace inv home ordinal) next := by
  unfold insertRestoreWorkspace
  split
  · apply claimAt_completes
    unfold Inside at inside
    omega
  · have lt := restoreInsertionPoint_le inv mon.workspaces (slotKey inv home ordinal)
    refine completes_ite_bind ?_ ?_
    · split
      · exact completes_pure _
      · exact addWorkspaceAt_completes lt
    · intro grown _ growing
      have room : restoreInsertionPoint inv mon.workspaces
          (slotKey inv home ordinal) < grown.workspaces.length ∧ grown.Inside := by
        split at growing
        next filler =>
          cases growing
          obtain ⟨_, got, _⟩ := (Option.any_eq_true _ _).mp filler
          exact ⟨(Vec.lt_length got), inside⟩
        · obtain ⟨_, rfl, rfl⟩ := addWorkspaceAt_eq growing
          exact ⟨by rw [grownAt_length lt]; omega, grownAt_inside lt inside⟩
      refine completes_bind (claimAt_completes room.1) fun res _ claiming => ?_
      obtain ⟨_, _, _, _, same⟩ := claimAt_eq claiming
      have still : res.2.Inside := by
        rw [same]
        exact room.2.set
      exact completes_map (settleStrip_completes still)

end Synoik.Monitor
