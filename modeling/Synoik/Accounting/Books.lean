import Synoik.Accounting.WorkspaceOps

/-!
# Books of every operation

The parked spaces belong to the books too.  `Books` says what any operation
does to the ids, the windows and the names of all spaces together; it
composes, and each of the finer relations of the earlier modules implies it.
-/

namespace Synoik

open List

/-- No two of the workspaces have names that differ in case at most. -/
def NamesApart (workspaces : List Workspace) : Prop :=
  workspaces.Pairwise fun left right =>
    ∀ one ∈ left.name, ∀ other ∈ right.name, eqIgnoreAsciiCase one other = false

namespace NamesApart

variable {pre post : List Workspace}

lemma iff_filterMap (spaces : List Workspace) :
    NamesApart spaces ↔ (spaces.filterMap Workspace.name).Pairwise
      fun one other => eqIgnoreAsciiCase one other = false := by
  rw [pairwise_filterMap]
  rfl

lemma of_subperm (names : NamesApart pre) (fewer : (post.filterMap Workspace.name).Subperm
      (pre.filterMap Workspace.name)) : NamesApart post := by
  rw [iff_filterMap] at *
  obtain ⟨_, perm, sublist⟩ := fewer
  refine (perm.pairwise_iff ?_).mp (names.sublist sublist)
  intro _ _ _
  rwa [eqIgnoreAsciiCase_comm]

lemma cons {ws : Workspace} (new : ∀ name ∈ ws.name, ∀ other ∈ pre, ∀ taken ∈ other.name,
      eqIgnoreAsciiCase taken name = false) (names : NamesApart pre) : NamesApart (ws :: pre) := by
  refine pairwise_cons.mpr ⟨?_, names⟩
  intro other mem one named taken otherNamed
  rw [eqIgnoreAsciiCase_comm]
  exact new one named other mem taken otherNamed

end NamesApart

namespace Layout

variable {layout layout' layout'' : Layout} {next next' next'' : Nat}

/-- Nobody misses what is parked, and it is known where it belongs. -/
def ParkedUnused (layout : Layout) : Prop :=
  ∀ ws ∈ layout.parkedWorkspaces, ws.hasWindowsOrName = false ∧ ws.originalOutput.isEmpty = false

/-- The windows of all workspaces and the one in the air. -/
def holdings (layout : Layout) : List WindowId :=
  windowsOf layout.allWorkspaces ++ layout.movingWindows

def allIds (layout : Layout) : List WorkspaceId := layout.allWorkspaces.map Workspace.id

structure Books (layout : Layout) (next : Nat) (layout' : Layout) (next' : Nat)
    (gained lost : List WindowId) : Prop where
  ids : Issues layout.allIds next layout'.allIds next'
  held : (lost ++ layout'.holdings).Perm (gained ++ layout.holdings)
  parked : layout.ParkedUnused → layout'.ParkedUnused
  names : layout.ParkedUnused → NamesApart layout.allWorkspaces → NamesApart layout'.allWorkspaces

namespace Books

lemma refl (layout : Layout) (next : Nat) : Books layout next layout next [] [] :=
  ⟨.refl _ _, .refl _, id, fun _ => id⟩

lemma trans (one : Books layout next layout' next' [] [])
    (two : Books layout' next' layout'' next'' [] []) :
    Books layout next layout'' next'' [] [] where
  ids := one.ids.trans two.ids
  held := two.held.trans one.held
  parked := two.parked ∘ one.parked
  names := fun idle names => two.names (one.parked idle) (one.names idle names)

end Books

variable {gained lost : List WindowId}

lemma Books.ofHeld (reachable : Covers layout.workspaces next layout'.workspaces next')
    (parked : layout'.parkedWorkspaces = layout.parkedWorkspaces)
    (held : (lost ++ layout'.heldWindows).Perm (gained ++ layout.heldWindows)) :
    Books layout next layout' next' gained lost := by
  have covers : Covers layout.allWorkspaces next layout'.allWorkspaces next' := by
    unfold allWorkspaces
    rw [parked]
    exact reachable.append_right _
  refine ⟨covers.ids, ?_, ?_, fun _ names => names.of_subperm covers.names⟩
  · -- What is parked is set aside on both sides.
    have aside : ∀ layout : Layout, layout.holdings.Perm
        (layout.heldWindows ++ windowsOf layout.parkedWorkspaces) := by
      intro layout
      unfold holdings heldWindows allWorkspaces
      rw [windowsOf_append, append_assoc, append_assoc]
      exact perm_append_comm.append_left _
    apply ((aside layout').append_left lost).trans
    refine .trans ?_ ((aside layout).append_left gained).symm
    rw [parked, ← append_assoc, ← append_assoc]
    exact held.append_right _
  · unfold ParkedUnused
    rw [parked]
    exact id

lemma Handles.books (handles : Handles layout next layout' next' gained lost) :
    Books layout next layout' next' gained lost :=
  .ofHeld handles.covers handles.parked handles.held

lemma Shuffles.books (shuffles : Shuffles layout next layout' next' gained) :
    Books layout next layout' next' gained [] :=
  .ofHeld shuffles.covers shuffles.parked shuffles.held

/-- Only unused workspaces came, went, or moved between the strips and the
parked ones. -/
structure Keeps (layout : Layout) (next : Nat) (layout' : Layout) (next' : Nat) : Prop where
  preserves : Preserves layout.allWorkspaces next layout'.allWorkspaces next'
  move : layout'.movingWindows = layout.movingWindows
  parked : layout.ParkedUnused → layout'.ParkedUnused

namespace Keeps

lemma refl (layout : Layout) (next : Nat) : Keeps layout next layout next := ⟨.refl _ _, rfl, id⟩

lemma books (keeps : Keeps layout next layout' next') : Books layout next layout' next' [] [] := by
  refine ⟨keeps.preserves.ids, ?_, keeps.parked,
    fun _ names => names.of_subperm keeps.preserves.names.subperm⟩
  unfold holdings
  rw [keeps.move]
  exact keeps.preserves.windows.append_right _

lemma ofMonitor {mons : List Monitor} {primary active idx : Nat}
    {mon mon' : Monitor} (shape : layout.monitorSet = .normal mons primary active)
    (got : mons[idx]? = some mon)
    (preserves : Preserves mon.workspaces next mon'.workspaces next') :
    Keeps layout next { layout with
      monitorSet := .normal (mons.set idx mon') primary active } next' := by
  refine ⟨?_, rfl, id⟩
  unfold allWorkspaces
  obtain ⟨pre, post⟩ := flatMap_workspaces_set got mon'
  rw [(parts_normal shape).2, parts_normal rfl |>.2, pre, post]
  exact ((preserves.append_right _).append_left _).append_right _

end Keeps

end Layout

end Synoik
