import Synoik.Accounting.Naming
import Mathlib.Algebra.Order.Group.Multiset
import Mathlib.Tactic.Abel

/-!
# Displays coming and going

What the arrival and the departure of a display do to the layout, as a
description of the resulting strips, and its books.
-/

namespace Synoik.Layout

open List

open FreshM

variable {out : Output} {mode : WindowingMode} {mon : Monitor}

variable {layout layout' : Layout} {next next' : Nat}

/-- The workspace a display showed when it left. -/
def lastShown (layout : Layout) (output : Output) : Option WorkspaceId :=
  (layout.takeLastActiveWorkspace output).1

/-- What the other displays showed when they left. -/
def othersShown (layout : Layout) (output : Output) : List (OutputIdentity × WorkspaceId) :=
  (layout.takeLastActiveWorkspace output).2.lastActiveWorkspaceId

lemma takeLastActiveWorkspace_eq (layout : Layout) (out : Output)
    (parkedWorkspaces : List Workspace) :
    takeLastActiveWorkspace { layout with parkedWorkspaces } out =
      (layout.lastShown out, { layout with
        parkedWorkspaces
        lastActiveWorkspaceId := layout.othersShown out }) := by
  unfold lastShown othersShown takeLastActiveWorkspace
  dsimp only
  split <;> rfl

/-- An arriving monitor, while other displays are open in the overview or not. -/
structure Connects (layout : Layout) (output : Output)
    (windowingMode : WindowingMode) (workspaces : List Workspace) (next : Nat)
    (mon : Monitor) (next' : Nat) : Prop where
  starts : Monitor.Starts output windowingMode
    (workspaces.map fun ws => ws.setOutput (some output)) (layout.lastShown output)
    next { mon with overviewOpen := false } next'

variable {mons : List Monitor} {primaryIdx active : Nat} {loose : List Workspace}

lemma connect_spec {parkedWorkspaces spaces : List Workspace}
    (run : (connect { layout with parkedWorkspaces } out mode
      spaces).run next = some ((mon, layout'), next')) : layout' = { layout with
        parkedWorkspaces
        lastActiveWorkspaceId := layout.othersShown out } ∧
      Connects layout out mode spaces next mon next' := by
  unfold connect at run
  rw [takeLastActiveWorkspace_eq] at run
  obtain ⟨started, _, starting, ret⟩ := of_bind run
  have starts := (Monitor.new_spec out mode spaces
    (layout.lastShown out)).ensures _ _ starting
  cases ret
  refine ⟨rfl, ⟨?_⟩⟩
  have plain : { started with overviewOpen := false } = started := by rw [starts.frame]
  rw [plain]
  exact starts

namespace Connects

variable {spaces : List Workspace}

section

variable (links : Connects layout out mode spaces next mon next')
include links

lemma output_eq : mon.output = out := congrArg Monitor.output links.starts.frame

lemma preserves : Preserves spaces next mon.workspaces next' :=
  (Monitor.map_setOutput_preserves spaces _).trans links.starts.grew.preserves

lemma sound : mon.Sound :=
  ⟨links.starts.sound.enough, links.starts.sound.active, links.starts.sound.trailing⟩

end

end Connects

/-- The primary strip after the arriving display took its workspaces. -/
structure Reclaims (primary : Monitor) (output : Output) (next : Nat)
    (primary' : Monitor) (next' : Nat) : Prop where
  grew : (primary.reclaimFor output).2.GrewBottom next primary' next'
  untouched : (primary.reclaimFor output).1 = [] → primary' = primary ∧ next' = next
  count : (primary.reclaimFor output).1 ≠ [] →
    next' = next + Monitor.missingWorkspaces (primary.reclaimFor output).2.workspaces

/-- The strip that waits for an arriving display: what it takes from the
primary monitor and what was parked for it. -/
def awaiting (layout : Layout) (primary : Monitor) (output : Output) : List Workspace :=
  sortIntoBlocks layout.displayOrder
    (dropDisplacedEmpties
      ((primary.reclaimFor output).1 ++ (layout.takeParkedFor output).1))

lemma addOutputNormal_spec (run : (layout.addOutputNormal mons primaryIdx active out
      mode).run next = some (layout', next')) :
    ∃ primary primary' later mon, mons[primaryIdx]? = some primary ∧
      Reclaims primary out next primary' later ∧
      Connects layout out mode (layout.awaiting primary out) later mon next' ∧
      layout' = { layout with
        lastActiveWorkspaceId := layout.othersShown out
        parkedWorkspaces := (layout.takeParkedFor out).2.parkedWorkspaces
        monitorSet := .normal (mons.set primaryIdx primary' ++ [mon]) primaryIdx active } := by
  obtain ⟨primary, got, run⟩ := of_unwrap run
  dsimp only at run
  obtain ⟨primary', later, cleans, run⟩ := of_ite run
  obtain ⟨⟨mon, _⟩, _, connecting, ret⟩ := of_bind run
  obtain ⟨rfl, links⟩ := connect_spec connecting
  cases ret
  refine ⟨primary, primary', later, mon, got, ?_, links, rfl⟩
  split at cleans
  next nothing =>
    cases cleans
    have none := isEmpty_iff.mp nothing
    have same := Monitor.reclaimFor_eq_self none
    rw [same]
    refine ⟨?_, fun _ => ⟨rfl, rfl⟩, fun some => (some none).elim⟩
    rw [same]
    exact .refl _ _
  next something =>
  obtain ⟨_, grew, count⟩ := Monitor.cleanUpWorkspaces_grew cleans
  exact ⟨grew, fun none => (something (isEmpty_iff.mpr none)).elim, fun _ => count⟩

lemma takeParkedFor_perm (layout : Layout) (out : Output) :
    ((layout.takeParkedFor out).1 ++ (layout.takeParkedFor out).2.parkedWorkspaces).Perm
      layout.parkedWorkspaces :=
  filter_append_perm _ _

lemma sortIntoBlocks_preserves (inv : List OutputIdentity) (spaces : List Workspace)
    (next : Nat) : Preserves spaces next (sortIntoBlocks inv (dropDisplacedEmpties spaces)) next :=
  (dropDisplacedEmpties_preserves spaces next).trans (.ofPerm (sortIntoBlocks_perm inv _))

lemma takeParkedFor_unused (idle : layout.ParkedUnused) :
    ∀ ws ∈ (layout.takeParkedFor out).2.parkedWorkspaces,
      ws.hasWindowsOrName = false ∧ ws.originalOutput.isEmpty = false :=
  fun ws mem => idle ws (mem_filter.mp mem).1

lemma addOutputNormal_keeps (shape : layout.monitorSet = .normal mons primaryIdx active)
    (run : (layout.addOutputNormal mons primaryIdx active out
      mode).run next = some (layout', next')) : Keeps layout next layout' next' := by
  obtain ⟨primary, primary', later, _, got, reclaims, links, rfl⟩ := addOutputNormal_spec run
  refine ⟨?_, rfl, takeParkedFor_unused⟩
  obtain ⟨pre, post⟩ := flatMap_workspaces_set got primary'
  unfold allWorkspaces
  rw [(parts_normal shape).2, parts_normal rfl |>.2, flatMap_append, pre, post]
  generalize (mons.take primaryIdx).flatMap Monitor.workspaces = front
  generalize (mons.drop (primaryIdx + 1)).flatMap Monitor.workspaces = back
  have parked := takeParkedFor_perm layout out
  generalize (layout.takeParkedFor out).2.parkedWorkspaces = left at parked ⊢
  -- What moves first, what stays after it.
  have sorted : ((primary.reclaimFor out).1 ++ (layout.takeParkedFor out).1 ++
      ((primary.reclaimFor out).2.workspaces ++ (front ++ back ++ left))).Perm
      (front ++ (primary.workspaces ++ back) ++ layout.parkedWorkspaces) := by
    have whole := (primary.reclaimFor_perm out).append parked
    refine .trans ?_ ((whole.append_left (front ++ back)).trans ?_)
    all_goals
      rw [← Multiset.coe_eq_coe]
      simp only [← Multiset.coe_add]
      abel
  have stays := (reclaims.grew.preserves.append_right (front ++ back ++ left)).append_left
    ((primary.reclaimFor out).1 ++ (layout.takeParkedFor out).1)
  have moves := ((sortIntoBlocks_preserves layout.displayOrder
    ((primary.reclaimFor out).1 ++ (layout.takeParkedFor out).1) later).trans
      links.preserves).append_right (primary'.workspaces ++ (front ++ back ++ left))
  refine ((Preserves.ofPerm sorted).trans (stays.trans moves)).trans (.ofPerm ?_)
  rw [← Multiset.coe_eq_coe]
  simp only [flatMap_cons, flatMap_nil, append_nil, ← Multiset.coe_add]
  abel

def awaitingFirst (layout : Layout) (loose : List Workspace) (output : Output) : List Workspace :=
  dropHostTrailingFiller (.fromOutput output)
    (sortIntoBlocks layout.displayOrder
      (dropDisplacedEmpties (loose ++ (layout.takeParkedFor output).1)))

lemma addOutputFirst_spec (run : (layout.addOutputFirst loose out mode).run next =
      some (layout', next')) : ∃ mon, Connects layout out mode (layout.awaitingFirst loose out) next
        mon next' ∧ layout' = { layout with
        lastActiveWorkspaceId := layout.othersShown out
        parkedWorkspaces := (layout.takeParkedFor out).2.parkedWorkspaces
        monitorSet := .normal [mon] 0 0 } := by
  unfold addOutputFirst at run
  obtain ⟨⟨mon, _⟩, _, connecting, ret⟩ := of_bind run
  obtain ⟨rfl, links⟩ := connect_spec connecting
  cases ret
  exact ⟨mon, links, rfl⟩

lemma addOutputFirst_keeps (shape : layout.monitorSet = .noOutputs loose)
    (run : (layout.addOutputFirst loose out mode).run next = some (layout', next')) :
    Keeps layout next layout' next' := by
  obtain ⟨_, links, rfl⟩ := addOutputFirst_spec run
  refine ⟨?_, rfl, takeParkedFor_unused⟩
  unfold allWorkspaces
  rw [(parts_noOutputs shape).2, parts_normal rfl |>.2]
  rw [flatMap_cons, flatMap_nil, append_nil]
  have sorted := (takeParkedFor_perm layout out).append_left loose
  rw [← append_assoc] at sorted
  refine (Preserves.ofPerm sorted).trans (Preserves.append_right ?_ _)
  exact ((sortIntoBlocks_preserves layout.displayOrder _ next).trans
    (dropHostTrailingFiller_preserves _ _ _)).trans links.preserves

lemma attachOutput_keeps (run : (layout.attachOutput out mode).run next =
      some (layout', next')) : Keeps layout next layout' next' := by
  unfold attachOutput at run
  split at run
  next shape => exact addOutputNormal_keeps shape run
  next shape => exact addOutputFirst_keeps shape run

lemma addOutput_books (run : (layout.addOutput out mode).run next = some (layout', next')) :
    Books layout next layout' next' [] [] := by
  obtain ⟨_, _, ran, materialized⟩ := of_bind run
  exact (attachOutput_keeps ran).books.trans (materializePendingNamed_books materialized)

/-- The layout with the unused workspaces of a leaving display parked. -/
def parting (layout : Layout) (mon : Monitor) (showing : Workspace) : Layout :=
  ((layout.rememberShowing (.fromOutput mon.output) showing.id).parkEmpties
    mon.intoWorkspaces).2

/-- The workspaces of a leaving display that somebody uses. -/
def evacuated (mon : Monitor) : List Workspace :=
  mon.intoWorkspaces.filter Workspace.hasWindowsOrName

/-- A position in a list after the one at `idx` has gone. -/
def closeUp (idx position : Nat) : Nat :=
  if idx ≤ position then position - 1 else position

/-- How a display left: as the last one, or handing its strip to the primary. -/
inductive Leaves (layout : Layout) (output : Output) (next : Nat) : Layout → Nat → Prop where
  | last {mon : Monitor} {showing : Workspace} {primaryIdx activeIdx : Nat}
      (shape : layout.monitorSet = .normal [mon] primaryIdx activeIdx)
      (known : mon.output = output)
      (shown : mon.activeWorkspace = some showing) :
      Leaves layout output next { layout.parting mon showing with
        monitorSet := .noOutputs (evacuated mon) } next
  | handed {monitors : List Monitor} {primaryIdx activeIdx idx later next' : Nat}
      {mon primary appended primary' : Monitor} {showing : Workspace}
      (shape : layout.monitorSet = .normal monitors primaryIdx activeIdx)
      (located : layout.monitorIdx output = some idx)
      (found : monitors[idx]? = some mon)
      (shown : mon.activeWorkspace = some showing)
      (host : (monitors.eraseIdx idx)[closeUp idx primaryIdx]? = some primary)
      (appending : (primary.appendWorkspaces (evacuated mon)).run next = some (appended, later))
      (settling : (appended.reblock layout.displayOrder).run later = some (primary', next')) :
      Leaves layout output next { layout.parting mon showing with
        monitorSet := .normal
          ((monitors.eraseIdx idx).set (closeUp idx primaryIdx) primary')
          (closeUp idx primaryIdx) (closeUp idx activeIdx) } next'

lemma removeOutput_leaves (run : (layout.removeOutput out).run next = some (layout', next')) :
    Leaves layout out next layout' next' := by
  unfold removeOutput at run
  split at run
  · cases run
  next mons _ _ shape =>
  obtain ⟨idx, loc, run⟩ := of_unwrap run
  obtain ⟨⟨_, _⟩, gone, run⟩ := of_unwrap run
  obtain ⟨got, rfl⟩ := Vec.removeAt_eq_some.mp gone
  obtain ⟨_, shown, run⟩ := of_unwrap run
  split at run
  next alone =>
    cases run
    obtain ⟨lt, same, _⟩ := findIdx?_eq_some_iff_getElem.mp loc
    obtain ⟨_, rfl⟩ := List.getElem?_eq_some_iff.mp got
    have single : mons.length = 1 := by
      have short := congrArg length (isEmpty_iff.mp alone)
      rw [length_eraseIdx_of_lt lt, length_nil] at short
      omega
    obtain ⟨_, rfl⟩ := length_eq_one_iff.mp single
    have first : idx = 0 := by omega
    subst first
    exact .last shape (by simpa using same) shown
  · obtain ⟨_, host, run⟩ := of_unwrap run
    obtain ⟨_, _, appending, run⟩ := of_bind run
    obtain ⟨_, _, settling, ret⟩ := of_bind run
    cases ret
    have old : layout.monitorIdx out = some idx := by
      unfold monitorIdx
      rw [(parts_normal shape).1]
      exact loc
    exact .handed shape old got shown host appending settling

lemma parkEmpties_preserves (spaces : List Workspace) (next : Nat) :
    Preserves spaces next (spaces.filter Workspace.hasWindowsOrName ++ spaces.filter fun ws =>
          !ws.hasWindowsOrName && !ws.originalOutput.isEmpty) next := by
  have split : (spaces.filter Workspace.hasWindowsOrName ++
      spaces.filter fun ws => !ws.hasWindowsOrName).Perm spaces := filter_append_perm _ _
  refine (Preserves.ofPerm split).trans (Preserves.append_left ?_ _)
  have fewer : Preserves (spaces.filter fun ws => !ws.hasWindowsOrName) next
      ((spaces.filter fun ws => !ws.hasWindowsOrName).filter
        fun ws => !ws.originalOutput.isEmpty) next := by
    refine .ofFilter fun ws mem used => ?_
    have idle := (mem_filter.mp mem).2
    simp [used] at idle
  rw [filter_filter] at fewer
  simpa only [Bool.and_comm] using fewer

lemma evacuated_preserves (mon : Monitor) (parked : List Workspace) (next : Nat) :
    Preserves (mon.workspaces ++ parked) next
      (evacuated mon ++ (parked ++ mon.intoWorkspaces.filter fun ws =>
        !ws.hasWindowsOrName && !ws.originalOutput.isEmpty)) next := by
  refine (((mon.intoWorkspaces_preserves next).trans
    (parkEmpties_preserves _ _)).append_right parked).trans (.ofPerm ?_)
  rw [append_assoc]
  exact perm_append_comm.append_left _

lemma parting_unused {showing : Workspace} (idle : layout.ParkedUnused) :
    (layout.parting mon showing).ParkedUnused := by
  intro ws mem
  rcases mem_append.mp mem with old | new
  · exact idle ws old
  · simpa using (mem_filter.mp new).2

lemma Leaves.keeps (leaves : Leaves layout out next layout' next') :
    Keeps layout next layout' next' := by
  cases leaves with
  | @last mon showing _ _ shape old shown =>
    refine ⟨?_, rfl, parting_unused⟩
    unfold allWorkspaces
    rw [(parts_normal shape).2, parts_noOutputs rfl |>.2, flatMap_cons, flatMap_nil, append_nil]
    exact evacuated_preserves mon _ _
  | @handed mons primaryIdx active idx later _ mon primary appended primary'
      showing shape loc got shown host appending settling =>
    refine ⟨?_, rfl, parting_unused⟩
    have erased := Vec.removeAt_perm (Vec.removeAt_eq_some.mpr ⟨got, rfl⟩)
    have strips := erased.flatMap_right Monitor.workspaces
    obtain ⟨pre, post⟩ := flatMap_workspaces_set host primary'
    rw [flatMap_cons, pre] at strips
    unfold allWorkspaces
    rw [(parts_normal shape).2, parts_normal rfl |>.2, post]
    change Preserves _ _ (_ ++ (layout.parkedWorkspaces ++ mon.intoWorkspaces.filter fun ws =>
        !ws.hasWindowsOrName && !ws.originalOutput.isEmpty)) _
    generalize ((mons.eraseIdx idx).take (closeUp idx primaryIdx)).flatMap
      Monitor.workspaces = front at strips ⊢
    generalize ((mons.eraseIdx idx).drop (closeUp idx primaryIdx + 1)).flatMap
      Monitor.workspaces = back at strips ⊢
    have evacuates := evacuated_preserves mon layout.parkedWorkspaces next
    generalize layout.parkedWorkspaces ++ (mon.intoWorkspaces.filter fun ws =>
      !ws.hasWindowsOrName && !ws.originalOutput.isEmpty) = parked at evacuates ⊢
    have hosts := (Monitor.appendWorkspaces_spec appending).2.2.1.trans
      (Monitor.reblock_spec settling).1.preserves
    -- The strip of the leaving display, then the host's, then the rest.
    have sorted : ((mon.workspaces ++ layout.parkedWorkspaces) ++
        (primary.workspaces ++ (front ++ back))).Perm
        (mons.flatMap Monitor.workspaces ++ layout.parkedWorkspaces) := by
      refine .trans ?_ (strips.append_right _).symm
      rw [← Multiset.coe_eq_coe]
      simp only [← Multiset.coe_add]
      abel
    have between : ((primary.workspaces ++ evacuated mon) ++ (parked ++ (front ++ back))).Perm
        ((evacuated mon ++ parked) ++ (primary.workspaces ++ (front ++ back))) := by
      rw [← Multiset.coe_eq_coe]
      simp only [← Multiset.coe_add]
      abel
    refine (((Preserves.ofPerm sorted).trans (evacuates.append_right _)).trans
      ((Preserves.ofPerm between).trans (hosts.append_right _))).trans (.ofPerm ?_)
    rw [← Multiset.coe_eq_coe]
    simp only [← Multiset.coe_add]
    abel

section

variable (run : (layout.removeOutput out).run next = some (layout', next'))
include run

lemma removeOutput_keeps : Keeps layout next layout' next' := (removeOutput_leaves run).keeps

lemma removeOutput_sound (inv : layout.Sound) : layout'.Sound := by
  cases removeOutput_leaves run with
  | last => exact fun _ mem => nomatch mem
  | @handed mons primaryIdx active idx later _ mon primary appended primary'
      showing shape loc got shown host appending settling =>
    intro other mem
    rcases mem_or_eq_of_mem_set mem with old | rfl
    · apply inv other
      rw [(parts_normal shape).1]
      exact mem_of_mem_eraseIdx old
    · exact (Monitor.reblock_spec settling).2

end

end Synoik.Layout
