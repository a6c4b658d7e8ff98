import Synoik.Accounting.Reorder
import Synoik.Layout.Layout

/-!
# Strips under hotplug and restore

What arriving and leaving displays do to a strip, and how restore slots claim
their workspaces. All of it keeps the workspaces in use; sorting into blocks
and the loss of filler only touch the order and the unused ones.
-/

namespace Synoik

open List Workspace

open FreshM

lemma sortIntoBlocks_perm (order : List OutputIdentity) (workspaces : List Workspace) :
    (sortIntoBlocks order workspaces).Perm workspaces :=
  perm_insertionSort _ _

section

variable (host : OutputIdentity)
include host

section

variable (workspaces : List Workspace)
include workspaces

lemma trimOwnFiller_sublist : (trimOwnFiller host workspaces).Sublist workspaces := by
  induction workspaces with
  | nil => exact .refl _
  | cons ws _ ih =>
    unfold trimOwnFiller
    split
    · split
      · exact .refl _
      · exact ih.cons ws
    · exact ih.cons_cons ws

lemma trimOwnFiller_usedContents :
    usedContents (trimOwnFiller host workspaces) = usedContents workspaces := by
  induction workspaces with
  | nil => rfl
  | cons ws rest ih =>
    have cons : ∀ list, usedContents (ws :: list) =
        usedContents [ws] ++ usedContents list := usedContents_append [ws]
    unfold trimOwnFiller
    split
    · split
      · rfl
      next filler =>
        have idle : ws.hasWindowsOrName = false := by
          simp [isSubstantial] at filler
          exact filler.1
        rw [ih, usedContents_cons_unused idle]
    · rw [cons (trimOwnFiller host rest), cons rest, ih]

lemma trimOwnFiller_substantial : (trimOwnFiller host workspaces).filter isSubstantial =
      workspaces.filter isSubstantial := by
  induction workspaces with
  | nil => rfl
  | cons _ _ ih =>
    unfold trimOwnFiller
    split
    · split
      · rfl
      next filler => rw [ih, filter_cons_of_neg filler]
    · rw [filter_cons, filter_cons, ih]

lemma dropHostTrailingFiller_substantial :
    (dropHostTrailingFiller host workspaces).filter isSubstantial =
      workspaces.filter isSubstantial := by
  unfold dropHostTrailingFiller
  split
  · rfl
  · rw [filter_reverse, trimOwnFiller_substantial, filter_reverse, reverse_reverse]

lemma dropHostTrailingFiller_sublist :
    (dropHostTrailingFiller host workspaces).Sublist workspaces := by
  unfold dropHostTrailingFiller
  split
  · exact .refl _
  · have trimmed := (trimOwnFiller_sublist host workspaces.reverse).reverse
    rwa [reverse_reverse] at trimmed

lemma dropHostTrailingFiller_preserves (next : Nat) :
    Preserves workspaces next (dropHostTrailingFiller host workspaces) next := by
  refine ⟨.of_subperm ((dropHostTrailingFiller_sublist host workspaces).map
    Workspace.id).subperm, ?_⟩
  unfold dropHostTrailingFiller
  split
  · exact .refl _
  · have reversed : ∀ list : List Workspace,
        usedContents list.reverse = (usedContents list).reverse := by
      intro _
      simp [usedContents, filter_reverse]
    rw [reversed, trimOwnFiller_usedContents, reversed, reverse_reverse]

end

end

lemma dropDisplacedEmpties_preserves (workspaces : List Workspace) (next : Nat) :
    Preserves workspaces next (dropDisplacedEmpties workspaces) next :=
  .ofFilter fun _ _ used => by simp [used]

namespace Monitor

variable {mon mon' : Monitor} {next next' : Nat}

/-- The strip keeps what is in use, on the same display; homes that were not
there before are listed. -/
structure Rehouses (mon : Monitor) (next : Nat) (mon' : Monitor)
    (next' : Nat) (extra : List OutputIdentity) : Prop where
  output : mon'.output = mon.output
  windowingMode : mon'.windowingMode = mon.windowingMode
  thumbDrag : mon'.thumbDrag = mon.thumbDrag
  preserves : Preserves mon.workspaces next mon'.workspaces next'
  homes : ∀ home ∈ mon'.homes, mon.KnownHome home ∨ home ∈ extra

namespace Rehouses

variable {mon'' : Monitor} {next'' : Nat}

lemma refl (mon : Monitor) (next : Nat) : Rehouses mon next mon next [] :=
  ⟨rfl, rfl, rfl, .refl _ _, fun _ mem => .inl (.inr mem)⟩

lemma trans {first last : List OutputIdentity} (one : Rehouses mon next mon' next' first)
    (two : Rehouses mon' next' mon'' next'' last) :
    Rehouses mon next mon'' next'' (first ++ last) where
  output := two.output.trans one.output
  windowingMode := two.windowingMode.trans one.windowingMode
  thumbDrag := two.thumbDrag.trans one.thumbDrag
  preserves := one.preserves.trans two.preserves
  homes := by
    intro home mem
    rcases two.homes home mem with old | new
    · rcases old with own | here
      · left
        left
        rwa [one.output] at own
      · rcases one.homes home here with old | new
        · exact .inl old
        · exact .inr (mem_append_left _ new)
    · exact .inr (mem_append_right _ new)

lemma ofAlters (alters : Alters mon next mon' next')
    (preserves : Preserves mon.workspaces next mon'.workspaces next') :
    Rehouses mon next mon' next' [] :=
  ⟨alters.output, alters.windowingMode, alters.thumbDrag, preserves,
    fun home mem => .inl (alters.homes home mem)⟩

lemma ofGrewBottom (grew : GrewBottom mon next mon' next') : Rehouses mon next mon' next' [] :=
  ofAlters grew.alters grew.preserves

end Rehouses

lemma blocked_preserves (order : List OutputIdentity) :
    Preserves mon.workspaces next (mon.blocked order).workspaces next :=
  (Preserves.ofPerm (sortIntoBlocks_perm order _)).trans
    (dropHostTrailingFiller_preserves _ _ _)

lemma blocked_rehouses (order : List OutputIdentity) :
    Rehouses mon next (mon.blocked order) next [] := by
  refine ⟨rfl, rfl, rfl, blocked_preserves order, ?_⟩
  intro _ mem
  obtain ⟨ws, here, rfl⟩ := mem_map.mp mem
  have sorted := (dropHostTrailingFiller_sublist _ _).subset here
  have original := (sortIntoBlocks_perm order _).mem_iff.mp sorted
  exact .inl (.inr (mem_map.mpr ⟨ws, original, rfl⟩))

lemma restoreStripInvariants_spec {activeId : WorkspaceId}
    (restored : (mon.restoreStripInvariants activeId).run next = some (mon', next')) :
    Rehouses mon next mon' next' [] ∧ mon'.Sound := by
  obtain ⟨_, _, cleans, ret⟩ := of_bind restored
  cases ret
  obtain ⟨_, grew, count⟩ := cleanUpWorkspaces_grew cleans
  have enough := grew.enough count
  refine ⟨?_, enough, ?_, fun _ => grew.trailing count⟩
  · have rehouses := Rehouses.ofGrewBottom grew
    exact ⟨rehouses.output, rehouses.windowingMode, rehouses.thumbDrag,
      rehouses.preserves, rehouses.homes⟩
  · have positive : 0 < minNumWorkspaces := by decide
    dsimp only [Inside]
    omega

variable {order : List OutputIdentity} {idx ordinal homeOrdinal : Nat}
  {home : OutputIdentity} {id : WorkspaceId} {workspaces : List Workspace}
  {output : Output}

section

variable (settled : (mon.settleStrip order).run next = some (mon', next'))
include settled

lemma settleStrip_spec : Rehouses mon next mon' next' [] ∧ mon'.Sound := by
  obtain ⟨_, _, restored⟩ := of_unwrap settled
  obtain ⟨rehouses, inv⟩ := restoreStripInvariants_spec restored
  exact ⟨(blocked_rehouses order).trans rehouses, inv⟩

lemma settleStrip_idle : mon'.workspaceSwitch = none := by
  obtain ⟨_, _, restored⟩ := of_unwrap settled
  obtain ⟨_, _, cleans, ret⟩ := of_bind restored
  cases ret
  obtain ⟨_, grew, _⟩ := cleanUpWorkspaces_grew cleans
  exact congrArg workspaceSwitch grew.frame

end

lemma reblock_spec (settled : (mon.reblock order).run next = some (mon', next')) :
    Rehouses mon next mon' next' [] ∧ mon'.Sound := by
  obtain ⟨active, _, settled⟩ := of_unwrap settled
  obtain ⟨_, _, restored, ret⟩ := of_bind settled
  obtain ⟨rehouses, inv⟩ := restoreStripInvariants_spec restored
  have whole := (blocked_rehouses order).trans rehouses
  split at ret
  · cases ret
    refine ⟨⟨whole.output, whole.windowingMode, whole.thumbDrag, whole.preserves,
      whole.homes⟩, inv.enough, ?_, inv.trailing⟩
    have inside := inv.active
    unfold Inside at *
    dsimp only
    omega
  · cases ret
    exact ⟨whole, inv⟩

section

variable (claimed : (mon.claimAt idx home ordinal).run next = some ((id, mon'), next'))
include claimed

lemma claimAt_eq : ∃ ws, mon.workspaces[idx]? = some ws ∧ id = ws.id ∧ next = next' ∧
      mon' = { mon with workspaces := mon.workspaces.set idx (ws.claimFor home ordinal) } := by
  obtain ⟨ws, got, ret⟩ := of_unwrap claimed
  cases ret
  exact ⟨ws, got, rfl, rfl, rfl⟩

lemma claimAt_spec : Rehouses mon next mon' next' [home] ∧ (mon.Sound → mon'.Sound) := by
  obtain ⟨_, got, _, rfl, rfl⟩ := claimAt_eq claimed
  refine ⟨⟨rfl, rfl, rfl, .ofMap (Vec.map_set_of_eq got rfl), ?_⟩,
    fun inv => inv.set got fun used => used⟩
  intro _ mem
  obtain ⟨new, here, rfl⟩ := mem_map.mp mem
  rcases mem_or_eq_of_mem_set here with old | rfl
  · exact .inl (.inr (mem_map.mpr ⟨new, old, rfl⟩))
  · exact .inr (mem_singleton.mpr rfl)

end

lemma grownAt_rehouses (lt : idx ≤ mon.workspaces.length) :
    Rehouses mon next (mon.grownAt idx next) (next + 1) [] := by
  refine .ofAlters (grownAt_alters lt) ?_
  refine .trans ⟨?_, ?_⟩ (.ofCores (grownAt_cores idx next))
  · exact .draw next ((perm_insertIdx _ _ lt).map _)
  · have grown := usedContents_perm (perm_insertIdx
      (Workspace.new next mon.output) _ lt)
    rwa [usedContents_cons_unused rfl] at grown

lemma addWorkspaceAt_rehouses (added : (mon.addWorkspaceAt idx).run next = some (mon', next')) :
    Rehouses mon next mon' next' [] := by
  obtain ⟨lt, rfl, rfl⟩ := addWorkspaceAt_eq added
  exact grownAt_rehouses lt

lemma insertRestoreWorkspace_spec
    (added : (mon.insertRestoreWorkspace order home homeOrdinal).run next =
      some ((id, mon'), next')) : Rehouses mon next mon' next' [home] ∧
      (mon.Sound → mon'.Sound) := by
  unfold insertRestoreWorkspace at added
  split at added
  · exact claimAt_spec added
  · obtain ⟨grown, last, growing, added⟩ := of_ite added
    obtain ⟨⟨_, _⟩, _, claiming, added⟩ := of_bind added
    obtain ⟨_, _, settling, ret⟩ := of_bind added
    cases ret
    obtain ⟨settles, inv⟩ := settleStrip_spec settling
    have grows : Rehouses mon next grown last [] := by
      split at growing
      · cases growing
        exact .refl _ _
      · exact addWorkspaceAt_rehouses growing
    exact ⟨(grows.trans (claimAt_spec claiming).1).trans settles, fun _ => inv⟩

variable {ws empty : Workspace} {wsIdToActivate : Option WorkspaceId}

lemma settleStrip_mem (settled : (mon.settleStrip order).run next = some (mon', next'))
    (mem : ws ∈ mon.workspaces) (substantial : ws.isSubstantial = true) : ws.id ∈ mon'.ids := by
  obtain ⟨_, _, restored⟩ := of_unwrap settled
  obtain ⟨clean, _, cleans, ret⟩ := of_bind restored
  cases ret
  obtain ⟨_, grew, _⟩ := cleanUpWorkspaces_grew cleans
  have stays : ws ∈ (mon.blocked order).workspaces := by
    refine (mem_filter (p := isSubstantial)).mp ?_ |>.1
    unfold blocked
    rw [dropHostTrailingFiller_substantial]
    exact mem_filter.mpr
      ⟨(sortIntoBlocks_perm order _).mem_iff.mpr mem, substantial⟩
  have ids := Workspace.ignoresOrdinal_id.map_eq grew.cores
  change ws.id ∈ clean.workspaces.map Workspace.id
  rw [ids]
  exact mem_map.mpr ⟨ws, mem_append_left _ stays, rfl⟩

lemma insertRestoreWorkspace_mem
    (added : (mon.insertRestoreWorkspace order home homeOrdinal).run next =
      some ((id, mon'), next')) : id ∈ mon'.ids := by
  have claimed : ∀ {pre post : Monitor} {idx next next' : Nat},
      (pre.claimAt idx home homeOrdinal).run next = some ((id, post), next') →
        ∃ ws ∈ post.workspaces, ws.id = id ∧ ws.isSubstantial = true := by
    intro _ _ _ _ _ claiming
    obtain ⟨ws, got, rfl, _, rfl⟩ := claimAt_eq claiming
    refine ⟨ws.claimFor home homeOrdinal, ?_, rfl, ?_⟩
    · exact mem_set (Vec.lt_length got) _
    · simp [isSubstantial, claimFor]
  unfold insertRestoreWorkspace at added
  split at added
  · obtain ⟨ws, mem, rfl, _⟩ := claimed added
    exact mem_map.mpr ⟨ws, mem, rfl⟩
  · obtain ⟨_, _, _, added⟩ := of_ite added
    obtain ⟨⟨_, _⟩, _, claimingRun, added⟩ := of_bind added
    obtain ⟨_, _, settling, ret⟩ := of_bind added
    cases ret
    obtain ⟨_, mem, rfl, substantial⟩ := claimed claimingRun
    exact settleStrip_mem settling mem substantial

lemma grownAt_id (lt : idx ≤ mon.workspaces.length)
    (got : (mon.grownAt idx next).workspaces[idx]? = some ws) : ws.id = next := by
  have cores : (mon.grownAt idx next).workspaces.map Workspace.core = _ := grownAt_cores idx next
  have has := congrArg (·[idx]?) (Workspace.ignoresOrdinal_id.map_eq cores)
  simpa [got, getElem?_insertIdx_self, lt, Workspace.new] using has

/-- Which workspace a slot gets: in a full strip the last one, whatever it is, else
a new one or one that nobody needs. -/
lemma insertRestoreWorkspace_claims
    (added : (mon.insertRestoreWorkspace order home homeOrdinal).run next =
      some ((id, mon'), next')) : (maxNumWorkspaces ≤ mon.workspaces.length ∧
      ∃ last, mon.workspaces.getLast? = some last ∧ id = last.id ∧ next = next' ∧ mon' = { mon with
          workspaces := mon.workspaces.set (mon.workspaces.length - 1)
            (last.claimFor home homeOrdinal) }) ∨ (mon.workspaces.length < maxNumWorkspaces ∧
      (id = next ∨ ∃ ws ∈ mon.workspaces, ws.id = id ∧ ws.isSubstantial = false) ∧
      mon'.workspaceSwitch = none ∧ mon'.Sound) := by
  unfold insertRestoreWorkspace at added
  split at added
  next full =>
    obtain ⟨last, got, same, rfl, rfl⟩ := claimAt_eq added
    rw [← getLast?_eq_getElem?] at got
    exact .inl ⟨full, last, got, same, rfl, rfl⟩
  next _ =>
    obtain ⟨_, _, growing, added⟩ := of_ite added
    obtain ⟨⟨_, _⟩, _, claiming, added⟩ := of_bind added
    obtain ⟨_, _, settling, ret⟩ := of_bind added
    cases ret
    refine .inr ⟨by omega, ?_, settleStrip_idle settling, (settleStrip_spec settling).2⟩
    obtain ⟨ws, got, rfl, _, _⟩ := claimAt_eq claiming
    split at growing
    next filler =>
      cases growing
      obtain ⟨_, has, unneeded⟩ := (Option.any_eq_true _ _).mp filler
      rw [got] at has
      cases has
      exact .inr ⟨ws, mem_of_getElem? got, rfl, by simpa using unneeded⟩
    · left
      obtain ⟨lt, rfl, rfl⟩ := addWorkspaceAt_eq growing
      exact grownAt_id lt got

lemma claimAt_own (claimed : (mon.claimAt idx (.fromOutput mon.output) ordinal).run next =
      some ((id, mon'), next')) : Rehouses mon next mon' next' [] := by
  obtain ⟨rehouses, _⟩ := claimAt_spec claimed
  refine ⟨rehouses.output, rehouses.windowingMode, rehouses.thumbDrag,
    rehouses.preserves, fun home mem => .inl ?_⟩
  rcases rehouses.homes home mem with old | new
  · exact old
  · cases mem_singleton.mp new
    exact .inl (OutputIdentity.fromOutput_matchesOutput _)

lemma growOwnBlock_spec {rounds : Nat}
    (grown : (growOwnBlock idx rounds mon).run next = some (mon', next')) :
    Rehouses mon next mon' next' [] ∧ (mon.Sound → mon'.Sound) := by
  induction rounds generalizing mon next with
  | zero =>
    cases grown
    exact ⟨.refl _ _, id⟩
  | succ _ ih =>
    unfold growOwnBlock at grown
    split at grown
    · obtain ⟨_, _, adding, grown⟩ := of_bind grown
      obtain ⟨⟨_, _⟩, _, claiming, grown⟩ := of_bind grown
      obtain ⟨rest, restSound⟩ := ih grown
      have shape := (addWorkspaceAt_shifts adding).sound
      exact ⟨((addWorkspaceAt_rehouses adding).trans (claimAt_own claiming)).trans
        rest, fun inv => restSound ((claimAt_spec claiming).2 (shape inv))⟩
    · cases grown
      exact ⟨.refl _ _, id⟩

lemma ensureRestoreWorkspace_spec {id : Option WorkspaceId}
    (ensured : (mon.ensureRestoreWorkspace order idx).run next = some ((id, mon'), next')) :
    Rehouses mon next mon' next' [] ∧ (mon.Sound → mon'.Sound) := by
  obtain ⟨_, _, growing, ensured⟩ := of_bind ensured
  obtain ⟨grows, inv⟩ := growOwnBlock_spec growing
  split at ensured
  · cases ensured
    exact ⟨grows, inv⟩
  · obtain ⟨⟨_, _⟩, _, claiming, ensured⟩ := of_bind ensured
    obtain ⟨_, _, settling, ret⟩ := of_bind ensured
    cases ret
    obtain ⟨settles, settledSound⟩ := settleStrip_spec settling
    exact ⟨(grows.trans (claimAt_own claiming)).trans settles, fun _ => settledSound⟩

lemma setOutput_contents (ws : Workspace) (output : Option Output) :
    (ws.setOutput output).contents = ws.contents := by
  unfold setOutput
  repeat' split
  all_goals rfl

lemma map_setOutput_preserves (workspaces : List Workspace) (output : Option Output) :
    Preserves workspaces next (workspaces.map fun ws => ws.setOutput output) next :=
  .ofMap (by simp [Function.comp_def, setOutput_contents])

lemma homes_map_setOutput (mem : home ∈ (workspaces.map fun ws => ws.setOutput (some output)).map
      Workspace.originalOutput) : home.matchesOutput output = true ∨
      home ∈ workspaces.map Workspace.originalOutput := by
  rw [map_map] at mem
  obtain ⟨ws, here, rfl⟩ := mem_map.mp mem
  rcases ws.setOutput_originalOutput output with same | ⟨_, refreshed⟩
  · right
    rw [Function.comp_apply, same]
    exact mem_map.mpr ⟨ws, here, rfl⟩
  · left
    rw [Function.comp_apply, refreshed]
    exact OutputIdentity.fromOutput_matchesOutput _

lemma intoWorkspaces_preserves (mon : Monitor) (next : Nat) :
    Preserves mon.workspaces next mon.intoWorkspaces next :=
  (Preserves.ofCores (stampedWorkspaces_map ignoresOrdinal_core _ _)).trans
    (map_setOutput_preserves _ _)

lemma intoWorkspaces_homes (mon : Monitor) :
    mon.intoWorkspaces.map Workspace.originalOutput = mon.homes := by
  unfold intoWorkspaces
  rw [map_map]
  have same : Workspace.originalOutput ∘ (fun ws : Workspace => ws.setOutput none) =
      Workspace.originalOutput := by
    funext ws
    exact ws.setOutput_none_originalOutput
  rw [same]
  exact stampedWorkspaces_map ignoresOrdinal_originalOutput _ _

/-- What `appendWorkspaces` puts on the monitor before it cleans up. -/
def withAppended (mon : Monitor) (workspaces : List Workspace)
    (empty : Workspace) : Monitor :=
  let grown := mon.workspaces.dropLast ++
    (workspaces.map fun ws => ws.setOutput (some mon.output)) ++ [empty]
  { mon with
    workspaces := grown
    workspaceSwitch := none
    activeWorkspaceIdx :=
      if mon.activeWorkspaceIdx + 1 = mon.workspaces.length then
        grown.length - 1
      else mon.activeWorkspaceIdx }

lemma appendWorkspaces_cases (appended : (mon.appendWorkspaces workspaces).run next =
      some (mon', next')) : (workspaces = [] ∧ mon' = mon ∧ next' = next) ∨
      ∃ empty, mon.workspaces.getLast? = some empty ∧
        (mon.withAppended workspaces empty).cleanUpWorkspaces.run next = some (mon', next') := by
  unfold appendWorkspaces at appended
  split at appended
  next none =>
    cases appended
    exact .inl ⟨isEmpty_iff.mp none, rfl, rfl⟩
  · obtain ⟨empty, last, clean⟩ := of_unwrap appended
    exact .inr ⟨empty, last, clean⟩

section

variable (last : mon.workspaces.getLast? = some empty)
include last

lemma withAppended_perm : (mon.withAppended workspaces empty).workspaces.Perm (mon.workspaces ++
        workspaces.map fun ws => ws.setOutput (some mon.output)) := by
  have whole := (dropLast_append_getLast? empty last).symm
  conv_rhs => rw [whole, append_assoc]
  unfold withAppended
  rw [append_assoc]
  exact perm_append_comm.append_left _

lemma withAppended_inside (inside : mon.Inside) : (mon.withAppended workspaces empty).Inside := by
  have lengths : (mon.withAppended workspaces empty).workspaces.length = _ :=
    (withAppended_perm last).length_eq
  unfold Inside at *
  rw [lengths]
  simp only [length_append, length_map]
  dsimp only [withAppended]
  split
  · simp only [length_append, length_dropLast, length_map,
      length_singleton]
    omega
  · omega

end

lemma appendWorkspaces_spec (appended : (mon.appendWorkspaces workspaces).run next =
      some (mon', next')) : mon'.output = mon.output ∧ mon'.thumbDrag = mon.thumbDrag ∧
      Preserves (mon.workspaces ++ workspaces) next mon'.workspaces next' ∧
      (∀ home ∈ mon'.homes, mon.KnownHome home ∨ home ∈ workspaces.map Workspace.originalOutput) ∧
      (mon.Inside → mon'.Inside) := by
  rcases appendWorkspaces_cases appended with ⟨rfl, rfl, rfl⟩ | ⟨_, last, clean⟩
  · exact ⟨rfl, rfl, by simpa using Preserves.refl _ _, fun _ mem => .inl (.inr mem), id⟩
  · obtain ⟨_, grew, count⟩ := cleanUpWorkspaces_grew clean
    have rehouses := Rehouses.ofGrewBottom grew
    refine ⟨rehouses.output, rehouses.thumbDrag, ?_, ?_,
      fun inside => (grew.sound count (withAppended_inside last inside)).active⟩
    · exact ((map_setOutput_preserves workspaces _).append_left _).trans
        ((Preserves.ofPerm (withAppended_perm last)).trans rehouses.preserves)
    · intro home mem
      rcases rehouses.homes home mem with known | new
      · rcases known with own | here
        · exact .inl (.inl own)
        · obtain ⟨ws, listed, rfl⟩ := mem_map.mp here
          rcases mem_append.mp ((withAppended_perm last).mem_iff.mp listed)
            with old | came
          · exact .inl (.inr (mem_map.mpr ⟨ws, old, rfl⟩))
          · rcases homes_map_setOutput (mem_map.mpr ⟨ws, came, rfl⟩)
              with own | listed
            · exact .inl (.inl own)
            · exact .inr listed
      · cases new

lemma reclaimFor_perm (mon : Monitor) (output : Output) :
    ((mon.reclaimFor output).1 ++ (mon.reclaimFor output).2.workspaces).Perm mon.workspaces :=
  filter_append_perm _ _

lemma positions_eq_nil {xs : List Workspace} {marked : Workspace → Bool}
    (none : xs.filter marked = []) : Vec.positions xs marked = [] := by
  refine filter_eq_nil_iff.mpr fun idx _ holds => ?_
  cases got : xs[idx]? with
  | none => simp [got] at holds
  | some item =>
    rw [got, Option.any_some] at holds
    exact filter_eq_nil_iff.mp none item (mem_of_getElem? got) holds

lemma reclaimFor_eq_self (nothing : (mon.reclaimFor output).1 = []) :
    (mon.reclaimFor output).2 = mon := by
  have none := nothing
  have positions := positions_eq_nil none
  unfold Vec.positions at positions
  have all : (mon.workspaces.filter fun ws =>
      !ws.originalOutput.matchesOutput output) = mon.workspaces := by
    refine filter_eq_self.mpr fun ws mem => ?_
    have notTheirs := filter_eq_nil_iff.mp none ws mem
    simpa using notTheirs
  dsimp only [reclaimFor]
  rw [positions, all]
  rfl

/-- The display takes every workspace of the strip. -/
abbrev TakesAll (mon : Monitor) (output : Output) : Prop :=
  (mon.reclaimFor output).2.workspaces = []

lemma reclaimFor_inside (inside : mon.Inside) (some : ¬ mon.TakesAll output) :
    (mon.reclaimFor output).2.Inside := by
  unfold Inside
  exact Vec.retreat_lt inside some

lemma padNew_spec {steps : Nat} (enoughSteps : minNumWorkspaces ≤ workspaces.length + steps) :
    Returns (padNew output steps workspaces) next fun padded next' =>
      padded = workspaces ++ fillers output next next' ∧
        next' = next + (minNumWorkspaces - workspaces.length) := by
  induction steps generalizing workspaces next with
  | zero =>
    refine returns_pure ⟨by simp, ?_⟩
    omega
  | succ _ ih =>
    unfold padNew
    split
    next _ =>
      apply returns_bind_of_run (run_fresh next)
      apply returns_mono (ih (by simp; omega))
      rintro padded next' ⟨rfl, count⟩
      simp only [length_append, length_singleton] at count
      refine ⟨?_, by omega⟩
      rw [append_assoc, ← fillers_succ, fillers_append (by omega) (by omega)]
    · refine returns_pure ⟨by simp, ?_⟩
      omega

/-- Where a new display starts out: at the wanted workspace, or at the first. -/
def startIdx (workspaces : List Workspace) (wsIdToActivate : Option WorkspaceId) : Nat :=
  (wsIdToActivate.bind fun id => workspaces.findIdx? fun ws => ws.id == id).getD 0

/-- A new monitor shows the workspaces it is given, then the missing ones. -/
structure Starts (output : Output) (windowingMode : WindowingMode)
    (arrived : List Workspace) (wsIdToActivate : Option WorkspaceId) (next : Nat)
    (mon : Monitor) (next' : Nat) : Prop where
  frame : mon =
    { output
      windowingMode
      workspaces := mon.workspaces
      activeWorkspaceIdx := startIdx arrived wsIdToActivate }
  ahead : next ≤ next'
  cores : mon.workspaces.map Workspace.core =
    (arrived ++ fillers output next next').map Workspace.core
  count : next' = next + missingWorkspaces arrived

private lemma padNew_starts {mode : WindowingMode} {came : List Workspace}
    {later : Nat} (ahead : next ≤ later) (total : later + (minNumWorkspaces -
      (came ++ fillers output next later).length) =
        next + missingWorkspaces came) :
    Returns (padNew output minNumWorkspaces (came ++ fillers output next later) >>=
        fun workspaces => pure (stampHomeOrdinals
          { output
            workspaces
            activeWorkspaceIdx := startIdx came wsIdToActivate
            windowingMode := mode })) later
      (Starts output mode came wsIdToActivate next) := by
  apply returns_bind (padNew_spec (by omega))
  rintro _ _ ⟨rfl, _⟩
  refine returns_pure ⟨rfl, by omega, ?_, by omega⟩
  rw [append_assoc, fillers_append ahead (by omega)]
  exact stampedWorkspaces_map ignoresOrdinal_core output _

lemma new_spec (output : Output) (mode : WindowingMode)
    (workspaces : List Workspace) (wsIdToActivate : Option WorkspaceId) :
    Returns (Monitor.new output mode workspaces wsIdToActivate) next (Starts output mode
        (workspaces.map fun ws => ws.setOutput (some output)) wsIdToActivate next) := by
  dsimp only [Monitor.new]
  generalize (workspaces.map fun ws => ws.setOutput (some output)) = came
  split
  next lacking =>
    apply returns_bind_of_run (run_fresh next)
    rw [FreshM.pure_bind, ← fillers_succ]
    apply padNew_starts (by omega)
    simp [missingWorkspaces, lacking, fillers, freshNumbers]
    omega
  next trailing =>
    rw [FreshM.pure_bind]
    have whole : came = came ++ fillers output next next := by simp
    conv in padNew _ _ _ => rw [whole]
    apply padNew_starts (Nat.le_refl next)
    simp [missingWorkspaces, trailing]

lemma startIdx_lt {more : List Workspace} (some : 0 < (workspaces ++ more).length) :
    startIdx workspaces wsIdToActivate < (workspaces ++ more).length := by
  unfold startIdx
  cases got : wsIdToActivate.bind fun id =>
      workspaces.findIdx? fun ws => ws.id == id with
  | none => exact some
  | some =>
    obtain ⟨_, _, got⟩ := Option.bind_eq_some_iff.mp got
    obtain ⟨_, _⟩ := findIdx?_eq_some_iff_getElem.mp got
    rw [Option.getD_some, length_append]
    omega

namespace Starts

variable {output : Output} {mode : WindowingMode}
  {came : List Workspace} {wsIdToActivate : Option WorkspaceId}

section

variable (starts : Starts output mode came wsIdToActivate next mon next')
include starts

/-- Starting a display is filling up a strip from the bottom. -/
lemma grew : GrewBottom
      { output
        windowingMode := mode
        workspaces := came
        activeWorkspaceIdx := startIdx came wsIdToActivate } next mon next' :=
  ⟨by rw [starts.frame], starts.ahead, starts.cores, fun _ => by rw [starts.frame]⟩

lemma sound : mon.Sound := by
  have enough := starts.grew.enough starts.count
  have positive : 0 < minNumWorkspaces := by decide
  refine ⟨enough, ?_, fun _ => starts.grew.trailing starts.count⟩
  have lengths := congrArg length starts.cores
  simp only [length_map] at lengths
  unfold Inside
  rw [lengths] at enough ⊢
  rw [starts.frame]
  exact startIdx_lt (by omega)

lemma homes : ∀ home ∈ mon.homes, home.matchesOutput output = true ∨
      home ∈ came.map Workspace.originalOutput := by
  intro home mem
  rcases (Rehouses.ofGrewBottom starts.grew).homes home mem with old | new
  · exact old
  · cases new

end

end Starts

end Monitor

end Synoik
