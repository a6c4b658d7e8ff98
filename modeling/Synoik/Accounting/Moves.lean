import Synoik.Accounting.Monitors

/-!
# Switching and moving on one monitor

Every way to switch spaces, to move a win or a column to another
workspace and to reorder the strip keeps the windows of the monitor and the
shape of its strip. The sticky carry, which runs inside a switch, is one of
these moves repeated.
-/

namespace Synoik

open List Workspace

open FreshM

namespace Workspace

variable {ws ws' : Workspace}

lemma hasWindowsOrName_iff : ws.hasWindowsOrName = true ↔ ws.keys ≠ [] ∨ ws.name.isSome = true := by
  rw [hasWindowsOrName, Bool.or_eq_true, hasWindows_iff]

lemma hasWindowsOrName_of_fewer (name : ws'.name = ws.name) (fewer : ws'.keys.Subperm ws.keys) :
    ws'.hasWindowsOrName = true → ws.hasWindowsOrName = true := by
  rw [hasWindowsOrName_iff, hasWindowsOrName_iff, name]
  rintro (windows | named)
  · left
    intro empty
    rw [empty] at fewer
    exact windows (subperm_nil.mp fewer)
  · exact .inr named

end Workspace

namespace Monitor

variable {mon mon' mon'' : Monitor} {next next' next'' : Nat}

variable {idx : Nat} {change : Workspace → Option Workspace} {ws new : Workspace}
  {tile : Tile} {dest : MonitorAddWindowTarget} {activate : ActivateWindow}
  {isFloating : Bool} {win : Option WindowId} {gone : RemovedTile}

lemma updateWorkspace_eq (ran : (mon.updateWorkspace idx change).run next = some (mon', next')) :
    ∃ ws new, mon.workspaces[idx]? = some ws ∧ change ws = some new ∧
      mon' = { mon with workspaces := mon.workspaces.set idx new } ∧ next = next' := by
  obtain ⟨_, computed, ret⟩ := of_unwrap ran
  obtain ⟨ws, new, got, made, rfl⟩ := Vec.updateAt_eq_some.mp computed
  cases ret
  exact ⟨ws, new, got, made, rfl, rfl⟩

lemma Alters.ofLabel (got : mon.workspaces[idx]? = some ws) (label : new.label = ws.label) :
    Alters mon next { mon with workspaces := mon.workspaces.set idx new } next := by
  have home : new.originalOutput = ws.originalOutput := congrArg WorkspaceLabel.originalOutput label
  refine .ofSet got (congrArg WorkspaceLabel.id label)
    (.inl (congrArg WorkspaceLabel.name label)) (.inr ?_)
  rw [home]
  exact mem_map.mpr ⟨ws, mem_of_getElem? got, rfl⟩

lemma Inside.set (inside : mon.Inside) :
    { mon with workspaces := mon.workspaces.set idx new }.Inside := by
  simpa [Inside] using inside

lemma Sound.set (inv : mon.Sound) (got : mon.workspaces[idx]? = some ws)
    (fewer : new.hasWindowsOrName = true → ws.hasWindowsOrName = true) :
    { mon with workspaces := mon.workspaces.set idx new }.Sound :=
  ⟨by simpa using inv.enough, inv.active.set,
    fun idle => lacksTrailingEmpty_set got fewer (inv.trailing idle)⟩

lemma set_shifts (got : mon.workspaces[idx]? = some ws) (same : ws.SameWindows new) :
    Shifts mon next { mon with workspaces := mon.workspaces.set idx new } next where
  toAlters := .ofLabel got same.label
  keys := flatMap_set_gains got same.keys
  inside := Inside.set
  sound := fun inv => inv.set got
    (hasWindowsOrName_of_fewer (congrArg WorkspaceLabel.name same.label)
      same.keys.subperm)

lemma updateWorkspace_shifts (same : ∀ ws new, change ws = some new → ws.SameWindows new) :
    Shifting mon (mon.updateWorkspace idx change) := by
  intro _ _ _ ran
  obtain ⟨ws, new, got, made, rfl, rfl⟩ := updateWorkspace_eq ran
  exact set_shifts got (same ws new made)

lemma adoptUnlessNamed_cases (mon : Monitor) (ws : Workspace) : mon.adoptUnlessNamed ws = ws ∨
      mon.adoptUnlessNamed ws = { ws with originalOutput := .fromOutput mon.output } := by
  unfold adoptUnlessNamed Workspace.adoptHome
  split
  · split
    · exact .inr rfl
    · exact .inl rfl
  · exact .inl rfl

@[simp] lemma adoptUnlessNamed_keys (mon : Monitor) (ws : Workspace) :
    (mon.adoptUnlessNamed ws).keys = ws.keys := by
  rcases mon.adoptUnlessNamed_cases ws with same | adopted
  · rw [same]
  · rw [adopted]
    rfl

variable {gained lost : List TileKey} {left : Workspace} {newId : WorkspaceId}
  {windows : List WindowId} {allowToActivateWorkspace : Bool} {newIdx : Nat}

lemma Alters.ofGains {filled : Workspace} (got : mon.workspaces[idx]? = some ws)
    (gains : ws.Gains filled gained) : Alters mon next { mon with
        workspaces := mon.workspaces.set idx (mon.adoptUnlessNamed filled) } next := by
  rcases mon.adoptUnlessNamed_cases filled with same | adopted
  · rw [same]
    exact .ofLabel got gains.label
  · rw [adopted]
    exact .ofSet got (congrArg WorkspaceLabel.id gains.label)
      (.inl (congrArg WorkspaceLabel.name gains.label))
      (.inl (OutputIdentity.fromOutput_matchesOutput _))

lemma grownBottom_sound (enough : minNumWorkspaces ≤ mon.workspaces.length)
    (inside : mon.Inside) : (mon.grownAt mon.workspaces.length next).Sound where
  enough := by
    rw [grownAt_length le_rfl]
    omega
  active := grownAt_inside le_rfl inside
  trailing := by
    intro _
    rw [lacksTrailingEmpty_congr (grownBottom_cores next)]
    exact lacksTrailingEmpty_append_new _ _ _

lemma fillWorkspace_receives
    (gains : ∀ ws filled, change ws = some filled → ws.Gains filled gained)
    (filled : (mon.fillWorkspace idx change).run next = some (mon', next')) :
    Receives mon next mon' next' gained := by
  obtain ⟨_, _, ran, grown⟩ := of_bind filled
  obtain ⟨ws, _, got, made, rfl, rfl⟩ := updateWorkspace_eq ran
  obtain ⟨new, computed, rfl⟩ := Option.map_eq_some_iff.mp made
  have gain := gains ws new computed
  have keys : ((mon.workspaces.set idx (mon.adoptUnlessNamed new)).flatMap
      Workspace.keys).Perm (gained ++ mon.keys) :=
    flatMap_set_gains got (by simpa using gain.keys)
  split at grown
  · rw [run_addWorkspaceBottom] at grown
    cases grown
    refine ⟨(Alters.ofGains got gain).trans (grownAt_alters le_rfl),
      (grownAt_keys le_rfl next).trans keys,
      fun inside => grownAt_inside le_rfl inside.set, fun inv => ?_⟩
    exact grownBottom_sound (by simpa using inv.enough) inv.active.set
  next notLast =>
    cases grown
    refine ⟨.ofGains got gain, keys, Inside.set, fun inv => ?_⟩
    exact ⟨by simpa using inv.enough, inv.active.set,
      fun idle => lacksTrailingEmpty_set_of_ne _ (by simpa using notLast)
        (inv.trailing idle)⟩

lemma placeTile_receives (placed : (mon.placeTile tile dest activate isFloating).run next =
      some ((idx, mon'), next')) : Receives mon next mon' next' [tile.key] := by
  obtain ⟨⟨_, _⟩, _, placed⟩ := of_unwrap placed
  obtain ⟨_, _, grown, ret⟩ := of_bind placed
  cases ret
  exact fillWorkspace_receives (fun _ _ added => addTile_gains added)
    grown

/-- A window leaves the monitor, which keeps its shape. -/
structure GivesUp (mon mon' : Monitor) (lost : List TileKey) : Prop where
  alters : ∀ next, Alters mon next mon' next
  keys : mon.keys.Perm (lost ++ mon'.keys)
  inside : mon.Inside → mon'.Inside
  sound : mon.Sound → mon'.Sound

lemma GivesUp.shifts (out : GivesUp mon mon' lost) (back : Receives mon' next mon'' next'' lost) :
    Shifts mon next mon'' next'' :=
  ⟨(out.alters next).trans back.toAlters, back.keys.trans out.keys.symm,
    back.inside ∘ out.inside, back.sound ∘ out.sound⟩

lemma set_givesUp (got : mon.workspaces[idx]? = some ws)
    (label : left.label = ws.label) (loses : ws.keys.Perm (lost ++ left.keys)) : GivesUp mon
      { mon with workspaces := mon.workspaces.set idx left } lost where
  alters := fun _ => .ofLabel got label
  keys := flatMap_set_loses got loses
  inside := Inside.set
  sound := by
    intro inv
    refine inv.set got (hasWindowsOrName_of_fewer
      (congrArg WorkspaceLabel.name label) ?_)
    exact (sublist_append_right lost left.keys).subperm.trans
      loses.symm.subperm

/-- The named window, or the focused one, taken off a workspace. -/
def takenFrom (ws : Workspace) : Option WindowId → Option (RemovedTile × Workspace)
  | some window => ws.removeTile window
  | none => ws.removeActiveTile

lemma takenFrom_keys (taken : takenFrom ws win = some (gone, left)) :
    left.label = ws.label ∧ ws.keys.Perm (gone.tile.key :: left.keys) := by
  cases win with
  | some =>
    obtain ⟨label, loses, _⟩ := Workspace.removeTile_keys taken
    exact ⟨label, loses⟩
  | none =>
    have loses := removeActiveTile_loses taken
    exact ⟨loses.label.symm, loses.keys⟩

lemma takeForMove_cases {outcome : Option (RemovedTile × WorkspaceId × Monitor)}
    (run : (mon.takeForMove win idx).run next = some (outcome, next')) :
    next = next' ∧ (outcome = none ∨ ∃ src ws id gone left, mon.workspaces[src]? = some ws ∧
        takenFrom ws win = some (gone, left) ∧ outcome = some (gone, id,
          { mon with workspaces := mon.workspaces.set src left })) := by
  obtain ⟨src, _, run⟩ := of_unwrap run
  dsimp only at run
  split at run
  · cases run
    exact ⟨rfl, .inl rfl⟩
  · obtain ⟨dest, _, run⟩ := of_unwrap run
    obtain ⟨ws, got, run⟩ := of_unwrap run
    cases win with
    | some =>
      obtain ⟨⟨gone, left⟩, out, run⟩ := of_unwrap run
      cases run
      exact ⟨rfl, .inr ⟨src, ws, dest.id, gone, left, got, out, rfl⟩⟩
    | none =>
      cases out : ws.removeActiveTile with
      | none =>
        rw [out] at run
        cases run
        exact ⟨rfl, .inl rfl⟩
      | some taken =>
        rw [out] at run
        cases run
        exact ⟨rfl, .inr ⟨src, ws, dest.id, taken.1, taken.2, got, out, rfl⟩⟩

lemma takeForMove_givesUp
    (taken : (mon.takeForMove win idx).run next = some (some (gone, newId, mon'), next')) :
    GivesUp mon mon' [gone.tile.key] ∧ next = next' := by
  obtain ⟨same, nothing | ⟨_, _, _, _, _, got, out, eq⟩⟩ := takeForMove_cases taken
  · cases nothing
  · cases eq
    obtain ⟨label, loses⟩ := takenFrom_keys out
    exact ⟨set_givesUp got label loses, same⟩

lemma cleanUpIfIdle_length (clean : mon.cleanUpIfIdle.run next = some (mon', next')) :
    mon.workspaces.length ≤ mon'.workspaces.length := by
  unfold cleanUpIfIdle at clean
  split at clean
  · obtain ⟨_, grew, _⟩ := cleanUpWorkspaces_grew clean
    have cores := congrArg length grew.cores
    simp at cores
    omega
  · cases clean
    exact le_rfl

lemma moveToWorkspaceQuietly_shifts {win : WindowId} :
    Shifting mon (mon.moveToWorkspaceQuietly win idx) := by
  intro _ _ _ moved
  obtain ⟨_, _, taken, moved⟩ := of_bind moved
  split at moved
  · obtain ⟨rfl, _⟩ := takeForMove_cases taken
    cases moved
    exact .refl _ _
  · obtain ⟨out, rfl⟩ := takeForMove_givesUp taken
    obtain ⟨⟨_, _⟩, _, placing, clean⟩ := of_bind moved
    exact (out.shifts (placeTile_receives placing)).trans
      (cleanUpIfIdle_shifts clean)

lemma carryAll_shifts {dest : WorkspaceId} : Shifting mon (carryAll dest windows mon) := by
  induction windows generalizing mon with
  | nil => exact .pure
  | cons _ _ ih =>
    unfold carryAll
    split
    · exact .pure
    · intro _ _ _ held
      obtain ⟨_, _, moved, rest⟩ := of_bind held
      exact (moveToWorkspaceQuietly_shifts moved).trans (ih rest)

lemma placeTile_length (placed : (mon.placeTile tile dest activate isFloating).run next =
      some ((idx, mon'), next')) : mon.workspaces.length ≤ mon'.workspaces.length := by
  obtain ⟨⟨_, _⟩, _, placed⟩ := of_unwrap placed
  obtain ⟨_, _, filled, ret⟩ := of_bind placed
  cases ret
  obtain ⟨_, _, ran, grown⟩ := of_bind filled
  obtain ⟨_, _, _, _, rfl, rfl⟩ := updateWorkspace_eq ran
  split at grown
  · rw [run_addWorkspaceBottom] at grown
    cases grown
    rw [grownAt_length le_rfl]
    simp
  · cases grown
    simp

lemma moveToWorkspaceQuietly_length {win : WindowId}
    (moved : (mon.moveToWorkspaceQuietly win idx).run next = some (mon', next')) :
    mon.workspaces.length ≤ mon'.workspaces.length := by
  obtain ⟨_, _, taken, moved⟩ := of_bind moved
  obtain ⟨_, rfl | ⟨_, _, _, _, _, _, _, rfl⟩⟩ := takeForMove_cases taken
  · cases moved
    exact le_rfl
  · obtain ⟨⟨_, _⟩, _, placing, clean⟩ := of_bind moved
    have placed := placeTile_length placing
    rw [length_set] at placed
    exact placed.trans (cleanUpIfIdle_length clean)

lemma carryAll_length {dest : WorkspaceId}
    (held : (carryAll dest windows mon).run next = some (mon', next')) :
    mon.workspaces.length ≤ mon'.workspaces.length := by
  induction windows generalizing mon next with
  | nil =>
    cases held
    exact le_rfl
  | cons _ _ ih =>
    unfold carryAll at held
    split at held
    · cases held
      exact le_rfl
    · obtain ⟨_, _, moved, rest⟩ := of_bind held
      exact (moveToWorkspaceQuietly_length moved).trans (ih rest)

lemma carryStickyTo_eq {dest : WorkspaceId} {focused : Option WindowId}
    (held : (mon.carryStickyTo dest).run next = some ((focused, mon'), next')) :
    (carryAll dest (mon.carriedTo dest) mon).run next = some (mon', next') := by
  obtain ⟨_, _, held⟩ := of_unwrap held
  obtain ⟨_, _, moved, ret⟩ := of_bind held
  cases ret
  exact moved

lemma keepFocusOn_shifts : Shifting mon (mon.keepFocusOn win idx) := by
  cases win with
  | none => exact .pure
  | some =>
    apply updateWorkspace_shifts
    intro _ _ ran
    obtain ⟨⟨_, _⟩, made, rfl⟩ := Option.map_eq_some_iff.mp ran
    exact activateWindow_sameWindows made

lemma setActive_shifts (inside : idx < mon.workspaces.length) :
    Shifting mon (mon.setActive idx) := by
  intro _ _ _ switched
  obtain ⟨_, _, ret⟩ := of_unwrap switched
  cases ret
  exact .ofSameStrip rfl rfl rfl rfl (fun _ => inside) id

lemma switchAfter_cases (mon : Monitor) (previous idx : Nat) :
    mon.switchAfter previous idx = mon ∨ ∃ switch, mon.switchAfter previous idx =
        { mon with workspaceSwitch := some switch } := by
  unfold switchAfter
  split
  · exact .inr ⟨_, rfl⟩
  · split
    · exact .inl rfl
    · exact .inr ⟨_, rfl⟩

lemma switching_shifts (switch : WorkspaceSwitch) :
    Shifts mon next { mon with workspaceSwitch := some switch } next :=
  .ofSameStrip rfl rfl rfl rfl id (fun idle => nomatch idle)

lemma switchAfter_shifts (previous idx : Nat) :
    Shifts mon next (mon.switchAfter previous idx) next := by
  rcases mon.switchAfter_cases previous idx with same | ⟨switch, new⟩
  · rw [same]
    exact .refl _ _
  · rw [new]
    exact switching_shifts switch

lemma positionOf_eq_some {id : WorkspaceId} (got : mon.positionOf id = some idx) :
    ∃ ws, mon.workspaces[idx]? = some ws := by
  obtain ⟨lt, _⟩ := findIdx?_eq_some_iff_getElem.mp got
  exact ⟨mon.workspaces[idx], getElem?_eq_getElem lt⟩

lemma activateWorkspace_shifts : Shifting mon (mon.activateWorkspace idx) := by
  intro _ _ _ ran
  unfold activateWorkspace at ran
  split at ran
  · cases ran
    exact switchAfter_shifts _ _
  · obtain ⟨_, _, ran⟩ := of_unwrap ran
    obtain ⟨⟨_, _⟩, _, held, ran⟩ := of_bind ran
    apply (carryAll_shifts (carryStickyTo_eq held)).trans
    dsimp only at ran
    split at ran
    · cases ran
      exact .refl _ _
    next idx got =>
      obtain ⟨_, here⟩ := positionOf_eq_some got
      have inside := Vec.lt_length here
      obtain ⟨_, _, switched, ran⟩ := of_bind ran
      obtain ⟨_, _, kept, ret⟩ := of_bind ran
      cases ret
      exact ((setActive_shifts inside switched).trans
        (keepFocusOn_shifts kept)).trans (switchAfter_shifts _ _)

lemma switchWorkspacePrevious_shifts : Shifting mon mon.switchWorkspacePrevious := by
  unfold switchWorkspacePrevious
  split
  · exact activateWorkspace_shifts
  · exact .pure

lemma switchWorkspaceAutoBackAndForth_shifts :
    Shifting mon (mon.switchWorkspaceAutoBackAndForth idx) := by
  unfold switchWorkspaceAutoBackAndForth
  split
  · exact switchWorkspacePrevious_shifts
  · exact activateWorkspace_shifts

lemma addTile_receives (added : (mon.addTile tile dest activate allowToActivateWorkspace
      isFloating).run next = some (mon', next')) : Receives mon next mon' next' [tile.key] := by
  obtain ⟨⟨_, _⟩, _, placing, added⟩ := of_bind added
  apply (placeTile_receives placing).shift
  dsimp only at added
  split at added
  · exact activateWorkspace_shifts added
  · cases added
    exact .refl _ _

lemma addColumn_receives {column : Column} {activate : Bool}
    (added : (mon.addColumn idx column activate).run next = some (mon', next')) :
    Receives mon next mon' next' (tileKeys column.tiles) := by
  obtain ⟨_, _, filling, added⟩ := of_bind added
  refine (fillWorkspace_receives (fun _ _ grown =>
    addColumn_gains grown) filling).shift ?_
  split at added
  · exact activateWorkspace_shifts added
  · cases added
    exact .refl _ _

lemma addTileToColumn_receives {workspaceIdx columnIdx : Nat} {tileIdx : Option Nat}
    {activate : Bool} (added : (mon.addTileToColumn workspaceIdx columnIdx tileIdx tile activate
      allowToActivateWorkspace).run next = some (mon', next')) :
    Receives mon next mon' next' [tile.key] := by
  obtain ⟨filled, _, ran, added⟩ := of_bind added
  obtain ⟨_, _, got, made, rfl, rfl⟩ := updateWorkspace_eq ran
  obtain ⟨new, computed, rfl⟩ := Option.map_eq_some_iff.mp made
  have gain := addTileToColumn_gains computed
  have filled : Receives mon next
      { mon with workspaces := mon.workspaces.set workspaceIdx (mon.adoptUnlessNamed new) }
      next [tile.key] := by
    refine ⟨.ofGains got gain, flatMap_set_gains got (by simpa using gain.keys), Inside.set, ?_⟩
    intro inv
    refine inv.set got fun _ => ?_
    rw [Workspace.hasWindowsOrName, hasWindows_of_addTileToColumn computed]
    rfl
  apply filled.shift
  split at added
  · exact activateWorkspace_shifts added
  · cases added
    exact .refl _ _

lemma moveToWorkspace_shifts : Shifting mon (mon.moveToWorkspace win idx activate) := by
  intro _ _ _ moved
  obtain ⟨_, _, taken, moved⟩ := of_bind moved
  split at moved
  · obtain ⟨rfl, _⟩ := takeForMove_cases taken
    cases moved
    exact .refl _ _
  · obtain ⟨out, rfl⟩ := takeForMove_givesUp taken
    obtain ⟨_, _, placing, clean⟩ := of_bind moved
    exact (out.shifts (addTile_receives placing)).trans
      (cleanUpIfIdle_shifts clean)

lemma moveToNeighbour_shifts {focus : Bool} : Shifting mon (mon.moveToNeighbour newIdx focus) := by
  unfold moveToNeighbour
  split
  · exact .pure
  · intro _ _ _ moved
    obtain ⟨_, _, taken, moved⟩ := of_bind moved
    split at moved
    · obtain ⟨rfl, _⟩ := takeForMove_cases taken
      cases moved
      exact .refl _ _
    · obtain ⟨out, rfl⟩ := takeForMove_givesUp taken
      exact out.shifts (addTile_receives moved)

lemma moveColumnWith_shifts {activate : Bool} {floating : FreshM Monitor}
    (otherwise : Shifting mon floating) :
    Shifting mon (mon.moveColumnWith newIdx activate floating) := by
  unfold moveColumnWith
  split
  · exact .pure
  · intro _ _ _ moved
    obtain ⟨_, got, moved⟩ := of_unwrap moved
    split at moved
    · exact otherwise moved
    · split at moved
      · cases moved
        exact .refl _ _
      next _ left taken =>
        have loses := removeActiveColumn_loses taken
        have out := set_givesUp got loses.label.symm loses.keys
        exact out.shifts (addColumn_receives moved)

end Monitor

end Synoik
