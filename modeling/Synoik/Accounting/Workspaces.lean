import Synoik.Accounting.Tiles
import Synoik.Layout.Workspace

/-!
# What an operation does to one workspace

A workspace is described by its label (everything but its windows) and by the
keys of the windows it lays out and of those it has minimized. Most operations
keep the label and only gain or lose laid out windows; losing is gaining read
backwards.
-/

namespace Synoik

open List ScrollingSpace FloatingSpace
open Option (bind_eq_bind bind_eq_some_iff)

/-- What a workspace is, apart from the windows on it. -/
structure WorkspaceLabel where
  id : WorkspaceId
  name : Option String
  originalOutput : OutputIdentity
  homeOrdinal : Nat
  claimed : Bool
  output : Option Output

namespace Workspace

variable {ws ws' ws'' : Workspace}

def label (ws : Workspace) : WorkspaceLabel :=
  { id := ws.id
    name := ws.name
    originalOutput := ws.originalOutput
    homeOrdinal := ws.homeOrdinal
    claimed := ws.claimed
    output := ws.output }

def laidKeys (ws : Workspace) : List TileKey := tileKeys (ws.scrolling.tiles ++ ws.floating.tiles)

def parkedKeys (ws : Workspace) : List TileKey := ws.minimized.map fun parked => parked.tile.key

def keys (ws : Workspace) : List TileKey := tileKeys ws.tiles

lemma keys_eq (ws : Workspace) : ws.keys = ws.laidKeys ++ ws.parkedKeys := by
  simp [keys, tiles, laidKeys, parkedKeys, tileKeys, Function.comp_def]

variable {id : WindowId} {mode : WindowingMode} {tile : Tile} {activate : Bool}
  {gone : RemovedTile}

lemma holdsWindow_iff : ws.holdsWindow id = true ↔ id ∈ ws.keys.map TileKey.id := by
  simp [holdsWindow, keys, tileKeys]

lemma hasWindows_iff : ws.hasWindows = true ↔ ws.keys ≠ [] := by
  simp [hasWindows, keys, tileKeys]

lemma keys_of_windowless (bare : ws.hasWindows = false) : ws.keys = [] := by
  by_contra windows
  rw [hasWindows_iff.mpr windows] at bare
  cases bare

lemma keys_of_unused (idle : ws.hasWindowsOrName = false) : ws.keys = [] :=
  keys_of_windowless (Bool.or_eq_false_iff.mp idle).1

/-- The workspace keeps its label and its minimized windows and lays out these
windows more. -/
structure Gains (ws ws' : Workspace) (gained : List TileKey) : Prop where
  label : ws'.label = ws.label
  laid : ws'.laidKeys.Perm (gained ++ ws.laidKeys)
  minimized : ws'.minimized = ws.minimized

namespace Gains

lemma refl (ws : Workspace) : Gains ws ws [] := ⟨rfl, .refl _, rfl⟩

/-- What was lost and then gained back elsewhere in the workspace cancels. -/
lemma exchange {lost : List TileKey} (out : Gains ws' ws lost)
    (back : Gains ws' ws'' lost) : Gains ws ws'' [] where
  label := back.label.trans out.label.symm
  laid := back.laid.trans out.laid.symm
  minimized := back.minimized.trans out.minimized.symm

variable {gained : List TileKey}

lemma parkedKeys (gains : Gains ws ws' gained) : ws'.parkedKeys = ws.parkedKeys := by
  rw [Workspace.parkedKeys, Workspace.parkedKeys, gains.minimized]

lemma keys (gains : Gains ws ws' gained) : ws'.keys.Perm (gained ++ ws.keys) := by
  rw [keys_eq, keys_eq, gains.parkedKeys, ← append_assoc]
  exact gains.laid.append_right _

end Gains

/-- The workspace keeps its label and its windows, laid out or minimized. -/
structure SameWindows (ws ws' : Workspace) : Prop where
  label : ws'.label = ws.label
  keys : ws'.keys.Perm ws.keys

lemma SameWindows.refl (ws : Workspace) : SameWindows ws ws := ⟨rfl, .refl _⟩

lemma SameWindows.trans (one : SameWindows ws ws')
    (two : SameWindows ws' ws'') : SameWindows ws ws'' :=
  ⟨two.label.trans one.label, two.keys.trans one.keys⟩

lemma Gains.sameWindows (gains : Gains ws ws' []) : SameWindows ws ws' := ⟨gains.label, gains.keys⟩

variable {gained : List TileKey} {colIdx : Nat} {tileIdx : Option Nat} {column : Column}
  {had : Bool} {change : Tile → Tile}

lemma Gains.ofFloating (label : ws'.label = ws.label) (scrolling : ws'.scrolling = ws.scrolling)
    (minimized : ws'.minimized = ws.minimized)
    (grown : (tileKeys ws'.floating.tiles).Perm (gained ++ tileKeys ws.floating.tiles)) :
    Gains ws ws' gained where
  label := label
  laid := by
    simp only [laidKeys, tileKeys_append, scrolling]
    apply (grown.append_left _).trans
    rw [← append_assoc, ← append_assoc]
    exact perm_append_comm.append_right _
  minimized := minimized

lemma Gains.ofScrolling (label : ws'.label = ws.label) (floating : ws'.floating = ws.floating)
    (minimized : ws'.minimized = ws.minimized)
    (grown : (tileKeys ws'.scrolling.tiles).Perm (gained ++ tileKeys ws.scrolling.tiles)) :
    Gains ws ws' gained where
  label := label
  laid := by
    simp only [laidKeys, tileKeys_append, floating]
    rw [← append_assoc]
    exact grown.append_right _
  minimized := minimized

lemma addFloating_gains {takesFocus : Bool}
    (added : ws.addFloating mode tile activate takesFocus = some ws') :
    Gains ws ws' [tile.key] := by
  obtain ⟨_, grown, eq⟩ := bind_eq_some_iff.mp added
  cases eq
  exact .ofFloating rfl rfl rfl (FloatingSpace.addTile_keys grown)

lemma addScrolling_gains {colIdx : Option Nat}
    (added : ws.addScrolling colIdx tile activate = some ws') : Gains ws ws' [tile.key] := by
  obtain ⟨_, grown, eq⟩ := bind_eq_some_iff.mp added
  cases eq
  exact .ofScrolling rfl rfl rfl (ScrollingSpace.addTile_keys grown)

lemma addTile_gains {dest : WorkspaceAddWindowTarget} {activate : ActivateWindow}
    {isFloating : Bool} (added : ws.addTile mode tile dest activate isFloating = some ws') :
    Gains ws ws' [tile.key] := by
  -- The flag the workspace sets on the tile is no part of its key.
  have keyed : ∀ {restoreToFloating : Bool}, Gains ws ws' [{ tile with restoreToFloating }.key] →
        Gains ws ws' [tile.key] := fun gains => gains
  dsimp only [addTile] at added
  split at added
  · split at added
    · exact keyed (addFloating_gains added)
    · exact keyed (addScrolling_gains added)
  · split at added
    · exact keyed (addFloating_gains added)
    · exact keyed (addScrolling_gains added)
  · split at added
    · split at added
      · obtain ⟨_, grown, eq⟩ := bind_eq_some_iff.mp added
        cases eq
        exact keyed (.ofFloating rfl rfl rfl (addTileAbove_keys grown))
      · exact keyed (addFloating_gains added)
    · split at added
      · exact keyed (addScrolling_gains added)
      · obtain ⟨_, grown, eq⟩ := bind_eq_some_iff.mp added
        cases eq
        exact keyed (.ofScrolling rfl rfl rfl (addTileRightOf_keys grown))

section

variable (added : ws.addTileToColumn colIdx tileIdx tile activate = some ws')
include added

lemma addTileToColumn_gains : Gains ws ws' [tile.key] := by
  obtain ⟨_, grown, eq⟩ := bind_eq_some_iff.mp added
  cases eq
  exact .ofScrolling rfl rfl rfl (addTileToColumn_keys grown)

lemma hasWindows_of_addTileToColumn : ws.hasWindows = true := by
  simp only [addTileToColumn, ScrollingSpace.addTileToColumn,
    bind_eq_bind, bind_eq_some_iff] at added
  obtain ⟨_, ⟨column, got, _⟩, _⟩ := added
  obtain ⟨one, _, holds⟩ := exists_cons_of_ne_nil column.nonempty
  have here : one ∈ ws.tiles := by
    refine mem_append_left _ (mem_append_left _ ?_)
    exact mem_flatMap.mpr ⟨column, mem_of_getElem? got, by simp [holds]⟩
  unfold hasWindows
  cases tiles : ws.tiles with
  | nil => simp [tiles] at here
  | cons => rfl

end

lemma addColumn_gains (added : ws.addColumn column activate = some ws') :
    Gains ws ws' (tileKeys column.tiles) := by
  obtain ⟨_, grown, eq⟩ := bind_eq_some_iff.mp added
  cases eq
  exact .ofScrolling rfl rfl rfl (addColumn_keys grown)

lemma updateFocusAfterRemoving_gains (fromFloating : Bool) :
    Gains ws (ws.updateFocusAfterRemoving fromFloating) [] := by
  unfold updateFocusAfterRemoving
  split <;> split <;> exact ⟨rfl, .refl _, rfl⟩

private lemma loses_of_floating {floating : FloatingSpace}
    (shrunk : ws.floating.tiles.Perm (gone.tile :: floating.tiles)) :
    Gains ({ ws with floating }.updateFocusAfterRemoving true) ws [gone.tile.key] := by
  have refocused : Gains { ws with floating }
      ({ ws with floating }.updateFocusAfterRemoving true) [] := updateFocusAfterRemoving_gains true
  have back : Gains { ws with floating } ws [gone.tile.key] :=
    .ofFloating rfl rfl rfl (tileKeys_perm shrunk)
  exact ⟨back.label.trans refocused.label.symm,
    back.laid.trans (refocused.laid.symm.append_left [gone.tile.key]),
    back.minimized.trans refocused.minimized.symm⟩

private lemma loses_of_scrolling {scrolling : ScrollingSpace} {lost : List TileKey}
    (shrunk : (tileKeys ws.scrolling.tiles).Perm (lost ++ tileKeys scrolling.tiles)) :
    Gains ({ ws with scrolling }.updateFocusAfterRemoving false) ws lost := by
  have refocused : Gains { ws with scrolling }
      ({ ws with scrolling }.updateFocusAfterRemoving false) [] :=
    updateFocusAfterRemoving_gains false
  have back : Gains { ws with scrolling } ws lost := .ofScrolling rfl rfl rfl shrunk
  exact ⟨back.label.trans refocused.label.symm,
    back.laid.trans (refocused.laid.symm.append_left lost),
    back.minimized.trans refocused.minimized.symm⟩

lemma findIdx?_minimized_eq_none :
    (ws.minimized.findIdx? fun parked => parked.tile.id == id) = none ↔
      ws.isMinimized id = false := by
  simp [isMinimized]

lemma removeTile_loses (laidOut : ws.isMinimized id = false)
    (taken : ws.removeTile id = some (gone, ws')) :
    Gains ws' ws [gone.tile.key] ∧ gone.tile.id = id := by
  unfold removeTile at taken
  rw [findIdx?_minimized_eq_none.mpr laidOut] at taken
  dsimp only at taken
  split at taken
  · obtain ⟨⟨_, _⟩, shrunk, eq⟩ := bind_eq_some_iff.mp taken
    cases eq
    obtain ⟨perm, named⟩ := removeTile_perm shrunk
    exact ⟨loses_of_floating perm, named⟩
  · obtain ⟨⟨_, _⟩, shrunk, eq⟩ := bind_eq_some_iff.mp taken
    cases eq
    obtain ⟨perm, named⟩ := ScrollingSpace.removeTile_keys shrunk
    exact ⟨loses_of_scrolling perm, named⟩
  all_goals cases taken

lemma removeTile_keys (taken : ws.removeTile id = some (gone, ws')) :
    ws'.label = ws.label ∧ ws.keys.Perm (gone.tile.key :: ws'.keys) ∧ gone.tile.id = id := by
  cases minimized : ws.isMinimized id with
  | false =>
    obtain ⟨loses, named⟩ := removeTile_loses minimized taken
    exact ⟨loses.label.symm, loses.keys, named⟩
  | true =>
    unfold removeTile at taken
    cases got : ws.minimized.findIdx? fun parked => parked.tile.id == id with
    | none =>
      rw [findIdx?_minimized_eq_none.mp got] at minimized
      cases minimized
    | some =>
      rw [got] at taken
      obtain ⟨⟨parked, _⟩, removedAt, eq⟩ := bind_eq_some_iff.mp taken
      cases eq
      obtain ⟨lt, holds, _⟩ := findIdx?_eq_some_iff_getElem.mp got
      have atIdx := (Vec.removeAt_eq_some.mp removedAt).1
      rw [getElem?_eq_getElem lt] at atIdx
      cases atIdx
      refine ⟨rfl, ?_, by simpa using holds⟩
      have shrunk := (Vec.removeAt_perm removedAt).map fun parked : RemovedTile => parked.tile.key
      rw [keys_eq, keys_eq]
      exact (shrunk.append_left _).trans perm_middle

lemma removeActiveTile_loses (taken : ws.removeActiveTile = some (gone, ws')) :
    Gains ws' ws [gone.tile.key] := by
  unfold removeActiveTile at taken
  split at taken
  · simp only [bind_eq_bind, bind_eq_some_iff] at taken
    obtain ⟨_, _, ⟨_, _⟩, shrunk, eq⟩ := taken
    cases eq
    exact loses_of_floating (removeTile_perm shrunk).1
  · obtain ⟨⟨_, _⟩, shrunk, eq⟩ := bind_eq_some_iff.mp taken
    cases eq
    exact loses_of_scrolling (removeActiveTile_keys shrunk)

lemma removeActiveColumn_loses (taken : ws.removeActiveColumn = some (column, ws')) :
    Gains ws' ws (tileKeys column.tiles) := by
  unfold removeActiveColumn at taken
  split at taken
  · cases taken
  · obtain ⟨⟨_, _⟩, shrunk, eq⟩ := bind_eq_some_iff.mp taken
    cases eq
    exact loses_of_scrolling (removeColumnByIdx_keys shrunk)

lemma minimize_sameWindows (minimized : ws.minimize id = some ws') : SameWindows ws ws' := by
  unfold minimize at minimized
  split at minimized
  · cases minimized
    exact .refl _
  · obtain ⟨⟨_, mid⟩, taken, eq⟩ := bind_eq_some_iff.mp minimized
    cases eq
    obtain ⟨sameLabel, keys, _⟩ := removeTile_keys taken
    refine ⟨sameLabel, ?_⟩
    refine .trans ?_ keys.symm
    rw [keys_eq, keys_eq mid]
    simp only [laidKeys, parkedKeys, map_append, map_cons, map_nil]
    rw [← append_assoc]
    exact perm_append_singleton _ _

lemma unminimize_sameWindows {activate : ActivateWindow}
    (restored : ws.unminimize mode id activate = some ws') : SameWindows ws ws' := by
  unfold unminimize at restored
  split at restored
  · cases restored
    exact .refl _
  · obtain ⟨⟨gone, minimized⟩, removedAt, added⟩ := bind_eq_some_iff.mp restored
    have gains := addTile_gains added
    refine ⟨gains.label, gains.keys.trans ?_⟩
    have shrunk := (Vec.removeAt_perm removedAt).map fun parked : RemovedTile => parked.tile.key
    have mid : (gone.tile.key :: (ws.laidKeys ++
        minimized.map fun parked => parked.tile.key)).Perm
        (ws.laidKeys ++ (gone :: minimized).map fun parked => parked.tile.key) :=
      perm_middle.symm
    rw [keys_eq, keys_eq ws]
    exact mid.trans (shrunk.symm.append_left _)

lemma activateWindow_sameWindows (ran : ws.activateWindow mode id = some (had, ws')) :
    SameWindows ws ws' := by
  obtain ⟨_, restored, ran⟩ := bind_eq_some_iff.mp ran
  refine (unminimize_sameWindows restored).trans (Gains.sameWindows ?_)
  split at ran
  · obtain ⟨_, raised, eq⟩ := bind_eq_some_iff.mp ran
    cases eq
    exact .ofFloating rfl rfl rfl (tileKeys_perm (activateWindow_perm raised))
  · split at ran
    · cases ran
      exact .ofScrolling rfl rfl rfl (.of_eq activateWindow_keys)
    · cases ran
      exact .refl _

lemma activateWindowWithoutRaising_sameWindows
    (ran : ws.activateWindowWithoutRaising mode id = some (had, ws')) : SameWindows ws ws' := by
  obtain ⟨_, restored, ran⟩ := bind_eq_some_iff.mp ran
  refine (unminimize_sameWindows restored).trans (Gains.sameWindows ?_)
  split at ran
  · cases ran
    exact .ofFloating rfl rfl rfl (.of_eq (by simp))
  · split at ran
    · cases ran
      exact .ofScrolling rfl rfl rfl (.of_eq activateWindow_keys)
    · cases ran
      exact .refl _

lemma toggleWindowFloating_gains {id : Option WindowId}
    (ran : ws.toggleWindowFloating mode id = some ws') : Gains ws ws' [] := by
  unfold toggleWindowFloating at ran
  split at ran
  · cases ran
    exact .refl _
  · dsimp only at ran
    split at ran
    · cases ran
      exact .refl _
    · split at ran
      · cases ran
        exact .refl _
      · split at ran
        · obtain ⟨⟨gone, floating⟩, taken, added⟩ := bind_eq_some_iff.mp ran
          have shrunk := (removeTile_perm taken).1
          have out : Gains { ws with floating } ws [gone.tile.key] :=
            .ofFloating rfl rfl rfl (tileKeys_perm shrunk)
          exact out.exchange (addScrolling_gains added)
        · obtain ⟨⟨gone, scrolling⟩, taken, added⟩ := bind_eq_some_iff.mp ran
          have shrunk := (ScrollingSpace.removeTile_keys taken).1
          have out : Gains { ws with scrolling } ws [gone.tile.key] :=
            .ofScrolling rfl rfl rfl shrunk
          exact out.exchange (addFloating_gains added)

lemma setWindowFloating_gains {id : Option WindowId} {floating : Bool}
    (ran : ws.setWindowFloating mode id floating = some ws') : Gains ws ws' [] := by
  dsimp only [setWindowFloating] at ran
  split at ran
  · split at ran
    · cases ran
      exact .refl _
    · exact toggleWindowFloating_gains ran
  · split at ran
    · exact toggleWindowFloating_gains ran
    · cases ran
      exact .refl _
  all_goals
    cases ran
    exact .refl _

lemma unsetFullscreen_gains (ran : ws.unsetFullscreen mode id = some ws') : Gains ws ws' [] := by
  unfold unsetFullscreen at ran
  split at ran
  · cases ran
    exact .ofFloating rfl rfl rfl unsetFullscreen_keys
  · split at ran
    · simp only [bind_eq_bind, bind_eq_some_iff] at ran
      obtain ⟨_, _, _, _, ran⟩ := ran
      split at ran
      · exact toggleWindowFloating_gains ran
      · cases ran
        exact .ofScrolling rfl rfl rfl (.of_eq (updateColumnOf_keys
          fun _ => Column.setFullscreen_keys))
    · cases ran
      exact .refl _

lemma unsetMaximized_gains (ran : ws.unsetMaximized mode id = some ws') : Gains ws ws' [] := by
  unfold unsetMaximized at ran
  split at ran
  · cases ran
    exact .ofFloating rfl rfl rfl FloatingSpace.setMaximized_keys
  · split at ran
    · cases ran
      refine .ofFloating rfl rfl rfl (.of_eq (updateTile_keys fun tile => ?_))
      split <;> rfl
    · obtain ⟨_, _, ran⟩ := bind_eq_some_iff.mp ran
      split at ran
      · exact toggleWindowFloating_gains ran
      · cases ran
        exact .ofScrolling rfl rfl rfl (.of_eq (updateColumnOf_keys
          fun _ => Column.setMaximized_keys))
    all_goals
      cases ran
      exact .refl _

lemma updateTile_map {β : Type} {view : Tile → β}
    (keeps : ∀ tile, view (change tile) = view tile) :
    (ws.updateTile id change).tiles.map view = ws.tiles.map view := by
  unfold updateTile tiles
  split
  · simp [ScrollingSpace.updateTile_map keeps]
  · split
    · simp [FloatingSpace.updateTile_map keeps]
    · split
      · rfl
      · simp only [map_append, map_map]
        congr 1
        exact Vec.map_modify fun parked => keeps parked.tile

lemma updateTile_label : (ws.updateTile id change).label = ws.label := by
  unfold updateTile
  split
  · rfl
  · split
    · rfl
    · split <;> rfl

lemma setSticky_ids {sticky : Bool} : (ws.setSticky id sticky).2.label = ws.label ∧
      (ws.setSticky id sticky).2.keys.map TileKey.id = ws.keys.map TileKey.id := by
  unfold setSticky
  split
  · exact ⟨rfl, rfl⟩
  · split
    · exact ⟨rfl, rfl⟩
    · refine ⟨updateTile_label, ?_⟩
      simp only [keys, tileKeys, map_map]
      exact updateTile_map fun _ => rfl

end Workspace

end Synoik
