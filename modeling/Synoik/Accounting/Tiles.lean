import Synoik.Layout.Floating
import Synoik.Layout.Scrolling

/-!
# Which windows the two halves of a workspace hold

Every operation of the floating stack and of the scrolling columns is described
by what it does to the multiset of tile keys. A key is what identifies a
window and decides whether it rides along with a sticky one; sizes and flags of
the layout are not part of it.
-/

namespace Synoik

open List
open Option (bind_eq_bind bind_eq_some_iff)

variable {idx : Nat} {tile : Tile} {activate : Bool} {id : WindowId} {column : Column}

/-- The window, its parent and whether it is sticky. -/
structure TileKey where
  id : WindowId
  parent : Option WindowId
  isSticky : Bool

namespace Tile

def key (tile : Tile) : TileKey :=
  { id := tile.id, parent := tile.window.parent, isSticky := tile.isSticky }

@[simp] lemma key_id (tile : Tile) : tile.key.id = tile.id := rfl

@[simp] lemma key_requestSizing (tile : Tile) (mode : SizingMode) :
    (tile.requestSizing mode).key = tile.key := rfl

@[simp] lemma key_setEdgeTiled (tile : Tile) (side : Option TileSide) :
    (tile.setEdgeTiled side).key = tile.key := rfl

end Tile

def tileKeys (tiles : List Tile) : List TileKey := tiles.map Tile.key

@[simp] lemma tileKeys_nil : tileKeys [] = [] := rfl

@[simp] lemma tileKeys_cons (tile : Tile) (tiles : List Tile) :
    tileKeys (tile :: tiles) = tile.key :: tileKeys tiles := rfl

@[simp] lemma tileKeys_append (left right : List Tile) :
    tileKeys (left ++ right) = tileKeys left ++ tileKeys right :=
  map_append

lemma tileKeys_perm {left right : List Tile} (perm : left.Perm right) :
    (tileKeys left).Perm (tileKeys right) :=
  perm.map _

lemma tileKeys_map {tiles : List Tile} {change : Tile → Tile}
    (keeps : ∀ tile, (change tile).key = tile.key) :
    tileKeys (tiles.map change) = tileKeys tiles := by
  simp [tileKeys, Function.comp_def, keeps]

namespace FloatingSpace

variable {ws space' : FloatingSpace} {fromIdx toIdx : Nat}

lemma moveTile_perm (moved : ws.moveTile fromIdx toIdx = some space') :
    space'.tiles.Perm ws.tiles ∧ space'.activeWindowId = ws.activeWindowId := by
  unfold moveTile at moved
  split at moved
  · cases moved
    exact ⟨.refl _, rfl⟩
  · simp only [bind_eq_bind, bind_eq_some_iff] at moved
    obtain ⟨⟨_, _⟩, gone, _, added, eq⟩ := moved
    cases eq
    exact ⟨(Vec.insertAt_perm added).trans (Vec.removeAt_perm gone).symm, rfl⟩

lemma raiseWindow_perm (raised : ws.raiseWindow fromIdx toIdx = some space') :
    space'.tiles.Perm ws.tiles ∧ space'.activeWindowId = ws.activeWindowId := by
  unfold raiseWindow at raised
  split at raised
  · exact moveTile_perm raised
  · cases raised

variable {mode : WindowingMode} {change : Tile → Tile}

lemma raiseAll_perm {descendants : List Nat}
    (raised : ws.raiseAll descendants idx = some space') :
    space'.tiles.Perm ws.tiles ∧ space'.activeWindowId = ws.activeWindowId := by
  induction descendants generalizing ws idx with
  | nil =>
    cases raised
    exact ⟨.refl _, rfl⟩
  | cons _ _ ih =>
    obtain ⟨_, first, rest⟩ := bind_eq_some_iff.mp raised
    obtain ⟨restPerm, restActive⟩ := ih rest
    obtain ⟨firstPerm, firstActive⟩ := raiseWindow_perm first
    exact ⟨restPerm.trans firstPerm, restActive.trans firstActive⟩

lemma bringUpDescendantsOf_perm (raised : ws.bringUpDescendantsOf idx = some space') :
    space'.tiles.Perm ws.tiles ∧ space'.activeWindowId = ws.activeWindowId :=
  raiseAll_perm raised

@[simp] lemma landedTile_key (mode : WindowingMode) (tile : Tile) :
    (landedTile mode tile).key = tile.key := by
  unfold landedTile
  split <;> try rfl
  split <;> rfl

lemma addTileAt_keys (added : ws.addTileAt mode idx tile activate = some space') :
    (tileKeys space'.tiles).Perm (tile.key :: tileKeys ws.tiles) := by
  obtain ⟨_, inserted, raised⟩ := bind_eq_some_iff.mp added
  have arranged := tileKeys_perm (bringUpDescendantsOf_perm raised).1
  have grown := tileKeys_perm (Vec.insertAt_perm inserted)
  simpa using arranged.trans grown

lemma addTile_keys (added : ws.addTile mode tile activate = some space') :
    (tileKeys space'.tiles).Perm (tile.key :: tileKeys ws.tiles) :=
  addTileAt_keys added

lemma addTileAbove_keys {above : WindowId}
    (added : ws.addTileAbove mode above tile activate = some space') :
    (tileKeys space'.tiles).Perm (tile.key :: tileKeys ws.tiles) := by
  obtain ⟨_, _, added⟩ := bind_eq_some_iff.mp added
  exact addTileAt_keys added

lemma getElem?_of_idxOf (got : ws.idxOf id = some idx) :
    ∃ tile, ws.tiles[idx]? = some tile ∧ tile.id = id := by
  obtain ⟨lt, holds, _⟩ := findIdx?_eq_some_iff_getElem.mp got
  exact ⟨ws.tiles[idx], getElem?_eq_getElem lt, by simpa using holds⟩

variable {gone : RemovedTile}

lemma removeTileByIdx_perm (taken : ws.removeTileByIdx idx = some (gone, space')) :
    ws.tiles.Perm (gone.tile :: space'.tiles) ∧ ws.tiles[idx]? = some gone.tile := by
  obtain ⟨⟨_, _⟩, removedAt, eq⟩ := bind_eq_some_iff.mp taken
  cases eq
  exact ⟨Vec.removeAt_perm removedAt, (Vec.removeAt_eq_some.mp removedAt).1⟩

lemma removeTile_perm (taken : ws.removeTile id = some (gone, space')) :
    ws.tiles.Perm (gone.tile :: space'.tiles) ∧ gone.tile.id = id := by
  obtain ⟨_, got, taken⟩ := bind_eq_some_iff.mp taken
  obtain ⟨perm, atIdx⟩ := removeTileByIdx_perm taken
  obtain ⟨_, here, named⟩ := getElem?_of_idxOf got
  rw [atIdx] at here
  cases here
  exact ⟨perm, named⟩

lemma activateWindow_perm (ran : ws.activateWindow id = some space') :
    space'.tiles.Perm ws.tiles := by
  unfold activateWindow at ran
  split at ran
  · cases ran
    exact .refl _
  · obtain ⟨_, raised, brought⟩ := bind_eq_some_iff.mp ran
    exact (bringUpDescendantsOf_perm brought).1.trans (raiseWindow_perm raised).1

@[simp] lemma activateWindowWithoutRaising_tiles (id : WindowId) :
    (ws.activateWindowWithoutRaising id).tiles = ws.tiles := by
  unfold activateWindowWithoutRaising
  split <;> rfl

lemma updateTile_map {β : Type} {view : Tile → β}
    (keeps : ∀ tile, view (change tile) = view tile) :
    (ws.updateTile id change).tiles.map view = ws.tiles.map view := by
  unfold updateTile
  split
  · rfl
  · exact Vec.map_modify keeps

lemma updateTile_keys (keeps : ∀ tile, (change tile).key = tile.key) :
    tileKeys (ws.updateTile id change).tiles = tileKeys ws.tiles :=
  updateTile_map keeps

lemma resettleBand_perm : ws.resettleBand.tiles.Perm ws.tiles := by
  dsimp only [resettleBand, resettled]
  split
  · -- The sorted positions are all of them, so reading them off gives the stack.
    have sorted := perm_insertionSort
      (fun left right => (!ws.isInAboveBand left) ≤ (!ws.isInAboveBand right))
      (range ws.tiles.length)
    exact (sorted.filterMap _).trans (.of_eq (Vec.filterMap_getElem?_range ws.tiles))
  · exact .refl _

@[simp] lemma restoreNormal_key (tile : Tile) : (restoreNormal tile).key = tile.key := rfl

lemma resettledUpdate_keys (keeps : ∀ tile, (change tile).key = tile.key) :
    (tileKeys (ws.updateTile id change).resettleBand.tiles).Perm (tileKeys ws.tiles) :=
  (tileKeys_perm resettleBand_perm).trans (.of_eq (updateTile_keys keeps))

lemma setMaximized_keys {maximize : Bool} :
    (tileKeys (ws.setMaximized id maximize).tiles).Perm (tileKeys ws.tiles) := by
  unfold setMaximized
  split
  · exact .refl _
  · dsimp only
    split
    · exact .of_eq (updateTile_keys fun _ => rfl)
    · split
      · split
        · exact .of_eq (updateTile_keys fun _ => rfl)
        · exact .refl _
      · split <;> exact resettledUpdate_keys fun _ => rfl

lemma unsetFullscreen_keys : (tileKeys (ws.unsetFullscreen id).tiles).Perm (tileKeys ws.tiles) := by
  unfold unsetFullscreen
  split
  · exact .refl _
  · split
    · split <;> exact resettledUpdate_keys fun _ => rfl
    · exact .refl _

lemma toggleTiled_keys {side : TileSide} :
    tileKeys (ws.toggleTiled id side).tiles = tileKeys ws.tiles := by
  apply updateTile_keys
  intro _
  split <;> rfl

end FloatingSpace

namespace Column

variable {column' : Column}

@[simp] lemma updateTileSizes_keys :
    tileKeys column.updateTileSizes.tiles = tileKeys column.tiles :=
  tileKeys_map fun _ => rfl

@[simp] lemma makeRoom_tiles : column.makeRoom.tiles = column.tiles := by
  unfold makeRoom
  split <;> rfl

lemma addTileAt_keys {idx : Nat} (added : column.addTileAt idx tile = some column') :
    (tileKeys column'.tiles).Perm (tile.key :: tileKeys column.tiles) := by
  dsimp only [addTileAt] at added
  split at added
  next lt =>
    cases added
    have grown := tileKeys_perm (perm_insertIdx tile _ lt)
    simpa using grown
  · cases added

@[simp] lemma setFullscreen_keys {isFullscreen : Bool} :
    tileKeys (column.setFullscreen isFullscreen).tiles = tileKeys column.tiles := by
  unfold setFullscreen
  split
  · rfl
  · exact updateTileSizes_keys

@[simp] lemma setMaximized_keys {maximize : Bool} :
    tileKeys (column.setMaximized maximize).tiles = tileKeys column.tiles := by
  unfold setMaximized
  split
  · rfl
  · exact updateTileSizes_keys

lemma newWithTile_keys : tileKeys (newWithTile tile).tiles = [tile.key] := by
  unfold newWithTile
  split <;> simp

end Column

namespace ScrollingSpace

variable {ws space' : ScrollingSpace}

def columnKeys (columns : List Column) : List TileKey :=
  columns.flatMap fun column => tileKeys column.tiles

lemma tileKeys_tiles : tileKeys ws.tiles = columnKeys ws.columns := by
  simp [tiles, columnKeys, tileKeys, map_flatMap]

lemma columnKeys_perm {left right : List Column} (perm : left.Perm right) :
    (columnKeys left).Perm (columnKeys right) :=
  perm.flatMap_right _

variable {columns : List Column}

lemma columnKeys_set (new : Column) (got : columns[idx]? = some column) :
    (tileKeys column.tiles ++ columnKeys (columns.set idx new)).Perm
      (tileKeys new.tiles ++ columnKeys columns) := by
  have swapped := columnKeys_perm (Vec.set_perm new got)
  simpa [columnKeys] using swapped

lemma flatMap_modify {β : Type} {change : Column → Column}
    {view : Tile → β} (keeps : ∀ column : Column,
      (change column).tiles.map view = column.tiles.map view) :
    ((columns.modify idx change).flatMap Column.tiles).map view =
      (columns.flatMap Column.tiles).map view := by
  rw [map_flatMap, map_flatMap, flatMap_def, flatMap_def, Vec.map_modify keeps]

@[simp] lemma activateColumn_columns : (ws.activateColumn idx).columns = ws.columns := by
  unfold activateColumn
  split <;> rfl

lemma addColumn_keys {idx : Option Nat}
    (added : ws.addColumn idx column activate = some space') :
    (tileKeys space'.tiles).Perm (tileKeys column.tiles ++ tileKeys ws.tiles) := by
  simp only [addColumn, bind_eq_bind, bind_eq_some_iff] at added
  obtain ⟨columns, inserted, eq⟩ := added
  have grown := columnKeys_perm (Vec.insertAt_perm inserted)
  have held : space'.columns = columns := by
    split at eq
    · cases eq
      simp
    · cases eq
      rfl
  rw [tileKeys_tiles, tileKeys_tiles, held]
  simpa [columnKeys] using grown

lemma addTile_keys {colIdx : Option Nat}
    (added : ws.addTile colIdx tile activate = some space') :
    (tileKeys space'.tiles).Perm (tile.key :: tileKeys ws.tiles) := by
  have grown := addColumn_keys added
  rwa [Column.newWithTile_keys] at grown

lemma addTileToColumn_keys {colIdx : Nat} {tileIdx : Option Nat}
    (added : ws.addTileToColumn colIdx tileIdx tile activate = some space') :
    (tileKeys space'.tiles).Perm (tile.key :: tileKeys ws.tiles) := by
  simp only [addTileToColumn, bind_eq_bind, bind_eq_some_iff] at added
  obtain ⟨_, got, grown, addedAt, eq⟩ := added
  have columnGrown := Column.addTileAt_keys addedAt
  rw [tileKeys_tiles, tileKeys_tiles]
  have replaced : ∀ new : Column, new.tiles = grown.tiles →
      (columnKeys (ws.columns.set colIdx new)).Perm
        (tile.key :: columnKeys ws.columns) := by
    intro new sameTiles
    have swapped := columnKeys_set new got
    rw [sameTiles] at swapped
    exact (perm_append_left_iff _).mp ((swapped.trans (columnGrown.append_right _)).trans
        perm_middle.symm)
  cases eq
  split <;> simp only [activateColumn_columns] <;> exact replaced _ rfl

lemma addTileRightOf_keys {rightOf : WindowId}
    (added : ws.addTileRightOf rightOf tile activate = some space') :
    (tileKeys space'.tiles).Perm (tile.key :: tileKeys ws.tiles) := by
  obtain ⟨_, _, added⟩ := bind_eq_some_iff.mp added
  exact addTile_keys added

section

variable (gone : ws.removeColumnByIdx idx = some (column, space'))
include gone

lemma removeColumnByIdx_columns : Vec.removeAt ws.columns idx = some (column, space'.columns) := by
  simp only [removeColumnByIdx, bind_eq_bind, bind_eq_some_iff] at gone
  obtain ⟨⟨_, _⟩, removedAt, eq⟩ := gone
  rw [removedAt]
  split at eq
  · cases eq
    rfl
  · split at eq
    · cases eq
      rfl
    · split at eq
      · split at eq <;> cases eq <;> simp
      · cases eq
        simp

lemma removeColumnByIdx_keys :
    (tileKeys ws.tiles).Perm (tileKeys column.tiles ++ tileKeys space'.tiles) := by
  have shrunk := columnKeys_perm (Vec.removeAt_perm (removeColumnByIdx_columns gone))
  rw [tileKeys_tiles, tileKeys_tiles]
  simpa [columnKeys] using shrunk

end

lemma removeTileByIdx_keys {columnIdx tileIdx : Nat} {gone : RemovedTile}
    (taken : ws.removeTileByIdx columnIdx tileIdx = some (gone, space')) :
    (tileKeys ws.tiles).Perm (gone.tile.key :: tileKeys space'.tiles) ∧
      ∃ column, ws.columns[columnIdx]? = some column ∧ column.tiles[tileIdx]? = some gone.tile := by
  simp only [removeTileByIdx, bind_eq_bind, bind_eq_some_iff] at taken
  obtain ⟨column, got, taken⟩ := taken
  split at taken
  next single =>
    simp only [bind_eq_some_iff] at taken
    obtain ⟨⟨whole, _⟩, columnTaken, ⟨_, rest⟩, tileTaken, eq⟩ := taken
    cases eq
    have wholeIs : whole = column := by
      have atIdx := (Vec.removeAt_eq_some.mp (removeColumnByIdx_columns columnTaken)).1
      rw [got] at atIdx
      exact (Option.some.inj atIdx).symm
    subst wholeIs
    have onlyTile := Vec.removeAt_perm tileTaken
    have restEmpty : rest = [] := by
      have lengths := onlyTile.length_eq
      rw [single] at lengths
      simpa using lengths.symm
    subst restEmpty
    have keys := removeColumnByIdx_keys columnTaken
    have only := tileKeys_perm onlyTile
    refine ⟨keys.trans ?_, whole, got, (Vec.removeAt_eq_some.mp tileTaken).1⟩
    exact only.append_right _
  · simp only [bind_eq_some_iff] at taken
    obtain ⟨_, tileTaken, eq⟩ := taken
    cases eq
    refine ⟨?_, column, got, tileTaken⟩
    have columnShrunk := tileKeys_perm (Vec.removeAt_perm
      (Vec.removeAt_eq_some.mpr ⟨tileTaken, rfl⟩))
    rw [tileKeys_tiles, tileKeys_tiles]
    apply (perm_append_left_iff (tileKeys (column.tiles.eraseIdx tileIdx))).mp
    refine .trans ?_ perm_middle.symm
    refine .trans ?_ (columnShrunk.append_right _)
    refine .trans (.of_eq ?_) (columnKeys_set _ got).symm
    rw [Column.updateTileSizes_keys]

end ScrollingSpace

lemma Column.getElem?_of_position {column : Column} {id : WindowId}
    {idx : Nat} (got : column.position id = some idx) :
    ∃ tile, column.tiles[idx]? = some tile ∧ tile.id = id := by
  obtain ⟨lt, holds, _⟩ := findIdx?_eq_some_iff_getElem.mp got
  exact ⟨column.tiles[idx], getElem?_eq_getElem lt, by simpa using holds⟩

namespace ScrollingSpace

variable {ws space' : ScrollingSpace} {gone : RemovedTile}

lemma removeTile_keys (taken : ws.removeTile id = some (gone, space')) :
    (tileKeys ws.tiles).Perm (gone.tile.key :: tileKeys space'.tiles) ∧ gone.tile.id = id := by
  simp only [removeTile, bind_eq_bind, bind_eq_some_iff] at taken
  obtain ⟨_, _, _, atColumn, _, atTile, taken⟩ := taken
  obtain ⟨perm, _, otherAt, tileAt⟩ := removeTileByIdx_keys taken
  obtain ⟨_, here, named⟩ := Column.getElem?_of_position atTile
  rw [atColumn] at otherAt
  cases otherAt
  rw [here] at tileAt
  cases tileAt
  exact ⟨perm, named⟩

lemma removeActiveTile_keys (taken : ws.removeActiveTile = some (gone, space')) :
    (tileKeys ws.tiles).Perm (gone.tile.key :: tileKeys space'.tiles) := by
  obtain ⟨_, _, taken⟩ := bind_eq_some_iff.mp taken
  exact (removeTileByIdx_keys taken).1

lemma activateWindow_keys : tileKeys (ws.activateWindow id).tiles = tileKeys ws.tiles := by
  unfold activateWindow
  split
  · rfl
  · unfold tiles
    rw [activateColumn_columns]
    exact flatMap_modify fun _ => rfl

variable {β : Type} {view : Tile → β} {change : Column → Column}

lemma updateColumnOf_map
    (keeps : ∀ column : Column, (change column).tiles.map view = column.tiles.map view) :
    (ws.updateColumnOf id change).tiles.map view = ws.tiles.map view := by
  unfold updateColumnOf
  split
  · rfl
  · exact flatMap_modify keeps

lemma updateColumnOf_keys
    (keeps : ∀ column, tileKeys (change column).tiles = tileKeys column.tiles) :
    tileKeys (ws.updateColumnOf id change).tiles = tileKeys ws.tiles :=
  updateColumnOf_map keeps

lemma updateTile_map {change : Tile → Tile}
    (keeps : ∀ tile, view (change tile) = view tile) :
    (ws.updateTile id change).tiles.map view = ws.tiles.map view := by
  apply updateColumnOf_map
  intro _
  split
  · rfl
  · exact Vec.map_modify keeps

end ScrollingSpace

end Synoik
