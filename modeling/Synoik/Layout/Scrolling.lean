import Synoik.Layout.Tile
import Synoik.Support.Vec

/-!
# The scrolling space

Tiles stand in columns, columns side by side. A column is never empty: it goes
with its last tile. The view offset and every other
coordinate are left out; what remains of the offset to come back to after a
removal is whether there is one.
-/

namespace Synoik

structure Column where
  tiles : List Tile
  nonempty : tiles ≠ []
  activeTileIdx : Nat := 0
  isPendingMaximized : Bool := false
  isPendingFullscreen : Bool := false
  displayMode : ColumnDisplay := .normal

namespace Column

variable (column : Column)

def contains (window : WindowId) : Bool := column.tiles.any fun tile => tile.id == window

def position (window : WindowId) : Option Nat := column.tiles.findIdx? fun tile => tile.id == window

def pendingSizingMode : SizingMode :=
  if column.isPendingFullscreen then .fullscreen
  else if column.isPendingMaximized then .maximized
  else .normal

def updateTileSizes : Column :=
  { column with
    tiles := column.tiles.map (Tile.requestSizing · column.pendingSizingMode)
    nonempty := by simpa using column.nonempty }

/-- Tiles that share a column's height cannot stay fullscreen or maximized. -/
def makeRoom : Column :=
  if column.displayMode = .tabbed then column
  else { column with isPendingFullscreen := false, isPendingMaximized := false }

def addTileAt (idx : Nat) (tile : Tile) : Option Column :=
  let column := column.makeRoom
  if idx ≤ column.tiles.length then
    some (updateTileSizes
      { column with
        tiles := column.tiles.insertIdx idx tile
        nonempty := Vec.insertIdx_ne_nil column.nonempty })
  else
    none

def setFullscreen (isFullscreen : Bool) : Column :=
  if column.isPendingFullscreen = isFullscreen then column
  else { column with isPendingFullscreen := isFullscreen }.updateTileSizes

def setMaximized (maximize : Bool) : Column :=
  if column.isPendingMaximized = maximize then column
  else { column with isPendingMaximized := maximize }.updateTileSizes

/-- A column made for one tile takes over its sizing. -/
def newWithTile (tile : Tile) : Column :=
  let column := updateTileSizes
    { tiles := [tile]
      nonempty := List.cons_ne_nil _ _
      displayMode := tile.window.columnDisplay }
  match tile.window.pendingSizingMode with
  | .normal => column
  | .maximized => column.setMaximized true
  | .fullscreen => column.setFullscreen true

end Column

structure ScrollingSpace where
  columns : List Column := []
  activeColumnIdx : Nat := 0
  activatePrevColumnOnRemoval : Bool := false

namespace ScrollingSpace

def tiles (space : ScrollingSpace) : List Tile := space.columns.flatMap Column.tiles

variable (space : ScrollingSpace)

def hasWindow (id : WindowId) : Bool := space.columns.any fun column => column.contains id

def columnOf (id : WindowId) : Option Nat := space.columns.findIdx? fun column => column.contains id

def activeWindow : Option Window := do
  let column ← space.columns[space.activeColumnIdx]?
  let tile ← column.tiles[column.activeTileIdx]?
  return tile.window

def activateColumn (idx : Nat) : ScrollingSpace :=
  if space.activeColumnIdx = idx then space
  else
    { space with
      activeColumnIdx := idx
      activatePrevColumnOnRemoval := false }

def addColumn (idx : Option Nat) (column : Column) (activate : Bool) : Option ScrollingSpace := do
  let wasEmpty := space.columns.isEmpty
  let idx := idx.getD (if wasEmpty then 0 else space.activeColumnIdx + 1)
  let columns ← Vec.insertAt space.columns idx column
  let activeColumnIdx :=
    if !wasEmpty && idx ≤ space.activeColumnIdx then space.activeColumnIdx + 1
    else space.activeColumnIdx
  let space := { space with columns, activeColumnIdx }
  if activate then
    return { space.activateColumn idx with
      activatePrevColumnOnRemoval := !wasEmpty && idx == activeColumnIdx + 1 }
  else
    return space

def addTile (colIdx : Option Nat) (tile : Tile) (activate : Bool) : Option ScrollingSpace :=
  space.addColumn colIdx (Column.newWithTile tile) activate

def addTileToColumn (colIdx : Nat) (tileIdx : Option Nat) (tile : Tile)
    (activate : Bool) : Option ScrollingSpace := do
  let column ← space.columns[colIdx]?
  let tileIdx := tileIdx.getD column.tiles.length
  let grown ← column.addTileAt tileIdx tile
  let shifted :=
    if tileIdx ≤ column.activeTileIdx then column.activeTileIdx + 1
    else column.activeTileIdx
  let grown :=
    { grown with activeTileIdx := if activate then tileIdx else shifted }
  let space := { space with columns := space.columns.set colIdx grown }
  return if activate then space.activateColumn colIdx else space

def addTileRightOf (rightOf : WindowId) (tile : Tile) (activate : Bool) :
    Option ScrollingSpace := do
  let rightOfIdx ← space.columnOf rightOf
  space.addTile (some (rightOfIdx + 1)) tile activate

def removeColumnByIdx (columnIdx : Nat) : Option (Column × ScrollingSpace) := do
  let (column, columns) ← Vec.removeAt space.columns columnIdx
  let space :=
    { space with
      columns
      activatePrevColumnOnRemoval :=
        space.activatePrevColumnOnRemoval && columnIdx + 1 != space.activeColumnIdx }
  if columns.isEmpty then
    return (column, space)
  else if columnIdx < space.activeColumnIdx then
    return (column,
      { space with
        activeColumnIdx := space.activeColumnIdx - 1
        activatePrevColumnOnRemoval := false })
  else if columnIdx = space.activeColumnIdx ∧
      space.activatePrevColumnOnRemoval then
    if 0 < columnIdx then
      return (column, space.activateColumn (space.activeColumnIdx - 1))
    else
      return (column, space)
  else
    return (column, space.activateColumn (min space.activeColumnIdx (columns.length - 1)))

def removeTileByIdx (columnIdx tileIdx : Nat) : Option (RemovedTile × ScrollingSpace) := do
  let column ← space.columns[columnIdx]?
  if single : column.tiles.length = 1 then
    let (column, space) ← space.removeColumnByIdx columnIdx
    let (tile, _) ← Vec.removeAt column.tiles tileIdx
    return ({ tile, isFloating := false }, space)
  else
    let tile ← column.tiles[tileIdx]?
    let tiles := column.tiles.eraseIdx tileIdx
    let activeTileIdx :=
      if tileIdx < column.activeTileIdx then
        column.activeTileIdx - 1
      else if tileIdx = column.activeTileIdx ∧ tileIdx = tiles.length then
        tileIdx - 1
      else
        column.activeTileIdx
    let column := Column.updateTileSizes
      { column with
        tiles
        nonempty := Vec.eraseIdx_ne_nil column.nonempty single
        activeTileIdx }
    return ({ tile, isFloating := false },
      { space with columns := space.columns.set columnIdx column })

def removeActiveTile : Option (RemovedTile × ScrollingSpace) := do
  let column ← space.columns[space.activeColumnIdx]?
  space.removeTileByIdx space.activeColumnIdx column.activeTileIdx

variable (window : WindowId)

def removeTile : Option (RemovedTile × ScrollingSpace) := do
  let columnIdx ← space.columnOf window
  let column ← space.columns[columnIdx]?
  let tileIdx ← column.position window
  space.removeTileByIdx columnIdx tileIdx

def removeActiveColumn : Option (Column × ScrollingSpace) :=
  space.removeColumnByIdx space.activeColumnIdx

def activateWindow : ScrollingSpace :=
  match space.columnOf window with
  | none => space
  | some columnIdx =>
    let columns := space.columns.modify columnIdx fun column =>
    { column with
      activeTileIdx := (column.position window).getD column.activeTileIdx }
    { space with columns }.activateColumn columnIdx

/-- Applies a change to the column that holds the window. -/
def updateColumnOf (change : Column → Column) : ScrollingSpace :=
  match space.columnOf window with
  | none => space
  | some columnIdx =>
    { space with columns := space.columns.modify columnIdx change }

def updateTile (change : Tile → Tile) : ScrollingSpace :=
  space.updateColumnOf window fun column =>
    match column.position window with
    | none => column
    | some idx =>
      { column with
        tiles := column.tiles.modify idx change
        nonempty := by simpa using column.nonempty }

def isActivePendingFullscreen : Bool :=
  (space.columns[space.activeColumnIdx]?).any fun column =>
    column.pendingSizingMode == .fullscreen

end ScrollingSpace

end Synoik
