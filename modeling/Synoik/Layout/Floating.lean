import Synoik.Layout.Tile
import Synoik.Support.Vec
import Mathlib.Data.List.Sort

/-!
# The floating space

Floating tiles are a stack, topmost first. The always-on-top tiles and their
descendants form a band that is kept at the top of it.
-/

namespace Synoik

structure FloatingSpace where
  tiles : List Tile := []
  activeWindowId : Option WindowId := none

namespace FloatingSpace

variable (space : FloatingSpace) (id : WindowId)

def idxOf : Option Nat := space.tiles.findIdx? fun tile => tile.id == id

def hasWindow : Bool := space.tiles.any fun tile => tile.id == id

def activeWindow : Option Window := do
  let id ← space.activeWindowId
  let tile ← space.tiles.find? fun tile => tile.id == id
  return tile.window

variable (idx : Nat)

def isInAboveBand : Bool := chainReaches Tile.staysAbove space.tiles space.tiles.length idx

def bandLen : Nat := ((List.range space.tiles.length).takeWhile space.isInAboveBand).length

def raiseTarget : Nat :=
  if space.isInAboveBand idx then 0 else space.bandLen

/-- What settling makes of the tiles, and of the data that stand beside them. -/
def resettled {α : Type} (items : List α) : List α :=
  let indices := List.range space.tiles.length
  let outOfPlace := indices.any fun idx =>
    !space.isInAboveBand idx && idx + 1 < space.tiles.length && space.isInAboveBand (idx + 1)
  if outOfPlace then
    let order := indices.insertionSort fun left right =>
      (!space.isInAboveBand left) ≤ (!space.isInAboveBand right)
    order.filterMap fun idx => items[idx]?
  else
    items

def resettleBand : FloatingSpace := { space with tiles := space.resettled space.tiles }

def moveTile (fromIdx toIdx : Nat) : Option FloatingSpace :=
  if fromIdx = toIdx then
    some space
  else do
    let (tile, tiles) ← Vec.removeAt space.tiles fromIdx
    let tiles ← Vec.insertAt tiles toIdx tile
    return { space with tiles }

def raiseWindow (fromIdx toIdx : Nat) : Option FloatingSpace :=
  if toIdx ≤ fromIdx then space.moveTile fromIdx toIdx else none

/-- The positions below `idx` whose windows descend from the one at `idx`, in
stack order. The source walks the stack from the bottom. -/
def descendantsOf (tiles : List Tile) (idx : Nat) : List Nat :=
  (List.range' (idx + 1) (tiles.length - (idx + 1))).foldr
    (fun below descendants =>
      if isChildAt tiles below idx || descendants.any (isChildAt tiles below) then
        below :: descendants
      else
        descendants)
    []

/-- Raises the listed positions to `idx`, `idx + 1`, … one after another. -/
def raiseAll (space : FloatingSpace) : List Nat → Nat → Option FloatingSpace
  | [], _ => some space
  | descendant :: descendants, idx => do
      let space ← space.raiseWindow descendant idx
      space.raiseAll descendants (idx + 1)

def bringUpDescendantsOf : Option FloatingSpace :=
  space.raiseAll (descendantsOf space.tiles idx) idx

/-- The topmost position above `idx` that holds the new window's parent. -/
def belowNoParent (tiles : List Tile) (idx : Nat) (window : Window) : Nat :=
  ((tiles.take idx).findIdx? fun above =>
    window.isChildOf above.window).getD idx

variable (mode : WindowingMode)

/-- The sizing a tile keeps when it lands in the floating space: fullscreen and
maximized survive in GNOME mode only, and an edge-tiled window is placed again
without a new size request. -/
def landedTile (tile : Tile) : Tile :=
  match tile.window.pendingSizingMode, mode with
  | .fullscreen, .floating => tile
  | .maximized, .floating => tile
  | _, _ =>
    if tile.window.edgeTiledSide.isSome then tile
    else tile.requestSizing .normal

def addTileAt (idx : Nat) (tile : Tile) (activate : Bool) : Option FloatingSpace := do
  let tile := landedTile mode tile
  let activeWindowId :=
    if activate || space.tiles.isEmpty then some tile.id
    else space.activeWindowId
  let idx := belowNoParent space.tiles idx tile.window
  let tiles ← Vec.insertAt space.tiles idx tile
  bringUpDescendantsOf { tiles, activeWindowId } idx

def addTile (tile : Tile) (activate : Bool) : Option FloatingSpace :=
  let idx :=
    if !activate && mode == .floating then
      match space.activeWindowId.bind space.idxOf with
      | some activeIdx => activeIdx + 1
      | none => 0
    else
      0
  let idx := if tile.staysAbove then idx else max idx space.bandLen
  space.addTileAt mode idx tile activate

def addTileAbove (above : WindowId) (tile : Tile) (activate : Bool) : Option FloatingSpace := do
  let idx ← space.idxOf above
  space.addTileAt mode idx tile activate

def removeTileByIdx : Option (RemovedTile × FloatingSpace) := do
  let (tile, tiles) ← Vec.removeAt space.tiles idx
  let activeWindowId :=
    if some tile.id = space.activeWindowId ∨ tiles = [] then
      tiles.head?.map Tile.id
    else
      space.activeWindowId
  return ({ tile, isFloating := true }, { tiles, activeWindowId })

def removeTile : Option (RemovedTile × FloatingSpace) := do
  let idx ← space.idxOf id
  space.removeTileByIdx idx

def activateWindowWithoutRaising : FloatingSpace :=
  if space.hasWindow id then { space with activeWindowId := some id } else space

def activateWindow : Option FloatingSpace :=
  match space.idxOf id with
  | none => some space
  | some idx => do
      let target := space.raiseTarget idx
      let space ← space.raiseWindow idx target
      bringUpDescendantsOf { space with activeWindowId := some id } target

def updateTile (change : Tile → Tile) : FloatingSpace :=
  match space.idxOf id with
  | none => space
  | some idx => { space with tiles := space.tiles.modify idx change }

def restoreNormal (tile : Tile) : Tile :=
  { (tile.setEdgeTiled none).requestSizing .normal with savedMaximize := false }

def setMaximized (maximize : Bool) : FloatingSpace :=
  match space.tiles.find? fun tile => tile.id == id with
  | none => space
  | some tile =>
    let mode := tile.window.pendingSizingMode
    if mode = .fullscreen then
      space.updateTile id fun tile => { tile with savedMaximize := maximize }
    else if (mode == .maximized) = maximize then
      if !maximize && tile.window.edgeTiledSide.isSome then
        space.updateTile id restoreNormal
      else
        space
    else if maximize then
      (space.updateTile id fun tile =>
        (tile.setEdgeTiled none).requestSizing .maximized).resettleBand
    else
      (space.updateTile id restoreNormal).resettleBand

/-- Leaves fullscreen, for the maximized state it was entered from or for the
saved rectangle. -/
def unsetFullscreen : FloatingSpace :=
  match space.tiles.find? fun tile => tile.id == id with
  | none => space
  | some tile =>
    if tile.window.pendingSizingMode = .fullscreen then
      if tile.savedMaximize then
        (space.updateTile id fun tile =>
          { tile.requestSizing .maximized with
            savedMaximize := false }).resettleBand
      else
        (space.updateTile id restoreNormal).resettleBand
    else
      space

/-- Tiles the window to a side of the work area, or back from it. -/
def toggleTiled (side : TileSide) : FloatingSpace :=
  space.updateTile id fun tile =>
    if tile.window.edgeTiledSide = some side then restoreNormal tile
    else
      { (tile.requestSizing .normal).setEdgeTiled (some side) with
        savedMaximize := false }

end FloatingSpace

end Synoik
