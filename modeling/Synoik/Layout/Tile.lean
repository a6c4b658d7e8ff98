import Synoik.OutputIdentity

/-!
# Windows and tiles

A tile is a window in the layout together with what the layout remembers about
it. Sizes, positions, animations and rendering state are not modelled: nothing
below reads them to decide where a window is.
-/

namespace Synoik

abbrev WindowId := Nat

abbrev WorkspaceId := Nat

inductive WindowingMode where
  | scrolling
  | floating
deriving DecidableEq

inductive SizingMode where
  | normal
  | maximized
  | fullscreen
deriving DecidableEq

inductive TileSide where
  | left
  | right
deriving DecidableEq

inductive ColumnDisplay where
  | normal
  | tabbed
deriving DecidableEq

structure Window where
  id : WindowId
  parent : Option WindowId := none
  pendingSizingMode : SizingMode := .normal
  edgeTiledSide : Option TileSide := none
  columnDisplay : ColumnDisplay := .normal
deriving DecidableEq

/-- A window has at most one parent, the toplevel it was mapped for. -/
def Window.isChildOf (self other : Window) : Bool := self.parent == some other.id

structure Tile where
  window : Window
  isAbove : Bool := false
  isSticky : Bool := false
  stickyHome : Option WorkspaceId := none
  restoreToFloating : Bool := false
  savedMaximize : Bool := false
deriving DecidableEq

namespace Tile

def id (tile : Tile) : WindowId := tile.window.id

/-- A maximized window keeps its always-on-top flag but leaves the band. -/
def staysAbove (tile : Tile) : Bool := tile.isAbove && tile.window.pendingSizingMode != .maximized

def requestSizing (tile : Tile) (mode : SizingMode) : Tile :=
  { tile with window := { tile.window with pendingSizingMode := mode } }

def setEdgeTiled (tile : Tile) (side : Option TileSide) : Tile :=
  { tile with window := { tile.window with edgeTiledSide := side } }

end Tile

/-- Whether the window at the first position is a child of the second one. -/
def isChildAt (tiles : List Tile) (child parent : Nat) : Bool :=
  match tiles[child]?, tiles[parent]? with
  | some child, some parent => child.window.isChildOf parent.window
  | _, _ => false

/-- The first other position whose window is the parent of this one. -/
def parentIdx (tiles : List Tile) (current : Nat) : Option Nat :=
  (List.range tiles.length).find? fun other =>
    other != current && isChildAt tiles current other

/-- Follows the parent links until a flagged tile, at most `steps` tiles far.
Both the always-on-top band and the sticky carry walk the stack this way. -/
def chainReaches (flag : Tile → Bool) (tiles : List Tile) : Nat → Nat → Bool
  | 0, _ => false
  | steps + 1, current =>
    if (tiles[current]?).any flag then
      true
    else
      match parentIdx tiles current with
      | some parent => chainReaches flag tiles steps parent
      | none => false

/-- What taking a tile out of a workspace hands back. -/
structure RemovedTile where
  tile : Tile
  isFloating : Bool

inductive ActivateWindow where
  | yes
  | smart
  | no

/-- Resolves the smart choice by the caller's rule. -/
def ActivateWindow.mapSmart (activate : ActivateWindow) (smart : Bool) : Bool :=
  match activate with
  | .yes => true
  | .smart => smart
  | .no => false

end Synoik
