import Synoik.Layout.Floating

/-!
# Raising, lowering and always-on-top

The operations on the floating stack that change only its order. Where windows
are on the screen is not modelled: whether two of them overlap is a parameter of
the one operation that asks.
-/

namespace Synoik

namespace FloatingSpace

variable (space : FloatingSpace)

def removeActiveTile : Option (Option RemovedTile × FloatingSpace) :=
  match space.activeWindowId with
  | none => some (none, space)
  | some id => do
      let (removed, space) ← space.removeTile id
      return (some removed, space)

variable (id : WindowId)

def raiseWindowOnly : Option FloatingSpace :=
  match space.idxOf id with
  | none => some space
  | some idx => do
      let target := space.raiseTarget idx
      let space ← space.raiseWindow idx target
      space.bringUpDescendantsOf target

def setAbove (above : Bool) : Option FloatingSpace :=
  match space.idxOf id with
  | none => some space
  | some idx =>
    if (space.tiles[idx]?).any fun tile => tile.isAbove == above then
      some space
    else
      let tiles := space.tiles.modify idx fun tile => { tile with isAbove := above }
      { space with tiles }.resettleBand.raiseWindowOnly id

/-- The lowest position of the band the tile at `idx` is in. -/
def bottomOfBand (idx : Nat) : Nat :=
  if space.isInAboveBand idx then space.bandLen - 1 else space.tiles.length - 1

def lowerWindow : Option FloatingSpace :=
  match space.idxOf id with
  | none => some space
  | some idx => do
      let bottom := space.bottomOfBand idx
      let space ← space.moveTile idx bottom
      space.bringUpDescendantsOf bottom

/-- Whether a tile of its own band lies over the tile at `idx` and overlaps it on
the screen. -/
def isCovered (overlaps : WindowId → WindowId → Bool) (idx : Nat) : Bool :=
  (List.range idx).any fun above =>
    space.isInAboveBand above == space.isInAboveBand idx &&
      match space.tiles[above]?, space.tiles[idx]? with
      | some above, some tile => overlaps above.id tile.id
      | _, _ => false

def raiseOrLower (overlaps : WindowId → WindowId → Bool) (id : WindowId) : Option FloatingSpace :=
  match space.idxOf id with
  | none => some space
  | some idx =>
    if idx = 0 then space.lowerWindow id
    else if space.isCovered overlaps idx then space.raiseWindowOnly id
    else space.lowerWindow id

/-- The band is settled again on every frame: a tile can enter or leave it
through a path that never touches the stack. -/
def advanceAnimations : FloatingSpace := space.resettleBand

def descendantsAdded : Option FloatingSpace :=
  match space.idxOf id with
  | none => some space
  | some idx => space.bringUpDescendantsOf idx

end FloatingSpace

inductive StackOp where
  | addTile (mode : WindowingMode) (tile : Tile) (activate : Bool)
  | addTileAbove (mode : WindowingMode) (above : WindowId) (tile : Tile)
      (activate : Bool)
  | removeTile (id : WindowId)
  | removeActiveTile
  | activateWindow (id : WindowId)
  | activateWindowWithoutRaising (id : WindowId)
  | raiseWindowOnly (id : WindowId)
  | lowerWindow (id : WindowId)
  | raiseOrLower (overlaps : WindowId → WindowId → Bool) (id : WindowId)
  | setAbove (id : WindowId) (above : Bool)
  | setMaximized (id : WindowId) (maximize : Bool)
  | descendantsAdded (id : WindowId)
  | advanceAnimations

namespace StackOp

def apply (space : FloatingSpace) : StackOp → Option FloatingSpace
  | addTile mode tile activate => space.addTile mode tile activate
  | addTileAbove mode above tile activate =>
    space.addTileAbove mode above tile activate
  | removeTile id => (space.removeTile id).map Prod.snd
  | removeActiveTile => space.removeActiveTile.map Prod.snd
  | activateWindow id => space.activateWindow id
  | activateWindowWithoutRaising id => some (space.activateWindowWithoutRaising id)
  | raiseWindowOnly id => space.raiseWindowOnly id
  | lowerWindow id => space.lowerWindow id
  | raiseOrLower overlaps id => space.raiseOrLower overlaps id
  | setAbove id above => space.setAbove id above
  | setMaximized id maximize => some (space.setMaximized id maximize)
  | descendantsAdded id => space.descendantsAdded id
  | advanceAnimations => some space.advanceAnimations

end StackOp

end Synoik
