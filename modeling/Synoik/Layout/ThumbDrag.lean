import Synoik.Layout.Monitor

/-!
# Dragging a workspace thumbnail

While the strip is on screen a thumbnail can be dragged along it, and across to
another display's strip. The drag remembers the workspace it picked up by its
position in the list. Where the strip puts its thumbnails is a parameter: for
each display nothing while no strip is shown, and otherwise a rectangle for
each position of a row of any length.
-/

namespace Synoik

open FreshM

/-- The horizontal extent of a thumbnail. -/
structure ThumbRect where
  x : ℚ
  width : ℚ

/-- What each display shows as a strip: the rectangle of position `idx` in a
row of `count` thumbnails. -/
abbrev StripGeometry := Output → Option (Nat → Nat → ThumbRect)

/-- How many thumbnails the dragged one has passed; aborts when the drag's
position is not in the strip. -/
def thumbDragTarget (strip : List ThumbRect) (drag : ThumbDrag) : Option Nat := do
  let dragged ← strip[drag.origin]?
  let center := drag.pos - drag.grabOffset + dragged.width / 2
  return ((List.range strip.length).filter fun idx =>
    idx != drag.origin && (strip[idx]?).any fun rect =>
      if idx < drag.origin then decide (rect.x + rect.width ≤ center)
      else decide (rect.x < center)).length

namespace Monitor

variable (monitor : Monitor) (geometry : StripGeometry)

/-- One thumbnail for each workspace, while the strip is shown. -/
def thumbnailStripAtRest : Option (List ThumbRect) :=
  (geometry monitor.output).map fun place =>
    (List.range monitor.workspaces.length).map
      (place monitor.workspaces.length)

def beginThumbDragAt (idx : Nat) (pos frac : ℚ) : Bool × Monitor :=
  match (monitor.thumbnailStripAtRest geometry).bind fun strip => strip[idx]? with
  | none => (false, monitor)
  | some rect =>
    (true,
      { monitor with
        thumbDrag := some
          { origin := idx, grabOffset := frac * rect.width, pos } })

def beginThumbDrag (idx : Nat) (pos : ℚ) : Bool × Monitor :=
  match (monitor.thumbnailStripAtRest geometry).bind fun strip => strip[idx]? with
  | none => (false, monitor)
  | some rect =>
    monitor.beginThumbDragAt geometry idx pos ((pos - rect.x) / rect.width)

def thumbDropIdx (pos : ℚ) : Nat :=
  match monitor.thumbnailStripAtRest geometry with
  | none => 0
  | some strip =>
    (strip.filter fun rect => decide (rect.x + rect.width / 2 ≤ pos)).length

/-- Takes the dragged workspace off this monitor, with the position it had and
where in the thumbnail the pointer holds it. -/
def takeDraggedWorkspace : FreshM (Option (Workspace × Nat × ℚ × Monitor)) :=
  match monitor.thumbDrag with
  | none => pure none
  | some drag => do
      let frac :=
        (((monitor.thumbnailStripAtRest geometry).bind fun strip =>
          strip[drag.origin]?).map fun rect =>
            drag.grabOffset / rect.width).getD (1 / 2)
      let (ws, monitor) ←
        removeWorkspaceByIdx { monitor with thumbDrag := none } drag.origin
      return some (ws, drag.origin, frac, monitor)

/-- The last position before the trailing one that is neither used nor named. -/
def lastFiller (workspaces : List Workspace) : Option Nat :=
  ((List.range (workspaces.length - 1)).filter fun idx =>
    (workspaces[idx]?).any fun ws => !ws.hasWindowsOrName).getLast?

/-- Sheds unused workspaces down to `n` of them. Every round takes one of
them, so the length of the list bounds the rounds. -/
def shedRounds (n : Nat) : Nat → Monitor → FreshM Monitor
  | 0, monitor => pure monitor
  | rounds + 1, monitor =>
    if max n minNumWorkspaces < monitor.workspaces.length then
      match lastFiller monitor.workspaces with
      | none => pure monitor
      | some idx => do
          let (_, monitor) ← monitor.removeWorkspaceByIdx idx
          shedRounds n rounds monitor
    else
      pure monitor

def shedCarryPaddingTo (n : Nat) : FreshM Monitor := shedRounds n monitor.workspaces.length monitor

/-- The other display takes the workspace and goes on dragging it. -/
def takeOverDraggedWorkspace (ws : Workspace) (idx : Nat) (frac pos : ℚ)
    (shedTo : Option Nat) : FreshM Monitor := do
  let idx := min idx (monitor.workspaces.length - 1)
  let monitor ← monitor.insertWorkspace ws idx false
  let monitor ←
    match shedTo with
    | some n => monitor.shedCarryPaddingTo n
    | none => pure monitor
  match monitor.positionOf ws.id with
  | none => return monitor
  | some idx => return (monitor.beginThumbDragAt geometry idx pos frac).2

def rehomeWorkspace (idx : Nat) : Monitor :=
  stampHomeOrdinals
    { monitor with
      workspaces := monitor.workspaces.modify idx fun ws =>
        { ws with originalOutput := .fromOutput monitor.output } }

/-- Follows the pointer. The old and the new target are compared to decide
whether the row slides, which indexes the strip by the drag's position. -/
def updateThumbDrag (pos : ℚ) : FreshM Monitor :=
  match monitor.thumbDrag with
  | none => pure monitor
  | some drag =>
    let moved := { monitor with thumbDrag := some { drag with pos } }
    match monitor.thumbnailStripAtRest geometry with
    | none => pure moved
    | some strip => do
        let _ ← unwrap (thumbDragTarget strip { drag with pos })
        let _ ← unwrap (thumbDragTarget strip drag)
        return moved

/-- Drops the workspace where the pointer left it; the position it ends at. -/
def finishThumbDrag : FreshM (Option Nat × Monitor) :=
  match monitor.thumbDrag with
  | none => pure (none, monitor)
  | some drag =>
    let monitor := { monitor with thumbDrag := none }
    match monitor.thumbnailStripAtRest geometry with
    | none => pure (none, monitor)
    | some strip => do
        let target ← unwrap (thumbDragTarget strip drag)
        if target = drag.origin then
          return (some target, monitor)
        else
          let monitor ← monitor.moveWorkspaceToIdx drag.origin target
          return (some target, monitor)

def cancelThumbDrag : Monitor :=
  { monitor with thumbDrag := none }

end Monitor

end Synoik
