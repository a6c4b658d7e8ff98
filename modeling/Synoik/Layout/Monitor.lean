import Synoik.Layout.Workspace
import Synoik.Support.Fresh
import Mathlib.Data.Rat.Floor

/-!
# Monitors

A monitor is the list of workspaces one display shows, the position of the one
in front, and what is in progress on it: a workspace switch or a thumbnail
drag. New workspaces draw their ids from the counter of `FreshM`, and an index
out of range or a failed assertion aborts.
-/

namespace Synoik

open FreshM

def minNumWorkspaces : Nat := 2

def maxNumWorkspaces : Nat := 36

/-- A switch that follows the fingers. Where they are comes from the input
device; `currentIdx` is what the device last said. -/
structure WorkspaceSwitchGesture where
  centerIdx : Nat
  currentIdx : ℚ
  isTouchpad : Bool := false
  isClamped : Bool := false
  isDndScroll : Bool := false

namespace WorkspaceSwitchGesture

/-- The workspaces the gesture may end on, as an interval of positions. -/
def minMax (gesture : WorkspaceSwitchGesture) (workspaceCount : Nat) : Nat × Nat :=
  if gesture.isClamped then
    (gesture.centerIdx - 1, min (gesture.centerIdx + 1) (workspaceCount - 1))
  else
    (0, workspaceCount - 1)

end WorkspaceSwitchGesture

inductive WorkspaceSwitch where
  | animation (target : Nat)
  | gesture (gesture : WorkspaceSwitchGesture)

namespace WorkspaceSwitch

def targetIdx : WorkspaceSwitch → ℚ
  | .animation target => target
  | .gesture swipe => swipe.currentIdx

/-- Follows a workspace list that grew by one before the target. -/
def offsetOne : WorkspaceSwitch → WorkspaceSwitch
  | .animation target => .animation (target + 1)
  | .gesture swipe =>
    .gesture
      { swipe with
        centerIdx := swipe.centerIdx + 1
        currentIdx := swipe.currentIdx + 1 }

/-- The drag-and-drop scroll in progress, if that is what the switch is. -/
def dndScroll : WorkspaceSwitch → Option WorkspaceSwitchGesture
  | .gesture swipe => if swipe.isDndScroll then some swipe else none
  | .animation _ => none

end WorkspaceSwitch

/-- A thumbnail being dragged along the strip; the horizontal axis only. -/
structure ThumbDrag where
  origin : Nat
  grabOffset : ℚ
  pos : ℚ

structure Monitor where
  output : Output
  workspaces : List Workspace
  activeWorkspaceIdx : Nat
  previousWorkspaceId : Option WorkspaceId := none
  workspaceSwitch : Option WorkspaceSwitch := none
  thumbDrag : Option ThumbDrag := none
  overviewOpen : Bool := false
  windowingMode : WindowingMode := .scrolling

inductive MonitorAddWindowTarget where
  | auto
  | workspace (id : WorkspaceId) (columnIdx : Option Nat)
  | nextTo (window : WindowId)

/-- A visiting workspace while its group is being ordered: its home, its
ordinal, and whether its group is settled. -/
structure VisitingSlot where
  home : OutputIdentity
  ordinal : Nat
  settled : Bool := false

/-- Hands the slots out, in order, to the entries whose home matches. -/
def assignSlots (home : OutputIdentity) : List VisitingSlot → List Nat → List VisitingSlot
  | [], _ => []
  | entries, [] => entries
  | entry :: entries, slot :: slots =>
    if entry.home.matchesIdentity home then
      { entry with ordinal := slot, settled := true } :: assignSlots home entries slots
    else
      entry :: assignSlots home entries (slot :: slots)

/-- Every group of visitors keeps its ordinals, reassigned in strip order. The
groups are taken by their first unsettled member; `steps` bounds the entries. -/
def settleGroups : Nat → List VisitingSlot → List Nat
  | 0, entries => entries.map VisitingSlot.ordinal
  | _, [] => []
  | steps + 1, entry :: entries =>
    if entry.settled then
      entry.ordinal :: settleGroups steps entries
    else
      let group := (entry :: entries).filter fun other =>
        other.home.matchesIdentity entry.home
      let slots := (group.map VisitingSlot.ordinal).insertionSort (· ≤ ·)
      match assignSlots entry.home (entry :: entries) slots with
      | [] => []
      | entry :: entries => entry.ordinal :: settleGroups steps entries

/-- Own workspaces are numbered by rank; visitors take the given ordinals. -/
def restamp (own : Workspace → Bool) : List Workspace → Nat → List Nat → List Workspace
  | [], _, _ => []
  | ws :: rest, rank, slots =>
    if own ws then
      { ws with homeOrdinal := rank } :: restamp own rest (rank + 1) slots
    else
      match slots with
      | [] => ws :: restamp own rest rank []
      | slot :: slots =>
        { ws with homeOrdinal := slot } :: restamp own rest rank slots

namespace Monitor

variable (monitor : Monitor) (ws : Workspace)

/-- Whether a workspace belongs to this monitor's display. -/
def owns : Bool := ws.originalOutput.matchesOutput monitor.output

def stampedWorkspaces (output : Output) (workspaces : List Workspace) : List Workspace :=
  let own := fun ws : Workspace => ws.originalOutput.matchesOutput output
  let visiting := workspaces.filter fun ws => !own ws
  let slots := settleGroups visiting.length
    (visiting.map fun ws =>
      { home := ws.originalOutput, ordinal := ws.homeOrdinal })
  restamp own workspaces 0 slots

def stampHomeOrdinals : Monitor :=
  { monitor with
    workspaces := stampedWorkspaces monitor.output monitor.workspaces }

variable (idx : Nat)

def addWorkspaceAt : FreshM Monitor := do
  let id ← fresh
  let workspaces ←
    unwrap (Vec.insertAt monitor.workspaces idx (Workspace.new id monitor.output))
  return stampHomeOrdinals
    { monitor with
      workspaces
      activeWorkspaceIdx :=
        if idx ≤ monitor.activeWorkspaceIdx then monitor.activeWorkspaceIdx + 1
        else monitor.activeWorkspaceIdx
      workspaceSwitch := monitor.workspaceSwitch.map fun switch =>
        if (idx : ℚ) ≤ switch.targetIdx then switch.offsetOne else switch }

def addWorkspaceBottom : FreshM Monitor := monitor.addWorkspaceAt monitor.workspaces.length

/-- No workspace at the end, or one in use. -/
def lacksTrailingEmpty (workspaces : List Workspace) : Bool :=
  workspaces.getLast?.all Workspace.hasWindowsOrName

/-- Adds workspaces at the bottom until there are enough. -/
def padToMinimum : Nat → Monitor → FreshM Monitor
  | 0, monitor => pure monitor
  | steps + 1, monitor =>
    if monitor.workspaces.length < minNumWorkspaces then do
      let monitor ← monitor.addWorkspaceBottom
      padToMinimum steps monitor
    else
      pure monitor

def cleanUpWorkspaces : FreshM Monitor := do
  ensure monitor.workspaceSwitch.isNone
  let monitor ←
    if lacksTrailingEmpty monitor.workspaces then monitor.addWorkspaceBottom
    else pure monitor
  let monitor ← padToMinimum minNumWorkspaces monitor
  return monitor.stampHomeOrdinals

def cleanUpIfIdle : FreshM Monitor :=
  if monitor.workspaceSwitch.isNone then monitor.cleanUpWorkspaces
  else pure monitor

/-- The bottom workspaces a new monitor is filled up with. -/
def padNew (output : Output) : Nat → List Workspace → FreshM (List Workspace)
  | 0, workspaces => pure workspaces
  | steps + 1, workspaces =>
    if workspaces.length < minNumWorkspaces then do
      let id ← fresh
      padNew output steps (workspaces ++ [Workspace.new id output])
    else
      pure workspaces

/-- A display comes up showing the workspace with the given id, which is unique
in the list, or else the first one. -/
def new (output : Output) (windowingMode : WindowingMode)
    (workspaces : List Workspace) (wsIdToActivate : Option WorkspaceId) :
    FreshM Monitor := do
  let workspaces := workspaces.map fun ws => ws.setOutput (some output)
  let activeWorkspaceIdx :=
    (wsIdToActivate.bind fun id =>
      workspaces.findIdx? fun ws => ws.id == id).getD 0
  let workspaces ←
    if lacksTrailingEmpty workspaces then do
      let id ← fresh
      pure (workspaces ++ [Workspace.new id output])
    else pure workspaces
  let workspaces ← padNew output minNumWorkspaces workspaces
  return stampHomeOrdinals
    { output, workspaces, activeWorkspaceIdx, windowingMode }

def intoWorkspaces : List Workspace :=
  monitor.stampHomeOrdinals.workspaces.map fun ws => ws.setOutput none

def ownWorkspaceCount : Nat := (monitor.workspaces.filter monitor.owns).length

/-- The positions of the workspaces of this display. -/
def ownPositions : List Nat :=
  (List.range monitor.workspaces.length).filter fun idx =>
    (monitor.workspaces[idx]?).any monitor.owns

def ownBlockEnd : Nat :=
  match monitor.ownPositions.getLast? with
  | none => monitor.workspaces.length
  | some idx => idx + 1

def ownBlockPosition : Option Nat := monitor.ownPositions[idx]?

def workspaceIsClosable : Bool :=
  idx + 1 < monitor.workspaces.length &&
    minNumWorkspaces < monitor.workspaces.length &&
    !(monitor.workspaces[idx]?).any Workspace.hasWindows

variable (id : WorkspaceId)

def positionOf : Option Nat := monitor.workspaces.findIdx? fun ws => ws.id == id

def closeWorkspace : FreshM (Bool × Monitor) :=
  match monitor.positionOf id with
  | none => pure (false, monitor)
  | some idx =>
    if monitor.workspaceIsClosable idx then do
      let monitor ← cleanUpWorkspaces
        { monitor with
          workspaceSwitch := none
          workspaces := monitor.workspaces.eraseIdx idx
          activeWorkspaceIdx :=
            if idx < monitor.activeWorkspaceIdx then
              monitor.activeWorkspaceIdx - 1
            else monitor.activeWorkspaceIdx }
      return (true, monitor)
    else
      pure (false, monitor)

def unnameWorkspace : FreshM (Bool × Monitor) :=
  match monitor.positionOf id with
  | none => pure (false, monitor)
  | some idx => do
      let monitor ← cleanUpIfIdle
        { monitor with
          workspaces := monitor.workspaces.modify idx Workspace.unname }
      return (true, monitor)

def removeWorkspaceByIdx : FreshM (Workspace × Monitor) := do
  let monitor ←
    if idx + 1 = monitor.workspaces.length then monitor.addWorkspaceBottom
    else pure monitor
  let (ws, workspaces) ← unwrap (Vec.removeAt monitor.workspaces idx)
  let monitor ← cleanUpWorkspaces
    { monitor with
      workspaces
      workspaceSwitch := none
      activeWorkspaceIdx :=
        if idx ≤ monitor.activeWorkspaceIdx then monitor.activeWorkspaceIdx - 1
        else monitor.activeWorkspaceIdx }
  return (ws.setOutput none, monitor)

/-- The workspaces of a display that went away, put before the trailing empty
one. A focused trailing empty keeps the focus. -/
def appendWorkspaces (workspaces : List Workspace) : FreshM Monitor :=
  if workspaces.isEmpty then
    pure monitor
  else do
    let arriving := workspaces.map fun ws => ws.setOutput (some monitor.output)
    let empty ← unwrap monitor.workspaces.getLast?
    let grown := monitor.workspaces.dropLast ++ arriving ++ [empty]
    cleanUpWorkspaces
      { monitor with
        workspaces := grown
        workspaceSwitch := none
        activeWorkspaceIdx :=
          if monitor.activeWorkspaceIdx + 1 = monitor.workspaces.length then
            grown.length - 1
          else monitor.activeWorkspaceIdx }

def activeWorkspace : Option Workspace := monitor.workspaces[monitor.activeWorkspaceIdx]?

def activeWindow (monitor : Monitor) : Option Window :=
  monitor.activeWorkspace.bind Workspace.activeWindow

def updateWorkspace (change : Workspace → Option Workspace) : FreshM Monitor := do
  let workspaces ← unwrap (Vec.updateAt monitor.workspaces idx change)
  return { monitor with workspaces }

def resolveAddWindowTarget : MonitorAddWindowTarget → Option (Nat × WorkspaceAddWindowTarget)
  | .auto => some (monitor.activeWorkspaceIdx, .auto)
  | .workspace id columnIdx => do
      let idx ← monitor.positionOf id
      return (idx,
        match columnIdx with
        | some columnIdx => .newColumnAt columnIdx
        | none => .auto)
  | .nextTo window => do
      let idx ← monitor.workspaces.findIdx? fun ws => ws.hasWindow window
      return (idx, .nextTo window)

/-- An unnamed workspace that receives a window takes this display as home. -/
def adoptUnlessNamed : Workspace :=
  if ws.name.isNone then ws.adoptHome monitor.output else ws

/-- A workspace that receives something, and the trailing empty that has to
follow when it was the last one. -/
def fillWorkspace (change : Workspace → Option Workspace) : FreshM Monitor := do
  let monitor ← monitor.updateWorkspace idx fun ws =>
    (change ws).map monitor.adoptUnlessNamed
  if idx + 1 = monitor.workspaces.length then monitor.addWorkspaceBottom
  else pure monitor

/-- The part of adding a tile that precedes a switch to its workspace. -/
def placeTile (tile : Tile) (target : MonitorAddWindowTarget)
    (activate : ActivateWindow) (isFloating : Bool) : FreshM (Nat × Monitor) := do
  let (idx, target) ← unwrap (monitor.resolveAddWindowTarget target)
  let monitor ← monitor.fillWorkspace idx fun ws =>
    ws.addTile monitor.windowingMode tile target activate isFloating
  return (idx, monitor)

variable (window : Option WindowId)

/-- The tile a move takes, and the workspace it goes to.  `none` when there is
nothing to move or nowhere to move it. -/
def takeForMove (idx : Nat) : FreshM (Option (RemovedTile × WorkspaceId × Monitor)) := do
  let source ← unwrap
    (match window with
    | some window => monitor.workspaces.findIdx? fun ws => ws.hasWindow window
    | none => some monitor.activeWorkspaceIdx)
  let newIdx := min idx (monitor.workspaces.length - 1)
  if newIdx = source then
    return none
  else
    let target ← unwrap monitor.workspaces[newIdx]?
    let ws ← unwrap monitor.workspaces[source]?
    match window with
    | some window =>
      let (removed, ws) ← unwrap (ws.removeTile window)
      return some (removed, target.id,
        { monitor with workspaces := monitor.workspaces.set source ws })
    | none =>
      return ws.removeActiveTile.map fun (removed, ws) =>
      (removed, target.id,
        { monitor with workspaces := monitor.workspaces.set source ws })

/-- A move that cannot switch workspaces, which is how the sticky carry moves
windows. -/
def moveToWorkspaceQuietly (window : WindowId) (idx : Nat) : FreshM Monitor := do
  match ← monitor.takeForMove (some window) idx with
  | none => return monitor
  | some (removed, newId, monitor) =>
    let (_, monitor) ← monitor.placeTile removed.tile
      (.workspace newId none) .no removed.isFloating
    monitor.cleanUpIfIdle

/-- Moves the listed windows to the target workspace, one by one. -/
def carryAll (target : WorkspaceId) : List WindowId → Monitor → FreshM Monitor
  | [], monitor => pure monitor
  | window :: windows, monitor =>
    match monitor.positionOf target with
    | none => pure monitor
    | some idx => do
        let monitor ← monitor.moveToWorkspaceQuietly window idx
        carryAll target windows monitor

/-- The windows a switch to the target takes along. -/
def carriedTo (target : WorkspaceId) : List WindowId :=
  (monitor.workspaces.filter fun ws => ws.id != target).flatMap
    Workspace.stickyWindowIds

/-- Brings every sticky window along, and says which of them had the focus. -/
def carryStickyTo (target : WorkspaceId) : FreshM (Option WindowId × Monitor) := do
  let active ← unwrap monitor.activeWorkspace
  let wasActive := active.activeWindow.map Window.id
  let carried := monitor.carriedTo target
  let monitor ← carryAll target carried monitor
  return (wasActive.filter (carried.contains ·), monitor)

/-- Focuses the carried window that had the focus before the switch. -/
def keepFocusOn (idx : Nat) : FreshM Monitor :=
  match window with
  | none => pure monitor
  | some window =>
    monitor.updateWorkspace idx fun ws =>
    (ws.activateWindow monitor.windowingMode window).map Prod.snd

def setActive : FreshM Monitor := do
  let left ← unwrap monitor.activeWorkspace
  return { monitor with
    activeWorkspaceIdx := idx
    previousWorkspaceId :=
      if monitor.activeWorkspaceIdx = idx then monitor.previousWorkspaceId
      else some left.id }

/-- The switch in progress after a change of the active position. -/
def switchAfter (previous idx : Nat) : Monitor :=
  match monitor.workspaceSwitch.bind WorkspaceSwitch.dndScroll with
  | some gesture =>
    { monitor with
      workspaceSwitch := some (.gesture { gesture with centerIdx := idx, currentIdx := idx }) }
  | none =>
    if previous = idx then monitor
    else { monitor with workspaceSwitch := some (.animation idx) }

def activateWorkspace : FreshM Monitor :=
  if idx = monitor.activeWorkspaceIdx then
    return monitor.switchAfter idx idx
  else do
    let target ← unwrap monitor.workspaces[idx]?
    let (keepFocus, monitor) ← monitor.carryStickyTo target.id
    match monitor.positionOf target.id with
    | none => return monitor
    | some idx =>
      let previous := monitor.activeWorkspaceIdx
      let monitor ← monitor.setActive idx
      let monitor ← monitor.keepFocusOn keepFocus idx
      return monitor.switchAfter previous idx

/-- The workspace before the active one, or before the position a
drag-and-drop scroll has reached. -/
def upIdx : Nat :=
  match monitor.workspaceSwitch.bind WorkspaceSwitch.dndScroll with
  | some gesture =>
    min (⌈gesture.currentIdx⌉ - 1).toNat (monitor.workspaces.length - 1)
  | none => monitor.activeWorkspaceIdx - 1

def downIdx : Nat :=
  match monitor.workspaceSwitch.bind WorkspaceSwitch.dndScroll with
  | some gesture =>
    min (⌊gesture.currentIdx⌋ + 1).toNat (monitor.workspaces.length - 1)
  | none => min (monitor.activeWorkspaceIdx + 1) (monitor.workspaces.length - 1)

def switchWorkspaceUp : FreshM Monitor := monitor.activateWorkspace monitor.upIdx

def switchWorkspaceDown : FreshM Monitor := monitor.activateWorkspace monitor.downIdx

def switchWorkspace : FreshM Monitor :=
  monitor.activateWorkspace (min idx (monitor.workspaces.length - 1))

def previousWorkspaceIdx : Option Nat := monitor.previousWorkspaceId.bind monitor.positionOf

def switchWorkspacePrevious : FreshM Monitor :=
  match monitor.previousWorkspaceIdx with
  | some idx => monitor.switchWorkspace idx
  | none => pure monitor

def switchWorkspaceAutoBackAndForth : FreshM Monitor :=
  if min idx (monitor.workspaces.length - 1) = monitor.activeWorkspaceIdx then
    monitor.switchWorkspacePrevious
  else
    monitor.switchWorkspace idx

def addTile (tile : Tile) (target : MonitorAddWindowTarget) (activate : ActivateWindow)
    (allowToActivateWorkspace isFloating : Bool) : FreshM Monitor := do
  let (idx, monitor) ← monitor.placeTile tile target activate isFloating
  if allowToActivateWorkspace && activate.mapSmart false then
    monitor.activateWorkspace idx
  else
    return monitor

def addColumn (monitor : Monitor) (idx : Nat) (column : Column)
    (activate : Bool) : FreshM Monitor := do
  let monitor ← monitor.fillWorkspace idx fun ws => ws.addColumn column activate
  if activate then monitor.activateWorkspace idx else return monitor

/-- Into an existing column, so the workspace is not the trailing empty one. -/
def addTileToColumn (monitor : Monitor) (workspaceIdx columnIdx : Nat)
    (tileIdx : Option Nat) (tile : Tile)
    (activate allowToActivateWorkspace : Bool) : FreshM Monitor := do
  let monitor ← monitor.updateWorkspace workspaceIdx fun ws =>
    (ws.addTileToColumn columnIdx tileIdx tile activate).map
      monitor.adoptUnlessNamed
  if allowToActivateWorkspace && activate then
    monitor.activateWorkspace workspaceIdx
  else
    return monitor

def moveToWorkspace (idx : Nat) (activate : ActivateWindow) : FreshM Monitor := do
  let activate := activate.mapSmart
    (window.all fun window => monitor.activeWindow.any fun active =>
      active.id == window)
  match ← monitor.takeForMove window idx with
  | none => return monitor
  | some (removed, newId, monitor) =>
    let monitor ← monitor.addTile removed.tile (.workspace newId none)
      (if activate then .yes else .no) true removed.isFloating
    monitor.cleanUpIfIdle

variable (newIdx : Nat)

/-- A move by one position, which leaves the source workspace as it is. -/
def moveToNeighbour (focus : Bool) : FreshM Monitor := do
  if newIdx = monitor.activeWorkspaceIdx then
    return monitor
  else
    match ← monitor.takeForMove none newIdx with
    | none => return monitor
    | some (removed, newId, monitor) =>
      monitor.addTile removed.tile (.workspace newId none)
        (if focus then .yes else .smart) true removed.isFloating

def moveToWorkspaceUp (focus : Bool) : FreshM Monitor :=
  monitor.moveToNeighbour (monitor.activeWorkspaceIdx - 1) focus

def moveToWorkspaceDown (focus : Bool) : FreshM Monitor :=
  monitor.moveToNeighbour
    (min (monitor.activeWorkspaceIdx + 1) (monitor.workspaces.length - 1)) focus

/-- Moves the active column; `floating` is what happens instead when the
floating half has the focus. -/
def moveColumnWith (activate : Bool) (floating : FreshM Monitor) : FreshM Monitor := do
  if newIdx = monitor.activeWorkspaceIdx then
    return monitor
  else
    let ws ← unwrap monitor.activeWorkspace
    if ws.floatingIsActive.get then
      floating
    else
      match ws.removeActiveColumn with
      | none => return monitor
      | some (column, ws) =>
        addColumn
          { monitor with
            workspaces := monitor.workspaces.set monitor.activeWorkspaceIdx ws }
          newIdx column activate

def moveColumnToWorkspaceUp (activate : Bool) : FreshM Monitor :=
  monitor.moveColumnWith (monitor.activeWorkspaceIdx - 1) activate
    (monitor.moveToWorkspaceUp activate)

def moveColumnToWorkspaceDown (activate : Bool) : FreshM Monitor :=
  monitor.moveColumnWith
    (min (monitor.activeWorkspaceIdx + 1) (monitor.workspaces.length - 1))
    activate (monitor.moveToWorkspaceDown activate)

def moveColumnToWorkspace (activate : Bool) : FreshM Monitor :=
  monitor.moveColumnWith (min idx (monitor.workspaces.length - 1)) activate
    (monitor.moveToWorkspace none idx (if activate then .smart else .no))

def setWindowSticky (window : WindowId) (sticky : Bool) : FreshM (Bool × Monitor) :=
  match monitor.workspaces.findIdx? fun ws => ws.holdsWindow window with
  | none => pure (false, monitor)
  | some wsIdx => do
      let ws ← unwrap monitor.workspaces[wsIdx]?
      let home := (ws.tiles.find? fun tile => tile.id == window).bind
        Tile.stickyHome
      let (changed, ws') := ws.setSticky window sticky
      let monitor :=
        { monitor with workspaces := monitor.workspaces.set wsIdx ws' }
      if !changed || sticky then
        return (changed, monitor)
      else
        let leaving := ws.stickyWindowIds.filter fun id =>
          !ws'.stickyWindowIds.contains id
        match home with
        | none => return (true, monitor)
        | some home =>
          if monitor.positionOf home = some wsIdx then
            return (true, monitor)
          else
            let monitor ← carryAll home leaving monitor
            return (true, monitor)

def insertWorkspace (idx : Nat) (activate : Bool) : FreshM Monitor := do
  let idx := if idx = monitor.workspaces.length then idx - 1 else idx
  let workspaces ← unwrap
    (Vec.insertAt monitor.workspaces idx (ws.setOutput (some monitor.output)))
  let monitor :=
    { monitor with
      workspaces
      activeWorkspaceIdx :=
        if idx ≤ monitor.activeWorkspaceIdx then monitor.activeWorkspaceIdx + 1
        else monitor.activeWorkspaceIdx }
  let monitor ←
    if activate then
      activateWorkspace { monitor with workspaceSwitch := none } idx
    else pure monitor
  cleanUpWorkspaces { monitor with workspaceSwitch := none }

def swapWorkspaces (first second : Nat) : FreshM Monitor := do
  let one ← unwrap monitor.workspaces[first]?
  let other ← unwrap monitor.workspaces[second]?
  return { monitor with
    workspaces := (monitor.workspaces.set first other).set second one }

def moveActiveTo : FreshM Monitor := do
  if newIdx = monitor.activeWorkspaceIdx then
    return monitor
  else
    let last := max newIdx monitor.activeWorkspaceIdx
    let monitor ← monitor.swapWorkspaces monitor.activeWorkspaceIdx newIdx
    let monitor ←
      if last + 1 = monitor.workspaces.length then monitor.addWorkspaceBottom
      else pure monitor
    let previousWorkspaceId := monitor.previousWorkspaceId
    let monitor ← monitor.activateWorkspace newIdx
    cleanUpWorkspaces
      { monitor with workspaceSwitch := none, previousWorkspaceId }

def moveWorkspaceDown : FreshM Monitor :=
  monitor.moveActiveTo
    (min (monitor.activeWorkspaceIdx + 1) (monitor.workspaces.length - 1))

def moveWorkspaceUp : FreshM Monitor := monitor.moveActiveTo (monitor.activeWorkspaceIdx - 1)

/-- The active position after the workspace at `oldIdx` moved to `newIdx`. -/
def followMove (active oldIdx newIdx : Nat) : Nat :=
  if active = oldIdx then newIdx
  else if newIdx ≤ active ∧ active < oldIdx then active + 1
  else if active ≤ newIdx ∧ oldIdx < active then active - 1
  else active

def moveWorkspaceToIdx (oldIdx newIdx : Nat) : FreshM Monitor := do
  let newIdx := min newIdx (monitor.workspaces.length - 1)
  if monitor.workspaces.length ≤ oldIdx ∨ oldIdx = newIdx then
    return monitor
  else
    let (ws, rest) ← unwrap (Vec.removeAt monitor.workspaces oldIdx)
    let workspaces ← unwrap (Vec.insertAt rest newIdx ws)
    let monitor := { monitor with workspaces }
    let monitor ←
      if max newIdx oldIdx + 1 = monitor.workspaces.length then
        monitor.addWorkspaceBottom
      else pure monitor
    cleanUpWorkspaces
      { monitor with
        workspaceSwitch := none
        activeWorkspaceIdx := followMove monitor.activeWorkspaceIdx oldIdx newIdx }

/-- `renderIdx` is the position the eye sees, between two workspaces while an
animation is being caught. -/
def workspaceSwitchGestureBegin (isTouchpad : Bool) (renderIdx : ℚ) : Monitor :=
  { monitor with
    workspaceSwitch := some (.gesture
      { centerIdx := monitor.activeWorkspaceIdx
        currentIdx := renderIdx
        isTouchpad
        isClamped := !monitor.overviewOpen }) }

def dndScrollGestureBegin (renderIdx : ℚ) : Monitor :=
  if (monitor.workspaceSwitch.bind WorkspaceSwitch.dndScroll).isSome ||
      !monitor.overviewOpen then
    monitor
  else
    { monitor with
      workspaceSwitch := some (.gesture
        { centerIdx := monitor.activeWorkspaceIdx
          currentIdx := renderIdx
          isDndScroll := true }) }

/-- `position` is where the device moved the gesture to. -/
def workspaceSwitchGestureUpdate (isTouchpad : Bool) (position : ℚ) : Monitor :=
  match monitor.workspaceSwitch with
  | some (.gesture gesture) =>
    if gesture.isTouchpad != isTouchpad || gesture.isDndScroll then
      monitor
    else
      { monitor with
        workspaceSwitch := some (.gesture { gesture with currentIdx := position }) }
  | _ => monitor

/-- Scrolling at the edge during a drag. In GNOME mode it snaps to the next or
previous workspace, else it moves the gesture to a clamped position. -/
def dndScrollGestureScroll (forward : Bool) (position : ℚ) : FreshM Monitor :=
  match monitor.workspaceSwitch.bind WorkspaceSwitch.dndScroll with
  | none => pure monitor
  | some gesture =>
    if monitor.windowingMode = .floating then
      if forward then
        if monitor.activeWorkspaceIdx + 1 < monitor.workspaces.length then
          monitor.activateWorkspace (monitor.activeWorkspaceIdx + 1)
        else pure monitor
      else if 0 < monitor.activeWorkspaceIdx then
        monitor.activateWorkspace (monitor.activeWorkspaceIdx - 1)
      else pure monitor
    else
      let (low, high) := gesture.minMax monitor.workspaces.length
      pure { monitor with
        workspaceSwitch := some (.gesture
          { gesture with currentIdx := max low (min position high) }) }

/-- `landed` is the workspace the momentum points at; it is kept within what
the gesture may reach. -/
def workspaceSwitchGestureEnd (isTouchpad : Option Bool) (landed : Nat) : FreshM Monitor :=
  match monitor.workspaceSwitch with
  | some (.gesture gesture) =>
    if isTouchpad.any fun isTouchpad => gesture.isTouchpad != isTouchpad then
      pure monitor
    else
      let (low, high) := gesture.minMax monitor.workspaces.length
      let newIdx := max low (min landed high)
      if monitor.activeWorkspaceIdx = newIdx then
        pure { monitor with workspaceSwitch := some (.animation newIdx) }
      else do
        let target ← unwrap monitor.workspaces[newIdx]?
        let (keepFocus, monitor) ← monitor.carryStickyTo target.id
        let monitor ← monitor.setActive newIdx
        let monitor ← monitor.keepFocusOn keepFocus newIdx
        return { monitor with workspaceSwitch := some (.animation newIdx) }
  | _ => pure monitor

def dndScrollGestureEnd (landed : Nat) : FreshM Monitor :=
  if (monitor.workspaceSwitch.bind WorkspaceSwitch.dndScroll).isSome then
    monitor.workspaceSwitchGestureEnd none landed
  else
    pure monitor

/-- A switch animation that is done makes room for a clean-up. -/
def advanceAnimations (isDone : Bool) : FreshM Monitor :=
  match monitor.workspaceSwitch with
  | some (.animation _) =>
    if isDone then cleanUpWorkspaces { monitor with workspaceSwitch := none }
    else pure monitor
  | _ => pure monitor

end Monitor

end Synoik
