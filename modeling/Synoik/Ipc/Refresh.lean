import Synoik.Ipc.State

/-!
# Refreshing the event stream from the layout

What the server reads of the layout, and the events by which it brings the stream up to it: one
event with everything, or one event for each difference.
-/

namespace Synoik.Ipc

variable {Place Time : Type}

structure LayoutWorkspace where
  id : Nat
  name : Option String
  activeWindow : Option Nat
  isUrgent : Bool

structure Monitor where
  outputName : String
  workspaces : List LayoutWorkspace
  activeWorkspaceIdx : Nat
  inRange : activeWorkspaceIdx < workspaces.length

inductive MonitorSet where
  | normal (monitors : List Monitor) (activeMonitorIdx : Fin monitors.length)
  | noOutputs (workspaces : List LayoutWorkspace)

structure Mapped (Time : Type) where
  id : Nat
  title : Option String
  appId : Option String
  isFocused : Bool
  isFloating : Bool
  isUrgent : Bool
  isMinimized : Bool
  isMaximized : Bool
  isFullscreen : Bool
  isActivated : Bool
  tiledEdges : TiledEdges
  focusTimestamp : Option Time

/-- A window with the workspace it is on and its place there. -/
structure LaidOut (Place Time : Type) where
  mapped : Mapped Time
  workspaceId : Option Nat
  layout : Place

/-- A workspace with its monitor and its position there. -/
structure Located where
  monitor : Option Monitor
  position : Nat
  workspace : LayoutWorkspace

namespace MonitorSet

def workspaces : MonitorSet → List Located
  | normal monitors _ => monitors.flatMap fun monitor =>
    monitor.workspaces.zipIdx.map fun entry =>
    { monitor := some monitor, position := entry.2, workspace := entry.1 }
  | noOutputs workspaces => workspaces.zipIdx.map fun entry =>
    { monitor := none, position := entry.2, workspace := entry.1 }

def monitors : MonitorSet → List Monitor
  | normal monitors _ => monitors
  | noOutputs _ => []

def activeWorkspace : MonitorSet → Option LayoutWorkspace
  | normal monitors activeMonitorIdx =>
    let monitor := monitors.get activeMonitorIdx
    some (monitor.workspaces.get ⟨monitor.activeWorkspaceIdx, monitor.inRange⟩)
  | noOutputs _ => none

end MonitorSet

structure Layout (Place Time : Type) where
  monitorSet : MonitorSet
  windows : List (LaidOut Place Time)
  outputsDistinct : (monitorSet.monitors.map Monitor.outputName).Nodup
  workspacesDistinct : (monitorSet.workspaces.map fun located => located.workspace.id).Nodup
  windowsDistinct : (windows.map fun laidOut => laidOut.mapped.id).Nodup
  oneFocused : ∀ one ∈ windows, ∀ other ∈ windows, one.mapped.isFocused = true →
    other.mapped.isFocused = true → one = other

/-- A position as it is sent: from one, and at most what fits in a byte. -/
def ipcIdx (position : Nat) : Nat := min (position + 1) 255

namespace Located

def id (located : Located) : Nat := located.workspace.id

def outputName (located : Located) : Option String := located.monitor.map Monitor.outputName

def isActive (located : Located) : Bool :=
  located.monitor.any fun monitor => monitor.activeWorkspaceIdx = located.position

def ipc (located : Located) (focused : Option Nat) : Workspace where
  id := located.id
  idx := ipcIdx located.position
  name := located.workspace.name
  output := located.outputName
  isUrgent := located.workspace.isUrgent
  isActive := located.isActive
  isFocused := some located.id = focused
  activeWindowId := located.workspace.activeWindow

/-- What no narrower event can tell. -/
def needsAll (located : Located) (known : Workspace) : Bool :=
  known.idx ≠ ipcIdx located.position || known.name ≠ located.workspace.name ||
    known.output ≠ located.outputName

def events (located : Located) (focused : Option Nat) (known : Workspace) :
    List (Event Place Time) :=
  (if known.activeWindowId ≠ located.workspace.activeWindow then
    [.workspaceActiveWindowChanged located.id located.workspace.activeWindow] else []) ++
  (if located.workspace.isUrgent ≠ known.isUrgent then
    [.workspaceUrgencyChanged located.id located.workspace.isUrgent] else []) ++
  (if some located.id = focused ∧ known.isFocused = false then
    [.workspaceActivated located.id true]
  else if located.isActive = true ∧ known.isActive = false then
    [.workspaceActivated located.id false]
  else [])

end Located

namespace WorkspacesState

/-- Goes through the workspaces and stops at one that needs all of them sent. -/
def scan (state : WorkspacesState) (focused : Option Nat) :
    List Located → Option (List (Event Place Time))
  | [] => some []
  | located :: rest =>
    match state.lookup located.id with
    | none => none
    | some known =>
      if located.needsAll known then none
      else (state.scan focused rest).map (located.events focused known ++ ·)

end WorkspacesState

namespace Layout

variable (layout : Layout Place Time)

def focusedWorkspace : Option Nat := layout.monitorSet.activeWorkspace.map LayoutWorkspace.id

def ipcWorkspaces : List Workspace :=
  layout.monitorSet.workspaces.map fun located => located.ipc layout.focusedWorkspace

/-- Whether a workspace is no longer there. -/
def lostWorkspace (state : WorkspacesState) : Bool :=
  state.keys.any fun id => id ∉ layout.monitorSet.workspaces.map Located.id

def refreshWorkspaces (state : WorkspacesState) : List (Event Place Time) :=
  match state.scan layout.focusedWorkspace layout.monitorSet.workspaces with
  | none => [.workspacesChanged layout.ipcWorkspaces]
  | some events =>
    if layout.lostWorkspace state then [.workspacesChanged layout.ipcWorkspaces] else events

end Layout

/-- The credentials of a window's client are taken when it is mapped. -/
def makeIpcWindow (credentials : Nat → Option Int) (laidOut : LaidOut Place Time) :
    Window Place Time where
  id := laidOut.mapped.id
  title := laidOut.mapped.title
  appId := laidOut.mapped.appId
  pid := credentials laidOut.mapped.id
  workspaceId := laidOut.workspaceId
  isFocused := laidOut.mapped.isFocused
  isFloating := laidOut.mapped.isFloating
  isUrgent := laidOut.mapped.isUrgent
  isMinimized := laidOut.mapped.isMinimized
  isMaximized := laidOut.mapped.isMaximized
  isFullscreen := laidOut.mapped.isFullscreen
  isActivated := laidOut.mapped.isActivated
  tiledEdges := laidOut.mapped.tiledEdges
  layout := laidOut.layout
  focusTimestamp := laidOut.mapped.focusTimestamp

namespace LaidOut

/-- What no narrower event can tell. -/
def needsAll (laidOut : LaidOut Place Time)
    (known : Window Place Time) : Bool :=
  known.workspaceId ≠ laidOut.workspaceId ||
    known.isFloating ≠ laidOut.mapped.isFloating ||
    known.isMinimized ≠ laidOut.mapped.isMinimized ||
    known.isMaximized ≠ laidOut.mapped.isMaximized ||
    known.isFullscreen ≠ laidOut.mapped.isFullscreen ||
    known.isActivated ≠ laidOut.mapped.isActivated ||
    known.tiledEdges ≠ laidOut.mapped.tiledEdges ||
    known.title ≠ laidOut.mapped.title || known.appId ≠ laidOut.mapped.appId

/-- The events for one window, but for its place. -/
def events [DecidableEq Time] (credentials : Nat → Option Int)
    (laidOut : LaidOut Place Time)
    (known : Option (Window Place Time)) : List (Event Place Time) :=
  match known with
  | none => [.windowOpenedOrChanged (makeIpcWindow credentials laidOut)]
  | some known =>
    if laidOut.needsAll known then
      [.windowOpenedOrChanged (makeIpcWindow credentials laidOut)]
    else
      (if laidOut.mapped.isFocused = true ∧ known.isFocused = false then
        [.windowFocusChanged (some laidOut.mapped.id)] else []) ++
      (if laidOut.mapped.focusTimestamp ≠ known.focusTimestamp then
        [.windowFocusTimestampChanged laidOut.mapped.id laidOut.mapped.focusTimestamp]
      else []) ++
      (if laidOut.mapped.isUrgent ≠ known.isUrgent then
        [.windowUrgencyChanged laidOut.mapped.id laidOut.mapped.isUrgent] else [])

/-- The change of place that is sent with the others. -/
def layoutChange [DecidableEq Place] (laidOut : LaidOut Place Time)
    (known : Option (Window Place Time)) : Option (Nat × Place) :=
  known.bind fun known =>
    if laidOut.needsAll known = false ∧ known.layout ≠ laidOut.layout then
      some (laidOut.mapped.id, laidOut.layout)
    else none

end LaidOut

namespace Layout

variable (credentials : Nat → Option Int) (layout : Layout Place Time)

def ipcWindows : List (Window Place Time) := layout.windows.map (makeIpcWindow credentials)

def seenWindows : List Nat := layout.windows.map fun laidOut => laidOut.mapped.id

def layoutChanges [DecidableEq Place] (state : WindowsState Place Time) : List (Nat × Place) :=
  layout.windows.filterMap fun laidOut =>
    laidOut.layoutChange (state.lookup laidOut.mapped.id)

def closedWindows (state : WindowsState Place Time) : List Nat :=
  state.keys.filter fun id => id ∉ layout.seenWindows

def refreshWindows [DecidableEq Place] [DecidableEq Time]
    (state : WindowsState Place Time) :
    List (Event Place Time) :=
  let changes := layout.layoutChanges state
  (layout.windows.flatMap fun laidOut =>
    laidOut.events credentials (state.lookup laidOut.mapped.id)) ++
  (if changes.isEmpty then [] else [.windowLayoutsChanged changes]) ++
  (layout.closedWindows state).map .windowClosed ++
  -- focus that goes nowhere is seen by no window
  (if (layout.windows.all fun laidOut => !laidOut.mapped.isFocused) &&
      state.values.any Window.isFocused then [.windowFocusChanged none] else [])

end Layout

end Synoik.Ipc
