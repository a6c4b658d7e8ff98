import Synoik.Layout.Windows

/-!
# The layout as a transition system

Every public operation of the layout that this development models is one
constructor of `Op`; `Layout.apply` runs it. What comes from outside (input
devices, strip geometry, finished animations) is an argument of the operation,
so a run over a list of operations covers every behaviour of the environment.
-/

namespace Synoik

open FreshM

/-- Operations on the active monitor alone. -/
inductive MonitorOp where
  | switchWorkspaceUp
  | switchWorkspaceDown
  | switchWorkspace (idx : Nat)
  | switchWorkspaceAutoBackAndForth (idx : Nat)
  | switchWorkspacePrevious
  | moveToWorkspaceUp (focus : Bool)
  | moveToWorkspaceDown (focus : Bool)
  | moveColumnToWorkspaceUp (activate : Bool)
  | moveColumnToWorkspaceDown (activate : Bool)
  | moveColumnToWorkspace (idx : Nat) (activate : Bool)
  | moveWorkspaceUp
  | moveWorkspaceDown

variable (monitor : Monitor)

def MonitorOp.apply : MonitorOp → FreshM Monitor
  | .switchWorkspaceUp => monitor.switchWorkspaceUp
  | .switchWorkspaceDown => monitor.switchWorkspaceDown
  | .switchWorkspace idx => monitor.switchWorkspace idx
  | .switchWorkspaceAutoBackAndForth idx =>
    monitor.switchWorkspaceAutoBackAndForth idx
  | .switchWorkspacePrevious => monitor.switchWorkspacePrevious
  | .moveToWorkspaceUp focus => monitor.moveToWorkspaceUp focus
  | .moveToWorkspaceDown focus => monitor.moveToWorkspaceDown focus
  | .moveColumnToWorkspaceUp activate => monitor.moveColumnToWorkspaceUp activate
  | .moveColumnToWorkspaceDown activate =>
    monitor.moveColumnToWorkspaceDown activate
  | .moveColumnToWorkspace idx activate =>
    monitor.moveColumnToWorkspace idx activate
  | .moveWorkspaceUp => monitor.moveWorkspaceUp
  | .moveWorkspaceDown => monitor.moveWorkspaceDown

inductive Op where
  -- displays
  | addOutput (output : Output) (windowingMode : WindowingMode)
  | removeOutput (output : Output)
  | setPrimaryOutput (output : Output)
  | setDisplayOrder (order : List OutputIdentity)
  | focusOutput (output : Output)
  -- restore slots and names
  | setPendingNamedWorkspaces (workspaces : List NamedWorkspace)
  | insertRestoreWorkspace (output : Output) (home : OutputIdentity)
      (homeOrdinal : Nat)
  | ensureRestoreWorkspace (output : Output) (idx : Nat)
  | setWorkspaceName (name : String) (reference : Option WorkspaceReference)
  | unsetWorkspaceName (reference : Option WorkspaceReference)
  | ensureNamedWorkspace (name : String) (openOnOutput : Option String)
  -- workspaces
  | onActiveMonitor (op : MonitorOp)
  | closeWorkspace (id : WorkspaceId)
  | moveWorkspaceToIdx (reference : Option (Option Output × Nat)) (newIdx : Nat)
  | moveWorkspaceToOutput (output : Output)
  | moveWorkspaceToOutputById (oldIdx : Nat) (oldOutput : Option Output)
      (newOutput : Output)
  -- windows
  | addWindow (window : Window) (target : AddWindowTarget) (isFloating : Bool)
      (activate : ActivateWindow)
  | removeWindow (window : WindowId) (landed : Output → Nat)
  | minimizeWindow (window : WindowId)
  | unminimizeWindow (window : WindowId) (activate : ActivateWindow)
  | setWindowSticky (window : WindowId) (sticky : Bool)
  | activateWindow (window : WindowId)
  | activateWindowWithoutRaising (window : WindowId)
  | toggleWindowFloating (window : Option WindowId)
  | setWindowFloating (window : Option WindowId) (floating : Bool)
  | moveToWorkspace (window : Option WindowId) (idx : Nat)
      (activate : ActivateWindow)
  | moveToOutput (window : Option WindowId) (output : Output)
      (targetWsIdx : Option Nat) (activate : ActivateWindow)
  | moveColumnToOutput (output : Output) (targetWsIdx : Option Nat)
      (activate : Bool)
  -- interactive move
  | interactiveMoveBegin (window : WindowId) (output : Output)
      (renderIdx : Output → ℚ)
  | interactiveMoveUpdate (window : WindowId) (output : Output)
      (pastThreshold : Bool) (landed : Output → Nat)
  | interactiveMoveEnd (window : WindowId) (drop : DropPoint)
      (landed : Output → Nat)
  -- gestures and time
  | workspaceSwitchGestureBegin (output : Output) (isTouchpad : Bool)
      (renderIdx : Output → ℚ) (landed : Output → Nat)
  | workspaceSwitchGestureUpdate (isTouchpad : Bool) (position : ℚ)
  | workspaceSwitchGestureEnd (isTouchpad : Option Bool) (landed : Nat)
  | dndScrollGestureScroll (output : Output) (forward : Bool) (position : ℚ)
  | advanceAnimations (isDone : Output → Bool)
  -- thumbnails
  | beginThumbDrag (geometry : StripGeometry) (output : Output) (idx : Nat)
      (pos : ℚ)
  | carryDraggedWorkspace (geometry : StripGeometry) (destination : Output)
      (pos : ℚ)
  | updateThumbDrag (geometry : StripGeometry) (output : Output) (pos : ℚ)
  | finishThumbDragOn (geometry : StripGeometry) (output : Output)
  | cancelThumbDrags (geometry : StripGeometry)
  | toggleOverview (geometry : StripGeometry)

/-- Whether the monitor has a gesture that an end by this device ends. -/
def Monitor.endsGesture (isTouchpad : Option Bool) : Bool :=
  match monitor.workspaceSwitch with
  | some (.gesture gesture) => isTouchpad.all (gesture.isTouchpad == ·)
  | _ => false

/-- Whether the monitor has a swipe that this device moves. -/
def Monitor.followsGesture (isTouchpad : Bool) : Bool :=
  match monitor.workspaceSwitch with
  | some (.gesture gesture) =>
    gesture.isTouchpad == isTouchpad && !gesture.isDndScroll
  | _ => false

namespace Layout

def closeWorkspace (layout : Layout) (id : WorkspaceId) : FreshM Layout :=
  layout.onFirstMonitor (Monitor.closeWorkspace · id)

/-- A gesture on one display ends the ones on the others. -/
def workspaceSwitchGestureBegin (layout : Layout) (output : Output)
    (isTouchpad : Bool) (renderIdx : Output → ℚ) (landed : Output → Nat) :
    FreshM Layout :=
  layout.onEveryMonitor fun monitor =>
    if monitor.output = output then
      return monitor.workspaceSwitchGestureBegin isTouchpad
        (renderIdx monitor.output)
    else
      monitor.workspaceSwitchGestureEnd none (landed monitor.output)

def workspaceSwitchGestureUpdate (layout : Layout) (isTouchpad : Bool)
    (position : ℚ) : FreshM Layout :=
  layout.onFirstMonitor fun monitor =>
    return (monitor.followsGesture isTouchpad,
      monitor.workspaceSwitchGestureUpdate isTouchpad position)

def workspaceSwitchGestureEnd (layout : Layout) (isTouchpad : Option Bool)
    (landed : Nat) : FreshM Layout :=
  layout.onFirstMonitor fun monitor => do
    let ended ← monitor.workspaceSwitchGestureEnd isTouchpad landed
    return (monitor.endsGesture isTouchpad, ended)

def apply (layout : Layout) : Op → FreshM Layout
  | .addOutput output windowingMode => layout.addOutput output windowingMode
  | .removeOutput output => layout.removeOutput output
  | .setPrimaryOutput output => pure (layout.setPrimaryOutput output)
  | .setDisplayOrder order => pure (layout.setDisplayOrder order)
  | .focusOutput output => pure (layout.focusOutput output)
  | .setPendingNamedWorkspaces workspaces =>
    pure (layout.setPendingNamedWorkspaces workspaces)
  | .insertRestoreWorkspace output home homeOrdinal => do
      let (_, layout) ← layout.insertRestoreWorkspace output home homeOrdinal
      return layout
  | .ensureRestoreWorkspace output idx => layout.ensureRestoreWorkspace output idx
  | .setWorkspaceName name reference => layout.setWorkspaceName name reference
  | .unsetWorkspaceName reference => layout.unsetWorkspaceName reference
  | .ensureNamedWorkspace name openOnOutput =>
    layout.ensureNamedWorkspace name openOnOutput
  | .onActiveMonitor op => layout.onActiveMonitor fun monitor => op.apply monitor
  | .closeWorkspace id => layout.closeWorkspace id
  | .moveWorkspaceToIdx reference newIdx =>
    layout.moveWorkspaceToIdx reference newIdx
  | .moveWorkspaceToOutput output => layout.moveWorkspaceToOutput output
  | .moveWorkspaceToOutputById oldIdx oldOutput newOutput =>
    layout.moveWorkspaceToOutputById oldIdx oldOutput newOutput
  | .addWindow window target isFloating activate =>
    layout.addWindow window target isFloating activate
  | .removeWindow window landed => do
      let (_, layout) ← layout.removeWindow window landed
      return layout
  | .minimizeWindow window => layout.minimizeWindow window
  | .unminimizeWindow window activate => layout.unminimizeWindow window activate
  | .setWindowSticky window sticky => layout.setWindowSticky window sticky
  | .activateWindow window => layout.activateWindow window
  | .activateWindowWithoutRaising window =>
    layout.activateWindowWithoutRaising window
  | .toggleWindowFloating window => layout.toggleWindowFloating window
  | .setWindowFloating window floating => layout.setWindowFloating window floating
  | .moveToWorkspace window idx activate =>
    layout.moveToWorkspace window idx activate
  | .moveToOutput window output targetWsIdx activate =>
    layout.moveToOutput window output targetWsIdx activate
  | .moveColumnToOutput output targetWsIdx activate =>
    layout.moveColumnToOutput output targetWsIdx activate
  | .interactiveMoveBegin window output renderIdx =>
    layout.interactiveMoveBegin window output renderIdx
  | .interactiveMoveUpdate window output pastThreshold landed =>
    layout.interactiveMoveUpdate window output pastThreshold landed
  | .interactiveMoveEnd window drop landed =>
    layout.interactiveMoveEnd window drop landed
  | .workspaceSwitchGestureBegin output isTouchpad renderIdx landed =>
    layout.workspaceSwitchGestureBegin output isTouchpad renderIdx landed
  | .workspaceSwitchGestureUpdate isTouchpad position =>
    layout.workspaceSwitchGestureUpdate isTouchpad position
  | .workspaceSwitchGestureEnd isTouchpad landed =>
    layout.workspaceSwitchGestureEnd isTouchpad landed
  | .dndScrollGestureScroll output forward position =>
    layout.onOutput output (Monitor.dndScrollGestureScroll · forward position)
  | .advanceAnimations isDone =>
    layout.onEveryMonitor fun monitor =>
    monitor.advanceAnimations (isDone monitor.output)
  | .beginThumbDrag geometry output idx pos =>
    layout.beginThumbDrag geometry output idx pos
  | .carryDraggedWorkspace geometry destination pos =>
    layout.carryDraggedWorkspace geometry destination pos
  | .updateThumbDrag geometry output pos =>
    layout.updateThumbDrag geometry output pos
  | .finishThumbDragOn geometry output =>
    layout.finishThumbDragOn geometry output
  | .cancelThumbDrags geometry => layout.cancelThumbDrags geometry
  | .toggleOverview geometry => layout.toggleOverview geometry

def applyAll : List Op → Layout → FreshM Layout
  | [], layout => pure layout
  | op :: ops, layout => do
      let layout ← layout.apply op
      applyAll ops layout

def withOptions (windowingMode : WindowingMode) : Layout :=
  { windowingMode }

end Layout

def firstWorkspaceId : Nat := 1

end Synoik
