import Synoik.Support.Table

/-!
# The event stream

What a client of the event stream keeps, how it folds an event into it, and the events that
replicate it. A part of the state applies an event, ignores it, or panics. Sizes, positions and
times are compared as values and are kept abstract.
-/

namespace Synoik.Ipc

structure Workspace where
  id : Nat
  idx : Nat
  name : Option String
  output : Option String
  isUrgent : Bool
  isActive : Bool
  isFocused : Bool
  activeWindowId : Option Nat

structure TiledEdges where
  left : Bool
  right : Bool
  top : Bool
  bottom : Bool
deriving DecidableEq

structure Window (Place Time : Type) where
  id : Nat
  title : Option String
  appId : Option String
  pid : Option Int
  workspaceId : Option Nat
  isFocused : Bool
  isFloating : Bool
  isUrgent : Bool
  isMinimized : Bool
  isMaximized : Bool
  isFullscreen : Bool
  isActivated : Bool
  tiledEdges : TiledEdges
  layout : Place
  focusTimestamp : Option Time

structure KeyboardLayouts where
  names : List String
  currentIdx : Nat

inductive CastKind where
  | pipeWire
  | wlrScreencopy

inductive CastTarget where
  | nothing
  | output (name : String)
  | window (id : Nat)

structure Cast where
  streamId : Nat
  sessionId : Nat
  kind : CastKind
  target : CastTarget
  isDynamicTarget : Bool
  isActive : Bool
  pid : Option Int
  pwNodeId : Option Nat

inductive Event (Place Time : Type) where
  | workspacesChanged (workspaces : List Workspace)
  | workspaceUrgencyChanged (id : Nat) (urgent : Bool)
  | workspaceActivated (id : Nat) (focused : Bool)
  | workspaceActiveWindowChanged (workspaceId : Nat) (activeWindowId : Option Nat)
  | windowsChanged (windows : List (Window Place Time))
  | windowOpenedOrChanged (window : Window Place Time)
  | windowClosed (id : Nat)
  | windowFocusChanged (id : Option Nat)
  | windowFocusTimestampChanged (id : Nat) (focusTimestamp : Option Time)
  | windowUrgencyChanged (id : Nat) (urgent : Bool)
  | windowLayoutsChanged (changes : List (Nat × Place))
  | keyboardLayoutsChanged (keyboardLayouts : KeyboardLayouts)
  | keyboardLayoutSwitched (idx : Nat)
  | overviewOpenedOrClosed (isOpen : Bool)
  | configLoaded (failed : Bool)
  | screenshotCaptured (path : Option String)
  | castsChanged (casts : List Cast)
  | castStartedOrChanged (cast : Cast)
  | castStopped (streamId : Nat)

/-- What a part of the state does with an event. -/
inductive Applied (Part : Type) where
  | ignored
  | applied (part : Part)
  | panicked

def Applied.ofOption {Part : Type} : Option Part → Applied Part
  | none => .panicked
  | some part => .applied part

variable {Place Time : Type}

abbrev WorkspacesState := Table Nat Workspace

namespace WorkspacesState

def replicate (state : WorkspacesState) : List (Event Place Time) :=
  [.workspacesChanged state.values]

/-- The workspace that is activated and those it takes the place of. -/
def activate (output : Option String) (id : Nat) (focused : Bool) (workspace : Workspace) :
    Workspace :=
  let gotActivated : Bool := workspace.id = id
  { workspace with
    isActive := if workspace.output = output then gotActivated else workspace.isActive
    isFocused := if focused then gotActivated else workspace.isFocused }

def apply (state : WorkspacesState) : Event Place Time → Applied WorkspacesState
  | .workspacesChanged workspaces => .applied (Table.collect Workspace.id workspaces)
  | .workspaceUrgencyChanged id urgent =>
    .applied (state.mapValues fun workspace =>
    if workspace.id = id then { workspace with isUrgent := urgent } else workspace)
  | .workspaceActivated id focused =>
    -- the activated workspace has to be in the map
    .ofOption ((state.lookup id).map fun workspace =>
    state.mapValues (activate workspace.output id focused))
  | .workspaceActiveWindowChanged workspaceId activeWindowId =>
    .ofOption ((state.lookup workspaceId).map fun workspace =>
    state.insert workspaceId { workspace with activeWindowId })
  | _ => .ignored

end WorkspacesState

abbrev WindowsState (Place Time : Type) := Table Nat (Window Place Time)

namespace WindowsState

variable (state : WindowsState Place Time)

def replicate : List (Event Place Time) := [.windowsChanged state.values]

/-- A window that opened or changed; a focused one takes the focus from the others. -/
def put (window : Window Place Time) : WindowsState Place Time :=
  let opened : WindowsState Place Time := state.insert window.id window
  if window.isFocused then
    opened.mapValues fun other =>
      if other.id ≠ window.id then { other with isFocused := false } else other
  else opened

def relayout (change : Nat × Place) : Option (WindowsState Place Time) :=
  (state.lookup change.1).map fun window =>
    state.insert change.1 { window with layout := change.2 }

def apply : Event Place Time → Applied (WindowsState Place Time)
  | .windowsChanged windows => .applied (Table.collect Window.id windows)
  | .windowOpenedOrChanged window => .applied (state.put window)
  | .windowClosed id =>
    .ofOption ((state.lookup id).map fun _ => state.erase id)
  | .windowFocusChanged id =>
    .applied (state.mapValues fun window =>
    { window with isFocused := some window.id = id })
  | .windowFocusTimestampChanged id focusTimestamp =>
    .applied (state.mapValues fun window =>
    if window.id = id then { window with focusTimestamp } else window)
  | .windowUrgencyChanged id urgent =>
    .applied (state.mapValues fun window =>
    if window.id = id then { window with isUrgent := urgent } else window)
  | .windowLayoutsChanged changes => .ofOption (changes.foldlM relayout state)
  | _ => .ignored

end WindowsState

abbrev KeyboardLayoutsState := Option KeyboardLayouts

namespace KeyboardLayoutsState

def replicate (state : KeyboardLayoutsState) : List (Event Place Time) :=
  match state with
  | some keyboardLayouts => [.keyboardLayoutsChanged keyboardLayouts]
  | none => []

def apply (state : KeyboardLayoutsState) : Event Place Time → Applied KeyboardLayoutsState
  | .keyboardLayoutsChanged keyboardLayouts => .applied (some keyboardLayouts)
  | .keyboardLayoutSwitched idx =>
    .ofOption (state.map fun layouts => some { layouts with currentIdx := idx })
  | _ => .ignored

end KeyboardLayoutsState

namespace OverviewState

def replicate (isOpen : Bool) : List (Event Place Time) := [.overviewOpenedOrClosed isOpen]

def apply : Event Place Time → Applied Bool
  | .overviewOpenedOrClosed isOpen => .applied isOpen
  | _ => .ignored

end OverviewState

namespace ConfigState

def replicate (failed : Bool) : List (Event Place Time) := [.configLoaded failed]

def apply : Event Place Time → Applied Bool
  | .configLoaded failed => .applied failed
  | _ => .ignored

end ConfigState

abbrev CastsState := Table Nat Cast

namespace CastsState

def replicate (state : CastsState) : List (Event Place Time) := [.castsChanged state.values]

def apply (state : CastsState) : Event Place Time → Applied CastsState
  | .castsChanged casts => .applied (Table.collect Cast.streamId casts)
  | .castStartedOrChanged cast => .applied (state.insert cast.streamId cast)
  | .castStopped streamId =>
    .ofOption ((state.lookup streamId).map fun _ => state.erase streamId)
  | _ => .ignored

end CastsState

structure EventStreamState (Place Time : Type) where
  workspaces : WorkspacesState := ∅
  windows : WindowsState Place Time := ∅
  keyboardLayouts : KeyboardLayoutsState := none
  overviewIsOpen : Bool := false
  configFailed : Bool := false
  casts : CastsState := ∅

namespace EventStreamState

def replicate (state : EventStreamState Place Time) : List (Event Place Time) :=
  WorkspacesState.replicate state.workspaces ++ WindowsState.replicate state.windows ++
    KeyboardLayoutsState.replicate state.keyboardLayouts ++
    OverviewState.replicate state.overviewIsOpen ++ ConfigState.replicate state.configFailed ++
    CastsState.replicate state.casts

/-- The event goes to the next part as long as it is ignored; `none` is a panic. -/
def apply (state : EventStreamState Place Time)
    (event : Event Place Time) :
    Option (EventStreamState Place Time) :=
  match WorkspacesState.apply state.workspaces event with
  | .panicked => none
  | .applied workspaces => some { state with workspaces }
  | .ignored =>
  match WindowsState.apply state.windows event with
  | .panicked => none
  | .applied windows => some { state with windows }
  | .ignored =>
  match KeyboardLayoutsState.apply state.keyboardLayouts event with
  | .panicked => none
  | .applied keyboardLayouts => some { state with keyboardLayouts }
  | .ignored =>
  match OverviewState.apply event with
  | .panicked => none
  | .applied overviewIsOpen => some { state with overviewIsOpen }
  | .ignored =>
  match ConfigState.apply event with
  | .panicked => none
  | .applied configFailed => some { state with configFailed }
  | .ignored =>
  match CastsState.apply state.casts event with
  | .panicked => none
  | .applied casts => some { state with casts }
  | .ignored => some state

/-- A client folds the events of the stream one after the other. -/
def follow (state : EventStreamState Place Time)
    (events : List (Event Place Time)) :
    Option (EventStreamState Place Time) :=
  events.foldlM apply state

end EventStreamState

end Synoik.Ipc
