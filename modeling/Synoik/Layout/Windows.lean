import Synoik.Layout.Hotplug

/-!
# Windows, spaces and thumbnails across monitors

The operations that move a window, a column or a workspace from one monitor to
another, the interactive move with its holding slot, and the thumbnail drag
across displays.
-/

namespace Synoik

open FreshM

inductive AddWindowTarget where
  | auto
  | output (output : Output)
  | workspace (id : WorkspaceId)
  | nextTo (window : WindowId)

/-- Where a drop lands: on a workspace, or on a new one before a position. -/
inductive InsertWorkspace where
  | existing (id : WorkspaceId)
  | newAt (idx : Nat)

inductive EdgeTileTarget where
  | tile (side : TileSide)
  | maximize

inductive InsertPosition where
  | newColumn (columnIdx : Nat)
  | inColumn (columnIdx tileIdx : Nat)
  | floating
  | edgeTile (target : EdgeTileTarget)

/-- What is under the pointer when a dragged window is released: whether it is
a thumbnail of the strip, the workspace, the position among its columns and the
work-area edge, if any. -/
structure DropPoint where
  viaStrip : Bool
  insertWs : InsertWorkspace
  scrollingPosition : InsertPosition
  edge : Option EdgeTileTarget

namespace Layout

variable (layout : Layout)

def movingTile : Option Tile :=
  match layout.interactiveMove with
  | some (.moving data) => some data.tile
  | _ => none

variable (window : WindowId)

def isMoving : Bool := layout.movingTile.any fun tile => tile.id == window

/-- An operation aimed at the moved window, or at whatever is active, does
nothing while a window is being moved. -/
def moveHolds (window : Option WindowId) : Bool :=
  layout.movingTile.any fun tile => window.all fun window => tile.id == window

def setActiveMonitor (idx : Nat) : Layout :=
  match layout.monitorSet with
  | .normal monitors primaryIdx _ =>
    { layout with monitorSet := .normal monitors primaryIdx idx }
  | .noOutputs _ => layout

variable (monitors : List Monitor)

/-- The monitor a new window goes to, and its target there. -/
def resolveAddTarget (activeMonitorIdx : Nat) :
    AddWindowTarget → Option (Nat × MonitorAddWindowTarget)
  | .auto => some (activeMonitorIdx, .auto)
  | .output output => do
      let idx ← monitors.findIdx? fun monitor => monitor.output == output
      return (idx, .auto)
  | .workspace id => do
      let (idx, _) ← locateIn (fun ws => ws.id == id) monitors 0
      return (idx, .workspace id none)
  | .nextTo window =>
    match layout.interactiveMove with
    | some (.moving data) =>
      if data.tile.id = window then
        some ((monitors.findIdx? fun monitor =>
          monitor.output == data.output).getD activeMonitorIdx, .auto)
      else do
        let (idx, _) ← locateIn (fun ws => ws.hasWindow window) monitors 0
        return (idx, .nextTo window)
    | _ => do
        let (idx, _) ← locateIn (fun ws => ws.hasWindow window) monitors 0
        return (idx, .nextTo window)

/-- The loose workspaces, with one to put a window on. -/
def looseWithRoom (workspaces : List Workspace) : FreshM (List Workspace) :=
  if workspaces.isEmpty then do
    let id ← fresh
    return [Workspace.newNoOutputs id]
  else
    pure workspaces

/-- A new window without displays goes to a loose workspace. -/
def addLoose (workspaces : List Workspace) (idx : Nat) (tile : Tile)
    (target : WorkspaceAddWindowTarget) (activate : ActivateWindow) (isFloating : Bool) :
    FreshM Layout := do
  let workspaces ← unwrap (Vec.updateAt workspaces idx fun ws =>
    ws.addTile layout.windowingMode tile target activate isFloating)
  return { layout with monitorSet := .noOutputs workspaces }

def addWindow (window : Window) (target : AddWindowTarget) (isFloating : Bool)
    (activate : ActivateWindow) : FreshM Layout :=
  let tile : Tile := { window }
  match layout.monitorSet with
  | .normal monitors _ activeMonitorIdx => do
      let (monitorIdx, target) ←
        unwrap (layout.resolveAddTarget monitors activeMonitorIdx target)
      let layout ← layout.updateMonitor monitorIdx fun monitor =>
        monitor.addTile tile target activate true isFloating
      if activate.mapSmart false then
        return layout.setActiveMonitor monitorIdx
      else
        return layout
  | .noOutputs workspaces =>
    match target with
    | .auto => do
        let workspaces ← looseWithRoom workspaces
        layout.addLoose workspaces 0 tile .auto activate isFloating
    | .output _ => abort
    | .workspace id => do
        let idx ← unwrap (workspaces.findIdx? fun ws => ws.id == id)
        layout.addLoose workspaces idx tile .auto activate isFloating
    | .nextTo nextTo =>
      if layout.isMoving nextTo then do
        let workspaces ← looseWithRoom workspaces
        layout.addLoose workspaces 0 tile .auto activate isFloating
      else do
        let idx ← unwrap (workspaces.findIdx? fun ws => ws.hasWindow nextTo)
        layout.addLoose workspaces idx tile (.nextTo nextTo) activate
          isFloating

/-- Ends the edge scrolling of a drag on every monitor; `landed` is where each
display's momentum points. -/
def endDndScroll (landed : Output → Nat) : FreshM Layout :=
  layout.onEveryMonitor fun monitor =>
    monitor.dndScrollGestureEnd (landed monitor.output)

/-- An interactive move that never got going: the window stays, focused as it
was. -/
def cancelStartingMove (landed : Output → Nat) : FreshM Layout := do
  let layout ← endDndScroll { layout with interactiveMove := none } landed
  layout.updateFirst (fun ws => ws.activeWindow.any fun win => win.id == window)
    fun mode ws => (ws.activateWindow mode window).map Prod.snd

/-- Takes a window off the workspace that holds it. Without displays a
workspace left unused goes too. -/
def takeWindow : FreshM (Option RemovedTile × Layout) :=
  match layout.monitorSet with
  | .normal monitors primaryIdx activeMonitorIdx =>
    match locateIn (fun ws => ws.holdsWindow window) monitors 0 with
    | none => pure (none, layout)
    | some (monitorIdx, wsIdx) => do
        let monitor ← unwrap monitors[monitorIdx]?
        let ws ← unwrap monitor.workspaces[wsIdx]?
        let (removed, ws) ← unwrap (ws.removeTile window)
        let monitor :=
          { monitor with workspaces := monitor.workspaces.set wsIdx ws }
        return (some removed,
          { layout with
            monitorSet := .normal (monitors.set monitorIdx monitor)
              primaryIdx activeMonitorIdx })
  | .noOutputs workspaces =>
    match workspaces.findIdx? fun ws => ws.holdsWindow window with
    | none => pure (none, layout)
    | some idx => do
        let ws ← unwrap workspaces[idx]?
        let (removed, ws) ← unwrap (ws.removeTile window)
        return (some removed,
          { layout with
            monitorSet := .noOutputs
              (if ws.hasWindowsOrName then workspaces.set idx ws
              else workspaces.eraseIdx idx) })

def removeWindow (landed : Output → Nat) : FreshM (Option RemovedTile × Layout) :=
  match layout.interactiveMove with
  | some (.moving data) =>
    if data.tile.id = window then do
      let layout ← endDndScroll { layout with interactiveMove := none } landed
      return (some { tile := data.tile, isFloating := false }, layout)
    else
      layout.takeWindow window
  | some (.starting id) =>
    if id = window then do
      let layout ← layout.cancelStartingMove window landed
      layout.takeWindow window
    else
      layout.takeWindow window
  | none => layout.takeWindow window

def minimizeWindow : FreshM Layout :=
  if layout.isMoving window then
    pure layout
  else
    layout.updateFirst
      (fun ws => !ws.isMinimized window && ws.hasWindow window)
      fun _ ws => ws.minimize window

def unminimizeWindow (activate : ActivateWindow) : FreshM Layout :=
  layout.updateFirst (fun ws => ws.isMinimized window) fun mode ws =>
    ws.unminimize mode window activate

def setWindowSticky (layout : Layout) (window : WindowId) (sticky : Bool) : FreshM Layout :=
  layout.onFirstMonitor (Monitor.setWindowSticky · window sticky)

variable (monitor : Monitor)

/-- Switches to the workspace of an activated window, unless a gesture already
shows it. -/
def showActivated (wsIdx : Nat) : FreshM Monitor :=
  match monitor.workspaceSwitch with
  | some (.gesture gesture) =>
    if ⌊gesture.currentIdx⌋ = wsIdx ∨ ⌈gesture.currentIdx⌉ = wsIdx then
      pure monitor
    else
      monitor.switchWorkspace wsIdx
  | _ => monitor.switchWorkspace wsIdx

/-- Focuses a window wherever it is; `activate` is the workspace's way to. -/
def activateWith (activate : WindowingMode → Workspace → Option Workspace) : FreshM Layout :=
  if layout.isMoving window then
    pure layout
  else
    match locateIn (fun ws => ws.holdsWindow window) layout.monitors 0 with
    | none => pure layout
    | some (monitorIdx, wsIdx) => do
        let layout ← layout.updateMonitor monitorIdx fun monitor => do
          let monitor ←
            monitor.updateWorkspace wsIdx (activate monitor.windowingMode)
          showActivated monitor wsIdx
        return layout.setActiveMonitor monitorIdx

def activateWindow (layout : Layout) (window : WindowId) : FreshM Layout :=
  layout.activateWith window fun mode ws =>
    (ws.activateWindow mode window).map Prod.snd

def activateWindowWithoutRaising (layout : Layout) (window : WindowId) : FreshM Layout :=
  layout.activateWith window fun mode ws =>
    (ws.activateWindowWithoutRaising mode window).map Prod.snd

/-- The moved window changes halves while it is in the air. -/
def toggleMovingFloating : Layout :=
  match layout.interactiveMove with
  | some (.moving data) =>
    { layout with
      interactiveMove := some (.moving
        { data with
          isFloating := !data.isFloating
          tile :=
            if data.isFloating then data.tile
            else data.tile.requestSizing .normal }) }
  | _ => layout

/-- Applies a change to the workspace that lays the window out, or to the
active one. -/
def onWindowWorkspace (window : Option WindowId)
    (change : WindowingMode → Workspace → Option Workspace) : FreshM Layout :=
  match window with
  | some window =>
    if layout.workspaces.any fun ws => ws.hasWindow window then
      layout.updateFirst (fun ws => ws.hasWindow window) change
    else
      abort
  | none =>
    layout.onActiveMonitor fun monitor =>
    monitor.updateWorkspace monitor.activeWorkspaceIdx
      (change monitor.windowingMode)

def toggleWindowFloating (layout : Layout) (window : Option WindowId) : FreshM Layout :=
  if layout.moveHolds window then
    pure layout.toggleMovingFloating
  else
    layout.onWindowWorkspace window fun mode ws =>
      ws.toggleWindowFloating mode window

def setWindowFloating (layout : Layout) (window : Option WindowId)
    (floating : Bool) : FreshM Layout :=
  if layout.moveHolds window then
    match layout.interactiveMove with
    | some (.moving data) =>
      if data.isFloating = floating then pure layout
      else pure layout.toggleMovingFloating
    | _ => pure layout
  else
    layout.onWindowWorkspace window fun mode ws =>
      ws.setWindowFloating mode window floating

def moveToWorkspace (layout : Layout) (window : Option WindowId) (idx : Nat)
    (activate : ActivateWindow) : FreshM Layout :=
  if layout.moveHolds window then
    pure layout
  else
    match layout.monitorSet, window with
    | .noOutputs _, _ => pure layout
    | .normal monitors _ _, some window => do
        let (monitorIdx, _) ←
          unwrap (locateIn (fun ws => ws.holdsWindow window) monitors 0)
        layout.updateMonitor monitorIdx
          (Monitor.moveToWorkspace · (some window) idx activate)
    | .normal _ _ _, none =>
      layout.onActiveMonitor (Monitor.moveToWorkspace · none idx activate)

/-- Where a window to be moved is: its own place, or the active workspace. -/
def locateForMove (activeMonitorIdx : Nat) : Option WindowId → Option (Nat × Nat)
  | some window => locateIn (fun ws => ws.hasWindow window) monitors 0
  | none => do
      let monitor ← monitors[activeMonitorIdx]?
      return (activeMonitorIdx, monitor.activeWorkspaceIdx)

def takeTile (ws : Workspace) : Option WindowId →
    FreshM (Option (RemovedTile × Workspace))
  | some window => do
      let taken ← unwrap (ws.removeTile window)
      return some taken
  | none => return ws.removeActiveTile

def moveToOutput (window : Option WindowId) (output : Output) (targetWsIdx : Option Nat)
    (activate : ActivateWindow) : FreshM Layout :=
  if layout.moveHolds window then
    pure layout
  else
    match layout.monitorSet with
    | .noOutputs _ => pure layout
    | .normal monitors primaryIdx activeMonitorIdx => do
        let newIdx ←
          unwrap (monitors.findIdx? fun monitor => monitor.output == output)
        let (monitorIdx, wsIdx) ←
          unwrap (locateForMove monitors activeMonitorIdx window)
        let target ← unwrap monitors[newIdx]?
        let targetWsIdx := targetWsIdx.getD target.activeWorkspaceIdx
        if (monitorIdx = newIdx ∧ wsIdx = targetWsIdx) ∨
            target.workspaces.length ≤ targetWsIdx then
          return layout
        else
          let targetWs ← unwrap target.workspaces[targetWsIdx]?
          let source ← unwrap monitors[monitorIdx]?
          let activate := activate.mapSmart
            (window.all fun window =>
              monitorIdx == activeMonitorIdx && source.activeWindow.any fun win => win.id == window)
          let ws ← unwrap source.workspaces[wsIdx]?
          match ← takeTile ws window with
          | none => return layout
          | some (removed, ws) =>
            let source :=
              { source with workspaces := source.workspaces.set wsIdx ws }
            let layout :=
              { layout with
                monitorSet := .normal (monitors.set monitorIdx source)
                  primaryIdx activeMonitorIdx }
            let layout ← layout.updateMonitor newIdx fun target =>
              target.addTile removed.tile (.workspace targetWs.id none)
                (if activate then .yes else .no) true removed.isFloating
            let layout :=
              if activate then layout.setActiveMonitor newIdx else layout
            layout.updateMonitor monitorIdx Monitor.cleanUpIfIdle

def moveColumnToOutput (output : Output) (targetWsIdx : Option Nat) (activate : Bool) :
    FreshM Layout :=
  match layout.monitorSet with
  | .noOutputs _ => pure layout
  | .normal monitors primaryIdx activeMonitorIdx => do
      let newIdx ←
        unwrap (monitors.findIdx? fun monitor => monitor.output == output)
      let current ← unwrap monitors[activeMonitorIdx]?
      let ws ← unwrap current.activeWorkspace
      if ws.floatingIsActive.get then
        layout.moveToOutput none output none .smart
      else
        match ws.removeActiveColumn with
        | none => return layout
        | some (column, ws) =>
          let current :=
            { current with
              workspaces := current.workspaces.set current.activeWorkspaceIdx ws }
          let layout :=
            { layout with
              monitorSet := .normal (monitors.set activeMonitorIdx current)
                primaryIdx activeMonitorIdx }
          let layout ← layout.updateMonitor newIdx fun target =>
            target.addColumn
              (min (targetWsIdx.getD target.activeWorkspaceIdx)
                (target.workspaces.length - 1))
              column activate
          if activate then
            return layout.setActiveMonitor newIdx
          else
            return layout

/-- Makes a display the home of one of its workspaces, without renumbering. -/
def setHomeHere (idx : Nat) : Monitor :=
  { monitor with
    workspaces := monitor.workspaces.modify idx fun ws =>
      { ws with originalOutput := .fromOutput monitor.output } }

def moveWorkspaceToOutputById (oldIdx : Nat) (oldOutput : Option Output)
    (newOutput : Output) : FreshM Layout :=
  match layout.monitorSet with
  | .noOutputs _ => pure layout
  | .normal monitors primaryIdx activeMonitorIdx => do
      let currentIdx ← unwrap
        (match oldOutput with
        | some output => monitors.findIdx? fun monitor => monitor.output == output
        | none => some activeMonitorIdx)
      let targetIdx ←
        unwrap (monitors.findIdx? fun monitor => monitor.output == newOutput)
      let current ← unwrap monitors[currentIdx]?
      if current.workspaces.length ≤ oldIdx then
        return layout
      else if currentIdx = targetIdx then
        layout.updateMonitor currentIdx fun monitor =>
          return setHomeHere monitor oldIdx
      else
        let activate :=
          currentIdx == activeMonitorIdx && oldIdx == current.activeWorkspaceIdx
        let (ws, current) ← current.removeWorkspaceByIdx oldIdx
        let ws := { ws with originalOutput := .fromOutput newOutput }
        let layout :=
          { layout with
            monitorSet := .normal (monitors.set currentIdx current)
              primaryIdx activeMonitorIdx }
        let layout ← layout.updateMonitor targetIdx fun target =>
          target.insertWorkspace ws (target.activeWorkspaceIdx + 1) activate
        if activate then
          return layout.setActiveMonitor targetIdx
        else
          return layout

def moveWorkspaceToOutput (output : Output) : FreshM Layout :=
  match layout.monitorSet with
  | .noOutputs _ => pure layout
  | .normal monitors _ activeMonitorIdx => do
      let monitor ← unwrap monitors[activeMonitorIdx]?
      layout.moveWorkspaceToOutputById monitor.activeWorkspaceIdx none output

/-- `reference` names a position, on the given display or on the active one;
without it the active workspace moves. -/
def moveWorkspaceToIdx (layout : Layout)
    (reference : Option (Option Output × Nat)) (newIdx : Nat) :
    FreshM Layout :=
  match reference with
  | some (some output, oldIdx) =>
    layout.onOutput output (Monitor.moveWorkspaceToIdx · oldIdx newIdx)
  | some (none, oldIdx) =>
    layout.onActiveMonitor (Monitor.moveWorkspaceToIdx · oldIdx newIdx)
  | none =>
    layout.onActiveMonitor fun monitor =>
    monitor.moveWorkspaceToIdx monitor.activeWorkspaceIdx newIdx

def interactiveMoveBegin (output : Output) (renderIdx : Output → ℚ) : FreshM Layout :=
  if layout.interactiveMove.isSome then
    pure layout
  else
    match locateIn (fun ws => ws.hasWindow window) layout.monitors 0 with
    | none => pure layout
    | some (monitorIdx, _) =>
      if (layout.monitors[monitorIdx]?).any fun monitor =>
          monitor.output == output then
        onEveryMonitor
          { layout with interactiveMove := some (.starting window) }
          fun monitor =>
            return monitor.dndScrollGestureBegin (renderIdx monitor.output)
      else
        pure layout

/-- Follows the pointer.  `pastThreshold` says whether it has moved far enough
to pick the window up, which in the window picker it always has. -/
def interactiveMoveUpdate (output : Output) (pastThreshold : Bool)
    (landed : Output → Nat) : FreshM Layout :=
  match layout.interactiveMove with
  | none => pure layout
  | some (.starting id) =>
    let inExpose := layout.windowingMode == .floating && layout.overviewOpen
    if id ≠ window then
      pure layout
    else if !layout.workspaces.any fun ws => ws.hasWindow window then
      abort
    else if !inExpose && !pastThreshold then
      pure layout
    else do
      let layout := { layout with interactiveMove := none }
      let layout ←
        if inExpose then
          pure layout
        else do
          let layout ← layout.updateFirst (fun ws => ws.hasWindow window)
            fun mode ws => ws.unsetFullscreen mode window
          layout.updateFirst (fun ws => ws.hasWindow window)
            fun mode ws => ws.unsetMaximized mode window
      let (removed, layout) ← layout.removeWindow window landed
      let removed ← unwrap removed
      return { layout with
        interactiveMove := some (.moving
          { tile := removed.tile, output, isFloating := removed.isFloating }) }
  | some (.moving data) =>
    if data.tile.id ≠ window then
      pure layout
    else if data.output = output then
      pure layout
    else
      pure (focusOutput
        { layout with
          interactiveMove := some (.moving { data with output }) } output)

/-- The position a drop takes on its workspace. -/
def dropPosition (drop : DropPoint) (mode : WindowingMode)
    (floats edgeTiling : Bool) : InsertPosition :=
  match drop.insertWs with
  | .existing _ =>
    if floats then
      match drop.edge with
      | some target =>
        if edgeTiling && mode == .floating then .edgeTile target
        else .floating
      | none => .floating
    else
      drop.scrollingPosition
  | .newAt _ => if floats then .floating else .newColumn 0

/-- The workspace a drop lands on, made if need be. -/
def dropWorkspace : InsertWorkspace → FreshM (Nat × Monitor)
  | .existing id => do
      let idx ← unwrap (monitor.positionOf id)
      return (idx, monitor)
  | .newAt idx =>
    if monitor.workspaces.length - 1 ≤ idx then
      pure (monitor.workspaces.length - 1, monitor)
    else do
      let monitor ← monitor.addWorkspaceAt idx
      return (idx, monitor)

def dropTile (tile : Tile) (insertWs : InsertWorkspace) (position : InsertPosition)
    (allowToActivateWorkspace : Bool) : FreshM Monitor := do
  let (wsIdx, monitor) ← dropWorkspace monitor insertWs
  let ws ← unwrap monitor.workspaces[wsIdx]?
  match position with
  | .newColumn columnIdx =>
    monitor.addTile tile (.workspace ws.id (some columnIdx)) .yes
      allowToActivateWorkspace false
  | .inColumn columnIdx tileIdx =>
    monitor.addTileToColumn wsIdx columnIdx (some tileIdx) tile true
      allowToActivateWorkspace
  | .floating =>
    monitor.addTile tile (.workspace ws.id none) .yes
      allowToActivateWorkspace true
  | .edgeTile target => do
      let monitor ← monitor.addTile tile (.workspace ws.id none) .yes
        allowToActivateWorkspace true
      let idx ← unwrap (monitor.positionOf ws.id)
      monitor.updateWorkspace idx fun ws =>
        some { ws with
          floating :=
            match target with
            | .tile side => ws.floating.toggleTiled tile.id side
            | .maximize => ws.floating.setMaximized tile.id true }

/-- Ends a move on the window in the air. -/
def dropMoving (data : InteractiveMoveData) (drop : DropPoint) : FreshM Layout :=
  let aside := layout.overviewOpen || drop.viaStrip
  let floats :=
    data.isFloating || (aside && layout.windowingMode == .floating)
  match layout.monitorSet with
  | .normal monitors _ activeMonitorIdx =>
    match monitors.findIdx? fun monitor => monitor.output == data.output with
    | some idx =>
      layout.updateMonitor idx fun monitor =>
      dropTile monitor data.tile drop.insertWs
        (dropPosition drop monitor.windowingMode floats (!aside)) (!aside)
    | none =>
      layout.updateMonitor activeMonitorIdx fun monitor => do
        let ws ← unwrap monitor.workspaces[0]?
        dropTile monitor data.tile (.existing ws.id)
          (if floats then .floating else drop.scrollingPosition) (!aside)
  | .noOutputs workspaces => do
      let workspaces ← looseWithRoom workspaces
      layout.addLoose workspaces 0 data.tile .auto .yes data.isFloating

def interactiveMoveEnd (drop : DropPoint) (landed : Output → Nat) : FreshM Layout :=
  match layout.interactiveMove with
  | none => pure layout
  | some (.starting id) =>
    if id = window then layout.cancelStartingMove window landed
    else pure layout
  | some (.moving data) =>
    if data.tile.id = window then do
      let layout ← endDndScroll { layout with interactiveMove := none } landed
      layout.dropMoving data drop
    else
      pure layout

def beginThumbDrag (layout : Layout) (geometry : StripGeometry)
    (output : Output) (idx : Nat) (pos : ℚ) : FreshM Layout :=
  layout.onOutput output fun monitor =>
    return (monitor.beginThumbDrag geometry idx pos).2

def updateThumbDrag (layout : Layout) (geometry : StripGeometry)
    (output : Output) (pos : ℚ) : FreshM Layout :=
  layout.onOutput output (Monitor.updateThumbDrag · geometry pos)

def draggingIdx : Option Nat := monitors.findIdx? fun monitor => monitor.thumbDrag.isSome

/-- Records where a carry came from and how full the display it leaves was;
what is already recorded stays. -/
def noteCarry (carry : Option ThumbCarry) (source : Output) (wasAt : Nat)
    (count : Nat) : ThumbCarry :=
  let carry := carry.getD { origin := (source, wasAt) }
  if carry.counts.any fun entry => entry.1 == source.name then
    carry
  else
    { carry with counts := carry.counts ++ [(source.name, count)] }

/-- How many workspaces a display had before the carry left it, if it did. -/
def ThumbCarry.countOf (carry : ThumbCarry) (output : Output) : Option Nat :=
  (carry.counts.find? fun entry => entry.1 == output.name).map Prod.snd

variable (geometry : StripGeometry)

def carryDraggedWorkspace (destination : Output) (pos : ℚ) : FreshM Layout :=
  match layout.monitorSet with
  | .noOutputs _ => pure layout
  | .normal monitors primaryIdx activeMonitorIdx =>
    match draggingIdx monitors, monitors.findIdx? fun monitor => monitor.output == destination with
    | some fromIdx, some toIdx =>
      if fromIdx = toIdx then
        pure layout
      else do
        let source ← unwrap monitors[fromIdx]?
        match ← source.takeDraggedWorkspace geometry with
        | none => return layout
        | some (ws, wasAt, frac, left) =>
          let carry := noteCarry layout.thumbCarry source.output wasAt
            source.workspaces.length
          let target ← unwrap monitors[toIdx]?
          let target ← target.takeOverDraggedWorkspace geometry ws
            (target.thumbDropIdx geometry pos) frac pos
            (ThumbCarry.countOf carry target.output)
          return { layout with
            thumbCarry := some carry
            monitorSet :=
              .normal ((monitors.set fromIdx left).set toIdx target)
                primaryIdx activeMonitorIdx }
    | _, _ => pure layout

def finishThumbDragOn (output : Output) : FreshM Layout :=
  match layout.monitorSet, layout.monitorIdx output with
  | .normal monitors primaryIdx activeMonitorIdx, some monitorIdx => do
      let monitor ← unwrap monitors[monitorIdx]?
      let (landed, monitor) ← monitor.finishThumbDrag geometry
      let settled := fun monitor : Monitor =>
        { layout with
          monitorSet := .normal (monitors.set monitorIdx monitor)
            primaryIdx activeMonitorIdx }
      match landed, layout.thumbCarry with
      | none, _ => return settled monitor
      | some _, none => return settled monitor
      | some idx, some carry =>
        if carry.origin.1 = output then
          return { settled monitor with thumbCarry := none }
        else
          return focusOutput
            { settled (monitor.rehomeWorkspace idx) with thumbCarry := none }
            output
  | _, _ => pure layout

/-- Takes a carried workspace back to where it was picked up. -/
def returnCarried (geometry : StripGeometry) (carry : ThumbCarry) : FreshM (List Monitor) :=
  match draggingIdx monitors, monitors.findIdx? fun monitor => monitor.output == carry.origin.1 with
  | some holderIdx, some homeIdx =>
    if holderIdx = homeIdx then
      pure monitors
    else do
      let holder ← unwrap monitors[holderIdx]?
      match ← holder.takeDraggedWorkspace geometry with
      | none => return monitors
      | some (ws, _, _, left) =>
        let home ← unwrap monitors[homeIdx]?
        let home ← home.insertWorkspace ws carry.origin.2 false
        let home ←
          match ThumbCarry.countOf carry home.output with
          | some n => home.shedCarryPaddingTo n
          | none => pure home
        return (monitors.set holderIdx left).set homeIdx home
  | _, _ => pure monitors

def cancelThumbDrags : FreshM Layout :=
  match layout.monitorSet with
  | .noOutputs _ => pure { layout with thumbCarry := none }
  | .normal monitors primaryIdx activeMonitorIdx => do
      let monitors ←
        match layout.thumbCarry with
        | some carry => returnCarried monitors geometry carry
        | none => pure monitors
      return { layout with
        thumbCarry := none
        monitorSet := .normal (monitors.map Monitor.cancelThumbDrag)
          primaryIdx activeMonitorIdx }

/-- Opens or closes the overview; closing it cancels the drags on its strip. -/
def toggleOverview : FreshM Layout := do
  let overviewOpen := !layout.overviewOpen
  let layout ← onEveryMonitor { layout with overviewOpen } fun monitor =>
    return { monitor with overviewOpen }
  if overviewOpen then return layout else layout.cancelThumbDrags geometry

end Layout

end Synoik
