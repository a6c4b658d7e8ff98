import Synoik.Layout.Floating
import Synoik.Layout.Scrolling

/-!
# Workspaces

A workspace holds windows in three places: scrolling columns, the floating
stack and the list of minimized ones. It remembers the display it belongs to
(`originalOutput`) and its rank among that display's spaces
(`homeOrdinal`), which is how it finds its way back after a hotplug.

Operations that panic in the source answer `none`.
-/

namespace Synoik

/-- Which half of the workspace has the focus, and whether the floating half is
drawn on top while it does not. -/
inductive FloatingActive where
  | no
  | noButRaised
  | yes
deriving DecidableEq

def FloatingActive.get (self : FloatingActive) : Bool := self == .yes

inductive Home where
  | floating
  | scrolling
  | minimized
deriving DecidableEq

structure Workspace where
  id : WorkspaceId
  originalOutput : OutputIdentity
  output : Option Output := none
  name : Option String := none
  homeOrdinal : Nat := 0
  claimed : Bool := false
  scrolling : ScrollingSpace := {}
  floating : FloatingSpace := {}
  floatingIsActive : FloatingActive := .no
  minimized : List RemovedTile := []

inductive WorkspaceAddWindowTarget where
  | auto
  | newColumnAt (colIdx : Nat)
  | nextTo (window : WindowId)

namespace Workspace

def new (id : WorkspaceId) (output : Output) : Workspace :=
  { id, originalOutput := .fromOutput output, output := some output }

def newNoOutputs (id : WorkspaceId) : Workspace :=
  { id, originalOutput := .fromConnector "" }

def tiles (ws : Workspace) : List Tile :=
  ws.scrolling.tiles ++ ws.floating.tiles ++ ws.minimized.map RemovedTile.tile

variable (ws : Workspace)

variable (id : WindowId)

def isMinimized : Bool := ws.minimized.any fun parked => parked.tile.id == id

/-- Laid out, that is not minimized. -/
def hasWindow : Bool := (ws.scrolling.tiles ++ ws.floating.tiles).any fun tile => tile.id == id

def holdsWindow : Bool := ws.tiles.any fun tile => tile.id == id

def homeOf : Option Home :=
  if ws.floating.hasWindow id then some .floating
  else if ws.scrolling.tiles.any fun tile => tile.id == id then some .scrolling
  else if ws.isMinimized id then some .minimized
  else none

def hasWindows : Bool := !ws.tiles.isEmpty

def hasWindowsOrName : Bool := ws.hasWindows || ws.name.isSome

/-- Worth keeping: used, named, or claimed for a restore slot. -/
def isSubstantial : Bool := ws.hasWindowsOrName || ws.claimed

def activeWindow (ws : Workspace) : Option Window :=
  if ws.floatingIsActive.get then ws.floating.activeWindow
  else ws.scrolling.activeWindow

def adoptHome (output : Output) : Workspace :=
  if ws.originalOutput.isEmpty || ws.originalOutput.matchesOutput output then
    { ws with originalOutput := .fromOutput output }
  else
    ws

def claimFor (home : OutputIdentity) (homeOrdinal : Nat) : Workspace :=
  { ws with originalOutput := home, homeOrdinal, claimed := true }

def setOutput (output : Option Output) : Workspace :=
  if ws.output = output then
    ws
  else
    match output with
    | none => { ws with output := none }
    | some display =>
      if ws.originalOutput.matchesOutput display then
        { ws with
          output := some display
          originalOutput := .fromOutput display }
      else
        { ws with output := some display }

def unname : Workspace :=
  { ws with name := none }

/-- A target next to a window that is not laid out here is no target. -/
def resolveTarget : WorkspaceAddWindowTarget → WorkspaceAddWindowTarget
  | .nextTo window => if ws.hasWindow window then .nextTo window else .auto
  | other => other

variable (mode : WindowingMode)

def addFloating (tile : Tile) (activate takesFocus : Bool) : Option Workspace := do
  let floating ← ws.floating.addTile mode tile activate
  return { ws with
    floating
    floatingIsActive := if takesFocus then .yes else ws.floatingIsActive }

def addScrolling (colIdx : Option Nat) (tile : Tile) (activate : Bool) : Option Workspace := do
  let scrolling ← ws.scrolling.addTile colIdx tile activate
  return { ws with
    scrolling
    floatingIsActive := if activate then .no else ws.floatingIsActive }

def addTile (tile : Tile) (target : WorkspaceAddWindowTarget)
    (activate : ActivateWindow) (isFloating : Bool) : Option Workspace :=
  let gnomeMode := mode == .floating
  let isFloating := isFloating || gnomeMode
  let opensFloating :=
    isFloating && (gnomeMode || tile.window.pendingSizingMode == .normal)
  let tile := { tile with restoreToFloating := isFloating }
  match ws.resolveTarget target with
  | .auto =>
    let activate :=
      activate.mapSmart (!ws.scrolling.isActivePendingFullscreen)
    if opensFloating then
      ws.addFloating mode tile activate
        (activate || ws.scrolling.columns.isEmpty)
    else
      ws.addScrolling none tile activate
  | .newColumnAt colIdx =>
    let activate := activate.mapSmart false
    if gnomeMode then
      ws.addFloating mode tile activate activate
    else
      ws.addScrolling (some colIdx) tile activate
  | .nextTo nextTo =>
    let activate :=
      activate.mapSmart (ws.activeWindow.any fun window => window.id == nextTo)
    if opensFloating then
      if ws.floating.hasWindow nextTo then do
        let floating ← ws.floating.addTileAbove mode nextTo tile activate
        return { ws with
          floating
          floatingIsActive :=
            if activate || ws.scrolling.columns.isEmpty then .yes
            else ws.floatingIsActive }
      else
        ws.addFloating mode tile activate
          (activate || ws.scrolling.columns.isEmpty)
    else if ws.floating.hasWindow nextTo then
      ws.addScrolling none tile activate
    else do
      let scrolling ← ws.scrolling.addTileRightOf nextTo tile activate
      return { ws with
        scrolling
        floatingIsActive := if activate then .no else ws.floatingIsActive }

def addTileToColumn (ws : Workspace) (colIdx : Nat) (tileIdx : Option Nat)
    (tile : Tile) (activate : Bool) : Option Workspace := do
  let scrolling ← ws.scrolling.addTileToColumn colIdx tileIdx tile activate
  return { ws with
    scrolling
    floatingIsActive := if activate then .no else ws.floatingIsActive }

def addColumn (ws : Workspace) (column : Column) (activate : Bool) : Option Workspace := do
  let scrolling ← ws.scrolling.addColumn none column activate
  return { ws with
    scrolling
    floatingIsActive := if activate then .no else ws.floatingIsActive }

def updateFocusAfterRemoving (removedFromFloating : Bool) : Workspace :=
  if removedFromFloating then
    if ws.floating.tiles.isEmpty then { ws with floatingIsActive := .no } else ws
  else if ws.scrolling.columns.isEmpty && !ws.floating.tiles.isEmpty then
    { ws with floatingIsActive := .yes }
  else
    ws

def removeTile (ws : Workspace) (id : WindowId) : Option (RemovedTile × Workspace) :=
  match ws.minimized.findIdx? fun parked => parked.tile.id == id with
  | some idx => do
      let (removed, minimized) ← Vec.removeAt ws.minimized idx
      return (removed, { ws with minimized })
  | none =>
    match ws.homeOf id with
    | some .floating => do
        let (removed, floating) ← ws.floating.removeTile id
        return (removed, { ws with floating }.updateFocusAfterRemoving true)
    | some .scrolling => do
        let (removed, scrolling) ← ws.scrolling.removeTile id
        return (removed, { ws with scrolling }.updateFocusAfterRemoving false)
    | some .minimized | none => none

/-- Takes the focused tile out; `none` when the focused half has none. -/
def removeActiveTile (ws : Workspace) : Option (RemovedTile × Workspace) :=
  if ws.floatingIsActive.get then do
    let id ← ws.floating.activeWindowId
    let (removed, floating) ← ws.floating.removeTile id
    return (removed, { ws with floating }.updateFocusAfterRemoving true)
  else do
    let (removed, scrolling) ← ws.scrolling.removeActiveTile
    return (removed, { ws with scrolling }.updateFocusAfterRemoving false)

/-- Takes the focused column out; `none` when the floating half has the focus
or there is no column. -/
def removeActiveColumn (ws : Workspace) : Option (Column × Workspace) :=
  if ws.floatingIsActive.get then
    none
  else do
    let (column, scrolling) ← ws.scrolling.removeActiveColumn
    return (column, { ws with scrolling }.updateFocusAfterRemoving false)

def minimize : Option Workspace :=
  if ws.isMinimized id || !ws.hasWindow id then
    some ws
  else do
    let (removed, ws) ← ws.removeTile id
    return { ws with minimized := ws.minimized ++ [removed] }

def unminimize (id : WindowId) (activate : ActivateWindow) : Option Workspace :=
  match ws.minimized.findIdx? fun parked => parked.tile.id == id with
  | none => some ws
  | some idx => do
      let (removed, minimized) ← Vec.removeAt ws.minimized idx
      addTile { ws with minimized } mode removed.tile .auto activate
        removed.isFloating

/-- Rewrites the first tile of a window, wherever the workspace holds it. -/
def updateTile (ws : Workspace) (id : WindowId) (change : Tile → Tile) : Workspace :=
  if ws.scrolling.hasWindow id then
    { ws with scrolling := ws.scrolling.updateTile id change }
  else if ws.floating.hasWindow id then
    { ws with floating := ws.floating.updateTile id change }
  else
    match ws.minimized.findIdx? fun parked => parked.tile.id == id with
    | none => ws
    | some idx =>
      { ws with
        minimized := ws.minimized.modify idx fun parked =>
          { parked with tile := change parked.tile } }

/-- Marks a window sticky, with this workspace as the one to come back to, or
takes the mark off; says whether anything changed. -/
def setSticky (sticky : Bool) : Bool × Workspace :=
  match ws.tiles.find? fun tile => tile.id == id with
  | none => (false, ws)
  | some tile =>
    if tile.isSticky = sticky then
      (false, ws)
    else
      (true, ws.updateTile id fun tile =>
        { tile with
          isSticky := sticky
          stickyHome := if sticky then some ws.id else tile.stickyHome })

/-- The laid out windows that are sticky or descend from a sticky one by
parent links inside this workspace. -/
def stickyWindowIds : List WindowId :=
  (List.range ws.tiles.length).filterMap fun idx =>
    (ws.tiles[idx]?).bind fun tile =>
      if chainReaches Tile.isSticky ws.tiles ws.tiles.length idx &&
          ws.hasWindow tile.id then
        some tile.id
      else
        none

/-- Focuses and raises a window, unminimizing it first; says whether the
workspace has it. -/
def activateWindow (ws : Workspace) (mode : WindowingMode) (id : WindowId) :
    Option (Bool × Workspace) := do
  let ws ← ws.unminimize mode id .yes
  if ws.floating.hasWindow id then
    let floating ← ws.floating.activateWindow id
    return (true, { ws with floating, floatingIsActive := .yes })
  else if ws.scrolling.hasWindow id then
    return (true,
      { ws with
        scrolling := ws.scrolling.activateWindow id
        floatingIsActive := .no })
  else
    return (false, ws)

def activateWindowWithoutRaising (ws : Workspace) (mode : WindowingMode)
    (id : WindowId) : Option (Bool × Workspace) := do
  let ws ← ws.unminimize mode id .no
  if ws.floating.hasWindow id then
    return (true,
      { ws with
        floating := ws.floating.activateWindowWithoutRaising id
        floatingIsActive := .yes })
  else if ws.scrolling.hasWindow id then
    return (true,
      { ws with
        scrolling := ws.scrolling.activateWindow id
        floatingIsActive :=
          if ws.floatingIsActive = .yes then .noButRaised
          else ws.floatingIsActive })
  else
    return (false, ws)

def toggleWindowFloating (id : Option WindowId) : Option Workspace :=
  if mode = .floating then
    some ws
  else
    let activeId := ws.activeWindow.map Window.id
    let targetIsActive := id.all fun id => some id == activeId
    match id <|> activeId with
    | none => some ws
    | some id =>
      if !ws.hasWindow id then
        some ws
      else if ws.floating.hasWindow id then do
        let (removed, floating) ← ws.floating.removeTile id
        addScrolling { ws with floating } none removed.tile targetIsActive
      else do
        let (removed, scrolling) ← ws.scrolling.removeTile id
        addFloating { ws with scrolling } mode removed.tile targetIsActive
          targetIsActive

def setWindowFloating (id : Option WindowId) (floating : Bool) : Option Workspace :=
  let home :=
    match id with
    | some id => ws.homeOf id
    | none => some (if ws.floatingIsActive.get then .floating else .scrolling)
  match home with
  | some .floating => if floating then some ws else ws.toggleWindowFloating mode id
  | some .scrolling => if floating then ws.toggleWindowFloating mode id else some ws
  | some .minimized | none => some ws

def unsetFullscreen (ws : Workspace) (mode : WindowingMode) (id : WindowId) : Option Workspace :=
  if mode = .floating then
    some { ws with floating := ws.floating.unsetFullscreen id }
  else if ws.homeOf id = some .scrolling then do
    let column ← ws.scrolling.columns.find? fun column => column.contains id
    let tile ← column.tiles.find? fun tile => tile.id == id
    if column.isPendingFullscreen && !column.isPendingMaximized &&
        tile.restoreToFloating then
      ws.toggleWindowFloating mode (some id)
    else
      return { ws with
        scrolling := ws.scrolling.updateColumnOf id (Column.setFullscreen · false) }
  else
    some ws

/-- Takes a window out of the maximized state, or out of edge tiling. -/
def unsetMaximized (id : WindowId) : Option Workspace :=
  if mode = .floating then
    some { ws with floating := ws.floating.setMaximized id false }
  else
    match ws.homeOf id with
    | some .floating =>
      some { ws with
        floating := ws.floating.updateTile id fun tile =>
          if tile.window.edgeTiledSide.isSome then
            FloatingSpace.restoreNormal tile
          else tile }
    | some .scrolling => do
        let tile ← ws.scrolling.tiles.find? fun tile => tile.id == id
        if tile.window.pendingSizingMode == .maximized &&
            tile.restoreToFloating then
          ws.toggleWindowFloating mode (some id)
        else
          return { ws with
            scrolling := ws.scrolling.updateColumnOf id (Column.setMaximized · false) }
    | some .minimized | none => some ws

end Workspace

end Synoik
