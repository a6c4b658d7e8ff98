import Synoik.Layout.ThumbDrag
import Mathlib.Data.Prod.Lex
import Mathlib.Data.List.Lex
import Mathlib.Order.Lex

/-!
# The layout

The layout owns every monitor, or, while no display is connected, the loose
workspaces that wait for one. Unused workspaces of a display that went away
are parked until it returns.
-/

namespace Synoik

open FreshM

structure InteractiveMoveData where
  tile : Tile
  output : Output
  isFloating : Bool

inductive InteractiveMoveState where
  | starting (windowId : WindowId)
  | moving (data : InteractiveMoveData)

/-- Where a workspace carried across displays was picked up, and how many
workspaces each display it left had. -/
structure ThumbCarry where
  origin : Output × Nat
  counts : List (String × Nat) := []

/-- A named workspace of an earlier session that still has to appear. -/
structure NamedWorkspace where
  name : String
  home : OutputIdentity
  ordinal : Nat

inductive MonitorSet where
  | normal (monitors : List Monitor) (primaryIdx activeMonitorIdx : Nat)
  | noOutputs (workspaces : List Workspace)

structure Layout where
  monitorSet : MonitorSet := .noOutputs []
  lastActiveWorkspaceId : List (OutputIdentity × WorkspaceId) := []
  interactiveMove : Option InteractiveMoveState := none
  parkedWorkspaces : List Workspace := []
  pendingNamed : List NamedWorkspace := []
  displayOrder : List OutputIdentity := []
  thumbCarry : Option ThumbCarry := none
  overviewOpen : Bool := false
  windowingMode : WindowingMode := .scrolling

inductive WorkspaceReference where
  | index (index : Nat)
  | name (name : String)
  | id (id : WorkspaceId)

abbrev BlockKey := ℕ ×ₗ (List Char) ×ₗ ℕ

variable (order : List OutputIdentity)

def displayRank (home : OutputIdentity) : Nat :=
  (order.findIdx? fun known => known.matchesIdentity home).getD order.length

/-- The key of a slot. The source lowers the connector by Unicode rules, which
agree with the ASCII ones on connector names. -/
def slotKey (home : OutputIdentity) (ordinal : Nat) : BlockKey :=
  toLex (displayRank order home, toLex (lowercase home.connector, ordinal))

def blockKey (ws : Workspace) : BlockKey := slotKey order ws.originalOutput ws.homeOrdinal

def sortIntoBlocks (workspaces : List Workspace) : List Workspace :=
  workspaces.insertionSort fun left right =>
    blockKey order left ≤ blockKey order right

/-- Walks a strip from its end and drops the host's own workspaces until the
first substantial one of them. -/
def trimOwnFiller (host : OutputIdentity) : List Workspace → List Workspace
  | [] => []
  | ws :: rest =>
    if host.matchesIdentity ws.originalOutput then
      if ws.isSubstantial then ws :: rest else trimOwnFiller host rest
    else
      ws :: trimOwnFiller host rest

/-- Filler at the end of the host's block only separates it from the next
block, so it goes, unless the block is the last one. -/
def dropHostTrailingFiller (host : OutputIdentity)
    (workspaces : List Workspace) : List Workspace :=
  if workspaces.getLast?.any fun ws => host.matchesIdentity ws.originalOutput then
    workspaces
  else
    (trimOwnFiller host workspaces.reverse).reverse

/-- Drops the unused workspaces whose slot a used one has taken. -/
def dropDisplacedEmpties (workspaces : List Workspace) : List Workspace :=
  let claimed := workspaces.filter Workspace.hasWindows
  workspaces.filter fun ws =>
    ws.hasWindowsOrName ||
      !claimed.any fun other =>
        other.homeOrdinal == ws.homeOrdinal &&
          other.originalOutput.matchesIdentity ws.originalOutput

namespace Monitor

variable (monitor : Monitor)

def restoreStripInvariants (activeId : WorkspaceId) : FreshM Monitor := do
  let monitor ← cleanUpWorkspaces
    { monitor with
      workspaceSwitch := none
      activeWorkspaceIdx := (monitor.positionOf activeId).getD 0 }
  return { monitor with
    activeWorkspaceIdx := min monitor.activeWorkspaceIdx (monitor.workspaces.length - 1) }

/-- The strip in block order, without the host's trailing filler. -/
def blocked (order : List OutputIdentity) : Monitor :=
  { monitor with
    workspaces :=
      dropHostTrailingFiller (.fromOutput monitor.output)
        (sortIntoBlocks order monitor.workspaces) }

def settleStrip (order : List OutputIdentity) : FreshM Monitor := do
  let active ← unwrap monitor.activeWorkspace
  (monitor.blocked order).restoreStripInvariants active.id

def reblock (order : List OutputIdentity) : FreshM Monitor := do
  let active ← unwrap monitor.activeWorkspace
  let monitor ← (monitor.blocked order).restoreStripInvariants active.id
  if !active.hasWindowsOrName && (monitor.positionOf active.id).isNone then
    return { monitor with
      activeWorkspaceIdx := monitor.workspaces.length - 1 }
  else
    return monitor

/-- Takes out the workspaces that belong to an arriving display. -/
def reclaimFor (output : Output) : List Workspace × Monitor :=
  let isTheirs := fun ws : Workspace => ws.originalOutput.matchesOutput output
  let positions := (List.range monitor.workspaces.length).filter fun idx =>
    (monitor.workspaces[idx]?).any isTheirs
  (monitor.workspaces.filter isTheirs,
    { monitor with
      workspaces := monitor.workspaces.filter fun ws => !isTheirs ws
      workspaceSwitch :=
        if positions.isEmpty then monitor.workspaceSwitch else none
      -- From the last position to the first, as the source removes them.
      activeWorkspaceIdx :=
        positions.foldr
          (fun idx active => if idx ≤ active then active - 1 else active)
          monitor.activeWorkspaceIdx })

/-- Where a restore slot goes: before the first substantial workspace that does
not precede it, else after the last one. -/
def restoreInsertionPoint (order : List OutputIdentity)
    (workspaces : List Workspace) (key : BlockKey) : Nat :=
  match workspaces.findIdx? fun ws =>
      ws.isSubstantial && key ≤ blockKey order ws with
  | some idx => idx
  | none =>
    match ((List.range workspaces.length).filter fun idx =>
        (workspaces[idx]?).any Workspace.isSubstantial).getLast? with
    | some idx => idx + 1
    | none => 0

/-- Claims the workspace at a position for a slot; its id. -/
def claimAt (idx : Nat) (home : OutputIdentity) (ordinal : Nat) :
    FreshM (WorkspaceId × Monitor) := do
  let ws ← unwrap monitor.workspaces[idx]?
  return (ws.id,
    { monitor with
      workspaces := monitor.workspaces.set idx (ws.claimFor home ordinal) })

def insertRestoreWorkspace (order : List OutputIdentity) (home : OutputIdentity)
    (homeOrdinal : Nat) : FreshM (WorkspaceId × Monitor) := do
  if maxNumWorkspaces ≤ monitor.workspaces.length then
    monitor.claimAt (monitor.workspaces.length - 1) home homeOrdinal
  else
    let idx := restoreInsertionPoint order monitor.workspaces
      (slotKey order home homeOrdinal)
    let monitor ←
      if (monitor.workspaces[idx]?).any fun ws => !ws.isSubstantial then
        pure monitor
      else
        monitor.addWorkspaceAt idx
    let (id, monitor) ← monitor.claimAt idx home homeOrdinal
    let monitor ← monitor.settleStrip order
    return (id, monitor)

/-- Grows the display's own block until it has the wanted position; the cap
bounds the rounds. -/
def growOwnBlock (idx : Nat) : Nat → Monitor → FreshM Monitor
  | 0, monitor => pure monitor
  | rounds + 1, monitor =>
    if monitor.ownWorkspaceCount ≤ idx ∧
        monitor.workspaces.length < maxNumWorkspaces then do
      let ordinal := monitor.ownWorkspaceCount
      let position := monitor.ownBlockEnd
      let monitor ← monitor.addWorkspaceAt position
      let (_, monitor) ←
        monitor.claimAt position (.fromOutput monitor.output) ordinal
      growOwnBlock idx rounds monitor
    else
      pure monitor

def ensureRestoreWorkspace (order : List OutputIdentity) (idx : Nat) :
    FreshM (Option WorkspaceId × Monitor) := do
  let idx := min idx (maxNumWorkspaces - 1)
  let monitor ← growOwnBlock idx maxNumWorkspaces monitor
  match monitor.ownBlockPosition idx with
  | none => return (none, monitor)
  | some position =>
    let (id, monitor) ←
      monitor.claimAt position (.fromOutput monitor.output) idx
    let monitor ← monitor.settleStrip order
    return (some id, monitor)

end Monitor

namespace Layout

def monitors (layout : Layout) : List Monitor :=
  match layout.monitorSet with
  | .normal monitors _ _ => monitors
  | .noOutputs _ => []

variable (layout : Layout)

/-- The workspaces that wait for a display. -/
def looseWorkspaces : List Workspace :=
  match layout.monitorSet with
  | .normal _ _ _ => []
  | .noOutputs workspaces => workspaces

/-- The workspaces a user can reach. -/
def workspaces (layout : Layout) : List Workspace :=
  layout.monitors.flatMap Monitor.workspaces ++ layout.looseWorkspaces

variable (output : Output)

def monitorIdx : Option Nat := layout.monitors.findIdx? fun monitor => monitor.output == output

def nameTaken (name : String) : Bool :=
  layout.workspaces.any fun ws => ws.name.any (eqIgnoreAsciiCase · name)

/-- The first monitor and position whose workspace satisfies the predicate. -/
def locateIn (wanted : Workspace → Bool) : List Monitor → Nat → Option (Nat × Nat)
  | [], _ => none
  | monitor :: monitors, monitorIdx =>
    match monitor.workspaces.findIdx? wanted with
    | some wsIdx => some (monitorIdx, wsIdx)
    | none => locateIn wanted monitors (monitorIdx + 1)

/-- Runs an operation on one monitor; there is none without displays. -/
def updateMonitor (idx : Nat) (change : Monitor → FreshM Monitor) : FreshM Layout :=
  match layout.monitorSet with
  | .noOutputs _ => pure layout
  | .normal monitors primaryIdx activeMonitorIdx => do
      let monitor ← unwrap monitors[idx]?
      let monitor ← change monitor
      return { layout with
        monitorSet := .normal (monitors.set idx monitor) primaryIdx activeMonitorIdx }

def onActiveMonitor (change : Monitor → FreshM Monitor) : FreshM Layout :=
  match layout.monitorSet with
  | .noOutputs _ => pure layout
  | .normal _ _ activeMonitorIdx => layout.updateMonitor activeMonitorIdx change

def onOutput (change : Monitor → FreshM Monitor) : FreshM Layout :=
  match layout.monitorIdx output with
  | none => pure layout
  | some idx => layout.updateMonitor idx change

def changeEach (change : Monitor → FreshM Monitor) : List Monitor → FreshM (List Monitor)
  | [] => pure []
  | monitor :: monitors => do
      let monitor ← change monitor
      let monitors ← changeEach change monitors
      return monitor :: monitors

def onEveryMonitor (change : Monitor → FreshM Monitor) : FreshM Layout :=
  match layout.monitorSet with
  | .noOutputs _ => pure layout
  | .normal monitors primaryIdx activeMonitorIdx => do
      let monitors ← changeEach change monitors
      return { layout with
        monitorSet := .normal monitors primaryIdx activeMonitorIdx }

/-- Runs an operation on the monitors in turn until one says it applied. -/
def changeFirst (change : Monitor → FreshM (Bool × Monitor)) : List Monitor → FreshM (List Monitor)
  | [] => pure []
  | monitor :: monitors => do
      let (applied, monitor) ← change monitor
      if applied then
        return monitor :: monitors
      else
        let monitors ← changeFirst change monitors
        return monitor :: monitors

def onFirstMonitor (change : Monitor → FreshM (Bool × Monitor)) : FreshM Layout :=
  match layout.monitorSet with
  | .noOutputs _ => pure layout
  | .normal monitors primaryIdx activeMonitorIdx => do
      let monitors ← changeFirst change monitors
      return { layout with
        monitorSet := .normal monitors primaryIdx activeMonitorIdx }

/-- Rewrites the first workspace that satisfies the predicate, if any. -/
def updateFirst (wanted : Workspace → Bool)
    (change : WindowingMode → Workspace → Option Workspace) : FreshM Layout :=
  match layout.monitorSet with
  | .normal monitors _ _ =>
    match locateIn wanted monitors 0 with
    | none => pure layout
    | some (monitorIdx, wsIdx) =>
      layout.updateMonitor monitorIdx fun monitor =>
      monitor.updateWorkspace wsIdx (change monitor.windowingMode)
  | .noOutputs workspaces =>
    match workspaces.findIdx? wanted with
    | none => pure layout
    | some wsIdx => do
        let workspaces ← unwrap
          (Vec.updateAt workspaces wsIdx (change layout.windowingMode))
        return { layout with monitorSet := .noOutputs workspaces }

def focusOutput : Layout :=
  match layout.monitorSet, layout.monitorIdx output with
  | .normal monitors primaryIdx _, some idx =>
    { layout with monitorSet := .normal monitors primaryIdx idx }
  | _, _ => layout

end Layout

end Synoik
