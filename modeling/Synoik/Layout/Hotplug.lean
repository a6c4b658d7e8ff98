import Synoik.Layout.Layout

/-!
# Displays coming and going

An arriving display takes back the spaces that belong to it, from the
primary monitor and from the parked ones. A leaving display hands its used
spaces to the primary monitor and parks the unused ones. Restore slots and
the named spaces of an earlier session enter here too.
-/

namespace Synoik.Layout

open FreshM

variable (layout : Layout) (output : Output)

/-- The workspace a display showed when it left, forgotten once used. -/
def takeLastActiveWorkspace : Option WorkspaceId × Layout :=
  match layout.lastActiveWorkspaceId.findIdx? fun entry =>
      entry.1.matchesOutput output with
  | none => (none, layout)
  | some idx =>
    ((layout.lastActiveWorkspaceId[idx]?).map Prod.snd,
      { layout with
        lastActiveWorkspaceId := layout.lastActiveWorkspaceId.eraseIdx idx })

/-- Sets the unused workspaces aside; one without a home is dropped. -/
def parkEmpties (workspaces : List Workspace) : List Workspace × Layout :=
  (workspaces.filter Workspace.hasWindowsOrName,
    { layout with
      parkedWorkspaces := layout.parkedWorkspaces ++
        workspaces.filter fun ws =>
          !ws.hasWindowsOrName && !ws.originalOutput.isEmpty })

def takeParkedFor : List Workspace × Layout :=
  let isTheirs := fun ws : Workspace => ws.originalOutput.matchesOutput output
  (layout.parkedWorkspaces.filter isTheirs,
    { layout with
      parkedWorkspaces := layout.parkedWorkspaces.filter fun ws => !isTheirs ws })

/-- The arriving monitor, from the workspaces collected for it. -/
def connect (windowingMode : WindowingMode) (workspaces : List Workspace) :
    FreshM (Monitor × Layout) := do
  let (wsIdToActivate, layout) := layout.takeLastActiveWorkspace output
  let monitor ← Monitor.new output windowingMode workspaces wsIdToActivate
  return ({ monitor with overviewOpen := layout.overviewOpen }, layout)

/-- A display arrives while others are connected. -/
def addOutputNormal (monitors : List Monitor) (primaryIdx activeMonitorIdx : Nat)
    (output : Output) (windowingMode : WindowingMode) : FreshM Layout := do
  let primary ← unwrap monitors[primaryIdx]?
  let (taken, primary) := primary.reclaimFor output
  let primary ←
    if taken.isEmpty then pure primary else primary.cleanUpWorkspaces
  let (parked, layout) := layout.takeParkedFor output
  let workspaces := sortIntoBlocks layout.displayOrder
    (dropDisplacedEmpties (taken ++ parked))
  let (monitor, layout) ← layout.connect output windowingMode workspaces
  return { layout with
    monitorSet := .normal (monitors.set primaryIdx primary ++ [monitor])
      primaryIdx activeMonitorIdx }

/-- The first display arrives. -/
def addOutputFirst (loose : List Workspace) (output : Output)
    (windowingMode : WindowingMode) : FreshM Layout := do
  let (parked, layout) := layout.takeParkedFor output
  let workspaces := dropHostTrailingFiller (.fromOutput output)
    (sortIntoBlocks layout.displayOrder (dropDisplacedEmpties (loose ++ parked)))
  let (monitor, layout) ← layout.connect output windowingMode workspaces
  return { layout with monitorSet := .normal [monitor] 0 0 }

/-- Claims a workspace of the display for a slot; `none` without the display. -/
def insertRestoreWorkspace (layout : Layout) (output : Output)
    (home : OutputIdentity) (homeOrdinal : Nat) :
    FreshM (Option WorkspaceId × Layout) :=
  match layout.monitorSet, layout.monitorIdx output with
  | .normal monitors primaryIdx activeMonitorIdx, some idx => do
      let monitor ← unwrap monitors[idx]?
      let (id, monitor) ←
        monitor.insertRestoreWorkspace layout.displayOrder home homeOrdinal
      return (some id,
        { layout with
          monitorSet := .normal (monitors.set idx monitor) primaryIdx activeMonitorIdx })
  | _, _ => pure (none, layout)

def ensureRestoreWorkspace (layout : Layout) (output : Output) (idx : Nat) : FreshM Layout :=
  layout.onOutput output fun monitor => do
    let (_, monitor) ← monitor.ensureRestoreWorkspace layout.displayOrder idx
    return monitor

def nameWorkspace (id : WorkspaceId) (name : String) : FreshM Layout :=
  layout.updateFirst (fun ws => ws.id == id) fun _ ws =>
    some { ws with name := some name }

/-- One workspace for each pending name that nobody carries yet. -/
def materializeEntries (output : Output) : List NamedWorkspace → Layout → FreshM Layout
  | [], layout => pure layout
  | entry :: entries, layout =>
    if layout.nameTaken entry.name then
      materializeEntries output entries layout
    else do
      let (id, layout) ←
        layout.insertRestoreWorkspace output entry.home entry.ordinal
      let layout ←
        match id with
        | none => pure layout
        | some id => layout.nameWorkspace id entry.name
      materializeEntries output entries layout

/-- The pending names in the order they are served. -/
def pendingInOrder : List NamedWorkspace :=
  layout.pendingNamed.insertionSort fun left right =>
    left.ordinal ≤ right.ordinal

def materializePendingNamed : FreshM Layout :=
  if layout.pendingNamed.isEmpty then
    pure layout
  else do
    let layout ← materializeEntries output layout.pendingInOrder
      { layout with pendingNamed := [] }
    layout.onOutput output Monitor.cleanUpIfIdle

def attachOutput (windowingMode : WindowingMode) : FreshM Layout :=
  match layout.monitorSet with
  | .normal monitors primaryIdx activeMonitorIdx =>
    layout.addOutputNormal monitors primaryIdx activeMonitorIdx output
      windowingMode
  | .noOutputs loose => layout.addOutputFirst loose output windowingMode

def addOutput (windowingMode : WindowingMode) : FreshM Layout := do
  let layout ← layout.attachOutput output windowingMode
  layout.materializePendingNamed output

def rememberShowing (identity : OutputIdentity) (showing : WorkspaceId) : Layout :=
  { layout with
    lastActiveWorkspaceId :=
      (layout.lastActiveWorkspaceId.filter fun entry =>
        !entry.1.matchesIdentity identity) ++ [(identity, showing)] }

def removeOutput : FreshM Layout :=
  match layout.monitorSet with
  | .noOutputs _ => abort
  | .normal monitors primaryIdx activeMonitorIdx => do
      let idx ← unwrap (monitors.findIdx? fun monitor => monitor.output == output)
      let (monitor, rest) ← unwrap (Vec.removeAt monitors idx)
      let showing ← unwrap monitor.activeWorkspace
      let layout :=
        layout.rememberShowing (.fromOutput monitor.output) showing.id
      let (kept, layout) := layout.parkEmpties monitor.intoWorkspaces
      if rest.isEmpty then
        return { layout with monitorSet := .noOutputs kept }
      else
        let primaryIdx := if idx ≤ primaryIdx then primaryIdx - 1 else primaryIdx
        let activeMonitorIdx :=
          if idx ≤ activeMonitorIdx then activeMonitorIdx - 1
          else activeMonitorIdx
        let primary ← unwrap rest[primaryIdx]?
        let primary ← primary.appendWorkspaces kept
        let primary ← primary.reblock layout.displayOrder
        return { layout with
          monitorSet := .normal (rest.set primaryIdx primary) primaryIdx activeMonitorIdx }

def setPrimaryOutput : Layout :=
  match layout.monitorSet, layout.monitorIdx output with
  | .normal monitors _ activeMonitorIdx, some idx =>
    { layout with monitorSet := .normal monitors idx activeMonitorIdx }
  | _, _ => layout

def setDisplayOrder (order : List OutputIdentity) : Layout :=
  { layout with displayOrder := order }

def setPendingNamedWorkspaces (workspaces : List NamedWorkspace) : Layout :=
  { layout with pendingNamed := workspaces }

/-- Which workspace a reference means: a position of the active monitor, or the
first workspace with the name or the id. -/
def resolveReference : WorkspaceReference → Option WorkspaceId
  | .index index =>
    match layout.monitorSet with
    | .noOutputs _ => none
    | .normal monitors _ activeMonitorIdx => do
        let monitor ← monitors[activeMonitorIdx]?
        let ws ← monitor.workspaces[index - 1]?
        return ws.id
  | .name name =>
    (layout.workspaces.find? fun ws =>
    ws.name.any (eqIgnoreAsciiCase · name)).map Workspace.id
  | .id id => (layout.workspaces.find? fun ws => ws.id == id).map Workspace.id

/-- The workspace the user is looking at. -/
def activeWorkspaceId : Option WorkspaceId :=
  match layout.monitorSet with
  | .noOutputs _ => none
  | .normal monitors _ activeMonitorIdx => do
      let monitor ← monitors[activeMonitorIdx]?
      let ws ← monitor.activeWorkspace
      return ws.id

def resolveTarget : Option WorkspaceReference → Option WorkspaceId
  | some reference => layout.resolveReference reference
  | none => layout.activeWorkspaceId

/-- Gives a workspace a name nobody else has. The trailing empty that has to
follow a named last workspace is added on the active monitor only. -/
def setWorkspaceName (name : String) (reference : Option WorkspaceReference) : FreshM Layout :=
  if layout.nameTaken name then
    pure layout
  else
    match layout.resolveTarget reference with
    | none => pure layout
    | some id => do
        let layout ← layout.nameWorkspace id name
        layout.onActiveMonitor fun monitor =>
          if monitor.workspaces.getLast?.any fun last => last.id == id then
            monitor.addWorkspaceBottom
          else
            pure monitor

def unnameWorkspaceById (id : WorkspaceId) : FreshM Layout :=
  match layout.monitorSet with
  | .normal _ _ _ => layout.onFirstMonitor (Monitor.unnameWorkspace · id)
  | .noOutputs workspaces =>
    match workspaces.findIdx? fun ws => ws.id == id with
    | none => pure layout
    | some idx =>
      let unnamed := workspaces.modify idx Workspace.unname
      pure { layout with
        monitorSet := .noOutputs
          (if (workspaces[idx]?).any Workspace.hasWindows then unnamed
          else unnamed.eraseIdx idx) }

def unsetWorkspaceName (reference : Option WorkspaceReference) : FreshM Layout :=
  match layout.resolveTarget reference with
  | none => pure layout
  | some id => layout.unnameWorkspaceById id

/-- A workspace the configuration names, in front of the strip. -/
def ensureNamedWorkspace (name : String) (openOnOutput : Option String) : FreshM Layout :=
  if layout.nameTaken name then
    pure layout
  else
    match layout.monitorSet with
    | .normal monitors primaryIdx activeMonitorIdx =>
      let idx :=
        match openOnOutput with
        | none => activeMonitorIdx
        | some target =>
          (monitors.findIdx? fun monitor => monitor.output.matchesName target).getD primaryIdx
      layout.updateMonitor idx fun monitor => do
        let id ← fresh
        let home :=
          match openOnOutput with
          | none => OutputIdentity.fromOutput monitor.output
          | some target => .fromConnector target
        monitor.insertWorkspace
          { Workspace.new id monitor.output with
            name := some name, originalOutput := home } 0 false
    | .noOutputs workspaces => do
        let id ← fresh
        return { layout with
          monitorSet := .noOutputs
            ({ Workspace.newNoOutputs id with
                name := some name
                originalOutput := .fromConnector (openOnOutput.getD "") } ::
              workspaces) }

end Synoik.Layout
