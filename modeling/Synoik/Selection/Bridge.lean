import Mathlib.Data.List.Basic

/-!
# Pasting from X

A Wayland client that pastes what an X client owns is served by one conversion at a time. Every
conversion lands in the same property of the bridge's window. An owner answers a conversion when
it likes: it refuses, or it writes the property and then says so, or it announces chunks and
writes each of them after it has seen the one before deleted.

A conversion is known by its number. The number in an event or in the property says for which
conversion an owner sent or wrote it; the bridge never reads it.
-/

namespace Synoik.Selection

abbrev Bytes := List UInt8

inductive SelectionTarget where
  | clipboard
  | primary
deriving DecidableEq

def atomForMime (mime : String) : Option String :=
  if mime = "text/plain;charset=utf-8" ∨ mime = "UTF8_STRING" then some "UTF8_STRING"
  else if mime = "text/plain" then some "STRING"
  else none

def mimesForAtom (atom : String) : List String :=
  if atom = "UTF8_STRING" then ["text/plain;charset=utf-8"]
  else if atom = "STRING" then ["text/plain"]
  else if '/' ∈ atom.toList then [atom]
  else []

def mimesFromTargets (atoms : List String) : List String :=
  (atoms.flatMap mimesForAtom).foldl
    (fun mimeTypes mime => if mime ∈ mimeTypes then mimeTypes else mimeTypes ++ [mime]) []

/-- What to ask the owner for: any other mime type is interned under its own name. -/
def targetFor (mime : String) : String := (atomForMime mime).getD mime

/-- How far an owner is with a conversion. Chunks are sent after the announcement, each one once
the property was deleted after the one before, and an empty one ends them. -/
inductive Stage where
  | asked
  | wrote (chunks : Option (List Bytes)) (deleted : Bool)
  | sending (chunks : List Bytes) (deleted : Bool)
  | done
deriving DecidableEq

/-- The properties of the bridge's window that a conversion may land in. -/
inductive Landing where
  | selection
  | targets
deriving DecidableEq

/-- A conversion, with all that its owner produces for it. -/
structure Conversion where
  selection : SelectionTarget
  target : String
  landing : Landing
  stage : Stage := .asked
  produced : Option Bytes := none

/-- The owner sees the property deleted. -/
def Stage.seeDeleted : Stage → Stage
  | wrote chunks _ => wrote chunks true
  | sending chunks _ => sending chunks true
  | stage => stage

def Conversion.seeDeleted (conversion : Conversion) : Conversion :=
  { conversion with stage := conversion.stage.seeDeleted }

/-- The property of a transfer. -/
structure Value where
  isIncr : Bool
  bytes : Bytes
  writtenFor : Option Nat

inductive Owner where
  | nobody
  | bridge
  | client

inductive XEvent where
  | ownerChange (selection : SelectionTarget) (owner : Owner)
  | selectionNotify (conversion : Nat) (selection : SelectionTarget) (target : String)
      (refused : Bool)
  | propertyNotify (conversion : Option Nat)

inductive FromX where
  | offer (target : SelectionTarget) (mimeTypes : List String)
  | cleared (target : SelectionTarget)

structure Fetch where
  target : SelectionTarget
  mimeType : String
  fd : Nat
deriving DecidableEq

structure Fetching where
  request : Fetch
  isIncr : Bool := false
  buf : Bytes := []
  conversion : Nat

/-- What a pasting client's descriptor was given. -/
structure Written where
  request : Fetch
  conversion : Nat
  bytes : Bytes

structure XState where
  fetching : Option Fetching := none
  fetchQueue : List Fetch := []
  toMain : List FromX := []
  written : List Written := []
  property : Option Value := none
  targets : Option (List String) := none
  conversions : List Conversion := []
  events : List XEvent := []

def transferLimit : Nat := 64 * 1024 * 1024

namespace XState

/-- The bridge appends nothing to the property once, to be told the time. -/
def start : XState where
  property := some { isIncr := false, bytes := [], writtenFor := none }
  events := [.propertyNotify none]

variable (state : XState)

def deleteProperty : XState :=
  if state.property.isSome then
    { state with
      property := none
      conversions := state.conversions.map Conversion.seeDeleted }
  else state

variable (selection : SelectionTarget)

def convertSelection (target : String) (landing : Landing) : XState :=
  { state with conversions := state.conversions ++ [{ selection, target, landing }] }

def startFetch (request : Fetch) : XState :=
  if state.fetching.isSome then
    { state with fetchQueue := state.fetchQueue ++ [request] }
  else
    let asked := state.deleteProperty.convertSelection request.target
      (targetFor request.mimeType) .selection
    { asked with fetching := some { request, conversion := state.conversions.length } }

def finishFetch : XState :=
  let finished : XState := match state.fetching with
    | none => state
    | some fetching =>
      { state with
        fetching := none
        written := state.written ++
          [{ request := fetching.request
             conversion := fetching.conversion
             bytes := fetching.buf }] }
  match finished.fetchQueue with
  | [] => finished
  | request :: rest => startFetch { finished with fetchQueue := rest } request

def setBuf (buf : Bytes) : XState :=
  { state with fetching := state.fetching.map fun fetching => { fetching with buf } }

def expireFetch : XState := (state.setBuf []).finishFetch

/-- The type and the bytes of the property; a transfer over the limit reads as empty. -/
def transferred : Bool × Bytes :=
  match state.property with
  | none => (false, [])
  | some value =>
    (value.isIncr, if transferLimit < value.bytes.length then [] else value.bytes)

def onOwnerChange (owner : Owner) : XState :=
  match owner with
  | .bridge => state
  | .nobody => { state with toMain := state.toMain ++ [.cleared selection] }
  | .client =>
    convertSelection { state with targets := none } selection "TARGETS" .targets

def onTargets (target : SelectionTarget) (refused : Bool) : XState :=
  if refused then { state with toMain := state.toMain ++ [.cleared target] }
  else
    let mimeTypes := mimesFromTargets (state.targets.getD [])
    let message : FromX :=
      if mimeTypes.isEmpty then .cleared target else .offer target mimeTypes
    { state with targets := none, toMain := state.toMain ++ [message] }

def onSelectionNotify (target : String) (refused : Bool) : XState :=
  if target = "TARGETS" then state.onTargets selection refused
  else if state.fetching.isNone then state
  else if refused then state.finishFetch
  else
    let (isIncr, data) := state.transferred
    let read := state.deleteProperty
    if isIncr then
      { read with
        fetching := read.fetching.map fun fetching => { fetching with isIncr := true } }
    else (read.setBuf data).finishFetch

def onPropertyNotify : XState :=
  match state.fetching with
  | none => state
  | some fetching =>
    if fetching.isIncr then
      let (_, data) := state.transferred
      let read := state.deleteProperty
      if data.isEmpty then read.finishFetch
      else if transferLimit < fetching.buf.length + data.length then
        (read.setBuf []).finishFetch
      else read.setBuf (fetching.buf ++ data)
    else state

def handleEvent : XEvent → XState
  | .ownerChange selection owner => state.onOwnerChange selection owner
  | .selectionNotify _ selection target refused =>
    state.onSelectionNotify selection target refused
  | .propertyNotify _ => state.onPropertyNotify

variable (number : Nat)

def proceed (conversion : Conversion) : XState :=
  { state with conversions := state.conversions.set number conversion }

def post (event : XEvent) : XState :=
  { state with events := state.events ++ [event] }

def write (isIncr : Bool) (bytes : Bytes) : XState :=
  { state with property := some { isIncr, bytes, writtenFor := some number } }.post
    (.propertyNotify (some number))

def notify (conversion : Conversion) (refused : Bool) : XState :=
  state.post (.selectionNotify number conversion.selection conversion.target refused)

end XState

inductive Op where
  /-- A Wayland client pastes. -/
  | fetch (request : Fetch)
  /-- The time of the conversion in flight is over. -/
  | expire
  /-- The bridge takes the next event. -/
  | deliver
  /-- A selection changes hands. -/
  | ownerChange (selection : SelectionTarget) (owner : Owner)
  | refuse (number : Nat)
  | offerTargets (number : Nat) (atoms : List String)
  | answer (number : Nat) (bytes : Bytes)
  | answerIncr (number : Nat) (chunks : List Bytes)
  /-- The owner says that the property is written. -/
  | tell (number : Nat)
  | sendChunk (number : Nat)

/-- What the owner of a conversion does with it. -/
def ownerStep (state : XState) (number : Nat) (conversion : Conversion) : Op → Option XState
  | .refuse _ =>
    if conversion.stage = .asked then
      some ((state.proceed number { conversion with stage := .done }).notify number
        conversion true)
    else none
  | .offerTargets _ atoms =>
    if conversion.stage = .asked ∧ conversion.landing = .targets then
      some ({ state.proceed number { conversion with stage := .done } with
        targets := some atoms }.notify number conversion false)
    else none
  | .answer _ bytes =>
    if conversion.stage = .asked ∧ conversion.landing = .selection then
      some ((state.proceed number
        { conversion with stage := .wrote none false, produced := some bytes }).write number
          false bytes)
    else none
  | .answerIncr _ chunks =>
    if conversion.stage = .asked ∧ conversion.landing = .selection ∧ [] ∉ chunks then
      some ((state.proceed number
        { conversion with
          stage := .wrote (some chunks) false
          produced := some chunks.flatten }).write number true [])
    else none
  | .tell _ =>
    match conversion.stage with
    | .wrote none _ =>
      some ((state.proceed number { conversion with stage := .done }).notify number
        conversion false)
    | .wrote (some chunks) deleted =>
      some ((state.proceed number
        { conversion with stage := .sending chunks deleted }).notify number
          conversion false)
    | _ => none
  | .sendChunk _ =>
    match conversion.stage with
    | .sending [] true =>
      some ((state.proceed number { conversion with stage := .done }).write number
        false [])
    | .sending (chunk :: chunks) true =>
      some ((state.proceed number
        { conversion with stage := .sending chunks false }).write number false chunk)
    | _ => none
  | _ => none

def Op.number : Op → Option Nat
  | refuse number | offerTargets number _ | answer number _ | answerIncr number _
  | tell number | sendChunk number => some number
  | _ => none

def step (state : XState) (op : Op) : Option XState :=
  match op with
  | .fetch request => some (state.startFetch request)
  | .expire => if state.fetching.isSome then some state.expireFetch else none
  | .deliver =>
    match state.events with
    | [] => none
    | event :: rest => some ({ state with events := rest }.handleEvent event)
  | .ownerChange selection owner => some (state.post (.ownerChange selection owner))
  | op => op.number.bind fun number =>
    state.conversions[number]?.bind fun conversion => ownerStep state number conversion op

end Synoik.Selection
