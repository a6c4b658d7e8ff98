import Mathlib.Data.List.AList
import Mathlib.Logic.Function.Basic

/-!
# Session management

A client holds a session through an object and registers its toplevels in it under names. The
store keeps what a session saved of them. A session object that no longer manages its id is
inert. The layout is seen through what it would save of a toplevel; it changes as it likes.
-/

namespace Synoik.Sessions

abbrev Table (Value : Type) := AList fun _ : String => Value

variable {Record : Type}

structure SessionRecord (Record : Type) where
  lastUsed : Nat := 0
  toplevels : Table Record := ∅

structure SessionStore (Record : Type) where
  sessions : Table (SessionRecord Record) := ∅
  dirty : Bool := false

namespace SessionStore

variable (store : SessionStore Record) (id : String)

def contains : Bool := (store.sessions.lookup id).isSome

/-- The session, made if it is not there, and used now. -/
def touched (now : Nat) : SessionRecord Record :=
  { (store.sessions.lookup id).getD {} with lastUsed := now }

def touch (now : Nat) : SessionStore Record where
  sessions := store.sessions.insert id (store.touched id now)
  dirty := true

def remove : SessionStore Record × Bool :=
  let removed := store.contains id
  ({ sessions := store.sessions.erase id, dirty := store.dirty || removed }, removed)

def removeToplevel (name : String) : SessionStore Record × Bool :=
  match store.sessions.lookup id with
  | none => (store, false)
  | some session =>
    let removed := (session.toplevels.lookup name).isSome
    let session := { session with toplevels := session.toplevels.erase name }
    ({ sessions := store.sessions.insert id session, dirty := store.dirty || removed }, removed)

def renameToplevel (old new : String) : SessionStore Record × Bool :=
  match store.sessions.lookup id with
  | none => (store, false)
  | some session =>
    match session.toplevels.lookup old with
    | none => (store, false)
    | some record =>
      let toplevels := (session.toplevels.erase old).insert new record
      let session := { session with toplevels }
      ({ sessions := store.sessions.insert id session, dirty := true }, true)

def saveToplevel (name : String) (record : Record) (now : Nat) : SessionStore Record :=
  let session := store.touched id now
  let session := { session with toplevels := session.toplevels.insert name record }
  { sessions := store.sessions.insert id session, dirty := true }

end SessionStore

inductive Reason where
  | launch
  | recover
  | sessionRestore

/-- A session object with its data. -/
structure SessionObject where
  number : Nat
  client : Nat
  id : String
deriving DecidableEq

/-- A toplevel session object. The name it answers to is kept beside it. -/
structure Handle where
  number : Nat
  sessionId : String
deriving DecidableEq

structure RegisteredToplevel where
  toplevel : Nat
  handle : Handle

structure LiveSession where
  resource : SessionObject
  reason : Reason
  toplevels : Table RegisteredToplevel := ∅

inductive ProtocolError where
  | invalidReason
  | inUse
  | alreadyMapped
  | nameInUse

inductive Event where
  | created (session : SessionObject) (id : String)
  | restored (session : SessionObject)
  | replaced (session : SessionObject)
  | error (error : ProtocolError) (message : String)

/-- What the manager asks the rest of the compositor about a toplevel. -/
structure World (Record : Type) where
  isAlive : Nat → Bool
  hadInitialCommit : Nat → Bool
  record : Nat → Option Record

structure State (Record : Type) where
  live : Table LiveSession := ∅
  store : SessionStore Record := {}
  world : World Record
  objects : List SessionObject := []
  handles : List Handle := []
  names : Nat → String := fun _ => ""
  nextObject : Nat := 0
  saveTimer : Bool := false
  sent : List Event := []

namespace State

variable (state : State Record)

def send (event : Event) : State Record :=
  { state with sent := state.sent ++ [event] }

def scheduleSessionSave : State Record :=
  { state with saveTimer := true }

def scheduleIf (changed : Bool) : State Record :=
  if changed then state.scheduleSessionSave else state

variable (session : SessionObject)

def sessionOf : Option LiveSession :=
  (state.live.lookup session.id).filter fun live => live.resource = session

def registrationsFor (toplevel : Nat) : List (String × String) :=
  state.live.entries.flatMap fun entry =>
    (entry.2.toplevels.entries.filter fun registered => registered.2.toplevel = toplevel).map
      fun registered => (entry.1, registered.1)

def liveRegistrations : List (String × String × Nat) :=
  state.live.entries.flatMap fun entry =>
    entry.2.toplevels.entries.map fun registered =>
      (entry.1, registered.1, registered.2.toplevel)

/-- The session and the name under which a handle is still the one that is registered. -/
def restoreTargetFor (handle : Handle) : Option (String × String) :=
  let name := state.names handle.number
  (state.live.lookup handle.sessionId).bind fun live =>
    (live.toplevels.lookup name).bind fun registered =>
      if registered.handle = handle then some (handle.sessionId, name) else none

def takeOver (id : String) (resource : SessionObject) (reason : Reason) : State Record :=
  let told := match state.live.lookup id with
    | some previous =>
      if previous.resource ∈ state.objects then state.send (.replaced previous.resource)
      else state
    | none => state
  { told with live := told.live.insert id { resource, reason } }

/-- The sweep at one registration, with how many were saved and how many passed over. -/
def saveRegistered (world : World Record) (now : Nat)
    (swept : SessionStore Record × Nat × Nat) (registration : String × String × Nat) :
    SessionStore Record × Nat × Nat :=
  match swept, registration with
  | (store, saved, skipped), (sessionId, name, toplevel) =>
    match world.record toplevel with
    | some record => (store.saveToplevel sessionId name record now, saved + 1, skipped)
    | none => (store, saved, skipped + 1)

def saveLiveSessionToplevelsMatching (only : Option String) (now : Nat) :
    State Record × Nat × Nat :=
  let registrations := state.liveRegistrations.filter fun registration =>
    !(only.any fun wanted => wanted ≠ registration.1)
  let (store, saved, skipped) :=
    registrations.foldl (saveRegistered state.world now) (state.store, 0, 0)
  ({ state with store }, saved, skipped)

def saveLiveSessionToplevels (sessionId : String) (now : Nat) : State Record :=
  (state.saveLiveSessionToplevelsMatching (some sessionId) now).1

/-- A window goes: every name it answers to is saved. -/
def saveSessionToplevel (toplevel now : Nat) : State Record :=
  let registrations := state.registrationsFor toplevel
  if registrations.isEmpty then state
  else match state.world.record toplevel with
    | none => state
    | some record =>
      let store := registrations.foldl
        (fun store registration =>
          store.saveToplevel registration.1 registration.2 record now)
        state.store
      { state with store }.scheduleSessionSave

variable (client : Nat)

/-- The id that is meant by a request for a session, and whether its client holds it. -/
def known (sessionId : Option String) : Option (String × Bool) :=
  sessionId.bind fun id =>
    let holder := (state.live.lookup id).bind fun live =>
      if live.resource ∈ state.objects then some live.resource.client else none
    if holder.isNone && !state.store.contains id then none
    else some (id, holder == some client)

def initSession (id : String) : State Record × SessionObject :=
  let session : SessionObject := { number := state.nextObject, client, id }
  ({ state with
      objects := state.objects ++ [session]
      nextObject := state.nextObject + 1 }, session)

def initHandle (sessionId name : String) : State Record × Handle :=
  let handle : Handle := { number := state.nextObject, sessionId }
  ({ state with
      handles := state.handles ++ [handle]
      names := Function.update state.names handle.number name
      nextObject := state.nextObject + 1 }, handle)

/-- A handle that is inert from birth. -/
def initInert (name : String) : State Record := (state.initHandle "" name).1

/-- A session is handed to a new object. -/
def openSession (id : String) (reason : Reason) (now : Nat) : State Record × SessionObject :=
  let (state, session) := state.initSession client id
  let state := state.takeOver id session reason
  ({ state with store := state.store.touch id now }.scheduleSessionSave, session)

def getSession (reason : Option Reason) (sessionId : Option String) (uuid : String)
    (now : Nat) : State Record :=
  match reason with
  | none =>
    (state.initSession client "<invalid>").1.send
      (.error .invalidReason "unknown session reason")
  | some reason =>
    match state.known client sessionId with
    | some (id, true) =>
      (state.initSession client id).1.send
        (.error .inUse "session is already in use by this client")
    | some (id, false) =>
      let (state, session) := state.openSession client id reason now
      state.send (.restored session)
    | none =>
      let (state, session) := state.openSession client uuid reason now
      state.send (.created session uuid)

def setToplevels (id : String) (live : LiveSession)
    (toplevels : Table RegisteredToplevel) : State Record :=
  { state with live := state.live.insert id { live with toplevels } }

/-- Registers a toplevel, unless the object is inert or the name is taken. -/
def addToplevel (toplevel : Nat) (name : String) : State Record :=
  match state.sessionOf session with
  | none => state.initInert name
  | some live =>
    match (live.toplevels.lookup name).filter fun held =>
        state.world.isAlive held.toplevel with
    | some held =>
      (state.initInert name).send (.error .nameInUse
        ("a toplevel with this name is already in the session: " ++ session.id ++ "/" ++
          name ++ " is held by toplevel " ++ toString held.toplevel ++
          ", cannot also be toplevel " ++ toString toplevel))
    | none =>
      let (state, handle) := state.initHandle session.id name
      state.setToplevels session.id live
        (live.toplevels.insert name { toplevel, handle })

def restoreToplevel (toplevel : Nat) (name : String) : State Record :=
  if state.world.hadInitialCommit toplevel then
    (state.initInert name).send
      (.error .alreadyMapped "restore_toplevel after the toplevel's initial commit")
  else state.addToplevel session toplevel name

def removeToplevel (state : State Record) (session : SessionObject) (name : String) :
    State Record :=
  match state.sessionOf session with
  | none => state
  | some live =>
    let state := state.setToplevels session.id live (live.toplevels.erase name)
    let (store, removed) := state.store.removeToplevel session.id name
    { state with store }.scheduleIf removed

/-- Only the object that still owns the id may forget it. -/
def remove (state : State Record) (session : SessionObject) : State Record :=
  if (state.sessionOf session).isSome then
    let (store, removed) := state.store.remove session.id
    { state with store }.scheduleIf removed
  else state

/-- A session object is gone: by either of its destructors, or with its client. -/
def destroyed (now : Nat) : State Record :=
  let state := { state with objects := state.objects.erase session }
  if (state.live.lookup session.id).map LiveSession.resource = some session then
    let state := (state.saveLiveSessionToplevels session.id now).scheduleSessionSave
    { state with live := state.live.erase session.id }
  else state

def rename (handle : Handle) (newName : String) : State Record :=
  match state.live.lookup handle.sessionId with
  | none => state
  | some live =>
    let current := state.names handle.number
    match live.toplevels.lookup current with
    | none => state
    | some registration =>
      if registration.handle ≠ handle ∨ current = newName then state
      else if (live.toplevels.lookup newName).isSome then
        state.send
          (.error .nameInUse "a toplevel with this name is already in the session")
      else
        let state := state.setToplevels handle.sessionId live
          ((live.toplevels.erase current).insert newName registration)
        let (store, renamed) :=
          state.store.renameToplevel handle.sessionId current newName
        { state with
            store
            names := Function.update state.names handle.number newName }.scheduleIf
          renamed

end State

inductive Op (Record : Type) where
  | getSession (client : Nat) (reason : Option Reason) (sessionId : Option String)
      (uuid : String) (now : Nat)
  | destroy (session : SessionObject) (now : Nat)
  | remove (session : SessionObject) (now : Nat)
  | addToplevel (session : SessionObject) (toplevel : Nat) (name : String)
  | restoreToplevel (session : SessionObject) (toplevel : Nat) (name : String)
  | removeToplevel (session : SessionObject) (name : String)
  | destroyHandle (handle : Handle)
  | rename (handle : Handle) (newName : String)
  | unmapped (toplevel now : Nat)
  | sweep (now : Nat)
  | saveTimer
  | world (next : World Record)

/-- Requests come from live objects only. -/
def step (state : State Record) : Op Record → Option (State Record)
  | .getSession client reason sessionId uuid now =>
    some (state.getSession client reason sessionId uuid now)
  | .destroy session now =>
    if session ∈ state.objects then some (state.destroyed session now) else none
  | .remove session now =>
    -- a destructor too: the object's data goes in the same dispatch
    if session ∈ state.objects then some ((state.remove session).destroyed session now)
    else none
  | .addToplevel session toplevel name =>
    if session ∈ state.objects then some (state.addToplevel session toplevel name) else none
  | .restoreToplevel session toplevel name =>
    if session ∈ state.objects then some (state.restoreToplevel session toplevel name)
    else none
  | .removeToplevel session name =>
    if session ∈ state.objects then some (state.removeToplevel session name) else none
  | .destroyHandle handle =>
    if handle ∈ state.handles then
      some { state with handles := state.handles.erase handle }
    else none
  | .rename handle newName =>
    if handle ∈ state.handles then some (state.rename handle newName) else none
  | .unmapped toplevel now => some (state.saveSessionToplevel toplevel now)
  | .sweep now => some (state.saveLiveSessionToplevelsMatching none now).1
  | .saveTimer =>
    if state.saveTimer then
      some { state with saveTimer := false, store := { state.store with dirty := false } }
    else none
  | .world next => some { state with world := next }

end Synoik.Sessions
