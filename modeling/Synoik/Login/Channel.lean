import Mathlib.Logic.Function.Basic
import Synoik.Login.Ipc
import Synoik.Support.Runs

/-!
# A channel of the login daemon

A channel serves one client and runs one worker for each PAM conversation. The
client's calls are handled one after the other; beside them a pump for each worker
relays its frames. A step here is what a call or a pump does between taking a lock
and giving it back, so that the steps of pumps and calls interleave as the source's
critical sections do. Workers are numbered as they are spawned, in the place of
their pids.
-/

namespace Synoik

inductive ChannelKind where
  | reauth (user session : String)
  | login
deriving DecidableEq

/-- Where a worker stands with its PAM transaction. -/
inductive WorkerStage where
  | verifying
  /-- It has reported success and waits to be told to open its session. -/
  | verified
  | opening
  /-- It has reported its session and waits to be told to start it. -/
  | opened
  | started
  /-- It has exited, or has nothing left to do but exit. -/
  | exited
deriving DecidableEq

inductive PumpStage where
  | reading
  /-- Its worker has verified: to see whether another has won. -/
  | judging
  /-- Another has won: to stop its own conversation. -/
  | refused
  /-- It has won: to end the others and have the session opened. -/
  | opening
  /-- Its worker has failed: to give up a win. -/
  | losing
  | stopping
  /-- Its worker's socket is at its end: to wait for the worker and forget it. -/
  | draining
  | leaving
  | gone
deriving DecidableEq

/-- A worker, its socket and its pump. -/
structure Conversation where
  service : String := ""
  user : String := ""
  worker : WorkerStage := .verifying
  /-- What the daemon has written and the worker has not read. -/
  toWorker : List Frame := []
  /-- What the worker has written and the pump has not read. -/
  fromWorker : List Frame := []
  verified : Bool := false
  /-- The daemon has shut the socket down. -/
  shut : Bool := false
  /-- The daemon has sent the worker a signal to terminate. -/
  killed : Bool := false
  pump : PumpStage := .reading
  /-- What the pump has read, in order. -/
  reported : List Frame := []
  sentOpen : Bool := false
  sentStart : Bool := false

structure Winner where
  service : String
  session : Option String
  /-- The worker whose report won, which the source does not keep. -/
  worker : Nat

structure LoginSession where
  id : String
  name : String
  /-- Its type, unless it could not be asked for. -/
  kind : Option String
  state : Option String
  /-- Whether the call to terminate it succeeds. -/
  terminates : Bool
deriving DecidableEq

inductive LogindCall where
  | unlockSession (id : String)
  | activateSession (id : String)
  | terminateSession (session : LoginSession)
deriving DecidableEq

structure Channel where
  kind : ChannelKind := .login
  user : Option String := none
  conversations : String → Option Nat := fun _ => none
  workers : Nat → Conversation := fun _ => {}
  spawned : Nat := 0
  winner : Option Winner := none
  /-- A call to start a session that has looked the winner up, and not yet the
  conversation: its service and the session. -/
  starting : Option (String × String) := none
  adopted : List (Nat × String) := []
  logindCalls : List LogindCall := []

inductive ChannelError where
  | alreadyRunning
  | noUserToVerify
  | spawning
  | nameTheUser
  | anotherUser
  | alreadyVerifyingAnother
  | notRunning
  | noSessionToStart
  | notOpenYet
  | gone
  | broken
  | noSessionOpened
  | logind

/-- The PAM service behind a service name on the wire. -/
def pamService (wire : String) : Option String :=
  if wire = "gdm-password" then some "synoik-password"
  else if wire = "gdm-fingerprint" then some "synoik-fingerprint"
  else none

namespace Conversation

variable (conversation : Conversation)

/-- The worker has closed its end of the socket. -/
def closed : Bool := conversation.worker == .exited || conversation.worker == .started

/-- Whether a frame can be written to the worker. -/
def listens : Bool := !conversation.shut && !conversation.closed

def write (frame : Frame) : Conversation :=
  if conversation.listens then
    { conversation with toWorker := conversation.toWorker ++ [frame] }
  else
    conversation

def send (frame : Frame) : Conversation :=
  if conversation.shut then conversation
  else { conversation with fromWorker := conversation.fromWorker ++ [frame] }

/-- Ends a conversation. One still inside PAM is killed; one past it is left to
find its socket closed. -/
def end_ : Conversation :=
  if conversation.verified then { conversation with shut := true }
  else { conversation with killed := true }

end Conversation

inductive WorkerAct where
  /-- A question or a message on the way. -/
  | say (frame : Frame)
  /-- It reads what the daemon sent, or the end of it. -/
  | hear
  | complete
  | fail (text : String)
  | giveUp (text : String)
  | open_ (id : String)
  | die

namespace Conversation

/-- A worker that waits for one frame goes on when it comes, and ends on any other
or on the end of its socket. -/
def await (conversation : Conversation) (frame : Frame) (next : WorkerStage) :
    Option Conversation :=
  match conversation.toWorker with
  | heard :: rest =>
    some { conversation with
      toWorker := rest
      worker := if heard = frame then next else .exited }
  | [] => if conversation.shut then some { conversation with worker := .exited } else none

def act (kind : ChannelKind) (conversation : Conversation) : WorkerAct → Option Conversation
  | .say frame =>
    if conversation.closed || !frame.isMessage then none
    else some (conversation.send frame)
  | .hear =>
    match conversation.worker with
    | .verifying | .opening => some { conversation with toWorker := conversation.toWorker.tail }
    | .verified =>
      -- A worker that only verifies stays until it is ended.
      conversation.await .open_ (if kind = .login then .opening else .exited)
    | .opened => conversation.await .start .started
    | _ => none
  | .complete =>
    if conversation.worker = .verifying then
      some { conversation.send .complete with worker := .verified }
    else none
  | .fail text =>
    if conversation.worker = .verifying ∨ conversation.worker = .opening then
      some { conversation.send (.failed text) with worker := .exited }
    else none
  | .giveUp text =>
    if conversation.worker = .verifying then
      some { conversation.send (.unavailable text) with worker := .exited }
    else none
  | .open_ id =>
    if conversation.worker = .opening then
      some { conversation.send (.opened id) with worker := .opened }
    else none
  | .die => some { conversation with worker := .exited }

end Conversation

namespace Channel

def update (channel : Channel) (worker : Nat)
    (change : Conversation → Conversation) : Channel :=
  { channel with
    workers := Function.update channel.workers worker (change (channel.workers worker)) }

variable (channel : Channel) (worker : Nat)

/-- Whether a worker is the one its service's conversation runs. -/
def isOurs : Bool := channel.conversations (channel.workers worker).service == some worker

/-- Whether any conversation runs. -/
def busy : Bool := (List.range channel.spawned).any channel.isOurs

variable (service : String)

/-- Changes the conversation that runs under a name, if one does. -/
def onService (change : Conversation → Conversation) : Channel :=
  match channel.conversations service with
  | some worker => channel.update worker change
  | none => channel

def stop : Channel := channel.onService service Conversation.end_

def endWhere (ends : Nat → Bool) : Channel :=
  { channel with
    workers := fun worker =>
      if channel.isOurs worker && ends worker then (channel.workers worker).end_
      else channel.workers worker }

def stopAll : Channel := channel.endWhere fun _ => true

/-- A service that is out gives up its win. -/
def lose : Channel :=
  { channel with
    winner := channel.winner.filter fun winner => winner.service != service }

def moveTo (pump : PumpStage) : Channel :=
  channel.update worker fun conversation => { conversation with pump }

/-- What becomes of a frame once it is taken from the socket. -/
def relay (frame : Frame) : Channel :=
  match frame with
  | .complete =>
    (channel.onService (channel.workers worker).service fun conversation =>
    { conversation with verified := true }).moveTo worker .judging
  | .opened id =>
    { channel with
      winner := channel.winner.map fun winner => { winner with session := some id } }
  | .failed _ | .unavailable _ => channel.moveTo worker .losing
  | _ => channel

def take (frame : Frame) (rest : List Frame) : Channel :=
  channel.update worker fun conversation =>
    { conversation with
      fromWorker := rest
      reported := conversation.reported ++ [frame] }

/-- The first to verify wins; another is stopped. -/
def judge : Channel :=
  match channel.kind with
  | .reauth _ session =>
    { channel with
      logindCalls := channel.logindCalls ++
        [LogindCall.unlockSession session, .activateSession session]
      }.moveTo worker .reading
  | .login =>
    match channel.winner with
    | some _ => channel.moveTo worker .refused
    | none =>
      { channel with
        winner := some {
          service := (channel.workers worker).service
          session := none
          worker } }.moveTo worker .opening

/-- The winner's turn: the others are ended and its session opened. -/
def openWinner : Channel :=
  let service := (channel.workers worker).service
  let channel := channel.endWhere fun other => (channel.workers other).service != service
  let channel := channel.onService service fun conversation =>
    { conversation.write .open_ with sentOpen := true }
  channel.moveTo worker .reading

/-- The worker has exited: its conversation is forgotten. -/
def forget : Channel :=
  let channel :=
    if channel.isOurs worker then
      { channel with
        conversations := Function.update channel.conversations
          (channel.workers worker).service none }
    else
      channel
  channel.moveTo worker .leaving

def pumpStep : Option Channel :=
  let conversation := channel.workers worker
  match conversation.pump with
  | .reading =>
    match conversation.fromWorker with
    | frame :: rest => some ((channel.take worker frame rest).relay worker frame)
    | [] =>
      if conversation.shut || conversation.closed then
        some (channel.moveTo worker
          (if channel.isOurs worker then .draining else .gone))
      else none
  | .judging => some (channel.judge worker)
  | .refused => some ((channel.stop conversation.service).moveTo worker .reading)
  | .opening => some (channel.openWinner worker)
  | .losing => some ((channel.lose conversation.service).moveTo worker .stopping)
  | .stopping => some ((channel.stop conversation.service).moveTo worker .reading)
  | .draining =>
    if conversation.worker = .exited then some (channel.forget worker) else none
  | .leaving => some ((channel.lose conversation.service).moveTo worker .gone)
  | .gone => none

def spawn (user : String) : Channel :=
  { channel with
    workers := Function.update channel.workers channel.spawned { service, user }
    conversations := Function.update channel.conversations service (some channel.spawned)
    spawned := channel.spawned + 1 }

def begin_ (spawns : Bool) : Channel × Option ChannelError :=
  if (channel.conversations service).isSome then
    (channel, some .alreadyRunning)
  else if (pamService service).isNone then
    -- The client is told that the service is unavailable, has failed and stopped.
    (channel, none)
  else
    match channel.user with
    | none => (channel, some .noUserToVerify)
    | some user =>
      if spawns then (channel.spawn service user, none)
      else (channel, some .spawning)

def beginVerification (spawns : Bool) : Channel × Option ChannelError :=
  if channel.kind = .login then (channel, some .nameTheUser)
  else channel.begin_ service spawns

def beginVerificationForUser (username : String) (spawns : Bool) : Channel × Option ChannelError :=
  match channel.kind with
  | .reauth _ _ =>
    if channel.user ≠ some username then (channel, some .anotherUser)
    else channel.begin_ service spawns
  | .login =>
    if channel.busy ∧ channel.user ≠ some username then
      (channel, some .alreadyVerifyingAnother)
    else
      { channel with user := some username }.begin_ service spawns

def answerQuery (answer : String) : Channel × Option ChannelError :=
  match channel.conversations service with
  | none => (channel, some .notRunning)
  | some worker =>
    (channel.update worker fun conversation =>
        conversation.write (.answer answer.toUTF8.toList),
      if (channel.workers worker).listens then none else some .broken)

/-- Looks up the session the winning conversation has opened. -/
def startSessionWhenReady (shouldStartSession : Bool) : Channel × Option ChannelError :=
  match channel.winner with
  | none => (channel, some .noSessionToStart)
  | some winner =>
    if winner.service ≠ service then (channel, some .noSessionToStart)
    else
      match winner.session with
      | none => (channel, some .notOpenYet)
      | some session =>
        if shouldStartSession then
          ({ channel with starting := some (service, session) }, none)
        else
          (channel.stop service, none)

/-- The second half of starting a session: its conversation becomes the daemon's. -/
def startConversation (session : String) : Channel × Option ChannelError :=
  let channel := { channel with starting := none }
  match channel.conversations service with
  | none => (channel, some .gone)
  | some worker =>
    let listens := (channel.workers worker).listens
    let channel := { channel with
      conversations := Function.update channel.conversations service none }
    let channel := channel.update worker fun conversation =>
    { conversation.write .start with sentStart := true }
    if listens then
      ({ channel with adopted := channel.adopted ++ [(worker, session)] }, none)
    else
      (channel, some .broken)

/-- Whether a session is in the way of one that is kept. -/
def conflicts (user keep : String) (session : LoginSession) : Bool :=
  session.name == user && session.id != keep

/-- Terminates the user's other graphical sessions one after the other, until
something fails. -/
def stopConflicting (user keep : String) : List LoginSession → List LogindCall × Bool
  | [] => ([], true)
  | session :: sessions =>
    if !conflicts user keep session then stopConflicting user keep sessions
    else
      match session.kind, session.state with
      | some kind, some state =>
        if (kind = "wayland" ∨ kind = "x11") ∧
            (state = "active" ∨ state = "online") then
          if session.terminates then
            let (calls, done) := stopConflicting user keep sessions
            (.terminateSession session :: calls, done)
          else
            ([.terminateSession session], false)
        else
          stopConflicting user keep sessions
      | _, _ => ([], false)

def stopConflictingSession (sessions : List LoginSession) : Channel × Option ChannelError :=
  match channel.user, channel.winner.bind Winner.session with
  | some user, some session =>
    let (calls, done) := stopConflicting user session sessions
    ({ channel with logindCalls := channel.logindCalls ++ calls },
      if done then none else some .logind)
  | _, _ => (channel, some .noSessionOpened)

end Channel

inductive ChannelOp where
  | beginVerification (service : String) (spawns : Bool)
  | beginVerificationForUser (service username : String) (spawns : Bool)
  | answerQuery (service answer : String)
  | cancel
  | startSessionWhenReady (service : String) (shouldStartSession : Bool)
  /-- The call to start a session goes on. -/
  | startConversation
  | stopConflictingSession (sessions : List LoginSession)
  /-- The client has gone. -/
  | hangUp
  | pump (worker : Nat)
  | work (worker : Nat) (act : WorkerAct)

namespace Channel

/-- A call is handled once the one before it has returned. -/
def call (channel : Channel) (handled : Channel × Option ChannelError) : Option Channel :=
  if channel.starting.isSome then none else some handled.1

def step (channel : Channel) : ChannelOp → Option Channel
  | .beginVerification service spawns =>
    channel.call (channel.beginVerification service spawns)
  | .beginVerificationForUser service username spawns =>
    channel.call (channel.beginVerificationForUser service username spawns)
  | .answerQuery service answer => channel.call (channel.answerQuery service answer)
  | .cancel => channel.call (channel.stopAll, none)
  | .startSessionWhenReady service shouldStartSession =>
    if channel.kind = .login then
      channel.call (channel.startSessionWhenReady service shouldStartSession)
    else none
  | .startConversation =>
    channel.starting.map fun (service, session) =>
    (channel.startConversation service session).1
  | .stopConflictingSession sessions =>
    if channel.kind = .login then channel.call (channel.stopConflictingSession sessions)
    else none
  | .hangUp => some channel.stopAll
  | .pump worker => if worker < channel.spawned then channel.pumpStep worker else none
  | .work worker act =>
    if worker < channel.spawned then
      ((channel.workers worker).act channel.kind act).map fun conversation =>
        channel.update worker fun _ => conversation
    else none

def opened : ChannelKind → Channel
  | .reauth user session => { kind := .reauth user session, user := some user }
  | .login => {}

end Channel

end Synoik
