import Mathlib.Logic.Function.Basic
import Synoik.Splash.Request

/-!
# The splash's server

Connections put requests, the server answers them in order. A request may wait for
the caller, and holds back those behind it on its connection; ending the splash answers
every waiting password, which goes on with what is queued behind each of them in the
middle of the request that ended it. What is written to a socket may fail.
-/

namespace Synoik.Plymouth

inductive Mode where
  | bootUp
  | shutdown
  | reboot
  | updates
  | systemUpgrade
  | firmwareUpgrade
  | systemReset
deriving DecidableEq

def Mode.parse (name : Text) : Option Mode :=
  if name = ascii "boot-up" then some .bootUp
  else if name = ascii "shutdown" then some .shutdown
  else if name = ascii "reboot" then some .reboot
  else if name = ascii "updates" then some .updates
  else if name = ascii "system-upgrade" then some .systemUpgrade
  else if name = ascii "firmware-upgrade" then some .firmwareUpgrade
  else if name = ascii "system-reset" then some .systemReset
  else none

structure Prompt where
  text : Option Text
deriving DecidableEq

structure Splash where
  mode : Mode := .bootUp
  shown : Bool := false
  frozen : Bool := false
  messages : List Text := []
  progress : Option Nat := none
  progressPaused : Bool := false
  passwordPrompt : Option Prompt := none

inductive Event where
  | changed
  | quit (retain : Bool)
deriving DecidableEq

/-- Drops leading white space, as Unicode has it, of a text in UTF-8. -/
def trimStart : Text → Text
  | 0xC2 :: 0x85 :: rest | 0xC2 :: 0xA0 :: rest | 0xE1 :: 0x9A :: 0x80 :: rest
  | 0xE2 :: 0x81 :: 0x9F :: rest | 0xE3 :: 0x80 :: 0x80 :: rest => trimStart rest
  | 0xE2 :: 0x80 :: byte :: rest =>
    if (0x80 ≤ byte ∧ byte ≤ 0x8A) ∨ byte ∈ [0xA8, 0xA9, 0xAF] then trimStart rest
    else 0xE2 :: 0x80 :: byte :: rest
  | byte :: rest => if byte = 32 ∨ (9 ≤ byte ∧ byte ≤ 13) then trimStart rest else byte :: rest
  | [] => []

def isDigit (byte : UInt8) : Bool := 48 ≤ byte && byte ≤ 57

/-- A percentage as C reads it, none above 100 and anything else 0. -/
def percent (text : Text) : Nat :=
  let text := trimStart text
  let (negative, text) :=
    match text with
    | 45 :: rest => (true, rest)
    | 43 :: rest => (false, rest)
    | _ => (false, text)
  let digits := text.takeWhile isDigit
  if negative || digits.isEmpty then 0
  else min (digits.foldl (fun value digit => value * 10 + (digit.toNat - 48)) 0) 100

inductive Waiting where
  | password
  | quit
  | modeChange
deriving DecidableEq

structure Connection where
  uid : Nat
  /-- What has been read and is not yet a whole request. -/
  buffer : List UInt8 := []
  queue : List Request := []
  waiting : Option Waiting := none
  /-- What is to be written. -/
  out : List UInt8 := []
  closed : Bool := false
  /-- All requests read so far. -/
  asked : List Request := []
  /-- All replies given so far. -/
  replies : List Reply := []
  /-- All bytes written so far. -/
  written : List UInt8 := []
deriving DecidableEq

structure Server where
  connections : Nat → Option Connection := fun _ => none
  nextId : Nat := 1
  allowedUid : Nat
  splash : Splash := {}
  passwordWaiters : List (Nat × Option Text) := []
  events : List Event := []
  closing : List Nat := []
  holdModeChanges : Bool := false
  /-- The connections that have been dropped, as they were. -/
  gone : Nat → Option Connection := fun _ => none
  /-- What becomes of the coming writes: all is written, or an error comes after so many
  bytes. -/
  fates : List (Option Nat) := []

def Connection.reply (connection : Connection) (reply : Reply) : Connection :=
  { connection with
    out := connection.out ++ reply.encode
    replies := connection.replies ++ [reply] }

namespace Server

variable (server : Server) (id : Nat)

def put (connection : Connection) : Server :=
  { server with connections := Function.update server.connections id (some connection) }

def changed (server : Server) : Server :=
  if server.events.getLast? = some .changed then server
  else { server with events := server.events ++ [.changed] }

/-- The splash asks for the oldest waiting password. -/
def updatePrompt : Server :=
  let prompt := server.passwordWaiters.head?.map fun waiter => Prompt.mk waiter.2
  if server.splash.passwordPrompt = prompt then server
  else
    { server with splash := { server.splash with passwordPrompt := prompt } }.changed

def showSplash : Server :=
  if !server.splash.shown || server.splash.frozen then
    { server with
      splash := { server.splash with shown := true, frozen := false } }.changed
  else server

/-- Writes what is pending. An error drops the rest and closes the connection. -/
def flush : Server :=
  match server.connections id with
  | none => server
  | some connection =>
    if connection.out.isEmpty then server
    else
      let written := match server.fates.head?.join with
        | some most =>
          if most < connection.out.length then
            { connection with
              written := connection.written ++ connection.out.take most
              out := []
              closed := true }
          else { connection with
            written := connection.written ++ connection.out, out := [] }
        | none => { connection with
            written := connection.written ++ connection.out, out := [] }
      { server.put id written with fates := server.fates.tail }

/-- Drops a connection that is closed. A waiting request dies with its client. -/
def reap : Server :=
  match server.connections id with
  | none => server
  | some connection =>
    if !connection.closed then server
    else
      let server :=
        if connection.waiting = some .password then
          updatePrompt { server with
            passwordWaiters := server.passwordWaiters.filter fun waiter =>
              waiter.1 ≠ id }
        else server
      { server with
        connections := Function.update server.connections id none
        gone := Function.update server.gone id (some connection)
        closing := server.closing ++ [id] }

section Serve

variable (serve : Server → Nat → Option Server) (server : Server) (id : Nat)

/-- Answers a waiting request, then what is queued behind it. -/
def resume (waiting : Waiting) (reply : Reply) : Option Server :=
  match server.connections id with
  | none => some server
  | some connection =>
    if connection.waiting ≠ some waiting then some server
    else
      (serve (server.put id ({ connection with waiting := none }.reply reply)) id).map
        fun server => server.reap id

def answerPassword (answer : Option Text) : Option Server :=
  match server.passwordWaiters with
  | [] => some server
  | (id, _) :: rest =>
    let reply := match answer with
      | some answer => Reply.answer answer
      | none => .noAnswer
    (resume serve { server with passwordWaiters := rest } id .password reply).map
      updatePrompt

/-- Every waiting password is sent elsewhere, so many at the most. -/
def cancelPasswords : Nat → Server → Option Server
  | most, server =>
    if server.passwordWaiters.isEmpty then some server
    else
      match most with
      | 0 => none
      | most + 1 => (answerPassword serve server none).bind (cancelPasswords most)

/-- The requests that are queued on the connections up to an id. -/
def queued (connections : Nat → Option Connection) : Nat → Nat
  | 0 => 0
  | id + 1 => queued connections id +
      ((connections id).map fun connection => connection.queue.length).getD 0

def load : Nat := queued server.connections server.nextId

def endSplash : Option Server :=
  if !server.splash.shown then some server
  else
    let server := { server with
      splash := { server.splash with
        shown := false
        frozen := false
        messages := []
        progress := none } }
    -- Each round takes a waiter, and another one needs a queued request.
    (cancelPasswords serve (server.passwordWaiters.length + server.load) server).map
      changed

def wait (waiting : Waiting) : Server :=
  match server.connections id with
  | none => server
  | some connection => server.put id { connection with waiting := some waiting }

/-- Applies one request; no reply if it waits. -/
def handle (request : Request) : Option (Server × Option Reply) :=
  match request with
  | .ping | .update _ | .sysinit | .error | .deactivate | .reactivate | .reload
  | .newRoot | .ignoreKeystroke => some (server, some .ack)
  | .changeMode name =>
    match Mode.parse name with
    | some mode =>
      if mode ≠ server.splash.mode then
        let server :=
          { server with splash := { server.splash with mode } }.changed
        if server.holdModeChanges then some (server.wait id .modeChange, none)
        else some (server, some .ack)
      else some (server, some .ack)
    | none => some (server, some .ack)
  | .systemUpdate text =>
    let server :=
      if server.splash.progressPaused then server
      else { server with
        splash := { server.splash with progress := some (percent text) } }.changed
    some (server, some .ack)
  | .showSplash => some (server.showSplash, some .ack)
  | .hideSplash =>
    let server :=
      if server.splash.shown && !server.splash.frozen then
        { server with splash := { server.splash with frozen := true } }.changed
      else server
    some (server, some .ack)
  | .quit retain =>
    if !server.splash.shown then some (server, some .ack)
    else
      (endSplash serve server).map fun server =>
        ({ server with events := server.events ++ [Event.quit retain] }.wait id .quit, none)
  | .password text =>
    if !server.splash.shown then some (server, some .noAnswer)
    else
      let server := server.wait id .password
      some (updatePrompt { server with
        passwordWaiters := server.passwordWaiters ++ [(id, text)] }, none)
  | .cachedPassword | .question _ | .watchKeystroke => some (server, some .noAnswer)
  | .showMessage text =>
    let server :=
      if text.isEmpty then
        if server.splash.messages.isEmpty then server
        else { server with splash := { server.splash with messages := [] } }.changed
      else { server with
        splash := { server.splash with
          messages := server.splash.messages ++ [text] } }.changed
    some (server, some .ack)
  | .hideMessage text =>
    let messages := server.splash.messages.filter (· ≠ text)
    let server :=
      if messages.length ≠ server.splash.messages.length then
        { server with splash := { server.splash with messages } }.changed
      else server
    some (server, some .ack)
  | .pauseProgress =>
    some ({ server with splash := { server.splash with progressPaused := true } }, some .ack)
  | .unpauseProgress =>
    some ({ server with splash := { server.splash with progressPaused := false } }, some .ack)
  | .hasActiveVt | .unknown _ => some (server, some .nak)

end Serve

/-- Answers a connection's queued requests in order, so many at the most, stopping at
one that waits. -/
def serve : Nat → Server → Nat → Option Server
  | 0, _, _ => none
  | most + 1, server, id =>
    match server.connections id with
    | none => some server
    | some connection =>
      if connection.waiting.isSome then some (server.flush id)
      else
        match connection.queue with
        | [] => some (server.flush id)
        | request :: queue =>
          let server := server.put id { connection with queue }
          let handled :=
            if connection.uid = server.allowedUid then
              handle (serve most) server id request
            else some (server, some .nak)
          handled.bind fun (server, reply) =>
            match reply with
            | none => some (server.flush id)
            | some reply =>
              -- The connection is expected to be there still.
              (server.connections id).bind fun connection =>
              serve most (server.put id (connection.reply reply)) id

/-- Serves a connection to the end of its queue. -/
def attend : Option Server := serve (server.load + 1) server id

def accept (uid : Nat) : Server :=
  { server.put server.nextId { uid } with nextId := server.nextId + 1 }

/-- Reads what a connection sent, and whether it has ended, and answers it. -/
def onReadable (bytes : List UInt8) (ended : Bool) : Option Server :=
  match server.connections id with
  | none => some server
  | some connection =>
    let buffer := connection.buffer ++ bytes
    let (requests, rest) := takeRequests buffer.length buffer
    let connection := { connection with
      buffer := rest
      queue := connection.queue ++ requests
      asked := connection.asked ++ requests
      closed := connection.closed || ended }
    ((server.put id connection).attend id).map fun server => server.reap id

variable (order : List Nat)

/-- The connections, those of a list first and in its order: any order at all. -/
def inOrder : List Nat :=
  (order ++ List.range server.nextId).eraseDups.filter fun id =>
    (server.connections id).isSome

def waitsFor (waiting : Waiting) (id : Nat) : Bool :=
  match server.connections id with
  | some connection => connection.waiting = some waiting
  | none => false

def idle : Bool :=
  match server.connections id with
  | some connection => connection.waiting.isNone && connection.queue.isEmpty
  | none => false

/-- Acknowledges the waiting requests of some connections, one after the other. -/
def resumeAll (waiting : Waiting) : List Nat → Server → Option Server
  | [], server => some server
  | id :: ids, server =>
    (resume attend server id waiting .ack).bind (resumeAll waiting ids)

def close : Server :=
  match server.connections id with
  | none => server
  | some connection => (server.put id { connection with closed := true }).reap id

/-- The splash has ended: every waiting quit is acknowledged, and the connections with
nothing pending are closed. -/
def finishQuit (again : List Nat) : Option Server :=
  (resumeAll .quit ((server.inOrder order).filter (server.waitsFor .quit)) server).map
    fun server => ((server.inOrder again).filter server.idle).foldl close server

def finishModeChange : Option Server :=
  resumeAll .modeChange
    ((server.inOrder order).filter (server.waitsFor .modeChange)) server

def end_ (again : List Nat) : Option Server :=
  (endSplash attend server).bind fun server => server.finishQuit order again

end Server

inductive ServerOp where
  | accept (uid : Nat)
  | onReadable (id : Nat) (bytes : List UInt8) (ended : Bool)
  | answerPassword (answer : Option Text)
  | finishQuit (order again : List Nat)
  | finishModeChange (order : List Nat)
  | show_
  | end_ (order again : List Nat)
  | holdModeChanges
  | takeEvents
  | takeClosing

namespace Server

def step (server : Server) : ServerOp → Option Server
  | .accept uid => some (server.accept uid)
  | .onReadable id bytes ended => server.onReadable id bytes ended
  | .answerPassword answer => answerPassword attend server answer
  | .finishQuit order again => server.finishQuit order again
  | .finishModeChange order => server.finishModeChange order
  | .show_ => some server.showSplash
  | .end_ order again => server.end_ order again
  | .holdModeChanges => some { server with holdModeChanges := true }
  | .takeEvents => some { server with events := [] }
  | .takeClosing => some { server with closing := [] }

/-- A server as it starts, which may carry on another's splash and has its writes
ahead of it. -/
def new (allowedUid : Nat) (splash : Splash) (fates : List (Option Nat)) : Server :=
  { allowedUid, fates, splash := { splash with passwordPrompt := none } }

end Server

end Synoik.Plymouth
