import Mathlib.Data.List.Basic

/-!
# The authentication agent

The agent has one request on screen and one helper under it; further requests wait their turn.
A call is known by the order in which it arrived. Calls are carried along with what is sent
for them and are never read.
-/

namespace Synoik.Polkit

structure BeginRequest where
  userName : String
  passwordless : Bool

/-- What the agent tells the compositor. -/
inductive ToSynoik where
  | begin (call : Nat) (request : BeginRequest)
  | cancel
  | request (prompt : String) (echoOn : Bool)
  | showError (text : String)
  | showInfo (text : String)
  | completed (ok : Bool)

/-- What the dialog tells the agent. -/
inductive PolkitRequest where
  | initiate (userName : String)
  | respond (response : String)
  | done (dismissed : Bool)

inductive HelperMessage where
  | prompt (text : String) (echoOn : Bool)
  | error (text : String)
  | info (text : String)
  | completed (ok : Bool)

/-- A call that is not answered yet. -/
structure Begin where
  request : BeginRequest
  cookie : String
  done : Nat

/-- A helper, with what it was told. -/
structure HelperSession where
  userName : String
  cookie : String
  call : Nat
  answers : List String := []

structure Agent where
  scheduled : List Begin := []
  current : Option Begin := none
  session : Option HelperSession := none
  epoch : Nat := 0

inductive Output where
  | send (message : ToSynoik)
  | reply (call : Nat) (dismissed : Bool)

inductive Event where
  | begin (begin : Begin)
  | cancel (cookie : String)
  | request (request : PolkitRequest) (spawned : Bool)
  | helper (epoch : Nat) (message : HelperMessage)

namespace Agent

variable (agent : Agent)

def processNext : Agent × List Output :=
  match agent.current, agent.scheduled with
  | none, begin :: rest =>
    ({ agent with scheduled := rest, current := some begin },
      [.send (.begin begin.done begin.request)])
  | _, _ => (agent, [])

def schedule (begin : Begin) : Agent × List Output :=
  processNext { agent with scheduled := agent.scheduled ++ [begin] }

def answer (current : Option Begin) (dismissed : Bool) : List Output :=
  (current.map fun begin => Output.reply begin.done dismissed).toList

def finish (dismissed : Bool) : Agent × List Output :=
  let (next, outputs) :=
    processNext { agent with session := none, epoch := agent.epoch + 1, current := none }
  (next, answer agent.current dismissed ++ outputs)

def cancel (agent : Agent) (cookie : String) : Agent × List Output :=
  if agent.current.any (fun begin => begin.cookie == cookie) then
    let (next, outputs) := agent.finish false
    (next, .send .cancel :: outputs)
  else
    -- Not the one on screen.
    ({ agent with
        scheduled := agent.scheduled.eraseP fun begin => begin.cookie == cookie },
      answer (agent.scheduled.find? fun begin => begin.cookie == cookie) false)

def initiate (userName : String) (spawned : Bool) : Agent × List Output :=
  match agent.current with
  | none => (agent, [])
  | some current =>
    if spawned then
      ({ agent with
          epoch := agent.epoch + 1
          session := some { userName, cookie := current.cookie, call := current.done } }, [])
    else
      ({ agent with epoch := agent.epoch + 1, session := none }, [.send (.completed false)])

def respond (response : String) : Agent :=
  { agent with
    session := agent.session.map fun session =>
      { session with answers := session.answers ++ [response] } }

def onRequest (request : PolkitRequest) (spawned : Bool) : Agent × List Output :=
  match request with
  | .initiate userName => agent.initiate userName spawned
  | .respond response => (agent.respond response, [])
  | .done dismissed => agent.finish dismissed

def onHelper (epoch : Nat) (message : HelperMessage) : Agent × List Output :=
  -- A dead conversation's parting words.
  if epoch ≠ agent.epoch then (agent, [])
  else
    match message with
    | .prompt text echoOn => (agent, [.send (.request text echoOn)])
    | .error text => (agent, [.send (.showError text)])
    | .info text => (agent, [.send (.showInfo text)])
    | .completed ok => ({ agent with session := none }, [.send (.completed ok)])

def step : Event → Agent × List Output
  | .begin begin => agent.schedule begin
  | .cancel cookie => agent.cancel cookie
  | .request request spawned => agent.onRequest request spawned
  | .helper epoch message => agent.onHelper epoch message

end Agent

end Synoik.Polkit
