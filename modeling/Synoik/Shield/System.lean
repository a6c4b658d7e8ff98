import Synoik.Shield.Session
import Synoik.Support.Runs

/-!
# The compositor and the verifier as two processes

The verifier's task reads one request at a time. A request to begin first closes
the conversation it has, then reaches the display manager, then begins; the signals
of a conversation are passed on from the moment its channel is connected until the
call that closes it has returned. Everything the task says waits in a queue until
the compositor reads it. Each event carries here the epoch of the request to begin
that its conversation was opened for, which the source does not send.
-/

namespace Synoik

inductive Stage where
  /-- It waits for a request, with a conversation or without. -/
  | resting (conversation : Option Epoch)
  /-- It closes a conversation, and may have another to begin. -/
  | closing (old : Epoch) (next : Option Epoch)
  /-- It connects to the channel that a request to begin is for. -/
  | connecting (epoch : Epoch)
  /-- The signals of the channel are passed on, and verification begins. -/
  | beginning (epoch : Epoch)

namespace Stage

/-- The conversation whose signals are passed on. -/
def speaking : Stage → Option Epoch
  | .resting conversation => conversation
  | .closing old _ => some old
  | .connecting _ => none
  | .beginning epoch => some epoch

/-- The requests to begin that the task has to do with, oldest first. -/
def epochs : Stage → List Epoch
  | .resting conversation => conversation.toList
  | .closing old next => old :: next.toList
  | .connecting epoch => [epoch]
  | .beginning epoch => [epoch]

def read (conversation : Option Epoch) : VerifierRequest → Stage
  | .begin request =>
    match conversation with
    | some old => .closing old (some request.epoch)
    | none => .connecting request.epoch
  | .cancel =>
    match conversation with
    | some old => .closing old none
    | none => .resting none
  | .answer _ | .startFingerprint | .startSession _ => .resting conversation

end Stage

/-- The answers to a request to begin, which the task gives and not the pump. -/
def VerifierEvent.isAnswer : VerifierEvent → Bool
  | .ready _ => true
  | .unavailable _ _ => true
  | _ => false

structure LockSystem where
  compositor : Compositor := {}
  stage : Stage := .resting none
  events : List (Epoch × VerifierEvent) := []
  /-- The epoch the shield was at when it was last raised. -/
  raisedAt : Epoch := 0
  /-- The requests that were answered, by the verifier, by its deadline, or by the
  loss of their own channel. -/
  answered : List Epoch := []

inductive SystemOp where
  /-- Anything that happens to the compositor but a word of the verifier. -/
  | shell (now : Duration) (event : ShellEvent)
  /-- The compositor reads what the verifier said. -/
  | deliver (now : Duration)
  | fetch
  /-- The call that closes the old conversation has returned. -/
  | closed
  | connected (failure : Option String)
  | began (failure : Option String)
  | speak (event : VerifierEvent)
  /-- The verifier's task is gone. -/
  | hangUp

def ShellEvent.answers (state : Compositor) : ShellEvent → List Epoch
  | .watchdog epoch => if epoch ∈ state.watchdogs then [epoch] else []
  | _ => []

def VerifierEvent.answers (origin : Epoch) : VerifierEvent → List Epoch
  | .ready epoch => [epoch]
  | .unavailable epoch _ => [epoch]
  | .lost => [origin]
  | _ => []

/-- The epoch of the last raise, after a step from one gate to another. -/
def Gate.raising (before after : Gate) (raisedAt : Epoch) : Epoch :=
  if before.active && !after.active then after.epoch else raisedAt

namespace LockSystem

def gate (system : LockSystem) : Gate := system.compositor.shield.gate

variable (system : LockSystem)

/-- The compositor has handled an event. -/
def handled (compositor : Compositor) (answers : List Epoch) : LockSystem :=
  { system with
    compositor
    raisedAt := system.gate.raising compositor.shield.gate system.raisedAt
    answered := answers ++ system.answered }

/-- The next request to the verifier, and the compositor without it. -/
def nextRequest (compositor : Compositor) : Option (VerifierRequest × Compositor) :=
  match compositor.gdmRequests with
  | none => none
  | some sender =>
    match sender.queue with
    | [] => none
    | request :: queue =>
      some (request,
        { compositor with gdmRequests := some { sender with queue } })

def say (origin : Epoch) (event : VerifierEvent) : LockSystem :=
  { system with events := system.events ++ [(origin, event)] }

/-- The task tells what became of a request to begin. -/
def settle (epoch : Epoch) : Option String → LockSystem
  | none => { system with stage := .resting (some epoch) }.say epoch (.ready epoch)
  | some reason =>
    { system with stage := .resting none }.say epoch (.unavailable epoch reason)

def step : SystemOp → Option LockSystem
  | .shell now event =>
    match event with
    | .verifier _ => none
    | event =>
      some (system.handled (system.compositor.handle now event)
        (event.answers system.compositor))
  | .deliver now =>
    match system.events with
    | [] => none
    | (origin, event) :: events =>
      some ({ system with events }.handled
        (system.compositor.handle now (.verifier event)) (event.answers origin))
  | .fetch =>
    match system.stage with
    | .resting conversation =>
      (nextRequest system.compositor).map fun (request, compositor) =>
      { system with compositor, stage := .read conversation request }
    | _ => none
  | .closed =>
    match system.stage with
    | .closing _ (some epoch) => some { system with stage := .connecting epoch }
    | .closing _ none => some { system with stage := .resting none }
    | _ => none
  | .connected failure =>
    match system.stage with
    | .connecting epoch =>
      match failure with
      | none => some { system with stage := .beginning epoch }
      | some reason => some (system.settle epoch (some reason))
    | _ => none
  | .began failure =>
    match system.stage with
    | .beginning epoch => some (system.settle epoch failure)
    | _ => none
  | .speak event =>
    match system.stage.speaking with
    | some epoch => if event.isAnswer then none else some (system.say epoch event)
    | none => none
  | .hangUp =>
    some { system with
      stage := .resting none
      compositor := { system.compositor with
        gdmRequests := system.compositor.gdmRequests.map fun _ =>
          { closed := true, queue := [] } } }

end LockSystem

end Synoik
