import Synoik.Polkit.Dialog
import Synoik.Support.Runs

/-!
# The agent and the dialog

Two processes with a channel each way. The dialog's messages name no request, and the agent
takes them for the one it has on screen. They concern the request that they were sent for as
long as none of them crosses the next request.
-/

namespace Synoik.Polkit

open List

/-- A message of the dialog, with the call that it was sent for. -/
structure Sent where
  call : Option Nat
  request : PolkitRequest

def PolkitRequest.isResponse : PolkitRequest → Bool
  | .respond _ => true
  | _ => false

structure System where
  agent : Agent := {}
  arrived : Nat := 0
  toDialog : List ToSynoik := []
  dialog : PolkitDialog := {}
  isLocked : Bool := false
  deferred : Option (Nat × BeginRequest) := none
  toAgent : List Sent := []

inductive Op where
  | begin (request : BeginRequest) (cookie : String)
  | cancel (cookie : String)
  | helper (epoch : Nat) (message : HelperMessage)
  | take (spawned : Bool)
  | deliver
  | resume
  | lock (isLocked : Bool)
  | type (entry : String)
  | resetTimeout
  | authenticate
  | dismiss

def Output.message : Output → Option ToSynoik
  | send message => some message
  | reply _ _ => none

def ToSynoik.isBegin : ToSynoik → Bool
  | begin _ _ => true
  | _ => false

namespace System

def stepped (system : System) (result : Agent × List Output) : System :=
  { system with
    agent := result.1
    toDialog := system.toDialog ++ result.2.filterMap Output.message }

def shown (system : System) (result : PolkitDialog × PolkitEffects) : System :=
  { system with
    dialog := result.1
    toAgent := system.toAgent ++
      (result.2.request.map fun request => Sent.mk result.1.lastCall request).toList }

def onPolkitMsg (system : System) (message : ToSynoik) : System :=
  match message, system.isLocked with
  -- Not over a lock screen.
  | .begin call request, true => { system with deferred := some (call, request) }
  | .cancel, _ => { system with deferred := none }.shown (system.dialog.onAgentEvent .cancel)
  | message, _ => system.shown (system.dialog.onAgentEvent message)

def step (system : System) : Op → Option System
  | .begin request cookie =>
    some { system.stepped (system.agent.schedule ⟨request, cookie, system.arrived⟩) with
      arrived := system.arrived + 1 }
  | .cancel cookie => some (system.stepped (system.agent.cancel cookie))
  | .helper epoch message => some (system.stepped (system.agent.onHelper epoch message))
  | .take spawned =>
    match system.toAgent with
    | [] => none
    | sent :: rest =>
      some { system.stepped (system.agent.onRequest sent.request spawned) with toAgent := rest }
  | .deliver =>
    match system.toDialog with
    | [] => none
    | message :: rest => some ({ system with toDialog := rest }.onPolkitMsg message)
  | .resume =>
    match system.deferred, system.isLocked with
    | some (call, request), false =>
      some ({ system with deferred := none }.onPolkitMsg (.begin call request))
    | _, _ => none
  | .lock isLocked => some { system with isLocked }
  | .type entry => some { system with dialog := system.dialog.type entry }
  | .resetTimeout => some (system.shown system.dialog.onResetTimeout)
  | .authenticate =>
    if system.dialog.isOpen then some (system.shown system.dialog.authenticate) else none
  | .dismiss => if system.dialog.isOpen then some (system.shown system.dialog.cancel) else none

/-- Whether the agent puts another request to the dialog. -/
def turns (system : System) : Op → Bool
  | .begin _ _ => system.agent.current.isNone
  | .cancel cookie =>
    system.agent.current.any (fun begin => begin.cookie == cookie) &&
      !system.agent.scheduled.isEmpty
  | .take _ =>
    match system.toAgent with
    | ⟨_, .done _⟩ :: _ => !system.agent.scheduled.isEmpty
    | _ => false
  | _ => false

/-- The messages that are on their way to the agent when it has taken the step. -/
def inFlight (system : System) : Op → List Sent
  | .take _ => system.toAgent.tail
  | _ => system.toAgent

/-- Whether the dialog sends an initiate or a done. -/
def speaks (system : System) : Op → Bool
  | .deliver =>
    match system.toDialog with
    | .begin _ request :: _ => !system.isLocked && !request.passwordless
    | .completed _ :: _ => true
    | _ => false
  | .resume => system.deferred.any fun held => !held.2.passwordless
  | .authenticate => system.dialog.mode = .confirm
  | .dismiss => true
  | _ => false

/-- The request that is held back while the screen is locked. -/
def heldBack (deferred : Option (Nat × BeginRequest)) : List ToSynoik :=
  (deferred.map fun held => ToSynoik.begin held.1 held.2).toList

/-- What the dialog has yet to hear of when it has taken the step. -/
def awaited (system : System) : Op → List ToSynoik
  | .deliver => heldBack system.deferred ++ system.toDialog.tail
  | .resume => system.toDialog
  | _ => heldBack system.deferred ++ system.toDialog

/-- The agent turns to another request only when no initiate or done is on its way to it, and
the dialog sends these only when no other request is on its way to it or held back. -/
abbrev Uncrossed (system : System) (op : Op) : Prop :=
  (system.turns op = true → ∀ sent ∈ system.inFlight op, sent.request.isResponse = true) ∧
    (system.speaks op = true → ∀ message ∈ system.awaited op, message.isBegin = false)

end System

/-- The last call that was put to the dialog, once it has heard of all messages. -/
def settle (last : Option Nat) (messages : List ToSynoik) : Option Nat :=
  messages.foldl (fun last message =>
    match message with
    | .begin call _ => some call
    | _ => last) last

/-- Whether a request is up after some messages, unless one is put up over another. -/
def scan (isUp : Bool) : List ToSynoik → Option Bool
  | [] => some isUp
  | .begin _ _ :: rest => if isUp then none else scan true rest
  | .cancel :: rest => scan false rest
  | _ :: rest => scan isUp rest

def ToSynoik.isPlain : ToSynoik → Bool
  | begin _ _ => false
  | cancel => false
  | _ => true

variable {last : Option Nat} {msgs rest : List ToSynoik} {msg : ToSynoik}
  {isUp after isShown : Bool}

lemma ToSynoik.begin_or_cancel_or_plain (msg : ToSynoik) :
    (∃ call req, msg = .begin call req) ∨ msg = .cancel ∨ msg.isPlain = true := by
  cases msg <;> simp [ToSynoik.isPlain]

lemma ToSynoik.isBegin_of_plain (plain : msg.isPlain = true) : msg.isBegin = false := by
  cases msg <;> first | rfl | cases plain

lemma ToSynoik.isBegin_eq_false : (∀ msg ∈ msgs, msg.isBegin = false) ↔
    ¬ ∃ msg ∈ msgs, msg.isBegin = true := by
  simp

lemma settle_plain (plain : msg.isBegin = false) :
    settle last (msg :: msgs) = settle last msgs := by
  cases msg <;> first | rfl | cases plain

lemma scan_plain (plain : msg.isPlain = true) : scan isUp (msg :: msgs) = scan isUp msgs := by
  cases msg <;> first | rfl | cases plain

lemma settle_append (last : Option Nat) (msgs rest : List ToSynoik) :
    settle last (msgs ++ rest) = settle (settle last msgs) rest :=
  foldl_append

lemma eq_nil_of_passes {α : Type} {val : List ToSynoik → α} {plain : ToSynoik → Prop}
    (passes : ∀ {msg msgs}, plain msg → val (msg :: msgs) = val msgs)
    (all : ∀ msg ∈ msgs, plain msg) : val msgs = val [] := by
  induction msgs with
  | nil => rfl
  | cons msg _ ih =>
    rw [passes (all msg mem_cons_self)]
    exact ih fun other has => all other (.tail _ has)

lemma settle_of_none (none : ∀ msg ∈ msgs, msg.isBegin = false) : settle last msgs = last :=
  eq_nil_of_passes settle_plain none

lemma scan_append (isUp : Bool) (msgs rest : List ToSynoik) :
    scan isUp (msgs ++ rest) = (scan isUp msgs).bind fun isUp => scan isUp rest := by
  induction msgs generalizing isUp with
  | nil => rfl
  | cons msg _ ih =>
    rw [cons_append]
    rcases msg.begin_or_cancel_or_plain with ⟨_, _, rfl⟩ | rfl | plain
    · cases isUp with
      | true => rfl
      | false => exact ih true
    · exact ih false
    · rw [scan_plain plain, scan_plain plain]
      exact ih isUp

lemma scan_of_none (none : ∀ msg ∈ msgs, msg.isBegin = false) : scan false msgs = some false := by
  induction msgs with
  | nil => rfl
  | cons msg _ ih =>
    have rest := ih fun other has => none other (.tail _ has)
    rcases msg.begin_or_cancel_or_plain with ⟨_, _, rfl⟩ | rfl | plain
    · cases none _ (.head _)
    · exact rest
    · rwa [scan_plain plain]

lemma scan_of_plain (plain : ∀ msg ∈ msgs, msg.isPlain = true) : scan isUp msgs = some isUp :=
  eq_nil_of_passes scan_plain plain

/-- The last request does not depend on those before it. -/
lemma settle_of_begin (some : ∃ msg ∈ msgs, msg.isBegin = true)
    (last other : Option Nat) : settle last msgs = settle other msgs := by
  induction msgs with
  | nil =>
    obtain ⟨msg, has, -⟩ := some
    cases has
  | cons msg _ ih =>
    rcases msg.begin_or_cancel_or_plain with ⟨_, _, rfl⟩ | rfl | plain
    · rfl
    · obtain ⟨msg, has, begins⟩ := some
      rcases mem_cons.mp has with rfl | has
      · cases begins
      · exact ih ⟨msg, has, begins⟩
    · have hidden := ToSynoik.isBegin_of_plain plain
      rw [settle_plain hidden, settle_plain hidden]
      obtain ⟨msg, has, begins⟩ := some
      rcases mem_cons.mp has with rfl | has
      · rw [hidden] at begins
        cases begins
      · exact ih ⟨msg, has, begins⟩

/-- Nothing more is up in the end when nothing was to begin with, and the same if another
request is put up. -/
lemma scan_lower (scanned : scan true msgs = some after) :
    ∃ lo, scan false msgs = some lo ∧ (lo = true → after = true) ∧
      ((∃ msg ∈ msgs, msg.isBegin = true) → lo = after) := by
  induction msgs with
  | nil => exact ⟨false, rfl, nofun, fun ⟨_, has, _⟩ => absurd has not_mem_nil⟩
  | cons msg rest ih =>
    rcases msg.begin_or_cancel_or_plain with ⟨_, _, rfl⟩ | rfl | plain
    · cases scanned
    · exact ⟨after, scanned, id, fun _ => rfl⟩
    · rw [scan_plain plain] at scanned ⊢
      obtain ⟨lo, lowered, less, same⟩ := ih scanned
      refine ⟨lo, lowered, less, fun begins => same ?_⟩
      simpa [ToSynoik.isBegin_of_plain plain] using begins

/-- No request is put up over another, and one that is up in the end is on the agent's screen.
If one is put up at all, what is on the agent's screen is up in the end. -/
def Paced (isShown : Bool) (pending : List ToSynoik) : Prop :=
  ∃ isUp, scan false pending = some isUp ∧ (isUp = true → isShown = true) ∧
    ((∃ message ∈ pending, message.isBegin = true) → isShown = true → isUp = true)

lemma Paced.plain {pending : List ToSynoik} (paced : Paced isShown (pending ++ msg :: msgs))
    (plain : msg.isPlain = true) : Paced isShown (pending ++ msgs) := by
  obtain ⟨isUp, scanned, down, up⟩ := paced
  refine ⟨isUp, ?_, down, fun ⟨other, has, begins⟩ => up ⟨other, ?_, begins⟩⟩
  · rw [scan_append] at scanned ⊢
    rw [← scanned]
    simp only [scan_plain plain]
  · rcases mem_append.mp has with has | has
    · exact mem_append_left _ has
    · exact mem_append_right _ (.tail _ has)

/-- What comes after a request is withdrawn decides. -/
lemma Paced.withdrawn {pending : List ToSynoik}
    (paced : Paced isShown (pending ++ .cancel :: msgs)) : Paced isShown msgs := by
  obtain ⟨isUp, scanned, down, up⟩ := paced
  rw [scan_append] at scanned
  obtain ⟨_, -, rest⟩ := Option.bind_eq_some_iff.mp scanned
  exact ⟨isUp, rest, down,
    fun ⟨other, has, begins⟩ => up ⟨other, mem_append_right _ (.tail _ has), begins⟩⟩

/-- Messages for the last call, but for responses that find no helper. -/
def Orderly (begun : Option Nat) (isIdle : Bool) : List Sent → Prop
  | [] => True
  | sent :: rest => (sent.call = begun ∨ (isIdle && sent.request.isResponse) = true) ∧
      Orderly begun (isIdle && sent.request.isResponse) rest

variable {begun : Option Nat} {isIdle : Bool} {chars : List Sent} {sent : Sent}

lemma Orderly.idle_of_busy (inv : Orderly begun false chars) : Orderly begun true chars := by
  induction chars with
  | nil => exact trivial
  | cons sent _ ih =>
    obtain ⟨here, rest⟩ := inv
    constructor
    · rcases here with same | idle
      · exact .inl same
      · cases idle
    · cases response : sent.request.isResponse with
      | true => exact ih rest
      | false => exact rest

lemma Orderly.idle (inv : Orderly begun isIdle chars) : Orderly begun true chars := by
  cases isIdle with
  | true => exact inv
  | false => exact inv.idle_of_busy

lemma Orderly.busy (inv : Orderly begun false chars) : Orderly begun isIdle chars := by
  cases isIdle with
  | true => exact inv.idle_of_busy
  | false => exact inv

lemma orderly_of_responses (responses : ∀ sent ∈ chars, sent.request.isResponse = true) :
    Orderly begun true chars := by
  induction chars with
  | nil => exact trivial
  | cons sent _ ih =>
    have here := responses sent (.head _)
    have rest := ih fun other has => responses other (.tail _ has)
    refine ⟨Or.inr ?_, ?_⟩
    · rw [here]
      rfl
    · rw [here]
      exact rest

lemma Orderly.snoc (inv : Orderly begun isIdle chars)
    (fits : sent.call = begun ∨ isIdle = true ∧ sent.request.isResponse = true ∧
      ∀ other ∈ chars, other.request.isResponse = true) :
    Orderly begun isIdle (chars ++ [sent]) := by
  induction chars generalizing isIdle with
  | nil =>
    refine ⟨?_, trivial⟩
    rcases fits with same | ⟨idle, response, -⟩
    · exact .inl same
    · exact .inr (by rw [idle, response]; rfl)
  | cons one _ ih =>
    obtain ⟨here, rest⟩ := inv
    refine ⟨here, ih rest ?_⟩
    rcases fits with same | ⟨idle, response, all⟩
    · exact .inl same
    · refine .inr ⟨?_, response, fun other has => all other (.tail _ has)⟩
      rw [idle, all one mem_cons_self]
      rfl

/-- What a request is known by to polkit and to the helper. -/
def Begin.key (begin : Begin) : Nat × String := (begin.done, begin.cookie)

def HelperSession.key (session : HelperSession) : Nat × String := (session.call, session.cookie)

/-- How the agent stands to what is on its way to and from the dialog. -/
structure Straight (agent : Agent) (last : Option Nat) (pending : List ToSynoik)
    (letters : List Sent) : Prop where
  current : ∀ begin, agent.current = some begin → settle last pending = some begin.done
  session : ∀ session, agent.session = some session → agent.current.map Begin.key = some session.key
  paced : Paced agent.current.isSome pending
  behind : (∃ message ∈ pending, message.isBegin = true) →
    agent.session = none ∧ ∀ sent ∈ letters, sent.request.isResponse = true
  orderly : Orderly (settle last pending) agent.session.isNone letters

variable {agent agent' : Agent} {last' : Option Nat} {pending pending' : List ToSynoik}

namespace Straight

/-- A message that is no response was sent for the request on screen. -/
lemma call_eq (holds : Straight agent last pending (sent :: chars))
    (asks : sent.request.isResponse = false) {begin : Begin} (shown : agent.current = some begin) :
    sent.call = some begin.done := by
  rcases holds.orderly.1 with same | idle
  · exact same.trans (holds.current begin shown)
  · rw [asks, Bool.and_false] at idle
    cases idle

/-- A response that finds a helper was sent for the helper's request. -/
lemma call_eq_session (holds : Straight agent last pending (sent :: chars))
    {sess : HelperSession} (talking : agent.session = some sess) : sent.call = some sess.call := by
  obtain ⟨begin, shown, same⟩ := Option.map_eq_some_iff.mp (holds.session sess talking)
  rcases holds.orderly.1 with sentFor | idle
  · rw [sentFor, holds.current begin shown]
    exact congrArg (fun key => some key.1) same
  · rw [talking] at idle
    cases idle

/-- The agent stays with its request and says nothing of another. -/
lemma quiet (holds : Straight agent last pending chars)
    (cur : agent'.current = agent.current) (sess : agent'.session = none ∨
      agent'.session.map HelperSession.key = agent.session.map HelperSession.key)
    (plain : ∀ msg ∈ msgs, msg.isPlain = true) : Straight agent' last (pending ++ msgs) chars := by
  have hidden : ∀ msg ∈ msgs, msg.isBegin = false :=
    fun msg has => ToSynoik.isBegin_of_plain (plain msg has)
  have settled : settle last (pending ++ msgs) = settle last pending := by
    rw [settle_append, settle_of_none hidden]
  have idle : agent.session = none → agent'.session = none := by
    intro none
    rcases sess with gone | same
    · exact gone
    · rw [none] at same
      exact Option.map_eq_none_iff.mp same
  refine ⟨?_, ?_, ?_, ?_, ?_⟩
  · rw [settled, cur]
    exact holds.current
  · intro _ got
    rw [cur]
    rcases sess with gone | same
    · rw [gone] at got
      cases got
    · rw [got, Option.map_some] at same
      obtain ⟨pre, talked, called⟩ := Option.map_eq_some_iff.mp same.symm
      rw [← called]
      exact holds.session pre talked
  · obtain ⟨isUp, scanned, down, up⟩ := holds.paced
    refine ⟨isUp, ?_, by rwa [cur], fun ⟨msg, has, begins⟩ => ?_⟩
    · rw [scan_append, scanned]
      exact scan_of_plain plain
    · rw [cur]
      rcases mem_append.mp has with has | has
      · exact up ⟨msg, has, begins⟩
      · rw [hidden msg has] at begins
        cases begins
  · rintro ⟨msg, has, begins⟩
    rcases mem_append.mp has with has | has
    · obtain ⟨none, responses⟩ := holds.behind ⟨msg, has, begins⟩
      exact ⟨idle none, responses⟩
    · rw [hidden msg has] at begins
      cases begins
  · rw [settled]
    rcases sess with gone | same
    · rw [gone]
      exact holds.orderly.idle
    · have kept : agent'.session.isNone = agent.session.isNone := by
        rw [← Option.isNone_map (f := HelperSession.key), same, Option.isNone_map]
      rw [kept]
      exact holds.orderly

lemma processNext (cur : agent.current = none) (sess : agent.session = none)
    (down : scan false pending = some false) (behind : (∃ msg ∈ pending, msg.isBegin = true) →
      ∀ sent ∈ chars, sent.request.isResponse = true)
    (inv : Orderly (settle last pending) true chars)
    (calm : agent.scheduled ≠ [] → ∀ sent ∈ chars, sent.request.isResponse = true) :
    Straight agent.processNext.1 last
      (pending ++ agent.processNext.2.filterMap Output.message) chars := by
  unfold Agent.processNext
  rw [cur]
  rcases waits : agent.scheduled with _ | ⟨_, _⟩
  · refine ⟨?_, ?_, ⟨false, ?_, nofun, ?_⟩, ?_, ?_⟩
    · intro _ shown
      rw [cur] at shown
      cases shown
    · intro talking got
      rw [sess] at got
      cases got
    · rwa [filterMap_nil, append_nil]
    · intro _ shown
      rw [cur] at shown
      cases shown
    · rw [filterMap_nil, append_nil]
      exact fun begins => ⟨sess, behind begins⟩
    · rw [filterMap_nil, append_nil, sess]
      exact inv
  · have responses := calm (by rw [waits]; exact cons_ne_nil _ _)
    refine ⟨?_, ?_, ⟨true, ?_, fun _ => rfl, fun _ _ => rfl⟩, fun _ => ⟨sess, responses⟩, ?_⟩
    · intro _ shown
      cases shown
      rw [settle_append]
      rfl
    · intro _ got
      rw [sess] at got
      cases got
    · rw [scan_append, down]
      rfl
    · rw [sess]
      exact orderly_of_responses responses

lemma finish (inv : Orderly (settle last pending) isIdle chars)
    (down : scan false pending = some false) (behind : (∃ msg ∈ pending, msg.isBegin = true) →
      ∀ sent ∈ chars, sent.request.isResponse = true)
    (calm : agent.scheduled ≠ [] → ∀ sent ∈ chars, sent.request.isResponse = true)
    (dismissed : Bool) : Straight (agent.finish dismissed).1 last
      (pending ++ (agent.finish dismissed).2.filterMap Output.message) chars := by
  have silent : (Agent.answer agent.current dismissed).filterMap Output.message = [] := by
    cases agent.current <;> rfl
  have next : Straight (Agent.processNext
      { agent with session := none, epoch := agent.epoch + 1, current := none }).1 last
      (pending ++ (Agent.processNext { agent with
        session := none, epoch := agent.epoch + 1, current := none }).2.filterMap
          Output.message) chars :=
    processNext rfl rfl down behind inv.idle calm
  unfold Agent.finish
  rw [filterMap_append, silent, nil_append]
  exact next

lemma spoken (holds : Straight agent last pending chars)
    (settled : settle last' pending' = settle last pending)
    (paced : Paced agent.current.isSome pending')
    (fewer : ∀ msg ∈ pending', msg ∈ pending) (req : Option PolkitRequest)
    (calm : ∀ sent, req = some sent → sent.isResponse = true ∨
      ∀ msg ∈ pending', msg.isBegin = false) : Straight agent last' pending'
      (chars ++ (req.map fun req => Sent.mk last' req).toList) := by
  have behind : (∃ msg ∈ pending', msg.isBegin = true) →
      agent.session = none ∧ ∀ sent ∈ chars, sent.request.isResponse = true :=
    fun ⟨msg, has, begins⟩ => holds.behind ⟨msg, fewer msg has, begins⟩
  refine ⟨?_, holds.session, paced, ?_, ?_⟩
  · rw [settled]
    exact holds.current
  · intro begins
    obtain ⟨none, responses⟩ := behind begins
    refine ⟨none, ?_⟩
    intro sent has
    rcases mem_append.mp has with has | has
    · exact responses sent has
    · cases req with
      | none => cases has
      | some req =>
        rw [mem_singleton.mp has]
        rcases calm req rfl with response | none
        · exact response
        · exact absurd begins (ToSynoik.isBegin_eq_false.mp none)
  · rw [settled]
    cases req with
    | none =>
      rw [Option.map_none, Option.toList_none, append_nil]
      exact holds.orderly
    | some req =>
      apply holds.orderly.snoc
      -- Either the dialog is up to date, or no helper hears a response.
      by_cases begins : ∃ msg ∈ pending', msg.isBegin = true
      · obtain ⟨none, responses⟩ := behind begins
        rcases calm req rfl with response | hidden
        · exact .inr ⟨by rw [none]; rfl, response, responses⟩
        · exact absurd begins (ToSynoik.isBegin_eq_false.mp hidden)
      · rw [settle_of_none (ToSynoik.isBegin_eq_false.mpr begins)] at settled
        exact .inl settled

section

variable (holds : Straight agent last pending (sent :: chars))
include holds

section

variable (asks : sent.request.isResponse = false)
include asks

lemma hidden : ∀ msg ∈ pending, msg.isBegin = false := by
  refine ToSynoik.isBegin_eq_false.mpr fun begins => ?_
  have response := (holds.behind begins).2 sent (.head _)
  rw [asks] at response
  cases response

lemma rest_busy : Orderly (settle last pending) false chars := by
  have rest := holds.orderly.2
  rwa [asks, Bool.and_false] at rest

lemma ignored : Straight agent last pending chars where
  current := holds.current
  session := holds.session
  paced := holds.paced
  behind := fun begins => absurd begins (ToSynoik.isBegin_eq_false.mp (holds.hidden asks))
  orderly := (holds.rest_busy asks).busy

end

lemma onRequest (spawned : Bool)
    (calm : (∃ dismissed, sent.request = .done dismissed) → agent.scheduled ≠ [] →
      ∀ other ∈ chars, other.request.isResponse = true) :
    Straight (agent.onRequest sent.request spawned).1 last
      (pending ++ (agent.onRequest sent.request spawned).2.filterMap Output.message) chars := by
  cases kind : sent.request with
  | initiate =>
    have asks : sent.request.isResponse = false := by
      rw [kind]
      rfl
    have ignored := holds.ignored asks
    dsimp only [Agent.onRequest, Agent.initiate]
    split
    · rwa [filterMap_nil, append_nil]
    next _ shown =>
    split
    · rw [filterMap_nil, append_nil]
      refine ⟨ignored.current, ?_, ignored.paced, fun begins => absurd begins
        (ToSynoik.isBegin_eq_false.mp (holds.hidden asks)), (holds.rest_busy asks).busy⟩
      rintro sess ⟨⟩
      rw [shown]
      rfl
    · refine ignored.quiet rfl (Or.inl rfl) ?_
      intro _ has
      rw [mem_singleton.mp has]
      rfl
  | respond =>
    have kept : Straight agent last pending chars := by
      refine ⟨holds.current, holds.session, holds.paced, ?_, ?_⟩
      · intro begins
        obtain ⟨none, responses⟩ := holds.behind begins
        exact ⟨none, fun other has => responses other (.tail _ has)⟩
      · have rest := holds.orderly.2
        rwa [kind, PolkitRequest.isResponse, Bool.and_true] at rest
    refine kept.quiet rfl (Or.inr ?_) nofun
    show ((agent.session.map _).map HelperSession.key) = agent.session.map HelperSession.key
    rw [Option.map_map]
    rfl
  | done dismissed =>
    have asks : sent.request.isResponse = false := by
      rw [kind]
      rfl
    have hidden := holds.hidden asks
    exact finish (holds.rest_busy asks) (scan_of_none hidden)
      (fun begins => absurd begins (ToSynoik.isBegin_eq_false.mp hidden)) (calm ⟨dismissed, kind⟩)
      dismissed

end

section

variable (holds : Straight agent last pending chars)
include holds

lemma down (none : agent.current = none) : scan false pending = some false := by
  obtain ⟨isUp, scanned, up, -⟩ := holds.paced
  cases isUp with
  | true =>
    have cur := up rfl
    rw [none] at cur
    cases cur
  | false => exact scanned

lemma schedule (begin : Begin)
    (calm : agent.current.isNone = true → ∀ sent ∈ chars, sent.request.isResponse = true) :
    Straight (agent.schedule begin).1 last
      (pending ++ (agent.schedule begin).2.filterMap Output.message) chars := by
  unfold Agent.schedule
  rcases shown : agent.current with _ | _
  · have sess : agent.session = none := by
      rcases talking : agent.session with _ | sess
      · rfl
      · have called := holds.session sess talking
        rw [shown] at called
        cases called
    have responses := calm (by rw [shown]; rfl)
    exact processNext rfl sess (holds.down shown) (fun _ => responses)
      holds.orderly.idle (fun _ => responses)
  · exact holds.quiet shown.symm (Or.inr rfl) nofun

lemma cancel (cookie : String)
    (calm : agent.current.any (fun begin => begin.cookie == cookie) = true →
      agent.scheduled ≠ [] → ∀ sent ∈ chars, sent.request.isResponse = true) :
    Straight (agent.cancel cookie).1 last
      (pending ++ (agent.cancel cookie).2.filterMap Output.message) chars := by
  unfold Agent.cancel
  split
  next here =>
    have settled := settle_append last pending [.cancel]
    have down : scan false (pending ++ [.cancel]) = some false := by
      obtain ⟨_, scanned, -⟩ := holds.paced
      rw [scan_append, scanned]
      rfl
    have behind : (∃ msg ∈ pending ++ [.cancel], msg.isBegin = true) →
        ∀ sent ∈ chars, sent.request.isResponse = true := by
      rintro ⟨msg, has, begins⟩
      rcases mem_append.mp has with has | has
      · exact (holds.behind ⟨msg, has, begins⟩).2
      · rw [mem_singleton.mp has] at begins
        cases begins
    have inv : Orderly (settle last (pending ++ [.cancel])) true chars := by
      rw [settled]
      exact holds.orderly.idle
    have ended := finish inv down behind (calm here) false
    rw [append_assoc] at ended
    exact ended
  · refine holds.quiet rfl (Or.inr rfl) ?_
    have silent (begin : Option Begin) :
        (Agent.answer begin false).filterMap Output.message = [] := by
      cases begin <;> rfl
    rw [silent]
    exact nofun

lemma onHelper (epoch : Nat) (msg : HelperMessage) : Straight (agent.onHelper epoch msg).1 last
      (pending ++ (agent.onHelper epoch msg).2.filterMap Output.message) chars := by
  have single {plain : ToSynoik} (isPlain : plain.isPlain = true) :
      ∀ msg ∈ [plain], msg.isPlain = true := by
    intro msg has
    rwa [mem_singleton.mp has]
  unfold Agent.onHelper
  split
  · exact holds.quiet rfl (Or.inr rfl) nofun
  · cases msg with
    | prompt | error | info => exact holds.quiet rfl (Or.inr rfl) (single rfl)
    | completed => exact holds.quiet rfl (Or.inl rfl) (single rfl)

end

end Straight

section

variable (dialog : PolkitDialog)
include dialog

lemma PolkitDialog.begin_lastCall (call : Nat)
    (req : BeginRequest) : (dialog.begin call req).1.lastCall = some call := by
  unfold PolkitDialog.begin
  split <;> rfl

lemma PolkitDialog.begin_request (call : Nat)
    {req : BeginRequest} (passwordless : req.passwordless = true) :
    (dialog.begin call req).2.request = none := by
  unfold PolkitDialog.begin
  rw [passwordless]
  rfl

lemma PolkitDialog.onAgentEvent_lastCall (other : msg.isBegin = false) :
    (dialog.onAgentEvent msg).1.lastCall = dialog.lastCall := by
  cases msg with
  | begin => cases other
  | completed ok => cases ok <;> rfl
  | cancel | request | showError | showInfo => rfl

variable {req : PolkitRequest}

lemma PolkitDialog.onAgentEvent_asks (plain : msg.isPlain = true)
    (requested : (dialog.onAgentEvent msg).2.request = some req) : ∃ ok, msg = .completed ok := by
  cases msg with
  | begin | cancel => cases plain
  | request | showError | showInfo => cases requested
  | completed ok => exact ⟨ok, rfl⟩

lemma PolkitDialog.authenticate_lastCall : dialog.authenticate.1.lastCall = dialog.lastCall := by
  unfold PolkitDialog.authenticate
  split
  · rfl
  · split <;> rfl

lemma PolkitDialog.authenticate_responds (asks : dialog.mode ≠ .confirm)
    (sent : dialog.authenticate.2.request = some req) : req.isResponse = true := by
  unfold PolkitDialog.authenticate at sent
  rw [if_neg asks] at sent
  split at sent
  · cases sent
  · cases sent
    rfl

end

namespace System

variable {sys after : System} {op : Op}

/-- What the dialog has yet to hear of. -/
def unheard (system : System) : List ToSynoik := heldBack system.deferred ++ system.toDialog

def Sound (system : System) : Prop :=
  Straight system.agent system.dialog.lastCall system.unheard system.toAgent

variable {chars : List Sent}

lemma Sound.stepped {res : Agent × List Output} (holds : Straight res.1 sys.dialog.lastCall
      (sys.unheard ++ res.2.filterMap Output.message) chars) :
    Sound { sys.stepped res with toAgent := chars } := by
  unfold System.unheard at holds
  rwa [append_assoc] at holds

variable {res : PolkitDialog × PolkitEffects}

lemma Sound.shown (inv : sys.Sound)
    {deferred : Option (Nat × BeginRequest)} {toDialog : List ToSynoik}
    (settled : settle res.1.lastCall (heldBack deferred ++ toDialog) =
      settle sys.dialog.lastCall sys.unheard)
    (paced : Paced sys.agent.current.isSome (heldBack deferred ++ toDialog))
    (fewer : ∀ msg ∈ heldBack deferred ++ toDialog, msg ∈ sys.unheard)
    (calm : ∀ sent, res.2.request = some sent → sent.isResponse = true ∨
      ∀ msg ∈ heldBack deferred ++ toDialog, msg.isBegin = false) :
    Sound ({ sys with deferred, toDialog }.shown res) :=
  Straight.spoken inv settled paced fewer res.2.request calm

lemma Sound.acted (inv : sys.Sound) (same : res.1.lastCall = sys.dialog.lastCall)
    (calm : ∀ sent, res.2.request = some sent → sent.isResponse = true ∨
      ∀ msg ∈ sys.unheard, msg.isBegin = false) : Sound (sys.shown res) := by
  have settled : settle res.1.lastCall (heldBack sys.deferred ++ sys.toDialog) =
      settle sys.dialog.lastCall sys.unheard := by
    rw [same]
    rfl
  exact .shown inv settled inv.paced (fun _ has => has) calm

variable {rest : List ToSynoik}

lemma Sound.putUp (inv : sys.Sound) {call : Nat} {req : BeginRequest}
    (one : sys.unheard = .begin call req :: rest)
    (calm : req.passwordless = false → ∀ msg ∈ rest, msg.isBegin = false) :
    Sound ({ sys with deferred := none, toDialog := rest }.shown (sys.dialog.begin call req)) := by
  refine .shown inv ?_ ?_ ?_ ?_
  · rw [PolkitDialog.begin_lastCall, one]
    rfl
  · obtain ⟨_, scanned, down, up⟩ := inv.paced
    rw [one] at scanned up
    obtain ⟨lo, lowered, less, same⟩ := scan_lower scanned
    refine ⟨lo, lowered, fun yes => down (less yes), fun begins shown => ?_⟩
    rw [same begins]
    exact up ⟨_, .head _, rfl⟩ shown
  · intro _ has
    rw [one]
    exact .tail _ has
  · intro _ requested
    cases passwordless : req.passwordless with
    | false => exact .inr (calm passwordless)
    | true =>
      rw [PolkitDialog.begin_request _ _ passwordless] at requested
      cases requested

/-- A request that was held back is withdrawn before it was put up. -/
lemma Straight.forgotten {agent : Agent} {last : Option Nat} {msgs : List ToSynoik}
    (holds : Straight agent last (msgs ++ .cancel :: rest) chars)
    (held : ∃ msg ∈ msgs, msg.isBegin = true) : Straight agent last rest chars := by
  obtain ⟨msg, has, begins⟩ := held
  obtain ⟨idle, responses⟩ := holds.behind ⟨msg, mem_append_left _ has, begins⟩
  refine ⟨?_, holds.session, holds.paced.withdrawn, fun _ => ⟨idle, responses⟩, ?_⟩
  · intro begin shown
    -- The request on screen was put up after the one that was withdrawn.
    have later : ∃ msg ∈ rest, msg.isBegin = true := by
      by_contra none
      obtain ⟨_, scanned, -, up⟩ := holds.paced
      rw [up ⟨msg, mem_append_left _ has, begins⟩ (by rw [shown]; rfl), scan_append] at scanned
      obtain ⟨_, -, after⟩ := Option.bind_eq_some_iff.mp scanned
      cases (scan_of_none (ToSynoik.isBegin_eq_false.mpr none)).symm.trans after
    have settled := holds.current begin shown
    rw [settle_append] at settled
    rw [settle_of_begin later last (settle (settle last msgs) [.cancel])]
    exact settled
  · rw [idle]
    exact orderly_of_responses responses

lemma Sound.deliver (inv : sys.Sound) (uncrossed : sys.Uncrossed .deliver)
    (ran : sys.step .deliver = some after) : after.Sound := by
  unfold System.step at ran
  rcases one : sys.toDialog with _ | ⟨msg, rest⟩
  · rw [one] at ran
    cases ran
  · rw [one] at ran
    cases ran
    have paced := inv.paced
    have unheard : sys.unheard = heldBack sys.deferred ++ msg :: rest := by
      rw [System.unheard, one]
    rw [unheard] at paced
    rcases msg.begin_or_cancel_or_plain with ⟨_, _, rfl⟩ | rfl | plain
    · -- A second request is never held back.
      have alone : sys.deferred = none := by
        rcases held : sys.deferred with _ | ⟨_, _⟩
        · rfl
        · rw [held] at paced
          obtain ⟨_, scanned, -⟩ := paced
          cases scanned
      rw [alone] at unheard
      cases locked : sys.isLocked with
      | true =>
        unfold System.Sound at inv
        rw [unheard] at inv
        exact inv
      | false =>
        have putUp := inv.putUp unheard (by
          intro asks
          have spoke : sys.speaks .deliver = true := by simp [System.speaks, one, locked, asks]
          have calm := uncrossed.2 spoke
          rw [System.awaited, one, alone] at calm
          exact calm)
        rw [← alone, locked] at putUp
        exact putUp
    · rcases held : sys.deferred with _ | ⟨_, _⟩
      · rw [held] at unheard
        refine inv.shown ?_ paced.withdrawn ?_ (fun _ none => by cases none)
        · rw [unheard]
          rfl
        · intro msg has
          rw [unheard]
          exact .tail _ has
      · unfold System.Sound at inv
        rw [unheard, held] at inv
        have forgotten := Straight.forgotten inv ⟨_, .head _, rfl⟩
        show Straight sys.agent sys.dialog.lastCall rest (sys.toAgent ++ [])
        rwa [append_nil]
    · have hidden := ToSynoik.isBegin_of_plain plain
      have ev : System.onPolkitMsg { sys with toDialog := rest } msg =
          { sys with toDialog := rest }.shown (sys.dialog.onAgentEvent msg) := by
        cases msg <;> first | rfl | cases plain
      rw [ev]
      refine inv.shown ?_ (paced.plain plain) ?_ ?_
      · rw [sys.dialog.onAgentEvent_lastCall hidden, unheard, settle_append, settle_append,
          settle_plain hidden]
      · intro _ has
        rw [unheard]
        rcases mem_append.mp has with has | has
        · exact mem_append_left _ has
        · exact mem_append_right _ (.tail _ has)
      · intro _ requested
        right
        obtain ⟨_, rfl⟩ := sys.dialog.onAgentEvent_asks plain requested
        have spoke : sys.speaks .deliver = true := by rw [System.speaks, one]
        have calm := uncrossed.2 spoke
        rw [System.awaited, one] at calm
        exact calm

lemma Sound.resume (inv : sys.Sound) (uncrossed : sys.Uncrossed .resume)
    (ran : sys.step .resume = some after) : after.Sound := by
  dsimp only [System.step] at ran
  split at ran
  next call req held unlocked =>
    cases ran
    have unheard : sys.unheard = .begin call req :: sys.toDialog := by
      rw [System.unheard, held]
      rfl
    have putUp := inv.putUp unheard (by
      intro asks
      have spoke : sys.speaks .resume = true := by simp [System.speaks, held, asks]
      exact uncrossed.2 spoke)
    rw [unlocked] at putUp ⊢
    exact putUp
  · cases ran

lemma Sound.take (inv : sys.Sound) {spawned : Bool} (uncrossed : sys.Uncrossed (.take spawned))
    (ran : sys.step (.take spawned) = some after) : after.Sound := by
  dsimp only [System.step] at ran
  split at ran
  · cases ran
  next sent _ one =>
  cases ran
  unfold System.Sound at inv
  rw [one] at inv
  refine .stepped (inv.onRequest spawned ?_)
  rintro ⟨_, done⟩ waits other has
  have turned : sys.turns (.take spawned) = true := by
    obtain ⟨_, _⟩ := sent
    cases done
    simp [System.turns, one, waits]
  have calm := uncrossed.1 turned
  rw [System.inFlight, one] at calm
  exact calm other has

lemma Sound.step (inv : sys.Sound) (uncrossed : sys.Uncrossed op)
    (ran : sys.step op = some after) : after.Sound := by
  cases op with
  | begin =>
    cases ran
    exact Sound.stepped (Straight.schedule inv _ fun none => uncrossed.1 none)
  | cancel cookie =>
    cases ran
    refine Sound.stepped (Straight.cancel inv cookie ?_)
    intro here waits
    apply uncrossed.1
    simp [System.turns, here, waits]
  | helper epoch msg =>
    cases ran
    exact Sound.stepped (Straight.onHelper inv epoch msg)
  | take => exact inv.take uncrossed ran
  | deliver => exact inv.deliver uncrossed ran
  | resume => exact inv.resume uncrossed ran
  | lock =>
    cases ran
    exact inv
  | type entry =>
    cases ran
    have same : (sys.dialog.type entry).lastCall = sys.dialog.lastCall := by
      unfold PolkitDialog.type
      split <;> rfl
    unfold System.Sound
    rw [show ({ sys with dialog := sys.dialog.type entry } : System).dialog.lastCall =
      sys.dialog.lastCall from same]
    exact inv
  | resetTimeout =>
    cases ran
    refine inv.acted ?_ ?_
    · unfold PolkitDialog.onResetTimeout
      split <;> rfl
    · intro sent requested
      unfold PolkitDialog.onResetTimeout at requested
      split at requested <;> cases requested
  | authenticate =>
    dsimp only [System.step] at ran
    split at ran
    · cases ran
      refine inv.acted sys.dialog.authenticate_lastCall ?_
      intro _ requested
      by_cases asks : sys.dialog.mode = .confirm
      · exact .inr (uncrossed.2 (decide_eq_true asks))
      · exact .inl (sys.dialog.authenticate_responds asks requested)
    · cases ran
  | dismiss =>
    dsimp only [System.step] at ran
    split at ran
    · cases ran
      exact inv.acted rfl fun _ _ => Or.inr (uncrossed.2 rfl)
    · cases ran

lemma sound_initially : Sound {} where
  current := nofun
  session := nofun
  paced := ⟨false, rfl, nofun, fun ⟨_, has, _⟩ => absurd has not_mem_nil⟩
  behind := fun ⟨_, has, _⟩ => absurd has not_mem_nil
  orderly := trivial

end System

/-- What the agent does on a message concerns one call: polkit is answered for no other, and
the helper that then runs, and has been given what was typed, is one for it, with the cookie of
the request on screen. -/
structure Concerns (agent : Agent) (request : PolkitRequest) (spawned : Bool)
    (call : Option Nat) : Prop where
  replies : ∀ replied dismissed,
    .reply replied dismissed ∈ (agent.onRequest request spawned).2 → call = some replied
  helper : ∀ session, (agent.onRequest request spawned).1.session = some session →
    call = some session.call ∧
      ∃ begin, (agent.onRequest request spawned).1.current = some begin ∧
        begin.done = session.call ∧ begin.cookie = session.cookie

lemma processNext_silent (agent : Agent) {replied : Nat} {dismissed : Bool} :
    .reply replied dismissed ∉ agent.processNext.2 := by
  unfold Agent.processNext
  split <;> simp

lemma processNext_session (agent : Agent) : agent.processNext.1.session = agent.session := by
  unfold Agent.processNext
  split <;> rfl

lemma Straight.concerns (holds : Straight agent last pending (sent :: chars))
    (spawned : Bool) : Concerns agent sent.request spawned sent.call := by
  have talks (sess : HelperSession) (talking : agent.session = some sess) :
      sent.call = some sess.call ∧ ∃ begin, agent.current = some begin ∧
        begin.done = sess.call ∧ begin.cookie = sess.cookie := by
    obtain ⟨begin, shown, same⟩ := Option.map_eq_some_iff.mp (holds.session sess talking)
    exact ⟨holds.call_eq_session talking, begin, shown, Prod.ext_iff.mp same⟩
  cases kind : sent.request with
  | initiate userName =>
    have asks : sent.request.isResponse = false := by rw [kind]; rfl
    rcases shown : agent.current with _ | begin
    · constructor <;> simp only [Agent.onRequest, Agent.initiate, shown]
      · simp
      · intro sess talking
        obtain ⟨-, _, other, -⟩ := talks sess talking
        cases shown.symm.trans other
    · have call := holds.call_eq asks shown
      cases spawned with
      | true =>
        constructor <;> simp only [Agent.onRequest, Agent.initiate, shown, if_true]
        · simp
        · rintro _ ⟨⟩
          exact ⟨call, begin, rfl, rfl, rfl⟩
      | false =>
        constructor <;> simp [Agent.onRequest, Agent.initiate, shown]
  | respond response =>
    refine ⟨fun _ _ has => (by cases has), ?_⟩
    intro _ talking
    obtain ⟨sess, talked, rfl⟩ := Option.map_eq_some_iff.mp talking
    exact talks sess talked
  | done dismissed =>
    have asks : sent.request.isResponse = false := by rw [kind]; rfl
    constructor
    · intro replied _ has
      rcases mem_append.mp has with has | has
      · rcases shown : agent.current with _ | begin
        · rw [shown] at has
          cases has
        · rw [shown] at has
          cases mem_singleton.mp has
          exact holds.call_eq asks shown
      · exact (processNext_silent _ has).elim
    · intro _ talking
      change (Agent.processNext _).1.session = _ at talking
      rw [processNext_session] at talking
      cases talking

/-- As long as nothing crosses the next request, what the dialog sends starts a helper for,
gives a password to, and answers the request that it was sent for and no other. -/
theorem taken_for_own_request {ops : List Op} {system : System}
    (run : Runs System.step System.Uncrossed {} ops system) {sent : Sent} {rest : List Sent}
    (first : system.toAgent = sent :: rest) (spawned : Bool) :
    Concerns system.agent sent.request spawned sent.call := by
  have inv : system.Sound := run.invariant System.Sound
    (fun uncrossed stepped inv => inv.step uncrossed stepped) System.sound_initially
  unfold System.Sound at inv
  rw [first] at inv
  exact inv.concerns spawned

def rootRequest : BeginRequest := ⟨"root", false⟩

/-- Two requests, of which the first is withdrawn and the second given a password and is done
with. -/
def withdrawnThenAnswered : List Op :=
  [.begin rootRequest "a", .begin rootRequest "b", .deliver, .take true,
    .helper 1 (.prompt "Password: " false), .deliver, .cancel "a", .deliver, .deliver,
    .take true, .helper 3 (.prompt "Password: " false), .deliver, .type "secret",
    .authenticate, .take true, .helper 3 (.completed true), .deliver]

theorem taken_for_own_request_withdrawnThenAnswered :
    ∃ system sent rest, Runs System.step System.Uncrossed {} withdrawnThenAnswered system ∧
      system.toAgent = sent :: rest ∧ sent.call = some 1 ∧
      .reply 1 false ∈ (system.agent.onRequest sent.request true).2 ∧
      Concerns system.agent sent.request true sent.call := by
  exact ⟨_, _, _, runs_get (by decide +kernel), rfl, rfl, .head _,
    taken_for_own_request (runs_get (by decide +kernel)) rfl true⟩

/-- The first request is withdrawn while its dismissal is on the way. -/
def dismissedWhileWithdrawn : List Op :=
  [.begin rootRequest "a", .begin rootRequest "b", .deliver, .take true,
    .helper 1 (.prompt "Password: " false), .deliver, .dismiss, .cancel "a"]

/-- The second request is dismissed with what the user said to the first. -/
theorem dismissed_other_request :
    ∃ system sent rest, Runs System.step (fun _ _ => True) {} dismissedWhileWithdrawn system ∧
      system.toAgent = sent :: rest ∧ sent.call = some 0 ∧
      .reply 1 true ∈ (system.agent.onRequest sent.request true).2 := by
  exact ⟨_, _, _, runs_get (by decide +kernel), rfl, rfl, .head _⟩

end Synoik.Polkit
