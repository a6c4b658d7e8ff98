import Mathlib.Logic.Function.Basic

/-!
# Network secrets

The agent keeps the calls that the user has to answer, each under its connection and setting.
The compositor shows one of them and holds back one more while the screen is locked. A call is
known by the order in which it arrived; these numbers are carried along and are never read.
-/

namespace Synoik.Network

inductive WepKeyType where
  | unknown
  | key
  | passphrase

inductive Validation where
  | wpaPsk
  | staticWep (kind : WepKeyType)
  | nonEmpty

def isHexDigit (char : Char) : Bool :=
  char.isDigit || ('a' ≤ char && char ≤ 'f') || ('A' ≤ char && char ≤ 'F')

def Validation.accepts (validation : Validation) (value : String) : Bool :=
  let length := value.toList.length
  match validation with
  | wpaPsk =>
    if length = 64 then value.toList.all isHexDigit else 8 ≤ length && length ≤ 63
  | staticWep .passphrase => length ≤ 64
  | staticWep _ =>
    if length = 10 ∨ length = 26 then value.toList.all isHexDigit
    else if length = 5 ∨ length = 13 then value.toList.all Char.isAlpha
    else false
  | nonEmpty => !value.isEmpty

structure SecretField where
  key : Option String
  value : String
  validation : Validation

/-- A row that is only shown does not block. -/
def SecretField.accepts (field : SecretField) (value : String) : Bool :=
  field.key.isNone || field.validation.accepts value

structure SecretRequest where
  requestId : String
  fields : List SecretField
  userRequested : Bool
  call : Nat

inductive ToSynoik where
  | begin (request : SecretRequest)
  | cancel (requestId : String)

inductive AgentRequest where
  | respond (requestId : String) (values : List (String × String))
  | dismiss (requestId : String)

def AgentRequest.requestId : AgentRequest → String
  | respond requestId _ => requestId
  | dismiss requestId => requestId

/-- A call, with what its connection says. -/
structure GetSecrets where
  path : String
  settingName : String
  flags : Nat
  kind : String
  id : String
  uuid : String
  keyFlags : List (String × Nat)
  isAlwaysAsk : Bool
  content : Option (List SecretField)

def requestIdOf (path settingName : String) : String := path ++ "/" ++ settingName

namespace GetSecrets

variable (call : GetSecrets)

def allowsInteraction : Bool := call.flags.testBit 0

def requestsNew : Bool := call.flags.testBit 1

def isUserRequested : Bool := call.flags.testBit 2

def requestId : String := requestIdOf call.path call.settingName

def asksOutright (forceAlwaysAsk : Bool) : Bool :=
  call.requestsNew || (call.allowsInteraction && (forceAlwaysAsk || call.isAlwaysAsk))

def mayAsk : Bool := call.allowsInteraction || call.requestsNew

end GetSecrets

inductive AgentError where
  | userCanceled (message : String)
  | agentCanceled (message : String)
  | internalError (message : String)
  | noSecrets (message : String)

abbrev Reply := Except AgentError (String × List (String × String))

structure Pending where
  call : Nat
  settingName : String
  uuid : String
  id : String
  keyFlags : List (String × Nat)
  save : Bool

/-- The calls that wait for the user, by their request. -/
abbrev Table := String → Option Pending

/-- What a step of the agent sends and answers. -/
structure Outcome where
  pending : Table
  sent : List ToSynoik := []
  replies : List (Nat × Reply) := []

def cancel (pending : Table) (requestId : String) : Outcome :=
  match pending requestId with
  | none => { pending }
  | some entry =>
    { pending := Function.update pending requestId none
      sent := [.cancel requestId]
      replies := [(entry.call, .error (.agentCanceled "cancelled by NetworkManager"))] }

/-- What the keyring has for a call, or why it could not be read. -/
abbrev Found := Except String (List (String × String))

/-- The answer that needs no dialog, or what the dialog asks. -/
def decideGet (call : GetSecrets) (forceAlwaysAsk : Bool) (store : Option Found) :
    Reply ⊕ List SecretField :=
  if call.settingName = "vpn" then
    .inl (.error (.noSecrets
      "VPN secrets need the plugin's own auth dialog, which synoik does not run"))
  else
    let ask : Reply ⊕ List SecretField :=
      if !call.mayAsk then .inl (.ok (call.settingName, []))
      else
        match call.content with
        | none =>
          .inl (.error (.noSecrets ("nothing to ask for a " ++ call.kind ++
            " connection's " ++ call.settingName)))
        | some fields => .inr fields
    if call.asksOutright forceAlwaysAsk then ask
    else
      match store with
      | none => ask
      | some (.error error) =>
        .inl (.error (.internalError ("reading secrets from the keyring: " ++ error)))
      | some (.ok found) =>
        if found.isEmpty then ask else .inl (.ok (call.settingName, found))

def getSecrets (pending : Table) (number : Nat) (call : GetSecrets) (forceAlwaysAsk : Bool)
    (store : Option Found) : Outcome :=
  -- A second request for the same connection and setting supersedes the first.
  let canceled := cancel pending call.requestId
  match decideGet call forceAlwaysAsk store with
  | .inl reply => { canceled with replies := canceled.replies ++ [(number, reply)] }
  | .inr fields =>
    { canceled with
      pending := Function.update canceled.pending call.requestId (some
        { call := number
          settingName := call.settingName
          uuid := call.uuid
          id := call.id
          keyFlags := call.keyFlags
          save := call.mayAsk })
      sent := canceled.sent ++ [.begin
        { requestId := call.requestId
          fields
          userRequested := call.isUserRequested
          call := number }] }

/-- A secret in the keyring, and the calls it was typed for and is stored for. -/
structure Item where
  typedFor : Nat
  storedFor : Nat
  uuid : String
  settingName : String
  settingKey : String
  value : String

def agentOwned : Nat := 1

/-- The secrets of a response that are the agent's to keep. -/
def saved (entry : Pending) (typedFor : Nat) (values : List (String × String)) : List Item :=
  if entry.save then
    (values.filter fun value =>
      ((entry.keyFlags.find? fun flags => flags.1 == value.1).map Prod.snd).getD 0 =
        agentOwned).map fun value =>
      { typedFor
        storedFor := entry.call
        uuid := entry.uuid
        settingName := entry.settingName
        settingKey := value.1
        value := value.2 }
  else []

def answerTo (entry : Pending) : AgentRequest → Reply
  | .dismiss _ =>
    .error (.userCanceled "the network dialog was cancelled by the user")
  | .respond _ values => .ok (entry.settingName, values)

def handleResponse (pending : Table) (response : AgentRequest) : Outcome :=
  match pending response.requestId with
  | none => { pending }
  | some entry =>
    { pending := Function.update pending response.requestId none
      replies := [(entry.call, answerTo entry response)] }

structure SecretDialog where
  request : Option SecretRequest := none
  entries : List String := []

namespace SecretDialog

variable (dialog : SecretDialog)

def canConnect : Bool :=
  dialog.request.any fun request =>
    (request.fields.zip dialog.entries).all fun pair => pair.1.accepts pair.2

def begin (request : SecretRequest) : SecretDialog where
  request := some request
  entries := request.fields.map SecretField.value

def withdraw (requestId : String) : SecretDialog :=
  if dialog.request.map SecretRequest.requestId ≠ some requestId then dialog else {}

def type (index : Nat) (text : String) : SecretDialog :=
  { dialog with entries := dialog.entries.set index text }

def values (request : SecretRequest) : List (String × String) :=
  (request.fields.zip dialog.entries).filterMap fun pair =>
    pair.1.key.map fun key => (key, pair.2)

end SecretDialog

/-- A message of the dialog, with the call that it was sent for. -/
structure Sent where
  call : Nat
  request : AgentRequest

structure System where
  pending : Table := fun _ => none
  forceAlwaysAsk : Bool := false
  arrived : Nat := 0
  toDialog : List ToSynoik := []
  dialog : SecretDialog := {}
  deferred : Option SecretRequest := none
  isLocked : Bool := false
  toAgent : List Sent := []
  replies : List (Nat × Reply) := []
  keyring : List Item := []

inductive Op where
  | get (call : GetSecrets) (store : Option Found)
  | cancelGet (path settingName : String)
  | take (hasKeyring : Bool)
  | deliver
  | resume
  | lock (isLocked : Bool)
  | type (index : Nat) (text : String)
  | connect
  | dismiss

namespace System

variable (system : System)

def stepped (outcome : Outcome) : System :=
  { system with
    pending := outcome.pending
    toDialog := system.toDialog ++ outcome.sent
    replies := system.replies ++ outcome.replies }

def onNetworkAgentMsg : ToSynoik → System
  | .begin request =>
    -- A password box must not be drawn over the shield.
    if system.isLocked then { system with deferred := some request }
    else { system with dialog := .begin request }
  | .cancel requestId =>
    if system.deferred.any (fun held => held.requestId == requestId) then
      { system with deferred := none }
    else { system with dialog := system.dialog.withdraw requestId }

def send (call : Nat) (request : AgentRequest) : System :=
  { system with dialog := {}, toAgent := system.toAgent ++ [⟨call, request⟩] }

def receive (sent : Sent) (hasKeyring : Bool) : System :=
  let answered := system.stepped (handleResponse system.pending sent.request)
  match system.pending sent.request.requestId with
  | none => answered
  | some entry =>
    { answered with
      keyring := system.keyring ++ match sent.request with
        | .respond _ values => if hasKeyring then saved entry sent.call values else []
        | .dismiss _ => [] }

def step : Op → Option System
  | .get call store =>
    some { system.stepped
        (getSecrets system.pending system.arrived call system.forceAlwaysAsk store) with
      arrived := system.arrived + 1 }
  | .cancelGet path settingName =>
    some (system.stepped (cancel system.pending (requestIdOf path settingName)))
  | .take hasKeyring =>
    match system.toAgent with
    | [] => none
    | sent :: rest => some ({ system with toAgent := rest }.receive sent hasKeyring)
  | .deliver =>
    match system.toDialog with
    | [] => none
    | message :: rest => some ({ system with toDialog := rest }.onNetworkAgentMsg message)
  | .resume =>
    match system.deferred, system.isLocked with
    | some request, false =>
      some ({ system with deferred := none }.onNetworkAgentMsg (.begin request))
    | _, _ => none
  | .lock isLocked => some { system with isLocked }
  | .type index text => some { system with dialog := system.dialog.type index text }
  | .connect =>
    match system.dialog.request with
    | none => none
    | some request =>
      if system.dialog.canConnect then
        some (system.send request.call
          (.respond request.requestId (system.dialog.values request)))
      else some system
  | .dismiss =>
    match system.dialog.request with
    | none => none
    | some request => some (system.send request.call (.dismiss request.requestId))

end System

end Synoik.Network
