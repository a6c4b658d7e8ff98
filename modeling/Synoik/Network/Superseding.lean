import Synoik.Network.SecretAgent
import Synoik.Support.Runs

/-!
# Answers and the calls they were typed for

The dialog names the connection and the setting that it answers, and a later call for the same
two takes the place of the one before it. An answer reaches the call that it was typed for as
long as none of the two overtakes the other.
-/

namespace Synoik.Network

open List

variable {pending : Table} {reqId : String} {entry : Pending}

lemma cancel_pending (pending : Table) (reqId : String) :
    (cancel pending reqId).pending = Function.update pending reqId none := by
  unfold cancel
  split
  next free => exact (Function.update_eq_self_iff.mpr free.symm).symm
  · rfl

lemma handleResponse_pending (pending : Table) (response : AgentRequest) :
    (handleResponse pending response).pending =
      Function.update pending response.requestId none := by
  unfold handleResponse
  split
  next free => exact (Function.update_eq_self_iff.mpr free.symm).symm
  · rfl

lemma of_update_none {other : String}
    (got : Function.update pending reqId none other = some entry) :
    other ≠ reqId ∧ pending other = some entry := by
  by_cases same : other = reqId
  · subst same
    rw [Function.update_self] at got
    cases got
  · rw [Function.update_of_ne same] at got
    exact ⟨same, got⟩

namespace System

variable {sys post : System} {op : Op}

def asks (system : System) (call : GetSecrets) (store : Option Found) : Bool :=
  (decideGet call system.forceAlwaysAsk store).isRight

/-- No call takes the place of one whose answer is on its way, and the user does not answer
for a call whose place is taken. -/
def Timely (system : System) : Op → Prop
  | .get call store => system.asks call store = true →
      ∀ sent ∈ system.toAgent, sent.request.requestId ≠ call.requestId
  | .connect => system.dialog.canConnect = true → ∀ request ∈ system.dialog.request,
      ∀ entry ∈ system.pending request.requestId, entry.call = request.call
  | .dismiss => ∀ request ∈ system.dialog.request,
      ∀ entry ∈ system.pending request.requestId, entry.call = request.call
  | _ => True

instance (system : System) (op : Op) : Decidable (system.Timely op) := by
  unfold Timely
  split <;> infer_instance

/-- Answers on their way are for the calls in the table, and what is kept is kept for the call
that it was typed for. -/
structure Own (system : System) : Prop where
  onTheWay : ∀ sent ∈ system.toAgent, ∀ entry,
    system.pending sent.request.requestId = some entry → entry.call = sent.call
  kept : ∀ item ∈ system.keyring, item.typedFor = item.storedFor

lemma Own.get (own : sys.Own) {call : GetSecrets} {st : Option Found}
    (timely : sys.Timely (.get call st)) (ran : sys.step (.get call st) = some post) :
    post.Own := by
  cases ran
  refine ⟨?_, own.kept⟩
  intro sent has entry got
  have pre (got : Function.update sys.pending call.requestId none
      sent.request.requestId = some entry) : entry.call = sent.call :=
    own.onTheWay sent has entry (of_update_none got).2
  change (getSecrets sys.pending sys.arrived call sys.forceAlwaysAsk st).pending
    sent.request.requestId = some entry at got
  unfold getSecrets at got
  split at got
  · rw [cancel_pending] at got
    exact pre got
  next _ asked =>
  have other : sent.request.requestId ≠ call.requestId := by
    refine timely ?_ sent has
    unfold System.asks
    rw [asked]
    rfl
  dsimp only at got
  rw [Function.update_of_ne other, cancel_pending] at got
  exact pre got

lemma Own.send (own : sys.Own) {req : SecretRequest} {answer : AgentRequest}
    (named : answer.requestId = req.requestId)
    (timely : ∀ entry, sys.pending req.requestId = some entry → entry.call = req.call) :
    (sys.send req.call answer).Own := by
  refine ⟨?_, own.kept⟩
  intro sent has entry got
  rcases mem_append.mp has with has | has
  · exact own.onTheWay sent has entry got
  · rw [mem_singleton.mp has] at got ⊢
    rw [named] at got
    exact timely entry got

lemma saved_own {typedFor : Nat} {values : List (String × String)}
    (same : entry.call = typedFor) :
    ∀ item ∈ saved entry typedFor values, item.typedFor = item.storedFor := by
  intro _ has
  unfold saved at has
  split at has
  · obtain ⟨_, -, rfl⟩ := mem_map.mp has
    exact same.symm
  · cases has

lemma Own.receive {sent : Sent} {rest : List Sent} (own : sys.Own)
    (one : sys.toAgent = sent :: rest) (hasKeyring : Bool) :
    ({ sys with toAgent := rest }.receive sent hasKeyring).Own := by
  have onTheWay : ∀ other ∈ rest, ∀ entry,
      (handleResponse sys.pending sent.request).pending other.request.requestId =
        some entry → entry.call = other.call := by
    intro other has entry got
    rw [handleResponse_pending] at got
    refine own.onTheWay other ?_ entry (of_update_none got).2
    rw [one]
    exact .tail _ has
  unfold System.receive
  split
  · exact ⟨onTheWay, own.kept⟩
  next entry got =>
  have same : entry.call = sent.call := by
    refine own.onTheWay sent ?_ entry got
    rw [one]
    exact .head _
  refine ⟨onTheWay, ?_⟩
  intro item has
  rcases mem_append.mp has with has | has
  · exact own.kept item has
  · cases response : sent.request with
    | dismiss =>
      rw [response] at has
      cases has
    | respond =>
      rw [response] at has
      dsimp only at has
      split at has
      · exact saved_own same item has
      · cases has

lemma Own.onNetworkAgentMsg (own : sys.Own) (msg : ToSynoik) : (sys.onNetworkAgentMsg msg).Own := by
  cases msg with
  | begin | cancel =>
    dsimp only [System.onNetworkAgentMsg]
    split <;> exact ⟨own.onTheWay, own.kept⟩

lemma Own.step (own : sys.Own) (timely : sys.Timely op)
    (ran : sys.step op = some post) : post.Own := by
  cases op with
  | get => exact own.get timely ran
  | cancelGet =>
    cases ran
    refine ⟨?_, own.kept⟩
    intro sent has entry got
    change (cancel sys.pending _).pending _ = _ at got
    rw [cancel_pending] at got
    exact own.onTheWay sent has entry (of_update_none got).2
  | take hasKeyring =>
    dsimp only [System.step] at ran
    split at ran
    · cases ran
    next one =>
    cases ran
    exact own.receive one hasKeyring
  | deliver =>
    dsimp only [System.step] at ran
    split at ran
    · cases ran
    next msg rest one =>
    cases ran
    have rested : Own { sys with toDialog := rest } := ⟨own.onTheWay, own.kept⟩
    exact rested.onNetworkAgentMsg msg
  | resume =>
    dsimp only [System.step] at ran
    split at ran
    next req _ _ =>
      cases ran
      have rested : Own { sys with deferred := none } := ⟨own.onTheWay, own.kept⟩
      exact rested.onNetworkAgentMsg (.begin req)
    · cases ran
  | lock | type =>
    cases ran
    exact ⟨own.onTheWay, own.kept⟩
  | connect =>
    dsimp only [System.step] at ran
    split at ran
    · cases ran
    next req shown =>
    split at ran
    next valid =>
      cases ran
      exact own.send rfl fun entry got => timely valid req shown entry got
    · cases ran
      exact own
  | dismiss =>
    dsimp only [System.step] at ran
    split at ran
    · cases ran
    next req shown =>
    cases ran
    exact own.send rfl fun entry got => timely req shown entry got

lemma receive_replies (sys : System) (sent : Sent) (hasKeyring : Bool) :
    (sys.receive sent hasKeyring).replies =
      sys.replies ++ (handleResponse sys.pending sent.request).replies := by
  unfold System.receive
  split <;> rfl

/-- An answer that is taken goes to the call that it was typed for, if that still waits. -/
lemma Own.take_replies {sent : Sent} {rest : List Sent} (own : sys.Own)
    (first : sys.toAgent = sent :: rest) {hasKeyring : Bool}
    (ran : sys.step (.take hasKeyring) = some post) :
    post.replies = sys.replies ++ (sys.pending sent.request.requestId).toList.map fun entry =>
      (sent.call, answerTo entry sent.request) := by
  unfold System.step at ran
  rw [first] at ran
  cases ran
  rw [receive_replies]
  unfold handleResponse
  rcases got : sys.pending sent.request.requestId with _ | entry
  · simp
  · have same : entry.call = sent.call := by
      refine own.onTheWay sent ?_ entry got
      rw [first]
      exact .head _
    simp [same]

end System

/-- As long as no call overtakes an answer and no answer a call, an answer that is taken is
returned to the call that it was given for and to no other, and what is kept is stored for the
call that it was typed for. -/
theorem answers_own_call {force : Bool} {ops : List Op} {system : System}
    (run : Runs System.step System.Timely { forceAlwaysAsk := force } ops system) :
    (∀ sent rest, system.toAgent = sent :: rest →
      ∀ hasKeyring post, system.step (.take hasKeyring) = some post →
        post.replies = system.replies ++
          (system.pending sent.request.requestId).toList.map fun entry =>
            (sent.call, answerTo entry sent.request)) ∧
      ∀ item ∈ system.keyring, item.typedFor = item.storedFor := by
  have own : system.Own :=
    run.invariant System.Own (fun timely stepped own => own.step timely stepped)
      ⟨nofun, nofun⟩
  exact ⟨fun _ _ first _ _ ran => own.take_replies first ran, own.kept⟩

def wifi (path : String) : GetSecrets where
  path
  settingName := "802-11-wireless-security"
  flags := 1
  kind := "802-11-wireless"
  id := "home"
  uuid := "uuid"
  keyFlags := [("psk", 1)]
  isAlwaysAsk := false
  content := some [⟨some "psk", "", .wpaPsk⟩]

/-- Two calls for one network, the second put up and answered after the first. -/
def answeredTwice : List Op :=
  [.get (wifi "/1") none, .deliver, .type 0 "first pass", .connect, .take true,
    .get (wifi "/1") none, .deliver, .type 0 "second pass", .connect]

theorem answers_own_call_answeredTwice :
    ∃ system sent rest post, Runs System.step System.Timely {} answeredTwice system ∧
      system.toAgent = sent :: rest ∧ sent.call = 1 ∧ system.keyring.length = 1 ∧
      system.step (.take true) = some post ∧ post.replies = system.replies ++
        [(1, .ok ("802-11-wireless-security", [("psk", "second pass")]))] ∧
      ∀ item ∈ system.keyring, item.typedFor = item.storedFor := by
  have run : Runs System.step System.Timely {} answeredTwice _ := runs_get (by decide +kernel)
  have answers := answers_own_call run
  exact ⟨_, _, _, _, run, rfl, rfl, rfl, rfl, answers.1 _ _ rfl true _ rfl, answers.2⟩

/-- A second call for the network overtakes the answer to the first. -/
def overtaken : List Op :=
  [.get (wifi "/1") none, .deliver, .type 0 "first pass", .connect,
    .get (wifi "/1") none, .take true]

/-- What was typed for the first call is returned to the second, and kept for it. -/
theorem answered_later_call : ∃ system, Runs System.step (fun _ _ => True) {} overtaken system ∧
      (1, .ok ("802-11-wireless-security", [("psk", "first pass")])) ∈ system.replies ∧
      (∃ item ∈ system.keyring, item.typedFor = 0 ∧ item.storedFor = 1) := by
  exact ⟨_, runs_get (by decide +kernel), .tail _ (.head _), by decide +kernel⟩

end Synoik.Network
