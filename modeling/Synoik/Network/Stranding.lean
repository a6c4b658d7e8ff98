import Mathlib.Data.List.Count
import Mathlib.Data.List.Nodup
import Synoik.Network.Superseding

/-!
# Calls that wait for the user

A call in the agent's table is on its way to the dialog, held by the compositor, or about to be
answered. It is lost from there only when another request is put in its place while it waits.
-/

namespace Synoik.Network

open List

namespace System

variable {sys after : System} {op : Op} {reqId : String} {entry : Pending}

/-- Where the compositor has a call. -/
def Held (system : System) (requestId : String) (call : Nat) : Prop :=
  ∃ request, (system.dialog.request = some request ∨ system.deferred = some request) ∧
    request.requestId = requestId ∧ request.call = call

/-- Where a call in the table is. -/
inductive Placed (system : System) (requestId : String) (call : Nat) : Prop
  | held (held : system.Held requestId call)
      (stays : .cancel requestId ∉ system.toDialog) : Placed system requestId call
  | onTheWay {before after : List ToSynoik} {request : SecretRequest}
      (split : system.toDialog = before ++ .begin request :: after)
      (named : request.requestId = requestId) (called : request.call = call)
      (stays : .cancel requestId ∉ after) : Placed system requestId call
  | answered {sent : Sent} (there : sent ∈ system.toAgent)
      (named : sent.request.requestId = requestId) : Placed system requestId call

/-- Whether a request waits in the table. -/
def waits (system : System) (request : SecretRequest) : Bool :=
  (system.pending request.requestId).map Pending.call == some request.call

/-- No request is put in the place of one that waits. -/
def Spares (system : System) : Op → Prop
  | .deliver =>
    match system.toDialog with
    | .begin _ :: _ =>
      ∀ replaced ∈ (if system.isLocked then system.deferred else system.dialog.request),
        system.waits replaced = false
    | _ => True
  | .resume => ∀ replaced ∈ system.dialog.request, system.waits replaced = false
  | _ => True

instance (system : System) (op : Op) : Decidable (system.Spares op) := by
  unfold Spares
  split
  · split <;> infer_instance
  · infer_instance
  · infer_instance

/-- Every call in the table is somewhere. -/
def Kept (system : System) : Prop :=
  ∀ requestId entry, system.pending requestId = some entry → system.Placed requestId entry.call

variable {req : SecretRequest} {call : Nat}

lemma waits_of_pending (got : sys.pending req.requestId = some entry)
    (called : req.call = entry.call) : sys.waits req = true := by
  unfold System.waits
  rw [got, called]
  exact beq_self_eq_true _

/-- A call stays where it is when the agent sends something that does not concern it. -/
lemma Placed.stepped (placed : sys.Placed reqId call) {outcome : Outcome}
    (other : .cancel reqId ∉ outcome.sent) : (sys.stepped outcome).Placed reqId call := by
  cases placed with
  | held held stays =>
    refine .held held ?_
    rw [System.stepped, mem_append, not_or]
    exact ⟨stays, other⟩
  | @onTheWay pre after req split named called stays =>
    have longer : (sys.stepped outcome).toDialog =
        pre ++ .begin req :: (after ++ outcome.sent) := by
      rw [System.stepped, split, append_assoc, cons_append]
    refine .onTheWay longer named called ?_
    rw [mem_append, not_or]
    exact ⟨stays, other⟩
  | answered has named => exact .answered has named

lemma cancel_sent {pending : Table} {other : String}
    (has : .cancel other ∈ (cancel pending reqId).sent) : other = reqId := by
  unfold cancel at has
  split at has
  · cases has
  · cases mem_singleton.mp has
    rfl

lemma Kept.cancel (kept : sys.Kept) (reqId : String) :
    (sys.stepped (cancel sys.pending reqId)).Kept := by
  intro other entry got
  change (Network.cancel sys.pending reqId).pending other = some entry at got
  rw [cancel_pending] at got
  obtain ⟨ne, pre⟩ := of_update_none got
  exact (kept other entry pre).stepped fun has => ne (cancel_sent has)

lemma Kept.get (kept : sys.Kept) (call : GetSecrets) (st : Option Found) :
    (sys.stepped (getSecrets sys.pending sys.arrived call sys.forceAlwaysAsk st)).Kept := by
  intro other entry got
  change (getSecrets sys.pending sys.arrived call sys.forceAlwaysAsk st).pending
    other = some entry at got
  unfold getSecrets at got ⊢
  split at got
  · rw [cancel_pending] at got
    obtain ⟨ne, pre⟩ := of_update_none got
    exact (kept other entry pre).stepped fun has => ne (cancel_sent has)
  · dsimp only at got
    by_cases same : other = call.requestId
    · subst same
      rw [Function.update_self, Option.some.injEq] at got
      subst got
      exact .onTheWay (append_assoc _ _ _).symm rfl rfl not_mem_nil
    · rw [Function.update_of_ne same, cancel_pending] at got
      apply (kept other entry (of_update_none got).2).stepped
      rw [mem_append, not_or]
      refine ⟨fun has => same (cancel_sent has), fun has => ?_⟩
      cases mem_singleton.mp has

lemma Kept.receive {sent : Sent} {rest : List Sent} (kept : sys.Kept)
    (first : sys.toAgent = sent :: rest) (hasKeyring : Bool) :
    ({ sys with toAgent := rest }.receive sent hasKeyring).Kept := by
  intro other entry got
  have table : ({ sys with toAgent := rest }.receive sent hasKeyring).pending =
      Function.update sys.pending sent.request.requestId none := by
    unfold System.receive
    split <;> exact handleResponse_pending _ _
  have ⟨dlg, deferred, toAgent⟩ :
      ({ sys with toAgent := rest }.receive sent hasKeyring).dialog = sys.dialog ∧
      ({ sys with toAgent := rest }.receive sent hasKeyring).deferred = sys.deferred ∧
      ({ sys with toAgent := rest }.receive sent hasKeyring).toAgent = rest := by
    unfold System.receive
    split <;> exact ⟨rfl, rfl, rfl⟩
  have toDialog : ({ sys with toAgent := rest }.receive sent hasKeyring).toDialog =
      sys.toDialog := by
    have silent : (handleResponse sys.pending sent.request).sent = [] := by
      unfold handleResponse
      split <;> rfl
    unfold System.receive System.stepped
    rw [silent, append_nil]
    split <;> rfl
  rw [table] at got
  obtain ⟨ne, pre⟩ := of_update_none got
  cases kept other entry pre with
  | held held =>
    refine .held ?_ (by rwa [toDialog])
    rw [System.Held, dlg, deferred]
    exact held
  | onTheWay split named called stays => exact .onTheWay (toDialog.trans split) named called stays
  | @answered letter has named =>
    rw [first] at has
    rcases mem_cons.mp has with rfl | _
    · exact absurd named.symm ne
    · exact .answered (by rwa [toAgent]) named

variable {rest : List ToSynoik}

lemma Placed.begun (placed : sys.Placed reqId call) (first : sys.toDialog = .begin req :: rest)
    (waits : ∀ other, other.requestId = reqId → other.call = call → sys.waits other = true)
    (spares : sys.Spares .deliver) :
    ({ sys with toDialog := rest }.onNetworkAgentMsg (.begin req)).Placed reqId call := by
  have spared : ∀ replaced ∈ (if sys.isLocked then sys.deferred
      else sys.dialog.request), sys.waits replaced = false := by
    unfold System.Spares at spares
    rw [first] at spares
    exact spares
  have kept (other : SecretRequest) (named : other.requestId = reqId)
      (called : other.call = call) : other ∉ (if sys.isLocked then sys.deferred
        else sys.dialog.request) := by
    intro has
    have free := spared other has
    rw [waits other named called] at free
    cases free
  dsimp only [System.onNetworkAgentMsg]
  cases placed with
  | held held stays =>
    obtain ⟨other, place, named, called⟩ := held
    have ne := kept other named called
    have fewer : .cancel reqId ∉ rest := by
      rw [first, mem_cons, not_or] at stays
      exact stays.2
    split
    next locked =>
      rw [if_pos locked] at ne
      refine .held ⟨other, ?_, named, called⟩ fewer
      rcases place with shown | deferred
      · exact .inl shown
      · exact absurd deferred ne
    next unlocked =>
    rw [if_neg unlocked] at ne
    refine .held ⟨other, ?_, named, called⟩ fewer
    rcases place with shown | deferred
    · exact absurd shown ne
    · exact .inr deferred
  | @onTheWay pre after other split named called stays =>
    rw [first] at split
    rcases pre with _ | ⟨_, _⟩
    · cases split
      split
      · exact .held ⟨req, Or.inr rfl, named, called⟩ stays
      · exact .held ⟨req, Or.inl rfl, named, called⟩ stays
    · obtain ⟨-, split⟩ := cons.inj split
      split <;> exact .onTheWay split named called stays
  | answered has named =>
    split <;> exact .answered has named

lemma Placed.canceled {gone : String}
    (placed : sys.Placed reqId call) (first : sys.toDialog = .cancel gone :: rest) :
    ({ sys with toDialog := rest }.onNetworkAgentMsg (.cancel gone)).Placed reqId call := by
  dsimp only [System.onNetworkAgentMsg]
  cases placed with
  | held held stays =>
    obtain ⟨other, place, named, called⟩ := held
    rw [first, mem_cons, not_or] at stays
    have ne : other.requestId ≠ gone := by
      intro same
      rw [← named, same] at stays
      exact stays.1 rfl
    split
    next matching =>
      refine .held ⟨other, ?_, named, called⟩ stays.2
      rcases place with shown | deferred
      · exact .inl shown
      · rw [deferred] at matching
        exact absurd (beq_iff_eq.mp matching) ne
    · refine .held ⟨other, ?_, named, called⟩ stays.2
      rcases place with shown | deferred
      · left
        unfold SecretDialog.withdraw
        rw [shown, if_pos]
        · exact shown
        · exact fun same => ne (Option.some.inj same)
      · exact .inr deferred
  | @onTheWay pre after other split named called stays =>
    rw [first] at split
    rcases pre with _ | ⟨_, _⟩
    · cases split
    · obtain ⟨-, split⟩ := cons.inj split
      split <;> exact .onTheWay split named called stays
  | answered has named =>
    split <;> exact .answered has named

section

variable (kept : sys.Kept)
include kept

lemma Kept.deliver (spares : sys.Spares .deliver)
    (ran : sys.step .deliver = some after) : after.Kept := by
  dsimp only [System.step] at ran
  split at ran
  · cases ran
  next msg _ first =>
  cases ran
  intro reqId entry got
  cases msg with
  | begin =>
    have pre : sys.pending reqId = some entry := by
      dsimp only [System.onNetworkAgentMsg] at got
      split at got <;> exact got
    refine (kept reqId entry pre).begun first ?_ spares
    rintro _ rfl called
    exact waits_of_pending pre called
  | cancel =>
    have pre : sys.pending reqId = some entry := by
      dsimp only [System.onNetworkAgentMsg] at got
      split at got <;> exact got
    exact (kept reqId entry pre).canceled first

lemma Kept.resume (spares : sys.Spares .resume)
    (ran : sys.step .resume = some after) : after.Kept := by
  dsimp only [System.step] at ran
  split at ran
  next req deferred unlocked =>
    cases ran
    have shown : System.onNetworkAgentMsg { sys with deferred := none } (.begin req) =
        { sys with deferred := none, dialog := .begin req } := by
      dsimp only [System.onNetworkAgentMsg]
      rw [if_neg (by rw [unlocked]; exact Bool.false_ne_true)]
    rw [shown]
    intro reqId entry got
    cases kept reqId entry got with
    | held held stays =>
      obtain ⟨other, place, named, called⟩ := held
      refine .held ⟨other, ?_, named, called⟩ stays
      rcases place with onScreen | same
      · have free := spares other onScreen
        rw [waits_of_pending (by rwa [named]) called] at free
        cases free
      · rw [deferred] at same
        cases same
        exact .inl rfl
    | onTheWay split named called stays => exact .onTheWay split named called stays
    | answered has named => exact .answered has named
  · cases ran

lemma Kept.send (onScreen : sys.dialog.request = some req) {answer : AgentRequest}
    (named : answer.requestId = req.requestId) : (sys.send req.call answer).Kept := by
  intro reqId entry got
  cases kept reqId entry got with
  | held held stays =>
    obtain ⟨other, place, sameId, called⟩ := held
    rcases place with shown | deferred
    · rw [onScreen] at shown
      cases shown
      exact .answered (mem_append_right _ (.head _)) (named.trans sameId)
    · exact .held ⟨other, Or.inr deferred, sameId, called⟩ stays
  | onTheWay split sameId called stays => exact .onTheWay split sameId called stays
  | answered has sameId => exact .answered (mem_append_left _ has) sameId

lemma Kept.step (spares : sys.Spares op) (ran : sys.step op = some after) : after.Kept := by
  cases op with
  | get call st =>
    cases ran
    intro reqId entry got
    cases kept.get call st reqId entry got with
    | held held stays => exact .held held stays
    | onTheWay split named called stays => exact .onTheWay split named called stays
    | answered has named => exact .answered has named
  | cancelGet =>
    cases ran
    exact kept.cancel _
  | take hasKeyring =>
    dsimp only [System.step] at ran
    split at ran
    · cases ran
    next first =>
    cases ran
    exact kept.receive first hasKeyring
  | deliver => exact kept.deliver spares ran
  | resume => exact kept.resume spares ran
  | lock | type =>
    cases ran
    intro reqId entry got
    cases kept reqId entry got with
    | held held stays => exact .held held stays
    | onTheWay split named called stays => exact .onTheWay split named called stays
    | answered has named => exact .answered has named
  | connect =>
    dsimp only [System.step] at ran
    split at ran
    · cases ran
    next shown =>
    split at ran
    · cases ran
      exact kept.send shown rfl
    · cases ran
      exact kept
  | dismiss =>
    dsimp only [System.step] at ran
    split at ran
    · cases ran
    next shown =>
    cases ran
    exact kept.send shown rfl

end

end System

/-- Each call waits in the table or has its one answer. -/
structure Books (pending : Table) (arrived : Nat) (answered : List Nat) : Prop where
  known : ∀ requestId entry, pending requestId = some entry → entry.call < arrived
  apart : ∀ requestId entry other otherEntry, pending requestId = some entry →
    pending other = some otherEntry → entry.call = otherEntry.call → requestId = other
  unanswered : ∀ requestId entry, pending requestId = some entry → entry.call ∉ answered
  settled : ∀ call < arrived, call ∈ answered ∨
    ∃ requestId entry, pending requestId = some entry ∧ entry.call = call
  once : answered.Nodup
  knownAnswers : ∀ call ∈ answered, call < arrived

namespace Books

variable {pending : Table} {came : Nat} {answered : List Nat}

section

variable (books : Books pending came answered)
include books

lemma answer : Books pending (came + 1) (answered ++ [came]) where
  known := fun reqId entry got => Nat.lt_succ_of_lt (books.known reqId entry got)
  apart := books.apart
  unanswered := by
    intro reqId entry got has
    rcases mem_append.mp has with has | has
    · exact books.unanswered reqId entry got has
    · exact Nat.ne_of_lt (books.known reqId entry got) (mem_singleton.mp has)
  settled := by
    intro call lt
    rcases Nat.lt_succ_iff_lt_or_eq.mp lt with lt | rfl
    · rcases books.settled call lt with has | waits
      · exact .inl (mem_append_left _ has)
      · exact .inr waits
    · exact .inl (mem_append_right _ (.head _))
  once := by
    refine nodup_append.mpr ⟨books.once, nodup_singleton _, ?_⟩
    intro call has _ same
    rw [mem_singleton.mp same]
    exact Nat.ne_of_lt (books.knownAnswers call has)
  knownAnswers := by
    intro call has
    rcases mem_append.mp has with has | has
    · exact Nat.lt_succ_of_lt (books.knownAnswers call has)
    · rw [mem_singleton.mp has]
      exact Nat.lt_succ_self _

lemma insert {reqId : String} {entry : Pending}
    (free : pending reqId = none) (called : entry.call = came) :
    Books (Function.update pending reqId (some entry)) (came + 1) answered := by
  have either {other : String} {rival : Pending}
      (got : Function.update pending reqId (some entry) other = some rival) :
      other = reqId ∧ rival.call = came ∨ pending other = some rival := by
    by_cases same : other = reqId
    · subst same
      rw [Function.update_self, Option.some.injEq] at got
      subst got
      exact .inl ⟨rfl, called⟩
    · rw [Function.update_of_ne same] at got
      exact .inr got
  refine ⟨?_, ?_, ?_, ?_, books.once, ?_⟩
  · intro other rival got
    rcases either got with ⟨-, called⟩ | got
    · rw [called]
      exact Nat.lt_succ_self _
    · exact Nat.lt_succ_of_lt (books.known other rival got)
  · intro first firstEntry last secondEntry firstFound secondFound same
    rcases either firstFound with ⟨firstHere, _⟩ | firstBefore
    · rcases either secondFound with ⟨secondHere, -⟩ | secondBefore
      · exact firstHere.trans secondHere.symm
      · have lt := books.known last secondEntry secondBefore
        omega
    · rcases either secondFound with ⟨-, _⟩ | secondBefore
      · have lt := books.known first firstEntry firstBefore
        omega
      · exact books.apart first firstEntry last secondEntry firstBefore secondBefore same
  · intro other rival got has
    rcases either got with ⟨-, called⟩ | got
    · have lt := books.knownAnswers _ has
      omega
    · exact books.unanswered other rival got has
  · intro call lt
    rcases Nat.lt_succ_iff_lt_or_eq.mp lt with lt | rfl
    · rcases books.settled call lt with has | ⟨other, rival, got, same⟩
      · exact .inl has
      · refine .inr ⟨other, rival, ?_, same⟩
        have ne : other ≠ reqId := by
          rintro rfl
          rw [free] at got
          cases got
        rwa [Function.update_of_ne ne]
    · exact .inr ⟨reqId, entry, Function.update_self _ _ _, called⟩
  · exact fun call has => Nat.lt_succ_of_lt (books.knownAnswers call has)

lemma leave (reqId : String) : Books (Function.update pending reqId none) came
      (answered ++ ((pending reqId).map Pending.call).toList) := by
  rcases waits : pending reqId with _ | entry
  · rw [Function.update_eq_self_iff.mpr waits.symm, Option.map_none, Option.toList_none, append_nil]
    exact books
  · rw [Option.map_some, Option.toList_some]
    refine ⟨?_, ?_, ?_, ?_, ?_, ?_⟩
    · intro other rival got
      exact books.known other rival (of_update_none got).2
    · intro first firstEntry last secondEntry firstFound secondFound same
      exact books.apart first firstEntry last secondEntry (of_update_none firstFound).2
        (of_update_none secondFound).2 same
    · intro other rival got has
      obtain ⟨ne, got⟩ := of_update_none got
      rcases mem_append.mp has with has | has
      · exact books.unanswered other rival got has
      · exact ne (books.apart other rival reqId entry got waits
          (mem_singleton.mp has))
    · intro call lt
      rcases books.settled call lt with has | ⟨other, rival, got, same⟩
      · exact .inl (mem_append_left _ has)
      · by_cases here : other = reqId
        · subst here
          rw [waits, Option.some.injEq] at got
          subst got
          refine .inl (mem_append_right _ ?_)
          rw [same]
          exact .head _
        · refine .inr ⟨other, rival, ?_, same⟩
          rwa [Function.update_of_ne here]
    · refine nodup_append.mpr ⟨books.once, nodup_singleton _, ?_⟩
      rintro call has other same rfl
      rw [mem_singleton.mp same] at has
      exact books.unanswered reqId entry waits has
    · intro call has
      rcases mem_append.mp has with has | has
      · exact books.knownAnswers call has
      · rw [mem_singleton.mp has]
        exact books.known reqId entry waits

end

end Books

lemma cancel_replies (pending : Table) (reqId : String) :
    (cancel pending reqId).replies.map Prod.fst = ((pending reqId).map Pending.call).toList := by
  unfold cancel
  split
  next free =>
    rw [free]
    rfl
  next got =>
  rw [got]
  rfl

lemma handleResponse_replies (pending : Table) (response : AgentRequest) :
    (handleResponse pending response).replies.map Prod.fst =
      ((pending response.requestId).map Pending.call).toList := by
  unfold handleResponse
  split
  next free =>
    rw [free]
    rfl
  next got =>
  rw [got]
  rfl

namespace System

variable {sys after : System} {op : Op}

def Answers (system : System) : Prop :=
  Books system.pending system.arrived (system.replies.map Prod.fst)

section

variable (ans : sys.Answers)
include ans

lemma Answers.get (call : GetSecrets) (st : Option Found) :
    Books (getSecrets sys.pending sys.arrived call sys.forceAlwaysAsk st).pending
      (sys.arrived + 1) ((sys.replies ++ (getSecrets sys.pending sys.arrived call
        sys.forceAlwaysAsk st).replies).map Prod.fst) := by
  have left := Books.leave ans call.requestId
  unfold getSecrets
  split
  · rw [cancel_pending, map_append, map_append, cancel_replies, ← append_assoc]
    exact left.answer
  · dsimp only
    rw [cancel_pending, map_append, cancel_replies]
    exact left.insert (Function.update_self _ _ _) rfl

lemma Answers.receive (sent : Sent) (hasKeyring : Bool) :
    (sys.receive sent hasKeyring).Answers := by
  have left := Books.leave ans sent.request.requestId
  rw [← handleResponse_pending, ← handleResponse_replies, ← map_append] at left
  unfold System.receive
  split <;> exact left

lemma Answers.onNetworkAgentMsg (msg : ToSynoik) : (sys.onNetworkAgentMsg msg).Answers := by
  cases msg with
  | begin | cancel =>
    dsimp only [System.onNetworkAgentMsg]
    split <;> exact ans

lemma Answers.step (ran : sys.step op = some after) : after.Answers := by
  unfold System.step at ran
  cases op with
  | get call st =>
    cases ran
    exact ans.get call st
  | cancelGet path settingName =>
    cases ran
    have left := Books.leave ans (requestIdOf path settingName)
    rw [← cancel_pending, ← cancel_replies, ← map_append] at left
    exact left
  | take hasKeyring =>
    dsimp only at ran
    split at ran
    · cases ran
    next sent rest first =>
    cases ran
    have rested : Answers { sys with toAgent := rest } := ans
    exact rested.receive sent hasKeyring
  | deliver =>
    dsimp only at ran
    split at ran
    · cases ran
    next msg rest first =>
    cases ran
    have rested : Answers { sys with toDialog := rest } := ans
    exact rested.onNetworkAgentMsg msg
  | resume =>
    dsimp only at ran
    split at ran
    next req _ _ =>
      cases ran
      have rested : Answers { sys with deferred := none } := ans
      exact rested.onNetworkAgentMsg (.begin req)
    · cases ran
  | lock | type =>
    cases ran
    exact ans
  | connect =>
    dsimp only at ran
    split at ran
    · cases ran
    · split at ran
      all_goals
        cases ran
        exact ans
  | dismiss =>
    dsimp only at ran
    split at ran
    · cases ran
    · cases ran
      exact ans

end

lemma books_initially (force : Bool) : Answers { forceAlwaysAsk := force } where
  known := nofun
  apart := nofun
  unanswered := nofun
  settled := fun _ lt => absurd lt (Nat.not_lt_zero _)
  once := nodup_nil
  knownAnswers := nofun

end System

/-- As long as no request is put in the place of one that waits, every call that has not had
its one answer is on screen or held back for when the screen unlocks, once nothing is on its
way between the agent and the compositor. -/
theorem none_stranded {force : Bool} {ops : List Op} {system : System}
    (run : Runs System.step System.Spares { forceAlwaysAsk := force } ops system)
    (heard : system.toDialog = []) (taken : system.toAgent = []) :
    (∀ requestId entry, system.pending requestId = some entry →
      system.Held requestId entry.call) ∧ ∀ call < system.arrived,
      (system.replies.map Prod.fst).count call = 1 ∨
        ∃ requestId entry, system.pending requestId = some entry ∧ entry.call = call ∧
          (system.replies.map Prod.fst).count call = 0 := by
  have kept : system.Kept := run.invariant System.Kept
    (fun spares stepped kept => kept.step spares stepped) nofun
  have answers : system.Answers := run.invariant System.Answers
    (fun _ stepped answers => answers.step stepped) (System.books_initially force)
  constructor
  · intro requestId entry found
    cases kept requestId entry found with
    | held held => exact held
    | onTheWay split =>
      rw [heard] at split
      exact absurd split (by simp)
    | answered there =>
      rw [taken] at there
      cases there
  · intro call below
    rcases answers.settled call below with there | ⟨requestId, entry, found, rfl⟩
    · exact .inl (count_eq_one_of_mem answers.once there)
    · exact .inr ⟨requestId, entry, found, rfl,
        count_eq_zero.mpr (answers.unanswered requestId entry found)⟩

/-- One call that is on screen, after one that was answered. -/
def oneByOne : List Op :=
  [.get (wifi "/1") none, .deliver, .dismiss, .take true, .get (wifi "/2") none, .deliver]

theorem none_stranded_oneByOne :
    ∃ system, Runs System.step System.Spares {} oneByOne system ∧ system.arrived = 2 ∧
      (∀ requestId entry, system.pending requestId = some entry →
        system.Held requestId entry.call) ∧ ∀ call < system.arrived,
        (system.replies.map Prod.fst).count call = 1 ∨
          ∃ requestId entry, system.pending requestId = some entry ∧ entry.call = call ∧
            (system.replies.map Prod.fst).count call = 0 := by
  exact ⟨_, runs_get (by decide +kernel), by decide +kernel,
    none_stranded (runs_get _) (by decide +kernel) (by decide +kernel)⟩

/-- Calls for two networks. -/
def bothAtOnce : List Op := [.get (wifi "/1") none, .deliver, .get (wifi "/2") none, .deliver]

/-- The first call waits in the table, and nobody will answer it. -/
theorem stranded_by_another : ∃ system, Runs System.step (fun _ _ => True) {} bothAtOnce system ∧
      system.toDialog = [] ∧ system.toAgent = [] ∧
      (system.pending (wifi "/1").requestId).map Pending.call = some 0 ∧
      system.dialog.request.map SecretRequest.call = some 1 ∧ system.deferred = none ∧
      system.replies.map Prod.fst = [] := by
  refine ⟨_, runs_get (by decide +kernel), ?_⟩
  decide +kernel

/-- Whatever becomes of the requests, no call is answered twice, and those that came in are
those that are answered or else in the table, under one id. -/
theorem answered_once {force : Bool} {ops : List Op} {system : System}
    (run : Runs System.step (fun _ _ => True) { forceAlwaysAsk := force } ops system) :
    (system.replies.map Prod.fst).Nodup ∧ ∀ call, call < system.arrived ↔
      Xor (call ∈ system.replies.map Prod.fst) (∃! requestId, ∃ entry,
        system.pending requestId = some entry ∧ entry.call = call) := by
  have answers : system.Answers := run.invariant System.Answers
    (fun _ stepped answers => answers.step stepped) (System.books_initially force)
  refine ⟨answers.once, fun call => ⟨fun below => ?_, ?_⟩⟩
  · rcases answers.settled call below with there | ⟨requestId, entry, found, rfl⟩
    · refine .inl ⟨there, ?_⟩
      rintro ⟨requestId, ⟨entry, found, rfl⟩, -⟩
      exact answers.unanswered requestId entry found there
    · refine .inr ⟨⟨requestId, ⟨entry, found, rfl⟩, ?_⟩, answers.unanswered requestId entry found⟩
      rintro other ⟨held, holds, same⟩
      exact answers.apart other held requestId entry holds found same
  · rintro (⟨there, -⟩ | ⟨⟨requestId, ⟨entry, found, rfl⟩, -⟩, -⟩)
    · exact answers.knownAnswers call there
    · exact answers.known requestId entry found

/-- The second call is answered, and the first stays in the table. -/
theorem answered_once_bothAtOnce : ∃ system, Runs System.step (fun _ _ => True) {}
        (bothAtOnce ++ [.dismiss, .take true]) system ∧ system.replies.map Prod.fst = [1] ∧
      ∃! requestId, ∃ entry, system.pending requestId = some entry ∧ entry.call = 0 := by
  have run : Runs System.step (fun _ _ => True) {} (bothAtOnce ++ [.dismiss, .take true]) _ :=
    runs_get (by decide +kernel)
  refine ⟨_, run, by decide +kernel, ?_⟩
  rcases ((answered_once run).2 0).mp (by decide +kernel) with ⟨there, -⟩ | ⟨held, -⟩
  · exact absurd there (by decide +kernel)
  · exact held

end Synoik.Network
