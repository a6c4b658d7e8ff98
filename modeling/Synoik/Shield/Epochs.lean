import Synoik.Shield.System

/-!
# A verdict and the lock it was given for

Requests to begin, the conversation they open and the events it sends pass through
one pipeline in the order of their epochs. So when a shield is locked, everything
from before it was last raised has been read already: only a lock that is still
waited for can be met by the verdict of an older conversation.
-/

namespace Synoik

open List Compositor

namespace Gate

/-- What holds between the gate, the epochs under way, oldest first, and the epoch
of the last raise. -/
structure InStep (gate : Gate) (pipeline : List Epoch) (raisedAt : Epoch) : Prop where
  covers : gate.locked = true → gate.active = true
  ordered : pipeline.Pairwise (· ≤ ·)
  bounded : ∀ epoch ∈ pipeline, epoch ≤ gate.epoch
  pending : ∀ epoch, gate.awaiting = some epoch →
    epoch = gate.epoch ∧ raisedAt < epoch ∧ gate.active = true
  fresh : gate.locked = true → ∀ epoch ∈ pipeline, raisedAt < epoch
  raised : raisedAt ≤ gate.epoch

variable {gate after : Gate} {pipeline shorter : List Epoch} {raisedAt : Epoch}

lemma raising_of_active (active : after.active = true) :
    gate.raising after raisedAt = raisedAt := by
  simp [raising, active]

namespace InStep

variable (inv : gate.InStep pipeline raisedAt)
include inv

lemma sublist (left : shorter.Sublist pipeline) : gate.InStep shorter raisedAt :=
  { inv with
    ordered := inv.ordered.sublist left
    bounded := fun epoch mem => inv.bounded epoch (left.subset mem)
    fresh := fun locked epoch mem => inv.fresh locked epoch (left.subset mem) }

lemma kept (locked : after.locked = gate.locked) (epoch : after.epoch = gate.epoch)
    (awaiting : after.awaiting = gate.awaiting ∨ after.awaiting = none)
    (active : gate.active = true → after.active = true) :
    after.InStep pipeline (gate.raising after raisedAt) := by
  have unraised : gate.raising after raisedAt = raisedAt := by
    unfold raising
    cases down : gate.active with
    | false => rfl
    | true => simp [active down]
  rw [unraised]
  constructor
  · rw [locked]
    exact fun isLocked => active (inv.covers isLocked)
  · exact inv.ordered
  · rw [epoch]
    exact inv.bounded
  · intro asked waits
    obtain same | none := awaiting
    · rw [same] at waits
      obtain ⟨cur, later, down⟩ := inv.pending asked waits
      exact ⟨cur.trans epoch.symm, later, active down⟩
    · rw [none] at waits
      cases waits
  · rw [locked]
    exact inv.fresh
  · rw [epoch]
    exact inv.raised

lemma same : gate.InStep pipeline (gate.raising gate raisedAt) := inv.kept rfl rfl (.inl rfl) id

lemma cover : gate.covered.InStep pipeline (gate.raising gate.covered raisedAt) :=
  inv.kept rfl rfl (.inl rfl) fun _ => rfl

lemma forget : gate.unanswered.InStep pipeline (gate.raising gate.unanswered raisedAt) :=
  inv.kept rfl rfl (.inr rfl) id

lemma raise : gate.raised.InStep pipeline (gate.raising gate.raised raisedAt) := by
  constructor
  · exact fun locked => nomatch locked
  · exact inv.ordered
  · exact inv.bounded
  · exact fun _ waits => nomatch waits
  · exact fun locked => nomatch locked
  · unfold raising
    split
    · exact Nat.le_refl _
    · exact inv.raised

lemma ask :
    gate.asking.InStep (pipeline ++ [gate.epoch + 1]) (gate.raising gate.asking raisedAt) := by
  rw [raising_of_active rfl]
  have later := Nat.lt_succ_of_le inv.raised
  constructor
  · exact fun _ => rfl
  · rw [pairwise_append]
    refine ⟨inv.ordered, pairwise_singleton _ _, ?_⟩
    intro epoch mem _ equal
    rw [mem_singleton.mp equal]
    exact Nat.le_succ_of_le (inv.bounded epoch mem)
  · intro epoch mem
    obtain old | new := mem_append.mp mem
    · exact Nat.le_succ_of_le (inv.bounded epoch old)
    · exact Nat.le_of_eq (mem_singleton.mp new)
  · intro epoch waits
    cases waits
    exact ⟨rfl, later, rfl⟩
  · intro locked epoch mem
    obtain old | new := mem_append.mp mem
    · exact inv.fresh locked epoch old
    · rw [mem_singleton.mp new]
      exact later
  · exact Nat.le_of_lt later

lemma vain :
    gate.asking.unanswered.InStep pipeline (gate.raising gate.asking.unanswered raisedAt) := by
  have asked := inv.ask.sublist (sublist_append_left pipeline _)
  have kept : gate.asking.unanswered.InStep pipeline _ := asked.kept rfl rfl (.inr rfl) fun _ => rfl
  rw [raising_of_active rfl, raising_of_active rfl] at kept
  rw [raising_of_active rfl]
  exact kept

variable {epoch : Epoch}

/-- An answer that grants the request waited for stands at the head of the
pipeline, and everything behind it is as late. -/
lemma grant (awaited : gate.awaiting = some epoch) (head : pipeline = epoch :: shorter) :
    gate.granted.InStep shorter (gate.raising gate.granted raisedAt) := by
  obtain ⟨-, later, active⟩ := inv.pending epoch awaited
  have unraised : gate.raising gate.granted raisedAt = raisedAt := raising_of_active active
  rw [unraised]
  subst head
  obtain ⟨one, ordered⟩ := pairwise_cons.mp inv.ordered
  constructor
  · exact fun _ => active
  · exact ordered
  · exact fun other mem => inv.bounded other (.tail _ mem)
  · exact fun _ waits => nomatch waits
  · exact fun _ other mem => Nat.lt_of_lt_of_le later (one other mem)
  · exact inv.raised

lemma stutter {pre behind : List Epoch} (split : pipeline = pre ++ epoch :: behind) :
    gate.InStep (pre ++ epoch :: epoch :: behind) raisedAt := by
  subst split
  have mem {other : Epoch} (got : other ∈ pre ++ epoch :: epoch :: behind) :
      other ∈ pre ++ epoch :: behind := by
    simpa using got
  refine { inv with ordered := ?_, bounded := ?_, fresh := ?_ }
  · have ordered := inv.ordered
    simp only [pairwise_append, pairwise_cons, mem_cons] at ordered ⊢
    obtain ⟨one, ⟨ahead, last⟩, across⟩ := ordered
    refine ⟨one, ⟨?_, ahead, last⟩, ?_⟩
    · rintro other (rfl | later)
      · exact Nat.le_refl _
      · exact ahead other later
    · rintro other got later (rfl | rfl | behind)
      · exact across other got later (.inl rfl)
      · exact across other got later (.inl rfl)
      · exact across other got later (.inr behind)
  · exact fun other got => inv.bounded other (mem got)
  · exact fun locked other got => inv.fresh locked other (mem got)

end InStep

end Gate

namespace LockSystem

/-- The epochs under way: of the events to be read, of what the task is at, and of
the requests it has not read. -/
def pipeline (system : LockSystem) : List Epoch :=
  system.events.map Prod.fst ++ (system.stage.epochs ++ system.compositor.begins)

structure InStep (system : LockSystem) : Prop where
  session : system.compositor.InSession
  labelled : ∀ origin epoch, (origin, VerifierEvent.ready epoch) ∈ system.events → origin = epoch
  gate : system.gate.InStep system.pipeline system.raisedAt

/-- The moves of the whole system. -/
inductive Steps (system : LockSystem) (op : SystemOp) (after : LockSystem) : Prop
  | keep : after.gate = system.gate ∨ after.gate = system.gate.covered →
      after.pipeline.Sublist system.pipeline → Steps system op after
  | stutter (before : List Epoch) (epoch : Epoch) (behind : List Epoch) :
      after.gate = system.gate → system.pipeline = before ++ epoch :: behind →
      after.pipeline = before ++ epoch :: epoch :: behind → Steps system op after
  | raise : after.gate = system.gate.raised →
      after.pipeline.Sublist system.pipeline → Steps system op after
  | ask (shorter : List Epoch) : after.gate = system.gate.asking → shorter.Sublist system.pipeline →
      after.pipeline = shorter ++ [system.gate.epoch + 1] → Steps system op after
  | vain : after.gate = system.gate.asking.unanswered →
      after.pipeline.Sublist system.pipeline → Steps system op after
  | grant (epoch : Epoch) : system.gate.awaiting = some epoch →
      after.gate = system.gate.granted → system.pipeline = epoch :: after.pipeline →
      epoch ∈ after.answered → Steps system op after
  | refuse (epoch : Epoch) : system.gate.awaiting = some epoch →
      after.gate = system.gate.unanswered →
      after.pipeline.Sublist system.pipeline → epoch ∈ after.answered →
      Steps system op after
  | lose (now : Duration) (origin : Epoch) (events : List (Epoch × VerifierEvent)) :
      op = .deliver now → system.events = (origin, .lost) :: events →
      (system.gate.locked && system.gate.active) = false →
      after.gate = system.gate.unanswered →
      after.pipeline.Sublist system.pipeline → origin ∈ after.answered →
      Steps system op after

/-- What every step does beside. -/
structure Follows (system after : LockSystem) : Prop where
  session : after.compositor.InSession
  labelled : ∀ origin epoch, (origin, VerifierEvent.ready epoch) ∈ after.events → origin = epoch
  raisedAt : after.raisedAt = system.gate.raising after.gate system.raisedAt
  answered : system.answered ⊆ after.answered

abbrev Advances (system : LockSystem) (op : SystemOp) (after : LockSystem) : Prop :=
  system.Follows after ∧ system.Steps op after

variable {sys after : LockSystem} {op : SystemOp}

/-- The compositor has read some of the events and handled something. -/
structure Handles (system : LockSystem) (gate : Gate) (asked answers : List Epoch)
    (after : LockSystem) : Prop where
  follows : system.Follows after
  gate : after.gate = gate
  left : ∃ shorter, shorter.Sublist system.pipeline ∧ after.pipeline = shorter ++ asked
  answers : answers ⊆ after.answered

/-- What was under way and is not read stays as it is. -/
lemma Handles.shrinks {gate : Gate} {ans : List Epoch}
    (handles : sys.Handles gate [] ans after) : after.pipeline.Sublist sys.pipeline := by
  obtain ⟨_, left, pipelined⟩ := handles.left
  rw [pipelined, append_nil]
  exact left

variable {compositor : Compositor} {events : List (Epoch × VerifierEvent)}
  {epoch origin : Epoch} {now : Duration} {stage : Stage} {ev : VerifierEvent}
  {start : LockSystem} {ops : List SystemOp}

section

variable (inv : sys.InStep)
include inv

lemma handled_handles {gate : Gate} {asked : List Epoch}
    (reaches : sys.compositor.Reaches compositor gate asked)
    (read : events.Sublist sys.events) (ans : List Epoch) :
    sys.Handles gate asked ans ({ sys with events }.handled compositor ans) := by
  refine ⟨⟨reaches.session, ?_, rfl, subset_append_right _ _⟩, reaches.gate, ?_,
    subset_append_left _ _⟩
  · intro origin epoch mem
    exact inv.labelled origin epoch (read.subset mem)
  · refine ⟨pipeline { sys with events }, (read.map Prod.fst).append_right _, ?_⟩
    unfold handled pipeline
    rw [reaches.begins]
    simp only [append_assoc]

lemma handled_steps (turns : sys.compositor.Turns compositor) (read : events.Sublist sys.events)
    (ans : List Epoch) : sys.Advances op ({ sys with events }.handled compositor ans) := by
  cases turns with
  | rest reaches =>
    have handles := handled_handles inv reaches read ans
    exact ⟨handles.follows, .keep (.inl handles.gate) handles.shrinks⟩
  | cover reaches =>
    have handles := handled_handles inv reaches read ans
    exact ⟨handles.follows, .keep (.inr handles.gate) handles.shrinks⟩
  | raise reaches =>
    have handles := handled_handles inv reaches read ans
    exact ⟨handles.follows, .raise handles.gate handles.shrinks⟩
  | ask reaches =>
    obtain ⟨follows, gate, ⟨shorter, left, pipelined⟩, -⟩ := handled_handles inv reaches read ans
    exact ⟨follows, .ask shorter gate left pipelined⟩
  | vain reaches =>
    have handles := handled_handles inv reaches read ans
    exact ⟨handles.follows, .vain handles.gate handles.shrinks⟩

lemma handled_refuses {ans : List Epoch}
    (awaited : sys.gate.awaiting = some epoch) (answered : epoch ∈ ans)
    (reaches : sys.compositor.Reaches compositor sys.gate.unanswered [])
    (read : events.Sublist sys.events) :
    sys.Advances op ({ sys with events }.handled compositor ans) := by
  have handles := handled_handles inv reaches read ans
  exact ⟨handles.follows, .refuse epoch awaited handles.gate handles.shrinks
    (handles.answers answered)⟩

lemma step_watchdog (ran : sys.step (.shell now (.watchdog epoch)) = some after) :
    sys.Advances (.shell now (.watchdog epoch)) after := by
  have sess := inv.session
  cases ran
  by_cases armed : epoch ∈ sys.compositor.watchdogs
  · have ans : ShellEvent.answers sys.compositor (.watchdog epoch) = [epoch] := if_pos armed
    have disarmed : sys.compositor.Rests { sys.compositor with
        watchdogs := sys.compositor.watchdogs.erase epoch } :=
      rests_of_frame sess sess.unnamed rfl
    have fired : sys.compositor.handle now (.watchdog epoch) =
        Compositor.drive { sys.compositor with
            watchdogs := sys.compositor.watchdogs.erase epoch }
          (sys.compositor.shield.authenticatorReady epoch false) :=
      if_pos armed
    rw [ans, fired]
    by_cases awaited : sys.compositor.shield.awaitingAuthenticator = some epoch
    · obtain ⟨-, -, active⟩ := inv.gate.pending epoch awaited
      have refused := disarmed.reaches (drive_refuses disarmed.session awaited active)
      exact handled_refuses inv awaited (.head _) refused (Sublist.refl _)
    · have ignored : Compositor.Rests _ (Compositor.drive _
          (sys.compositor.shield.authenticatorReady epoch false)) :=
        drive_ignored disarmed.session fun both => awaited both.1
      exact handled_steps inv (.rest (disarmed.reaches ignored)) (Sublist.refl _) _
  · have quiet : sys.compositor.handle now (.watchdog epoch) = sys.compositor := if_neg armed
    rw [quiet]
    exact handled_steps inv (.rest (rests_self sess)) (Sublist.refl _) _

lemma step_shell {ev : ShellEvent} (ran : sys.step (.shell now ev) = some after) :
    sys.Advances (.shell now ev) after := by
  by_cases own : ev.isOwn = true
  · have turns : sys.compositor.Turns (sys.compositor.handle now ev) :=
      handle_turns inv.session inv.gate.covers own
    have ran : after = sys.handled (sys.compositor.handle now ev)
        (ev.answers sys.compositor) := by
      cases ev <;> first | exact (Option.some.inj ran).symm | cases own
    rw [ran]
    exact handled_steps inv turns (Sublist.refl _) _
  · cases ev with
    | verifier => cases ran
    | watchdog => exact step_watchdog inv ran
    | _ => exact absurd rfl own

lemma step_deliver (ran : sys.step (.deliver now) = some after) :
    sys.Advances (.deliver now) after := by
  have sess := inv.session
  dsimp only [step] at ran
  split at ran
  · cases ran
  next origin ev events read =>
  have left : events.Sublist sys.events := by
    rw [read]
    exact sublist_cons_self _ _
  cases ran
  cases ev with
  | ready epoch =>
    by_cases awaited : sys.compositor.shield.awaitingAuthenticator = some epoch
    · obtain ⟨-, -, active⟩ := inv.gate.pending epoch awaited
      have granted : sys.compositor.Reaches
          (sys.compositor.onVerifierEvent (.ready epoch) now) _ [] :=
        ready_grants sess awaited active
      obtain ⟨follows, gate, -, ans⟩ := handled_handles inv granted left [epoch]
      have labelled : origin = epoch := inv.labelled origin epoch (read ▸ (.head _))
      refine ⟨follows, .grant epoch awaited gate ?_ (ans (.head _))⟩
      unfold pipeline
      rw [read, labelled]
      exact congrArg (fun begins => epoch :: (events.map Prod.fst ++ (sys.stage.epochs ++ begins)))
        (granted.begins.trans (append_nil _)).symm
    · exact handled_steps inv (.rest (ready_ignored sess
        fun both => awaited both.1)) left _
  | unavailable epoch =>
    by_cases awaited : sys.compositor.shield.awaitingAuthenticator = some epoch
    · obtain ⟨-, -, active⟩ := inv.gate.pending epoch awaited
      exact handled_refuses inv awaited (.head _)
        (unavailable_refuses sess awaited active) left
    · exact handled_steps inv (.rest (unavailable_ignored sess
        fun both => awaited both.1)) left _
  | lost =>
    by_cases locked : (sys.compositor.shield.locked && sys.compositor.shield.active) = true
    · rw [Bool.and_eq_true] at locked
      obtain asked | refused := lost_asks sess locked.1 locked.2
      · exact handled_steps inv (.ask asked) left _
      · exact handled_steps inv (.vain refused) left _
    · have forgotten : sys.compositor.Reaches (sys.compositor.onVerifierEvent .lost now) _ [] :=
        lost_forgets sess (Bool.eq_false_iff.mpr locked)
      have handles := handled_handles inv forgotten left [origin]
      exact ⟨handles.follows, .lose now origin events rfl read (Bool.eq_false_iff.mpr locked)
        handles.gate handles.shrinks (handles.answers (.head _))⟩
  | complete => exact handled_steps inv (.raise (complete_raises sess)) left _
  | _ =>
    exact handled_steps inv (.rest (onVerifierEvent_rests sess
      (by simp) (by simp) (by simp) (by simp))) left _

/-- A step of the verifier's task, which the gate does not see. -/
structure Aside (system after : LockSystem) : Prop where
  session : after.compositor.InSession
  gate : after.gate = system.gate
  raisedAt : after.raisedAt = system.raisedAt
  answered : after.answered = system.answered
  labelled : ∀ origin epoch, (origin, VerifierEvent.ready epoch) ∈ after.events →
    (origin, .ready epoch) ∈ system.events ∨ origin = epoch

lemma Aside.follows (aside : sys.Aside after) : sys.Follows after := by
  refine ⟨aside.session, ?_, ?_, ?_⟩
  · intro origin epoch mem
    obtain old | same := aside.labelled origin epoch mem
    · exact inv.labelled origin epoch old
    · exact same
  · rw [aside.raisedAt, aside.gate]
    simp [Gate.raising]
  · rw [aside.answered]
    exact .refl _

lemma stage_steps (shorter : stage.epochs.Sublist sys.stage.epochs) :
    sys.Advances op { sys with stage } := by
  have aside : sys.Aside { sys with stage } := ⟨inv.session, rfl, rfl, rfl, fun _ _ mem => .inl mem⟩
  exact ⟨aside.follows inv, .keep (.inl rfl) ((shorter.append_right _).append_left _)⟩

lemma say_aside (stage : Stage) (labelled : ∀ epoch, ev = .ready epoch → origin = epoch) :
    sys.Aside ({ sys with stage }.say origin ev) := by
  refine ⟨inv.session, rfl, rfl, rfl, ?_⟩
  intro _ epoch mem
  obtain old | new := mem_append.mp mem
  · exact .inl old
  · cases mem_singleton.mp new
    exact .inr (labelled epoch rfl)

/-- The conversation at the task's hand says one thing more. -/
lemma say_stutters {behind : List Epoch}
    (pre : sys.stage.epochs = epoch :: behind) (next : stage.epochs = epoch :: behind)
    (labelled : ∀ other, ev = .ready other → epoch = other) :
    sys.Advances op ({ sys with stage }.say epoch ev) := by
  refine ⟨(say_aside inv stage labelled).follows inv,
    .stutter (sys.events.map Prod.fst) epoch (behind ++ sys.compositor.begins) rfl ?_ ?_⟩
  · unfold pipeline
    rw [pre]
    rfl
  · unfold pipeline say
    rw [next]
    simp

end

lemma nextRequest_begins {rest : Compositor} {req : VerifierRequest}
    (next : nextRequest compositor = some (req, rest)) :
    compositor.begins = req.begun.toList ++ rest.begins ∧
      ∃ reqs, rest = { compositor with gdmRequests := reqs } := by
  unfold nextRequest at next
  split at next
  · cases next
  next _ senders =>
  split at next
  · cases next
  next _ _ queued =>
  cases next
  refine ⟨?_, _, rfl⟩
  unfold Compositor.begins
  rw [senders]
  dsimp only
  rw [queued]
  cases begun : req.begun <;> simp [begun]

/-- Reading a request takes its epoch from the queue to the task. -/
lemma read_epochs (talk : Option Epoch) (req : VerifierRequest) :
    (Stage.read talk req).epochs.Sublist (talk.toList ++ req.begun.toList) := by
  cases req <;> cases talk <;> simp [Stage.read, Stage.epochs, VerifierRequest.begun]

lemma step_fetch (inv : sys.InStep) (ran : sys.step .fetch = some after) :
    sys.Advances .fetch after := by
  dsimp only [step] at ran
  split at ran
  next talk resting =>
    obtain ⟨⟨req, _⟩, next, equal⟩ := Option.map_eq_some_iff.mp ran
    obtain ⟨begins, reqs, frame⟩ := nextRequest_begins next
    have sess := inv.session
    subst frame equal
    have aside : sys.Aside { sys with
        compositor := { sys.compositor with gdmRequests := reqs }
        stage := .read talk req } :=
      ⟨⟨sess.greeter, sess.shield, sess.unnamed, sess.exhausted⟩, rfl,
        rfl, rfl, fun _ _ mem => .inl mem⟩
    refine ⟨aside.follows inv, .keep (.inl rfl) ?_⟩
    unfold pipeline
    rw [begins, resting, ← append_assoc (Stage.epochs _)]
    exact ((read_epochs talk req).append_right _).append_left _
  · cases ran

lemma step_closed (inv : sys.InStep) (ran : sys.step .closed = some after) :
    sys.Advances .closed after := by
  dsimp only [step] at ran
  split at ran
  next old _ closing =>
    cases ran
    apply stage_steps inv
    rw [closing]
    exact sublist_cons_self _ _
  next old closing =>
    cases ran
    apply stage_steps inv
    exact nil_sublist _
  · cases ran

lemma settle_steps (inv : sys.InStep) (standing : sys.stage.epochs = [epoch])
    (failure : Option String) : sys.Advances op (sys.settle epoch failure) := by
  cases failure with
  | none =>
    apply say_stutters inv standing rfl
    rintro _ ⟨⟩
    rfl
  | some =>
    refine ⟨(say_aside inv _ (by simp)).follows inv, .keep (.inl rfl) ?_⟩
    unfold settle say pipeline
    rw [standing]
    simp [Stage.epochs]

variable {failure : Option String}

lemma step_connected (inv : sys.InStep) (ran : sys.step (.connected failure) = some after) :
    sys.Advances (.connected failure) after := by
  dsimp only [step] at ran
  split at ran
  next _ connecting =>
    split at ran
    · cases ran
      apply stage_steps inv
      rw [connecting]
      exact .refl _
    · cases ran
      exact settle_steps inv (by rw [connecting]; rfl) _
  · cases ran

lemma step_began (inv : sys.InStep) (ran : sys.step (.began failure) = some after) :
    sys.Advances (.began failure) after := by
  dsimp only [step] at ran
  split at ran
  next _ beginning =>
    cases ran
    exact settle_steps inv (by rw [beginning]; rfl) _
  · cases ran

/-- A conversation that is heard is the oldest the task has to do with. -/
lemma speaking_epochs (speaks : stage.speaking = some epoch) :
    ∃ behind, stage.epochs = epoch :: behind := by
  cases stage with
  | resting talk =>
    obtain rfl : talk = some epoch := speaks
    exact ⟨[], rfl⟩
  | closing =>
    cases speaks
    exact ⟨_, rfl⟩
  | connecting => cases speaks
  | beginning =>
    cases speaks
    exact ⟨[], rfl⟩

section

variable (inv : sys.InStep)
include inv

lemma step_speak (ran : sys.step (.speak ev) = some after) : sys.Advances (.speak ev) after := by
  dsimp only [step] at ran
  split at ran
  next _ speaks =>
    split at ran
    · cases ran
    next word =>
    cases ran
    obtain ⟨_, standing⟩ := speaking_epochs speaks
    apply say_stutters inv standing standing
    rintro _ rfl
    exact absurd rfl word
  · cases ran

lemma step_hangUp (ran : sys.step .hangUp = some after) : sys.Advances .hangUp after := by
  have sess := inv.session
  cases ran
  have aside : sys.Aside { sys with
      stage := .resting none
      compositor := { sys.compositor with
        gdmRequests := sys.compositor.gdmRequests.map fun _ =>
          { closed := true, queue := [] } } } :=
    ⟨⟨sess.greeter, sess.shield, sess.unnamed, sess.exhausted⟩, rfl,
      rfl, rfl, fun _ _ mem => .inl mem⟩
  refine ⟨aside.follows inv, .keep (.inl rfl) ?_⟩
  have silenced : Compositor.begins { sys.compositor with
      gdmRequests := sys.compositor.gdmRequests.map fun _ =>
        { closed := true, queue := [] } } = [] := by
    cases sys.compositor.gdmRequests <;> rfl
  unfold pipeline
  rw [silenced]
  simp [Stage.epochs]

lemma step_steps (ran : sys.step op = some after) : sys.Advances op after := by
  cases op with
  | shell => exact step_shell inv ran
  | deliver => exact step_deliver inv ran
  | fetch => exact step_fetch inv ran
  | closed => exact step_closed inv ran
  | connected => exact step_connected inv ran
  | began => exact step_began inv ran
  | speak => exact step_speak inv ran
  | hangUp => exact step_hangUp inv ran

lemma step_inStep (ran : sys.step op = some after) : after.InStep := by
  obtain ⟨follows, steps⟩ := step_steps inv ran
  refine ⟨follows.session, follows.labelled, ?_⟩
  rw [follows.raisedAt]
  have held := inv.gate
  cases steps with
  | keep same left =>
    obtain same | same := same
    · rw [same]
      exact held.same.sublist left
    · rw [same]
      exact held.cover.sublist left
  | stutter _ _ _ same split pipelined =>
    rw [same, pipelined]
    exact held.same.stutter split
  | raise raised left =>
    rw [raised]
    exact held.raise.sublist left
  | ask _ asking left pipelined =>
    rw [asking, pipelined]
    exact (held.sublist left).ask
  | vain refused left =>
    rw [refused]
    exact held.vain.sublist left
  | grant _ awaited granted head =>
    rw [granted]
    exact held.grant awaited head
  | refuse _ _ unanswered left | lose _ _ _ _ _ _ unanswered left =>
    rw [unanswered]
    exact held.forget.sublist left

/-- The request of the current epoch is waited for until it is answered, unless
the shield was raised after it. -/
def Awaited (system : LockSystem) : Prop :=
  system.gate.epoch ∈ system.pipeline → system.raisedAt < system.gate.epoch →
    system.gate.epoch ∉ system.answered → system.gate.awaiting = some system.gate.epoch

/-- The compositor reads the verdict or the loss of an older conversation while an
unlocked shield waits for its own. -/
def endangers (system : LockSystem) : SystemOp → Bool
  | .deliver _ =>
    match system.events with
    | (origin, .complete) :: _ =>
      origin ≤ system.raisedAt && system.gate.awaiting.isSome
    | (origin, .lost) :: _ =>
      origin < system.gate.epoch && system.gate.awaiting.isSome && !system.gate.locked
    | _ => false
  | _ => false

lemma step_awaited (spared : sys.endangers op = false) (ran : sys.step op = some after)
    (awaited : sys.Awaited) : after.Awaited := by
  obtain ⟨follows, steps⟩ := step_steps inv ran
  have held := inv.gate
  -- A step that keeps the request, the epoch and the last raise.
  have kept (epoch : after.gate.epoch = sys.gate.epoch)
      (awaiting : after.gate.awaiting = sys.gate.awaiting)
      (raisedAt : after.raisedAt = sys.raisedAt)
      (left : after.pipeline ⊆ sys.pipeline) : after.Awaited := by
    intro under later unanswered
    rw [epoch] at under later unanswered ⊢
    rw [awaiting]
    rw [raisedAt] at later
    exact awaited (left under) later fun answered =>
      unanswered (follows.answered answered)
  -- A step that leaves the current request answered.
  have ans {epoch : Epoch} (waits : sys.gate.awaiting = some epoch)
      (same : after.gate.epoch = sys.gate.epoch) (answered : epoch ∈ after.answered) :
      after.Awaited := by
    intro _ _ unanswered
    rw [same, ← (held.pending epoch waits).1] at unanswered
    exact absurd answered unanswered
  cases steps with
  | keep same left =>
    obtain same | same := same
    · apply kept
      · rw [same]
      · rw [same]
      · rw [follows.raisedAt, same]
        simp [Gate.raising]
      · exact left.subset
    · apply kept
      · rw [same]
        rfl
      · rw [same]
        rfl
      · rw [follows.raisedAt, same]
        exact Gate.raising_of_active rfl
      · exact left.subset
  | stutter _ _ _ same split pipelined =>
    apply kept
    · rw [same]
    · rw [same]
    · rw [follows.raisedAt, same]
      simp [Gate.raising]
    · rw [pipelined, split]
      intro _ mem
      simpa using mem
  | raise raised left =>
    intro under later unanswered
    rw [follows.raisedAt, raised] at later
    rw [raised] at under unanswered
    unfold Gate.raising at later
    split at later
    · exact absurd later (Nat.lt_irrefl _)
    next up =>
    -- A shield that was up already waited for nothing.
    have waits := awaited (left.subset under) later fun answered =>
    unanswered (follows.answered answered)
    exact absurd (held.pending _ waits).2.2 (by simpa [Gate.raised] using up)
  | ask _ asking =>
    intro _ _ _
    rw [asking]
    rfl
  | vain refused left =>
    intro under
    rw [refused] at under
    exact absurd (held.bounded _ (left.subset under)) (Nat.not_succ_le_self _)
  | grant _ waits granted _ answered => exact ans waits (by rw [granted]; rfl) answered
  | refuse _ waits unanswered _ answered => exact ans waits (by rw [unanswered]; rfl) answered
  | lose _ origin _ deliver read unlocked forgotten left answered =>
    cases waits : sys.gate.awaiting with
    | none =>
      apply kept
      · rw [forgotten]
        rfl
      · rw [forgotten, waits]
        rfl
      · rw [follows.raisedAt, forgotten]
        simp [Gate.raising, Gate.unanswered]
      · exact left.subset
    | some epoch =>
      -- Only the conversation of the current epoch is left to be lost.
      obtain ⟨rfl, -, active⟩ := held.pending epoch waits
      have cur : sys.gate.epoch ≤ origin := by
        have unlocked : sys.gate.locked = false := by simpa [active] using unlocked
        subst deliver
        simpa [endangers, read, waits, unlocked] using spared
      have oldest : origin ≤ sys.gate.epoch := by
        apply held.bounded
        unfold pipeline
        rw [read]
        exact .head _
      exact ans waits (by rw [forgotten]; rfl) (Nat.le_antisymm oldest cur ▸ answered)

end

/-- A session that has not locked yet, beside a verifier that has not been asked. -/
structure Starts (system : LockSystem) : Prop where
  session : system.compositor.InSession
  gate : system.gate = { active := false, locked := false, awaiting := none, epoch := 0 }
  begins : system.compositor.begins = []
  stage : system.stage = .resting none
  events : system.events = []
  raisedAt : system.raisedAt = 0

lemma Starts.inStep (starts : sys.Starts) : sys.InStep := by
  refine ⟨starts.session, ?_, ?_⟩
  · rw [starts.events]
    rintro _ _ ⟨⟩
  · have empty : sys.pipeline = [] := by
      simp [pipeline, starts.events, starts.stage, starts.begins, Stage.epochs]
    rw [starts.gate, empty, starts.raisedAt]
    constructor <;> simp

lemma Starts.awaited (starts : sys.Starts) : sys.Awaited := by
  intro _ later
  rw [starts.gate, starts.raisedAt] at later
  exact absurd later (Nat.lt_irrefl 0)

lemma runs_inStep {allowed : LockSystem → SystemOp → Prop} (starts : start.Starts)
    (run : Runs step allowed start ops sys) : sys.InStep :=
  run.invariant InStep (fun _ ran inv => step_inStep inv ran) starts.inStep

lemma runs_awaited (starts : start.Starts)
    (run : Runs step (fun st op => st.endangers op = false) start ops sys) : sys.Awaited := by
  have both := run.invariant (fun st => st.InStep ∧ st.Awaited) (fun spared ran held =>
      ⟨step_inStep held.1 ran, step_awaited held.1 spared ran held.2⟩)
    ⟨starts.inStep, starts.awaited⟩
  exact both.2

lemma step_deliver_eq (read : sys.events = (origin, ev) :: events) (now : Duration) :
    sys.step (.deliver now) = some ({ sys with events }.handled
      (sys.compositor.handle now (.verifier ev)) (ev.answers origin)) := by
  unfold step
  rw [read]

lemma deliver_old (inv : sys.InStep) (read : sys.events = (origin, ev) :: events)
    (ends : ev = .complete ∨ ev = .lost) (old : origin ≤ sys.raisedAt) (now : Duration) :
    ∃ after, sys.step (.deliver now) = some after ∧
      sys.gate.locked = false ∧ after.gate.locked = false ∧ after.gate.awaiting = none := by
  have one : origin ∈ sys.pipeline := by
    unfold pipeline
    rw [read]
    exact .head _
  have unlocked : sys.gate.locked = false := by
    rw [Bool.eq_false_iff]
    intro locked
    exact absurd (inv.gate.fresh locked origin one) (Nat.not_lt_of_le old)
  refine ⟨_, step_deliver_eq read now, unlocked, ?_⟩
  obtain rfl | rfl := ends
  · have raised : sys.compositor.Reaches (sys.compositor.onVerifierEvent .complete now) _ [] :=
      complete_raises inv.session
    exact ⟨congrArg Gate.locked raised.gate, congrArg Gate.awaiting raised.gate⟩
  · have forgotten : sys.compositor.Reaches (sys.compositor.onVerifierEvent .lost now) _ [] :=
      lost_forgets inv.session
        (by rw [show sys.compositor.shield.locked = false from unlocked]; rfl)
    exact ⟨(congrArg Gate.locked forgotten.gate).trans unlocked,
      congrArg Gate.awaiting forgotten.gate⟩

lemma endangers_old (inv : sys.InStep) (read : sys.events = (origin, ev) :: events)
    (ends : ev = .complete ∨ ev = .lost) (old : origin ≤ sys.raisedAt)
    (unlocked : sys.gate.locked = false) (now : Duration) :
    sys.endangers (.deliver now) = sys.gate.awaiting.isSome := by
  cases waits : sys.gate.awaiting with
  | none => obtain rfl | rfl := ends <;> simp [endangers, read, waits]
  | some epoch =>
    obtain ⟨rfl, later, -⟩ := inv.gate.pending epoch waits
    have older := Nat.lt_of_le_of_lt old later
    obtain rfl | rfl := ends
    · simp [endangers, read, waits, old]
    · simp [endangers, read, waits, older, unlocked]

/-- In every run, a verdict or a loss from before the shield was last raised leaves
the lock as it is exactly when it does not endanger one that is waited for. And
when no step of a run does, a lock whose own request is answered with a conversation
before the shield is raised ends up locked. -/
theorem verdicts_keep_to_their_lock {start : LockSystem} {ops : List SystemOp}
    (starts : start.Starts) (run : Runs step (fun _ _ => True) start ops system)
    (now : Duration) : (∀ origin event events, system.events = (origin, event) :: events →
      event = .complete ∨ event = .lost → origin ≤ system.raisedAt →
      ∃ after, system.step (.deliver now) = some after ∧
        ((after.gate.locked = system.gate.locked ∧ after.gate.awaiting = system.gate.awaiting) ↔
          system.endangers (.deliver now) = false)) ∧
    (Runs step (fun state op => state.endangers op = false) start ops system → ∀ events,
        system.events = (system.gate.epoch, .ready system.gate.epoch) :: events →
        system.raisedAt < system.gate.epoch → system.gate.epoch ∉ system.answered →
      ∃ after, system.step (.deliver now) = some after ∧ after.gate.locked = true) := by
  have inStep : system.InStep := runs_inStep starts run
  constructor
  · intro _ _ events read ends old
    obtain ⟨after, stepped, unlocked, locked, awaiting⟩ := deliver_old inStep read ends old now
    refine ⟨after, stepped, ?_⟩
    rw [endangers_old inStep read ends old unlocked now, locked, awaiting, unlocked]
    cases system.gate.awaiting <;> simp
  · intro spared _ read later unanswered
    have first : system.gate.epoch ∈ system.pipeline := by
      unfold pipeline
      rw [read]
      exact .head _
    have awaited := runs_awaited starts spared first later unanswered
    obtain ⟨-, -, active⟩ := inStep.gate.pending _ awaited
    have granted : system.compositor.Reaches
        (system.compositor.onVerifierEvent (.ready system.gate.epoch) now) _ [] :=
      Compositor.ready_grants inStep.session awaited active
    exact ⟨_, step_deliver_eq read now, congrArg Gate.locked granted.gate⟩

/-- A session is locked, unlocked by logind and locked again while the last word of
its first conversation is still to be read. -/
def relocking (word : VerifierEvent) : List SystemOp :=
  [.shell 0 .screenSaverLock, .fetch, .connected none, .began none, .deliver 1,
    .speak word, .shell 2 (.sessionLock false), .shell 3 .screenSaverLock]

lemma starts_fresh : Starts {} := ⟨⟨rfl, rfl, nofun, rfl⟩, rfl, rfl, rfl, rfl, rfl⟩

/-- The second lock of a session whose first conversation said nothing more. -/
def relocked : LockSystem :=
  (runUnder step (fun state op => state.endangers op = false)
    (relocking .reset ++ [.deliver 4, .fetch, .closed, .fetch, .connected none,
      .began none]) {}).get (by decide +kernel)

theorem verdicts_keep_to_their_lock_relocked :
    ∃ after, relocked.step (.deliver 5) = some after ∧ after.gate.locked = true := by
  have run : Runs step (fun state op => state.endangers op = false) {} _ relocked :=
    runs_get (by decide +kernel)
  have rest : relocked.events = [(relocked.gate.epoch, .ready relocked.gate.epoch)] := by
    decide +kernel
  exact (verdicts_keep_to_their_lock starts_fresh (run.mono fun _ => trivial) 5).2 run _
    rest (by decide +kernel) (by decide +kernel)

/-- What the gate comes to after the operations. -/
def gateAfter (ops : List SystemOp) : Option Gate :=
  (runUnder step (fun _ _ => True) ops {}).map gate

/-- The first conversation's verdict raises the shield that waits for its second
lock; its loss leaves the second lock unlocked, though the request of that lock is
answered with a conversation and the shield was not raised. -/
theorem verdicts_not_kept_to_their_lock : gateAfter (relocking .complete) =
        some { active := true, locked := false, awaiting := some 2, epoch := 2 } ∧
      gateAfter (relocking .complete ++ [.deliver 4]) =
        some { active := false, locked := false, awaiting := none, epoch := 2 } ∧
      gateAfter (relocking .lost) =
        some { active := true, locked := false, awaiting := some 2, epoch := 2 } ∧
      gateAfter (relocking .lost ++ [.deliver 4, .fetch, .closed, .fetch,
          .connected none, .began none, .deliver 5]) =
        some { active := true, locked := false, awaiting := none, epoch := 2 } := by
  decide +kernel

/-- In every run the shield of a locked session is up, and whatever is under way is of a
conversation asked for since it was last raised: no old verdict unlocks. -/
theorem locked_hears_own {start system : LockSystem} {ops : List SystemOp} (starts : start.Starts)
    (run : Runs step (fun _ _ => True) start ops system) (locked : system.gate.locked = true) :
    system.gate.active = true ∧ ∀ epoch ∈ system.pipeline, system.raisedAt < epoch := by
  have inStep := runs_inStep starts run
  exact ⟨inStep.gate.covers locked, inStep.gate.fresh locked⟩

/-- The shield was raised in between, and the conversation of the second lock gives its verdict. -/
theorem locked_hears_own_verdict : ∃ system, Runs step (fun _ _ => True) {}
        (relocking .reset ++ [.deliver 4, .fetch, .closed, .fetch, .connected none, .began none,
          .deliver 5, .speak .complete]) system ∧ system.raisedAt = 1 ∧ 2 ∈ system.pipeline ∧
      ∀ epoch ∈ system.pipeline, system.raisedAt < epoch := by
  exact ⟨_, runs_get (by decide +kernel), by decide +kernel, by decide +kernel,
    (locked_hears_own starts_fresh (runs_get _) (by decide +kernel)).2⟩

end LockSystem

end Synoik
