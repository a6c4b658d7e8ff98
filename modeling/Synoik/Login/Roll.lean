import Synoik.Login.Protocol

/-!
# What a step of a channel puts on record

A channel's record of its workers: whose conversation each is, what it has reported,
where its pump stands and what it has been sent. Sockets and signals are left out.
Each step of the channel changes the record in one of a few ways.
-/

namespace Synoik

structure Record where
  service : String
  user : String
  exited : Bool
  pump : PumpStage
  reported : List Frame
  sentOpen : Bool
  sentStart : Bool

/-- A worker keeps the service and the user it was spawned with, and what it has
reported and been sent stays so. -/
structure Record.Later (before after : Record) : Prop where
  service : after.service = before.service
  user : after.user = before.user
  reported : before.reported ⊆ after.reported
  started : before.sentStart = true → after.sentStart = true

lemma Record.Later.refl (record : Record) : record.Later record :=
  ⟨rfl, rfl, List.Subset.refl _, id⟩

lemma Record.Later.trans {first last third : Record} (early : first.Later last)
    (late : last.Later third) : first.Later third where
  service := late.service.trans early.service
  user := late.user.trans early.user
  reported := List.Subset.trans early.reported late.reported
  started := late.started ∘ early.started

def Conversation.record (conversation : Conversation) : Record where
  service := conversation.service
  user := conversation.user
  exited := conversation.worker == .exited
  pump := conversation.pump
  reported := conversation.reported
  sentOpen := conversation.sentOpen
  sentStart := conversation.sentStart

@[ext]
structure Roll where
  user : Option String
  conversations : String → Option Nat
  records : Nat → Record
  spawned : Nat
  winner : Option Winner
  starting : Option (String × String)
  adopted : List (Nat × String)

def Channel.roll (channel : Channel) : Roll where
  user := channel.user
  conversations := channel.conversations
  records worker := (channel.workers worker).record
  spawned := channel.spawned
  winner := channel.winner
  starting := channel.starting
  adopted := channel.adopted

namespace Roll

def update (roll : Roll) (worker : Nat) (change : Record → Record) : Roll :=
  { roll with
    records := Function.update roll.records worker (change (roll.records worker)) }

def moveTo (roll : Roll) (worker : Nat) (pump : PumpStage) : Roll :=
  roll.update worker fun record => { record with pump }

def spawn (roll : Roll) (service user : String) : Roll :=
  { roll with
    user := some user
    records := Function.update roll.records roll.spawned
      (Conversation.record { service, user })
    conversations := Function.update roll.conversations service (some roll.spawned)
    spawned := roll.spawned + 1 }

/-- Changes the record of the conversation that runs under a name, if one does. -/
def onService (roll : Roll) (service : String) (change : Record → Record) : Roll :=
  { roll with
    records := match roll.conversations service with
      | some worker => (roll.update worker change).records
      | none => roll.records }

def Runs (roll : Roll) (worker : Nat) : Prop :=
  roll.conversations (roll.records worker).service = some worker

@[simp] lemma update_self (roll : Roll) (worker : Nat) (change : Record → Record) :
    (roll.update worker change).records worker = change (roll.records worker) := by
  simp [update]

@[simp] lemma update_update (roll : Roll) (worker : Nat) (first last : Record → Record) :
    (roll.update worker first).update worker last =
      roll.update worker fun record => last (first record) := by
  simp [update]

variable {roll : Roll} {worker other : Nat} {change : Record → Record} {service : String}

lemma update_congr {first last : Record → Record}
    (same : first (roll.records worker) = last (roll.records worker)) :
    roll.update worker first = roll.update worker last := by
  simp [update, same]

@[simp] lemma update_of_ne (roll : Roll) (change : Record → Record) (ne : other ≠ worker) :
    (roll.update worker change).records other = roll.records other := by
  simp [update, ne]

lemma spawn_of_ne (roll : Roll) (service user : String) (old : worker ≠ roll.spawned) :
    (roll.spawn service user).records worker = roll.records worker := by
  simp [spawn, old]

variable {pre : Record}

lemma update_later (later : ∀ record : Record, record.Later (change record))
    (early : pre.Later (roll.records other)) :
    pre.Later ((roll.update worker change).records other) := by
  by_cases equal : other = worker
  · subst equal
    rw [update_self]
    exact early.trans (later _)
  · rw [update_of_ne _ _ equal]
    exact early

lemma update_reported (same : ∀ record : Record, (change record).reported = record.reported)
    (worker other : Nat) :
    ((roll.update worker change).records other).reported = (roll.records other).reported := by
  by_cases equal : other = worker
  · subst equal
    rw [update_self, same]
  · rw [update_of_ne _ _ equal]

lemma onService_of_some (runs : roll.conversations service = some worker)
    (change : Record → Record) : roll.onService service change = roll.update worker change := by
  simp only [onService, runs]
  rfl

lemma onService_of_none (idle : roll.conversations service = none) (change : Record → Record) :
    roll.onService service change = roll := by
  simp only [onService, idle]

lemma onService_reported (same : ∀ record : Record, (change record).reported = record.reported)
    (service : String) (other : Nat) :
    ((roll.onService service change).records other).reported = (roll.records other).reported := by
  cases runs : roll.conversations service with
  | none => rw [onService_of_none runs]
  | some _ =>
    rw [onService_of_some runs]
    exact update_reported same _ _

lemma onService_later (later : ∀ record : Record, record.Later (change record))
    (early : pre.Later (roll.records other)) :
    pre.Later ((roll.onService service change).records other) := by
  cases runs : roll.conversations service with
  | none =>
    rw [onService_of_none runs]
    exact early
  | some _ =>
    rw [onService_of_some runs]
    exact update_later later early

end Roll

namespace Frame

/-- What a pump does next with a frame. -/
def next : Frame → PumpStage
  | .complete => .judging
  | .failed _ => .losing
  | .unavailable _ => .losing
  | _ => .reading

/-- What becomes of the winner with a frame. -/
def note (winner : Option Winner) : Frame → Option Winner
  | .opened id => winner.map fun winner => { winner with session := some id }
  | _ => winner

end Frame

namespace Channel

variable {chan post : Channel} {worker : Nat} {change : Conversation → Conversation}
  {service : String} {recorded : Record → Record} {kind : ChannelKind}
  {talk : Conversation} {act : WorkerAct}

lemma roll_update
    (same : (change (chan.workers worker)).record = recorded (chan.workers worker).record) :
    (chan.update worker change).roll = chan.roll.update worker recorded := by
  refine Roll.ext rfl rfl (funext fun other => ?_) rfl rfl rfl rfl
  by_cases equal : other = worker
  · subst equal
    simpa [roll, update, Roll.update] using same
  · simp [roll, update, Roll.update, equal]

lemma roll_update_same (same : (change (chan.workers worker)).record =
      (chan.workers worker).record) : (chan.update worker change).roll = chan.roll := by
  refine Roll.ext rfl rfl (funext fun other => ?_) rfl rfl rfl rfl
  by_cases equal : other = worker
  · subst equal
    simpa [roll, update] using same
  · simp [roll, update, equal]

lemma roll_onService (same : ∀ talk, (change talk).record = recorded talk.record) :
    (chan.onService service change).roll = chan.roll.onService service recorded := by
  cases running : chan.conversations service with
  | none =>
    have idle := running
    rw [Roll.onService_of_none idle]
    simp only [onService, running]
  | some _ =>
    have runs := running
    rw [Roll.onService_of_some runs]
    simp only [onService, running]
    exact roll_update (same _)

lemma roll_onService_same (same : ∀ talk, (change talk).record = talk.record) :
    (chan.onService service change).roll = chan.roll := by
  unfold onService
  split
  · exact roll_update_same (same _)
  · rfl

lemma roll_moveTo (worker : Nat) (pump : PumpStage) :
    (chan.moveTo worker pump).roll = chan.roll.moveTo worker pump :=
  roll_update rfl

lemma record_end_ (talk : Conversation) : talk.end_.record = talk.record := by
  unfold Conversation.end_
  split <;> rfl

lemma record_write (talk : Conversation) (frame : Frame) :
    (talk.write frame).record = talk.record := by
  unfold Conversation.write
  split <;> rfl

lemma roll_stop (service : String) : (chan.stop service).roll = chan.roll :=
  roll_onService_same record_end_

lemma roll_endWhere (ends : Nat → Bool) : (chan.endWhere ends).roll = chan.roll := by
  refine Roll.ext rfl rfl (funext fun _ => ?_) rfl rfl rfl rfl
  simp only [roll, endWhere]
  split
  · exact record_end_ _
  · rfl

inductive Steps (channel : Channel) : ChannelOp → Roll → Prop where
  | rest {op : ChannelOp} : Steps channel op channel.roll
  | name {service username : String} {spawns : Bool}
      (may : channel.user = some username ∨ channel.busy = false) :
      Steps channel (.beginVerificationForUser service username spawns)
        { channel.roll with user := some username }
  | spawn {op : ChannelOp} {service user : String}
      (ready : channel.starting = none)
      (free : channel.conversations service = none)
      (may : channel.user = some user ∨ channel.busy = false ∧
        ∃ spawns, op = .beginVerificationForUser service user spawns) :
      Steps channel op (channel.roll.spawn service user)
  /-- The session of a winner is looked up, to be started. -/
  | look {winner : Winner} {session : String} (won : channel.winner = some winner)
      (opened : winner.session = some session) :
      Steps channel (.startSessionWhenReady winner.service true)
        { channel.roll with starting := some (winner.service, session) }
  | miss : Steps channel .startConversation { channel.roll with starting := none }
  | hand {service session : String} {worker : Nat} {adopted : List (Nat × String)}
      (starting : channel.starting = some (service, session))
      (running : channel.conversations service = some worker)
      (adopts : adopted = channel.adopted ∨ adopted = channel.adopted ++ [(worker, session)]) :
      Steps channel .startConversation
        (Roll.update { channel.roll with
            starting := none
            conversations := Function.update channel.conversations service none
            adopted } worker
          fun record => { record with sentStart := true })
  | work {worker : Nat} {act : WorkerAct} {exited : Bool}
      (final : exited = false → (channel.workers worker).worker ≠ .exited) :
      Steps channel (.work worker act)
        (channel.roll.update worker fun record => { record with exited })
  | read {worker : Nat} {frame : Frame} {rest : List Frame}
      (spawned : worker < channel.spawned)
      (reading : (channel.workers worker).pump = .reading)
      (queued : (channel.workers worker).fromWorker = frame :: rest) :
      Steps channel (.pump worker)
        (Roll.update { channel.roll with winner := frame.note channel.winner } worker
          fun record => { record with
            reported := record.reported ++ [frame], pump := frame.next })
  | win {worker : Nat} (judging : (channel.workers worker).pump = .judging)
      (open_ : channel.winner = none) :
      Steps channel (.pump worker)
        (Roll.moveTo { channel.roll with
          winner := some ⟨(channel.workers worker).service, none, worker⟩ }
          worker .opening)
  | tell {worker : Nat} (opening : (channel.workers worker).pump = .opening) :
      Steps channel (.pump worker)
        ((channel.roll.onService (channel.workers worker).service
          fun record => { record with sentOpen := true }).moveTo worker .reading)
  | lose {worker : Nat} {pump : PumpStage}
      (out : (channel.workers worker).pump = .losing ∨ (channel.workers worker).pump = .leaving)
      (idle : pump ≠ .opening) :
      Steps channel (.pump worker)
        (Roll.moveTo { channel.roll with
          winner := channel.winner.filter fun winner =>
            winner.service != (channel.workers worker).service } worker pump)
  | leave {worker : Nat} {pump : PumpStage} {conversations : String → Option Nat}
      (fewer : ∀ {service other}, conversations service = some other →
        channel.conversations service = some other)
      (idle : pump ≠ .opening) :
      Steps channel (.pump worker)
        (Roll.moveTo { channel.roll with conversations } worker pump)

lemma Steps.moveOn {pump : PumpStage} (idle : pump ≠ .opening) :
    Steps chan (.pump worker) (chan.roll.moveTo worker pump) :=
  .leave id idle

lemma roll_begin_ (chan : Channel) (service : String) (spawns : Bool) :
    (chan.begin_ service spawns).1.roll = chan.roll ∨
      ∃ user, chan.user = some user ∧ chan.conversations service = none ∧
        (chan.begin_ service spawns).1.roll = chan.roll.spawn service user := by
  unfold begin_
  split
  · exact .inl rfl
  next free =>
  split
  · exact .inl rfl
  · split
    · exact .inl rfl
    next user named =>
    split
    · refine .inr ⟨user, named, by simpa using free, ?_⟩
      refine Roll.ext named rfl (funext fun other => ?_) rfl rfl rfl rfl
      by_cases equal : other = chan.spawned
      · subst equal
        simp [roll, spawn, Roll.spawn]
      · simp [roll, spawn, Roll.spawn, equal]
    · exact .inl rfl

lemma begin_steps {op : ChannelOp} (ready : chan.starting = none)
    (service : String) (spawns : Bool) : Steps chan op (chan.begin_ service spawns).1.roll := by
  obtain same | ⟨_, named, free, spawned⟩ := chan.roll_begin_ service spawns
  · rw [same]
    exact .rest
  · rw [spawned]
    exact .spawn ready free (.inl named)

lemma beginVerificationForUser_steps (ready : chan.starting = none)
    (service username : String) (spawns : Bool) :
    Steps chan (.beginVerificationForUser service username spawns)
      (chan.beginVerificationForUser service username spawns).1.roll := by
  unfold beginVerificationForUser
  split
  · split
    · exact .rest
    · exact begin_steps ready service spawns
  · split
    · exact .rest
    next may =>
    have may : chan.user = some username ∨ chan.busy = false := by
      rw [not_and_or, not_not, Bool.not_eq_true, or_comm] at may
      exact may
    obtain same | ⟨user, named, free, spawned⟩ :=
      roll_begin_ { chan with user := some username } service spawns
    · rw [same]
      exact .name may
    · cases named
      rw [spawned]
      exact .spawn ready free (may.imp_right fun idle => ⟨idle, spawns, rfl⟩)

lemma startSessionWhenReady_steps (service : String) (shouldStartSession : Bool) :
    Steps chan (.startSessionWhenReady service shouldStartSession)
      (chan.startSessionWhenReady service shouldStartSession).1.roll := by
  unfold startSessionWhenReady
  split
  · exact .rest
  next _ won =>
  split
  · exact .rest
  next named =>
  rw [not_not] at named
  subst named
  split
  · exact .rest
  next _ opened =>
  split
  next should =>
    rw [should]
    exact .look won opened
  · rw [roll_stop]
    exact .rest

lemma startConversation_steps {sess : String} (starting : chan.starting = some (service, sess)) :
    Steps chan .startConversation (chan.startConversation service sess).1.roll := by
  dsimp only [startConversation]
  split
  · exact .miss
  next worker runs =>
  have told (adopted : List (Nat × String)) : (Channel.update { chan with
          starting := none
          conversations := Function.update chan.conversations service none
          adopted } worker
        fun talk =>
          { talk.write .start with sentStart := true }).roll =
        Roll.update { chan.roll with
            starting := none
            conversations := Function.update chan.conversations service none
            adopted } worker
          fun record => { record with sentStart := true } := by
    apply roll_update
    have same := record_write (chan.workers worker) .start
    exact congrArg (fun record : Record => { record with sentStart := true }) same
  split
  · have handed : Steps chan .startConversation _ := .hand starting runs (.inr rfl)
    rw [← told] at handed
    exact handed
  · have handed : Steps chan .startConversation _ := .hand starting runs (.inl rfl)
    rw [← told] at handed
    exact handed

lemma act_exited {post : Conversation} (acted : talk.act kind act = some post)
    (runs : post.worker ≠ .exited) : talk.worker ≠ .exited := by
  intro exited
  cases act <;> simp [Conversation.act, Conversation.closed, exited] at acted
  subst acted
  exact runs rfl

lemma record_act {post : Conversation} (acted : talk.act kind act = some post) :
    post.record = { talk.record with exited := post.worker == .exited } := by
  unfold Conversation.act at acted
  have sent (frame : Frame) (stage : WorkerStage) :
      Conversation.record { talk.send frame with worker := stage } =
        { talk.record with exited := stage == .exited } := by
    unfold Conversation.send
    split <;> rfl
  have awaited {frame : Frame} {next : WorkerStage} (awaits : talk.await frame next = some post) :
      post.record = { talk.record with exited := post.worker == .exited } := by
    unfold Conversation.await at awaits
    split at awaits
    · cases awaits
      rfl
    · split at awaits
      · cases awaits
        rfl
      · cases awaits
  cases act with
  | say frame =>
    dsimp only at acted
    split at acted
    · cases acted
    · cases acted
      unfold Conversation.send
      split <;> rfl
  | hear =>
    dsimp only at acted
    split at acted
    · cases acted
      rfl
    · cases acted
      rfl
    · exact awaited acted
    · exact awaited acted
    · cases acted
  | die =>
    cases acted
    rfl
  | _ =>
    dsimp only at acted
    split at acted
    · cases acted
      exact sent _ _
    · cases acted

lemma relay_steps {frame : Frame} {rest : List Frame} (spawned : worker < chan.spawned)
    (reading : (chan.workers worker).pump = .reading)
    (queued : (chan.workers worker).fromWorker = frame :: rest) :
    Steps chan (.pump worker) ((chan.take worker frame rest).relay worker frame).roll := by
  have taken : (chan.take worker frame rest).roll = chan.roll.update worker
      fun record => { record with reported := record.reported ++ [frame] } := roll_update rfl
  have moved (pump : PumpStage) : (chan.roll.update worker fun record =>
          { record with reported := record.reported ++ [frame] }).moveTo worker pump =
        chan.roll.update worker fun record =>
          { record with reported := record.reported ++ [frame], pump } :=
    Roll.update_update _ _ _ _
  have stays {winner : Option Winner} : (Roll.update { chan.roll with winner } worker fun record =>
        { record with reported := record.reported ++ [frame] }) =
      Roll.update { chan.roll with winner } worker fun record =>
        { record with reported := record.reported ++ [frame], pump := .reading } := by
    apply Roll.update_congr
    simp [roll, Conversation.record, reading]
  have read : Steps chan (.pump worker) _ := .read spawned reading queued
  have other (next : frame.next = .reading) (note : frame.note chan.winner = chan.winner) :
      Steps chan (.pump worker) (chan.take worker frame rest).roll := by
    rw [next, note, ← stays] at read
    rw [taken]
    exact read
  cases frame with
  | complete =>
    unfold relay
    rw [roll_moveTo, roll_onService_same (by intro talk; rfl), taken, moved]
    exact read
  | opened id =>
    have noted (winner : Option Winner) :
        Channel.roll { chan.take worker (.opened id) rest with winner } =
          { (chan.take worker (.opened id) rest).roll with winner } := rfl
    unfold relay
    rw [noted, taken]
    dsimp only [Frame.next, Frame.note] at read
    rw [← stays] at read
    exact read
  | failed text | unavailable text =>
    unfold relay
    rw [roll_moveTo, taken, moved]
    exact read
  | _ => exact other rfl rfl

lemma pumpStep_steps (spawned : worker < chan.spawned)
    (ran : chan.pumpStep worker = some post) : Steps chan (.pump worker) post.roll := by
  dsimp only [pumpStep] at ran
  split at ran
  next reading =>
    split at ran
    next _ _ queued =>
      cases ran
      exact relay_steps spawned reading queued
    · split at ran
      · cases ran
        rw [roll_moveTo]
        split <;> exact .moveOn (by simp)
      · cases ran
  next judging =>
    cases ran
    unfold judge
    split
    · rw [roll_moveTo]
      exact .moveOn (by simp)
    · split
      · rw [roll_moveTo]
        exact .moveOn (by simp)
      next open_ =>
      rw [roll_moveTo]
      exact .win judging open_
  · cases ran
    rw [roll_moveTo, roll_stop]
    exact .moveOn (by simp)
  next opens =>
    cases ran
    unfold openWinner
    have told (ended : Channel) (service : String) : (ended.onService service fun talk =>
          { talk.write .open_ with sentOpen := true }).roll =
        ended.roll.onService service fun record => { record with sentOpen := true } :=
      roll_onService fun talk =>
        congrArg (fun record : Record => { record with sentOpen := true })
          (record_write talk .open_)
    rw [roll_moveTo, told, roll_endWhere]
    exact .tell opens
  next losing =>
    cases ran
    rw [roll_moveTo]
    exact .lose (.inl losing) (by simp)
  · cases ran
    rw [roll_moveTo, roll_stop]
    exact .moveOn (by simp)
  · split at ran
    · cases ran
      unfold forget
      rw [roll_moveTo]
      split
      · refine .leave (fun {service other} runs => ?_) (by simp)
        simp only [Function.update_apply] at runs
        split at runs
        · cases runs
        · exact runs
      · exact .moveOn (by simp)
    · cases ran
  next leaving =>
    cases ran
    rw [roll_moveTo]
    exact .lose (.inr leaving) (by simp)
  · cases ran

lemma step_steps {op : ChannelOp} (ran : chan.step op = some post) : Steps chan op post.roll := by
  have call {handled : Channel × Option ChannelError}
      (steps : chan.starting = none → Steps chan op handled.1.roll)
      (called : chan.call handled = some post) : Steps chan op post.roll := by
    unfold Channel.call at called
    split at called
    · cases called
    next ready =>
    cases called
    exact steps (by simpa using ready)
  cases op with
  | beginVerification service spawns =>
    refine call (fun ready => ?_) ran
    unfold beginVerification
    split
    · exact .rest
    · exact begin_steps ready service spawns
  | beginVerificationForUser service username spawns =>
    refine call (fun ready => ?_) ran
    exact beginVerificationForUser_steps ready service username spawns
  | answerQuery service answer =>
    refine call (fun _ => ?_) ran
    unfold answerQuery
    split
    · exact .rest
    next worker _ =>
    have same : (chan.update worker fun talk =>
        talk.write (.answer answer.toUTF8.toList)).roll = chan.roll :=
      roll_update_same (record_write _ _)
    rw [same]
    exact .rest
  | cancel =>
    refine call (fun _ => ?_) ran
    dsimp only [stopAll]
    rw [roll_endWhere]
    exact .rest
  | startSessionWhenReady service shouldStartSession =>
    dsimp only [step] at ran
    split at ran
    · refine call (fun _ => ?_) ran
      exact startSessionWhenReady_steps service shouldStartSession
    · cases ran
  | startConversation =>
    obtain ⟨⟨_, _⟩, starting, rfl⟩ := Option.map_eq_some_iff.mp ran
    exact startConversation_steps starting
  | stopConflictingSession sessions =>
    dsimp only [step] at ran
    split at ran
    · refine call (fun _ => ?_) ran
      unfold stopConflictingSession
      split <;> exact .rest
    · cases ran
  | hangUp =>
    cases ran
    unfold stopAll
    rw [roll_endWhere]
    exact .rest
  | pump worker =>
    dsimp only [step] at ran
    split at ran
    next spawned => exact pumpStep_steps spawned ran
    · cases ran
  | work worker act =>
    dsimp only [step] at ran
    split at ran
    · obtain ⟨talk, acted, rfl⟩ := Option.map_eq_some_iff.mp ran
      have acts : (chan.update worker fun _ => talk).roll = chan.roll.update worker fun record =>
            { record with exited := talk.worker == .exited } :=
        roll_update (record_act acted)
      rw [acts]
      exact .work fun runs => act_exited acted (by simpa using runs)
    · cases ran

variable {roll : Roll} {op : ChannelOp}

lemma Steps.later (steps : chan.Steps op roll) (old : worker ≠ chan.spawned) :
    (chan.workers worker).record.Later (roll.records worker) := by
  cases steps with
  | rest | name | look | miss => exact .refl _
  | spawn =>
    rw [Roll.spawn_of_ne _ _ _ old]
    exact .refl _
  | read =>
    refine Roll.update_later (fun record => ?_) ?_
    · exact ⟨rfl, rfl, List.subset_append_left _ _, id⟩
    · exact .refl _
  | tell =>
    refine Roll.update_later (fun record => ?_) (Roll.onService_later (fun record => ?_) ?_)
    · exact ⟨rfl, rfl, List.Subset.refl _, id⟩
    · exact ⟨rfl, rfl, List.Subset.refl _, id⟩
    · exact .refl _
  | hand =>
    refine Roll.update_later (fun record => ?_) ?_
    · exact ⟨rfl, rfl, List.Subset.refl _, fun _ => rfl⟩
    · exact .refl _
  | work | win | lose | leave =>
    refine Roll.update_later (fun record => ?_) ?_
    · exact ⟨rfl, rfl, List.Subset.refl _, id⟩
    · exact .refl _

end Channel

/-- A conversation runs a worker of its own service, and a worker not yet spawned
has said nothing. -/
structure Roll.Kept (roll : Roll) : Prop where
  running : ∀ {service : String} {worker : Nat},
    roll.conversations service = some worker →
      worker < roll.spawned ∧ (roll.records worker).service = service
  blank : ∀ {worker : Nat}, roll.spawned ≤ worker → (roll.records worker).reported = []

namespace Channel

variable {chan post : Channel} {roll : Roll} {op : ChannelOp}

lemma opened_kept (kind : ChannelKind) : (opened kind).roll.Kept := by
  cases kind <;> constructor <;> simp [opened, roll, Conversation.record]

section

variable (steps : chan.Steps op roll)
include steps

/-- A step spawns a worker, or brings no new conversation. -/
lemma Steps.spawns_or :
    (∃ service user, roll = chan.roll.spawn service user) ∨ roll.spawned = chan.spawned ∧
      (∀ {service worker}, roll.conversations service = some worker →
        chan.conversations service = some worker) ∧ ∀ {worker}, chan.spawned ≤ worker →
        (roll.records worker).reported = (chan.workers worker).reported := by
  cases steps with
  | spawn => exact .inl ⟨_, _, rfl⟩
  | rest | name | look | miss => exact .inr ⟨rfl, id, fun _ => rfl⟩
  | read spawned =>
    refine .inr ⟨rfl, id, fun unspawned => ?_⟩
    rw [Roll.update_of_ne]
    · rfl
    · exact Nat.ne_of_gt (Nat.lt_of_lt_of_le spawned unspawned)
  | hand =>
    refine .inr ⟨rfl, fun runs => ?_, fun _ => ?_⟩
    · simp only [Roll.update, Function.update_apply] at runs
      split at runs
      · cases runs
      · exact runs
    · exact Roll.update_reported (by intro record; rfl) _ _
  | tell =>
    refine .inr ⟨rfl, id, fun _ => ?_⟩
    exact (Roll.update_reported (by intro record; rfl) _ _).trans
      (Roll.onService_reported (by intro record; rfl) _ _)
  | work | win | lose =>
    exact .inr ⟨rfl, id, fun _ => Roll.update_reported (by intro record; rfl) _ _⟩
  | leave fewer =>
    exact .inr ⟨rfl, fewer, fun _ => Roll.update_reported (by intro record; rfl) _ _⟩

lemma Steps.kept (kept : chan.roll.Kept) : roll.Kept := by
  obtain ⟨service, _, rfl⟩ | ⟨spawned, fewer, blank⟩ := steps.spawns_or
  · constructor
    · intro name worker runs
      by_cases new : name = service
      · subst new
        simp only [Roll.spawn, Function.update_self, Option.some.injEq] at runs
        subst runs
        simp [Roll.spawn, Conversation.record]
      · simp only [Roll.spawn, Function.update_of_ne new] at runs
        obtain ⟨old, named⟩ := kept.running runs
        rw [Roll.spawn_of_ne _ _ _ (Nat.ne_of_lt old)]
        exact ⟨Nat.lt_succ_of_lt old, named⟩
    · intro worker unspawned
      have past := unspawned
      rw [Roll.spawn_of_ne _ _ _ (Nat.ne_of_gt past)]
      exact kept.blank (Nat.le_of_lt past)
  · constructor
    · intro _ worker runs
      obtain ⟨old, named⟩ := kept.running (fewer runs)
      rw [spawned]
      exact ⟨old, (steps.later (Nat.ne_of_lt old)).service.trans named⟩
    · intro _ unspawned
      rw [spawned] at unspawned
      rw [blank unspawned]
      exact kept.blank unspawned

lemma Steps.names : roll.user = chan.user ∨ chan.busy = false ∧ ∃ service username spawns,
      op = .beginVerificationForUser service username spawns ∧ roll.user = some username := by
  cases steps with
  | rest | look | miss | hand | work | read | win | tell | lose | leave =>
    exact .inl rfl
  | name may =>
    obtain same | idle := may
    · exact .inl same.symm
    · exact .inr ⟨idle, _, _, _, rfl, rfl⟩
  | spawn ready free may =>
    obtain same | ⟨idle, _, rfl⟩ := may
    · exact .inl same.symm
    · exact .inr ⟨idle, _, _, _, rfl, rfl⟩

lemma Steps.wins {winner : Winner} (won : roll.winner = some winner) : chan.winner = some winner ∨
    (∃ worker id rest pre, op = .pump worker ∧ (chan.workers worker).pump = .reading ∧
      (chan.workers worker).fromWorker = .opened id :: rest ∧
      .opened id ∈ (roll.records worker).reported ∧ chan.winner = some pre ∧
      winner = { pre with session := some id }) ∨
    ∃ worker, op = .pump worker ∧ (chan.workers worker).pump = .judging ∧
      chan.winner = none ∧ winner = ⟨(chan.workers worker).service, none, worker⟩ := by
  cases steps with
  | rest | name | spawn | look | miss | hand | work | tell | leave => exact .inl won
  | read spawned reading queued =>
    next worker frame rest =>
    cases frame with
    | opened id =>
      obtain ⟨pre, held, rfl⟩ := Option.map_eq_some_iff.mp won
      refine .inr (.inl ⟨worker, id, rest, pre, rfl, reading, queued, ?_, held, rfl⟩)
      simp
    | _ => exact .inl won
  | win judging unclaimed =>
    cases won
    exact .inr (.inr ⟨_, rfl, judging, unclaimed, rfl⟩)
  | lose => exact .inl (Option.filter_eq_some_iff.mp won).1

end

variable {worker : Nat} {sess : String}

section

variable (steps : chan.Steps op roll)
include steps

/-- A call that is about to start a conversation has been, or has looked up the
winner. -/
lemma Steps.pends {service : String} (starting : roll.starting = some (service, sess))
    (runs : roll.conversations service = some worker) :
    chan.conversations service = some worker ∧ (chan.starting = some (service, sess) ∨
        op = .startSessionWhenReady service true ∧ ∃ winner,
          chan.winner = some winner ∧ winner.service = service ∧ winner.session = some sess) := by
  cases steps with
  | rest | name | work | read | win | tell | lose => exact ⟨runs, .inl starting⟩
  | spawn ready =>
    have pending : chan.starting = some (service, sess) := starting
    rw [ready] at pending
    cases pending
  | look won opened =>
    cases starting
    exact ⟨runs, .inr ⟨rfl, _, won, rfl, opened⟩⟩
  | miss | hand => cases starting
  | leave fewer => exact ⟨fewer runs, .inl starting⟩

lemma Steps.starts (started : (roll.records worker).sentStart = true) :
    (chan.workers worker).sentStart = true ∨ ∃ service sess,
      chan.starting = some (service, sess) ∧ chan.conversations service = some worker := by
  have same {roll : Roll} {other : Nat} {change : Record → Record}
      (started : ((roll.update other change).records worker).sentStart = true)
      (quiet : ∀ record : Record, (change record).sentStart = record.sentStart) :
      (roll.records worker).sentStart = true := by
    by_cases equal : worker = other
    · subst equal
      rw [Roll.update_self, quiet] at started
      exact started
    · rw [Roll.update_of_ne _ _ equal] at started
      exact started
  cases steps with
  | rest | name | look | miss => exact .inl started
  | spawn =>
    by_cases new : worker = chan.roll.spawned
    · subst new
      simp [Roll.spawn, Conversation.record] at started
    · rw [Roll.spawn_of_ne _ _ _ new] at started
      exact .inl started
  | hand starting runs =>
    next service sess other _ _ =>
    by_cases equal : worker = other
    · subst equal
      exact .inr ⟨service, sess, starting, runs⟩
    · rw [Roll.update_of_ne _ _ equal] at started
      exact .inl started
  | tell =>
    next other _ =>
    have started := same started fun _ => rfl
    cases runs : chan.roll.conversations (chan.workers other).service with
    | none =>
      rw [Roll.onService_of_none runs] at started
      exact .inl started
    | some _ =>
      rw [Roll.onService_of_some runs] at started
      exact .inl (same started fun _ => rfl)
  | work | read | win | lose | leave =>
    have pre := same started fun _ => rfl
    exact .inl pre

lemma Steps.adopts (adopted : (worker, sess) ∈ roll.adopted) :
    (worker, sess) ∈ chan.adopted ∨ (roll.records worker).sentStart = true ∧
      ∃ service, chan.starting = some (service, sess) ∧
        chan.conversations service = some worker := by
  cases steps with
  | rest | name | spawn | look | miss | work | read | win | tell | lose | leave =>
    exact .inl adopted
  | hand starting runs adopts =>
    obtain rfl | rfl := adopts
    · exact .inl adopted
    · obtain old | new := List.mem_append.mp adopted
      · exact .inl old
      · cases List.mem_singleton.mp new
        refine .inr ⟨?_, _, starting, runs⟩
        rw [Roll.update_self]

end

end Channel

end Synoik
