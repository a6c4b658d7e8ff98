import Synoik.Login.Roll

/-!
# One winner

The first conversation to verify is told to open its session. Pumps find the
conversation they act on, and the win they give up, by the name of the service; a
service can be begun again before the pump of its last conversation is done. As
long as no pump acts on a later conversation of its service, at most one live
conversation has been told to open a session, and no other pump takes that from it.
-/

namespace Synoik

namespace Channel

/-- A conversation of the channel whose worker has not exited. -/
def live (channel : Channel) (worker : Nat) : Bool :=
  channel.isOurs worker && (channel.workers worker).worker != .exited

/-- A pump acts on a later conversation of its service: it gives up that one's win,
tells it to open a session, or stops it after it was told to. -/
def tramples (channel : Channel) : ChannelOp → Bool
  | .pump worker =>
    let service := (channel.workers worker).service
    match (channel.workers worker).pump with
    | .losing | .leaving =>
      channel.winner.any fun winner =>
      winner.service == service && winner.worker != worker &&
        (channel.live winner.worker || (channel.workers winner.worker).pump == .opening)
    | .opening =>
      (channel.conversations service).any fun other =>
      other != worker && channel.live other
    | .refused | .stopping =>
      (channel.conversations service).any fun other =>
      other != worker && channel.live other && (channel.workers other).sentOpen
    | _ => false
  | _ => false

end Channel

/-- Whoever has been told to open a session and can do so, and whoever is about to
be told, is the winner. -/
structure Roll.Settled (roll : Roll) : Prop where
  told : ∀ {worker : Nat}, roll.Runs worker → (roll.records worker).exited = false →
    (roll.records worker).sentOpen = true → roll.winner.map Winner.worker = some worker
  opening : ∀ {worker : Nat}, (roll.records worker).pump = .opening →
    roll.winner.map Winner.worker = some worker

namespace Roll

variable {roll : Roll}

lemma Settled.fewer (settled : roll.Settled) {after : Roll}
    (records : after.records = roll.records)
    (winner : after.winner.map Winner.worker = roll.winner.map Winner.worker)
    (conversations : ∀ {svc worker}, after.conversations svc = some worker →
      roll.conversations svc = some worker) : after.Settled := by
  constructor
  · intro worker runs running sent
    rw [records] at running sent
    rw [winner]
    apply settled.told _ running sent
    unfold Runs at runs ⊢
    rw [← records]
    exact conversations runs
  · intro _ opens
    rw [records] at opens
    rw [winner]
    exact settled.opening opens

variable {worker : Nat}

lemma Settled.update (settled : roll.Settled) {change : Record → Record}
    (svc : (change (roll.records worker)).service = (roll.records worker).service)
    (exited : (change (roll.records worker)).exited = false → (roll.records worker).exited = false)
    (told : roll.Runs worker → (roll.records worker).exited = false →
      (change (roll.records worker)).sentOpen = true → (roll.records worker).sentOpen = true ∨
          roll.winner.map Winner.worker = some worker)
    (opening : (change (roll.records worker)).pump = .opening →
      (roll.records worker).pump = .opening ∨ roll.winner.map Winner.worker = some worker) :
    (roll.update worker change).Settled := by
  constructor
  · intro other runs running sent
    by_cases equal : other = worker
    · subst equal
      rw [update_self] at running sent
      unfold Runs at runs
      rw [update_self, svc] at runs
      obtain pre | won := told runs (exited running) sent
      · exact settled.told runs (exited running) pre
      · exact won
    · unfold Runs at runs
      rw [update_of_ne _ _ equal] at runs running sent
      exact settled.told runs running sent
  · intro other opens
    by_cases equal : other = worker
    · subst equal
      rw [update_self] at opens
      obtain pre | won := opening opens
      · exact settled.opening pre
      · exact won
    · rw [update_of_ne _ _ equal] at opens
      exact settled.opening opens

lemma Settled.moveTo (settled : roll.Settled) {pump : PumpStage}
    (idle : pump ≠ .opening) : (roll.moveTo worker pump).Settled :=
  settled.update rfl id (fun _ _ => .inl) fun opens => absurd opens idle

end Roll

namespace Frame

lemma note_worker (winner : Option Winner) (frame : Frame) :
    (frame.note winner).map Winner.worker = winner.map Winner.worker := by
  cases frame with
  | opened =>
    unfold note
    rw [Option.map_map]
    rfl
  | _ => rfl

lemma next_ne_opening (frame : Frame) : frame.next ≠ .opening := by
  cases frame <;> simp [next]

end Frame

namespace Channel

variable {chan after : Channel} {roll : Roll} {op : ChannelOp}

lemma opened_settled (kind : ChannelKind) : (opened kind).roll.Settled := by
  cases kind <;> constructor <;> simp [opened, Channel.roll, Conversation.record, Roll.Runs]

variable {worker other : Nat}

lemma live_iff : chan.live worker = true ↔
    chan.roll.Runs worker ∧ (chan.roll.records worker).exited = false := by
  simp [live, isOurs, Roll.Runs, Channel.roll, Conversation.record]

lemma lose_settled (inv : chan.Orderly) (settled : chan.roll.Settled)
    (out : (chan.workers worker).pump = .losing ∨ (chan.workers worker).pump = .leaving)
    (allowed : chan.tramples (.pump worker) = false) : Roll.Settled { chan.roll with
      winner := chan.winner.filter fun winner =>
        winner.service != (chan.workers worker).service } := by
  -- Whoever needs the win keeps it: the pump's own worker is over.
  have keeps {other : Nat} (won : chan.winner.map Winner.worker = some other)
      (ne : other ≠ worker) (needs : chan.live other = true ∨
        (chan.workers other).pump = .opening) : (chan.winner.filter fun winner =>
        winner.service != (chan.workers worker).service).map Winner.worker = some other := by
    obtain ⟨winner, holds, rfl⟩ := Option.map_eq_some_iff.mp won
    have rest : winner.service ≠ (chan.workers worker).service := by
      intro same
      have tramples : chan.tramples (.pump worker) = true := by
        unfold tramples
        obtain losing | leaving := out
        · simp [losing, holds, same, ne, needs]
        · simp [leaving, holds, same, ne, needs]
      rw [allowed] at tramples
      cases tramples
    rw [holds, Option.filter_some, if_pos (by simpa using rest)]
    rfl
  have exited := (inv worker).ended out
  constructor
  · intro other runs running sent
    apply keeps (settled.told runs running sent)
    · rintro rfl
      simp [Channel.roll, Conversation.record, exited] at running
    · exact .inl (live_iff.mpr ⟨runs, running⟩)
  · intro other opening
    apply keeps (settled.opening opening)
    · rintro rfl
      have opens : (chan.workers other).pump = .opening := opening
      rw [opens] at out
      cases out <;> contradiction
    · exact .inr opening

lemma tell_settled (settled : chan.roll.Settled) (opens : (chan.workers worker).pump = .opening)
    (allowed : chan.tramples (.pump worker) = false) :
    (chan.roll.onService (chan.workers worker).service
      fun record => { record with sentOpen := true }).Settled := by
  cases running : chan.roll.conversations (chan.workers worker).service with
  | none =>
    rw [Roll.onService_of_none running]
    exact settled
  | some told =>
    rw [Roll.onService_of_some running]
    apply settled.update rfl id _ .inl
    intro runs alive _
    by_cases own : told = worker
    · subst own
      exact .inr (settled.opening opens)
    · have tramples : chan.tramples (.pump worker) = true := by
        have running : chan.conversations (chan.workers worker).service = some told := running
        unfold tramples
        simp [opens, running, own, live_iff.mpr ⟨runs, alive⟩]
      rw [allowed] at tramples
      cases tramples

lemma Steps.settled (steps : chan.Steps op roll) (inv : chan.Orderly)
    (allowed : chan.tramples op = false) (settled : chan.roll.Settled) : roll.Settled := by
  cases steps with
  | rest => exact settled
  | name | look | miss => exact settled.fewer rfl rfl id
  | spawn =>
    next _ _ _ =>
    constructor
    · intro worker runs running sent
      by_cases new : worker = chan.roll.spawned
      · subst new
        simp [Roll.spawn, Conversation.record] at sent
      · unfold Roll.Runs at runs
        rw [Roll.spawn_of_ne _ _ _ new] at runs running sent
        apply settled.told _ running sent
        simp only [Roll.spawn, Function.update_apply] at runs
        split at runs
        · cases runs
          exact absurd rfl new
        · exact runs
    · intro worker opening
      by_cases new : worker = chan.roll.spawned
      · subst new
        simp [Roll.spawn, Conversation.record] at opening
      · rw [Roll.spawn_of_ne _ _ _ new] at opening
        exact settled.opening opening
  | hand =>
    refine .update ?_ rfl id (fun _ _ => .inl) .inl
    refine settled.fewer rfl rfl fun runs => ?_
    simp only [Function.update_apply] at runs
    split at runs
    · cases runs
    · exact runs
  | work final =>
    refine settled.update rfl (fun running => ?_) (fun _ _ => .inl) .inl
    simpa [Channel.roll, Conversation.record] using final running
  | read =>
    next frame _ _ _ _ =>
    refine .update ?_ rfl id (fun _ _ => .inl) fun opens =>
      absurd opens frame.next_ne_opening
    exact settled.fewer rfl (frame.note_worker _) id
  | win _ unclaimed =>
    have nobody {worker : Nat} : chan.winner.map Winner.worker ≠ some worker := by
      simp [unclaimed]
    refine .update ?_ rfl id (fun _ _ => .inl) fun _ => .inr rfl
    constructor
    · exact fun runs running sent => absurd (settled.told runs running sent) nobody
    · exact fun opening => absurd (settled.opening opening) nobody
  | tell opening => exact (tell_settled settled opening allowed).moveTo (by simp)
  | lose out idle => exact (lose_settled inv settled out allowed).moveTo idle
  | leave fewer idle =>
    refine .moveTo ?_ idle
    exact settled.fewer rfl rfl fewer

/-- A worker's conversation goes on as it was, but that it may pass for verified. -/
def Spares (channel after : Channel) (worker : Nat) : Prop :=
  (∃ verified, after.workers worker = { channel.workers worker with verified }) ∧
    (channel.isOurs worker = true → after.isOurs worker = true)

lemma Spares.refl (chan : Channel) (worker : Nat) : chan.Spares chan worker :=
  ⟨⟨(chan.workers worker).verified, rfl⟩, id⟩

lemma Spares.update (spares : chan.Spares after worker) (ne : worker ≠ other)
    (change : Conversation → Conversation) : chan.Spares (after.update other change) worker := by
  have same : (after.update other change).workers worker = after.workers worker := by
    simp [Channel.update, ne]
  refine ⟨same ▸ spares.1, fun ours => ?_⟩
  have ours := spares.2 ours
  unfold isOurs at ours ⊢
  rw [same]
  exact ours

lemma Spares.onService {svc : String} (spares : chan.Spares after worker)
    {change : Conversation → Conversation} (harmless : after.conversations svc = some worker →
      ∀ talk, ∃ verified, change talk = { talk with verified }) :
    chan.Spares (after.onService svc change) worker := by
  unfold Channel.onService
  split
  next other runs =>
    by_cases ne : worker = other
    · subst ne
      obtain ⟨⟨verified, same⟩, ours⟩ := spares
      obtain ⟨new, changes⟩ := harmless runs (after.workers worker)
      have now : (after.update worker change).workers worker =
          { chan.workers worker with verified := new } := by
        have changedOnly : (after.update worker change).workers worker =
            change (after.workers worker) := by
          simp [Channel.update]
        rw [changedOnly, changes, same]
      refine ⟨⟨new, now⟩, fun pre => ?_⟩
      have ours := ours pre
      unfold isOurs at ours ⊢
      rw [now]
      rw [same] at ours
      exact ours
    · exact spares.update ne change
  · exact spares

/-- The pump of another worker leaves a conversation alone that has been told to
open its session. -/
lemma pumpStep_spares (settled : chan.roll.Settled)
    (live : chan.live worker = true) (sent : (chan.workers worker).sentOpen = true)
    (ne : worker ≠ other) (allowed : chan.tramples (.pump other) = false)
    (ran : chan.pumpStep other = some after) : chan.Spares after worker := by
  have spared := Spares.refl chan worker
  have alone (pump : PumpStage) {pre : Channel} (spares : chan.Spares pre worker) :
      chan.Spares (pre.moveTo other pump) worker := spares.update ne _
  -- A conversation that is stopped is the pump's own, or was not told anything.
  have stops (standing : (chan.workers other).pump = .refused ∨
        (chan.workers other).pump = .stopping) :
      chan.Spares (chan.stop (chan.workers other).service) worker := by
    apply spared.onService
    intro running
    have tramples : chan.tramples (.pump other) = true := by
      unfold tramples
      obtain refused | stopping := standing
      · simp [refused, running, ne, live, sent]
      · simp [stopping, running, ne, live, sent]
    rw [allowed] at tramples
    cases tramples
  dsimp only [pumpStep] at ran
  split at ran
  · split at ran
    next frame rest _ =>
      cases ran
      have taken : chan.Spares (chan.take other frame rest) worker := spared.update ne _
      unfold relay
      split
      · apply alone
        apply taken.onService
        exact fun _ talk => ⟨true, rfl⟩
      · exact taken
      · exact alone _ taken
      · exact alone _ taken
      · exact taken
    · split at ran
      · cases ran
        exact alone _ spared
      · cases ran
  · cases ran
    unfold judge
    split
    · exact alone _ spared
    · split <;> exact alone _ spared
  next refused =>
    cases ran
    exact alone _ (stops (.inl refused))
  next opening =>
    -- Who opens has won, and so has the one that was told to.
    obtain ⟨runs, running⟩ := live_iff.mp live
    have won := settled.told runs running sent
    rw [settled.opening opening] at won
    cases won
    exact absurd rfl ne
  · cases ran
    exact alone _ spared
  next stopping =>
    cases ran
    exact alone _ (stops (.inr stopping))
  · split at ran
    · cases ran
      apply alone
      split
      next ours =>
        refine ⟨spared.1, fun own => ?_⟩
        have others : (chan.workers worker).service ≠ (chan.workers other).service := by
          intro same
          simp only [isOurs, beq_iff_eq] at own ours
          rw [same, ours] at own
          cases own
          exact ne rfl
        simpa [isOurs, others] using own
      · exact spared
    · cases ran
  · cases ran
    exact alone _ spared
  · cases ran

/-- What holds in a channel as long as no pump acts on a later conversation. -/
structure Sound (channel : Channel) : Prop where
  orderly : channel.Orderly
  settled : channel.roll.Settled

lemma opened_sound (kind : ChannelKind) : (opened kind).Sound :=
  ⟨opened_orderly kind, opened_settled kind⟩

lemma Sound.step (inv : chan.Sound) (allowed : chan.tramples op = false)
    (ran : chan.step op = some after) : after.Sound where
  orderly := inv.orderly.step ran
  settled := (step_steps ran).settled inv.orderly allowed inv.settled

/-- At most one live conversation has been told to open a session, and the pump of
another leaves it alive and the winner, neither killed nor shut out. -/
theorem one_live_opener {kind : ChannelKind} {ops : List ChannelOp}
    (run : Runs Channel.step (fun channel op => channel.tramples op = false)
      (opened kind) ops channel) :
    (∀ first second : Nat, channel.live first = true → channel.live second = true →
      (channel.workers first).sentOpen = true →
      (channel.workers second).sentOpen = true → first = second) ∧
    ∀ (worker other : Nat) (after : Channel), channel.live worker = true →
      (channel.workers worker).sentOpen = true → worker ≠ other →
      channel.tramples (.pump other) = false → channel.step (.pump other) = some after →
        after.live worker = true ∧ after.winner.map Winner.worker = some worker ∧
        (after.workers worker).killed = (channel.workers worker).killed ∧
        (after.workers worker).shut = (channel.workers worker).shut := by
  have sound : channel.Sound :=
    run.invariant Sound (fun allowed stepped sound => sound.step allowed stepped)
      (opened_sound kind)
  have wins {worker : Nat} {channel : Channel} (sound : channel.Sound)
      (live : channel.live worker = true) (sent : (channel.workers worker).sentOpen = true) :
      channel.winner.map Winner.worker = some worker :=
    sound.settled.told (live_iff.mp live).1 (live_iff.mp live).2 sent
  constructor
  · intro _ _ firstLive secondLive firstSent secondSent
    have firstWins := wins sound firstLive firstSent
    rw [wins sound secondLive secondSent] at firstWins
    cases firstWins
    rfl
  · intro worker _ after live sent different allowed stepped
    have spares : channel.Spares after worker := by
      dsimp only [Channel.step] at stepped
      split at stepped
      · exact pumpStep_spares sound.settled live sent different allowed stepped
      · cases stepped
    obtain ⟨⟨_, same⟩, ours⟩ := spares
    have afterLive : after.live worker = true := by
      unfold Channel.live at live ⊢
      rw [Bool.and_eq_true] at live ⊢
      rw [same]
      exact ⟨ours live.1, live.2⟩
    refine ⟨afterLive, ?_, ?_, ?_⟩
    · apply wins (sound.step allowed stepped) afterLive
      rw [same]
      exact sent
    all_goals rw [same]

/-- A service is begun and its worker reports a success, which its pump takes. -/
def verifying (service : String) (worker : Nat) : List ChannelOp :=
  [.beginVerificationForUser service "alice" true, .work worker .complete,
    .pump worker, .pump worker]

/-- The first worker fails and exits, and its pump forgets the conversation without
having given up its win; a second worker of the service verifies and is told to open
its session. -/
def restarting : List ChannelOp :=
  [.beginVerificationForUser "gdm-password" "alice" true, .work 0 (.fail ""),
    .pump 0, .pump 0, .pump 0, .pump 0, .pump 0] ++
    verifying "gdm-password" 1 ++ [.pump 1, .work 1 .hear]

/-- After two services verified one after the other, the pump of the second, which
has lost, leaves the first alone. -/
theorem one_live_opener_of_two :
    let ops := verifying "gdm-password" 0 ++ [.pump 0] ++ verifying "gdm-fingerprint" 1
    ∃ channel after, Runs Channel.step (fun channel op => channel.tramples op = false)
        (opened .login) ops channel ∧ (channel.workers 1).pump = .refused ∧
      channel.step (.pump 1) = some after ∧ after.live 0 = true ∧
      after.winner.map Winner.worker = some 0 := by
  intro ops
  let channel := (runUnder Channel.step (fun channel op => channel.tramples op = false)
    ops (opened .login)).get (by decide +kernel)
  let after := (channel.step (.pump 1)).get (by decide +kernel)
  have run : Runs Channel.step (fun channel op => channel.tramples op = false)
      (opened .login) ops channel := runs_get _
  have stepped : channel.step (.pump 1) = some after := (Option.some_get _).symm
  have left := (one_live_opener run).2 0 1 after (by decide +kernel) (by decide +kernel)
    (by decide) (by decide +kernel) stepped
  exact ⟨channel, after, run, by decide +kernel, stepped, left.1, left.2.1⟩

/-- The pump of the first worker gives up the win of the second, and a third worker
wins: two live workers have been told to open a session, and the one that is opening
it already has been shut out. -/
theorem two_live_openers : ∃ channel, Runs Channel.step (fun _ _ => True) (opened .login)
        (restarting ++ [.pump 0] ++ verifying "gdm-fingerprint" 2 ++ [.pump 2]) channel ∧
      channel.live 1 = true ∧ (channel.workers 1).sentOpen = true ∧
      channel.live 2 = true ∧ (channel.workers 2).sentOpen = true ∧
      (channel.workers 1).worker = .opening ∧ (channel.workers 1).shut = true := by
  exact ⟨_, runs_get (by decide +kernel), by decide +kernel⟩

end Channel

end Synoik
