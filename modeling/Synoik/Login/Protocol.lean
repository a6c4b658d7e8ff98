import Synoik.Login.Channel

/-!
# What a worker says, and in which order

A worker reports a success once, an opened session once after it, and a failure
last. Everything the pump has read and has still to read stands in that order, and
a pump that deals with a success or a failure has read it.
-/

namespace Synoik

open List

/-- The place of a frame among the reports of a worker, 0 for one that has none. -/
def Frame.rank : Frame → Nat
  | .complete => 1
  | .opened _ => 2
  | .failed _ => 3
  | .unavailable _ => 3
  | _ => 0

/-- How far a worker can have got with its reports. -/
def WorkerStage.rank : WorkerStage → Nat
  | .verifying => 0
  | .verified => 1
  | .opening => 1
  | .opened => 2
  | .started => 2
  | .exited => 3

def ranks (frames : List Frame) : List Nat := (frames.map Frame.rank).filter (0 < ·)

@[simp] lemma ranks_nil : ranks [] = [] := rfl

@[simp] lemma ranks_append (one last : List Frame) :
    ranks (one ++ last) = ranks one ++ ranks last := by
  simp [ranks]

variable {frames : List Frame}

@[simp] lemma mem_ranks {rank : Nat} :
    rank ∈ ranks frames ↔ 0 < rank ∧ ∃ frame ∈ frames, frame.rank = rank := by
  simp [ranks, and_comm]

lemma Frame.rank_of_isMessage {frame : Frame} (msg : frame.isMessage = true) : frame.rank = 0 := by
  cases frame <;> first | rfl | cases msg

lemma WorkerStage.eq_exited {stage : WorkerStage} (last : 3 ≤ stage.rank) : stage = .exited := by
  cases stage with
  | exited => rfl
  | _ => simp [rank] at last

lemma WorkerStage.rank_le_exited (stage : WorkerStage) : stage.rank ≤ exited.rank := by
  cases stage <;> decide

/-- Two reports in a list that keeps the order of reports stand in that order. -/
lemma sublist_of_ranks {first last : Frame} (ordered : (ranks frames).Pairwise (· < ·))
    (placed : 0 < first.rank) (pre : first.rank < last.rank) (firstMember : first ∈ frames)
    (secondMember : last ∈ frames) : [first, last].Sublist frames := by
  obtain ⟨earlier, later, rfl⟩ := append_of_mem secondMember
  obtain early | late := mem_append.mp firstMember
  · exact (singleton_sublist.mpr early).append ((nil_sublist later).cons_cons last)
  · -- A first report after the last one would stand out of order.
    exfalso
    obtain same | late := mem_cons.mp late
    · exact absurd (same ▸ pre) (Nat.lt_irrefl _)
    · have split : earlier ++ last :: later = (earlier ++ [last]) ++ later := by simp
      rw [split, ranks_append, pairwise_append] at ordered
      have post := ordered.2.2 last.rank
        (mem_ranks.mpr ⟨Nat.lt_trans placed pre, last, by simp, rfl⟩)
        first.rank (mem_ranks.mpr ⟨placed, first, late, rfl⟩)
      exact absurd pre (Nat.lt_asymm post)

namespace Conversation

/-- Everything the worker has said that reached the socket. -/
def said (conversation : Conversation) : List Frame :=
  conversation.reported ++ conversation.fromWorker

structure InOrder (conversation : Conversation) : Prop where
  ordered : (ranks conversation.said).Pairwise (· < ·)
  bounded : ∀ frame ∈ conversation.said, frame.rank ≤ conversation.worker.rank
  /-- A worker past verification has said so, unless nobody was there to hear it. -/
  attested : conversation.worker ≠ .exited → conversation.worker ≠ .verifying →
    .complete ∈ conversation.said ∨ conversation.shut = true
  completed : ∀ id, .opened id ∈ conversation.said → .complete ∈ conversation.said
  judged : conversation.pump = .judging → .complete ∈ conversation.reported
  ended : conversation.pump = .losing ∨ conversation.pump = .leaving → conversation.worker = .exited

lemma fresh_inOrder (svc user : String) : InOrder { service := svc, user } := by
  constructor <;> simp [said]

lemma send_worker_self (talk : Conversation) (frame : Frame) :
    { talk.send frame with worker := talk.worker } = talk.send frame := by
  unfold send
  split <;> rfl

variable {talk : Conversation}

section InOrder

variable (inv : talk.InOrder)
include inv

/-- A worker that opened a session had reported a success before. -/
lemma InOrder.complete_opened {id : String} (opened : .opened id ∈ talk.reported) :
    [Frame.complete, .opened id].Sublist talk.reported := by
  have ordered := inv.ordered
  rw [said, ranks_append, pairwise_append] at ordered
  refine sublist_of_ranks ordered.1 (Nat.lt_add_one 0) (Nat.lt_add_one 1) ?_ opened
  obtain read | unread := mem_append.mp (inv.completed id (mem_append_left _ opened))
  · exact read
  · -- The success was said before the session, so it has been read before it.
    have pre := ordered.2.2 2 (mem_ranks.mpr ⟨by decide, _, opened, rfl⟩)
      1 (mem_ranks.mpr ⟨by decide, _, unread, rfl⟩)
    exact absurd pre (by decide)

variable {post : Conversation} {frame : Frame}

lemma InOrder.mono (said : post.said = talk.said) (told : post.reported = talk.reported)
    (worker : post.worker = talk.worker) (shut : talk.shut = true → post.shut = true)
    (pump : post.pump = talk.pump) : post.InOrder := by
  constructor
  · rw [said]
    exact inv.ordered
  · rw [said, worker]
    exact inv.bounded
  · rw [said, worker]
    exact fun runs verified => (inv.attested runs verified).imp_right shut
  · rw [said]
    exact inv.completed
  · rw [pump, told]
    exact inv.judged
  · rw [pump, worker]
    exact inv.ended

lemma InOrder.end_ : talk.end_.InOrder := by
  unfold Conversation.end_
  split
  · exact inv.mono rfl rfl rfl (fun _ => rfl) rfl
  · exact inv.mono rfl rfl rfl id rfl

lemma InOrder.write (frame : Frame) : (talk.write frame).InOrder := by
  unfold Conversation.write
  split
  · exact inv.mono rfl rfl rfl id rfl
  · exact inv

lemma InOrder.moveTo {pump : PumpStage} (judged : pump = .judging → .complete ∈ talk.reported)
    (ended : pump = .losing ∨ pump = .leaving → talk.worker = .exited) :
    InOrder { talk with pump } :=
  { inv with judged, ended }

lemma InOrder.take {rest : List Frame} (reading : talk.pump = .reading)
    (queued : talk.fromWorker = frame :: rest) :
    InOrder { talk with fromWorker := rest, reported := talk.reported ++ [frame] } := by
  have said : Conversation.said { talk with
      fromWorker := rest, reported := talk.reported ++ [frame] } =
      talk.said := by
    simp [Conversation.said, queued]
  constructor
  · rw [said]
    exact inv.ordered
  · rw [said]
    exact inv.bounded
  · rw [said]
    exact inv.attested
  · rw [said]
    exact inv.completed
  · simp [reading]
  · exact inv.ended

lemma InOrder.exited (read : frame ∈ talk.reported) (last : frame.rank = 3) :
    talk.worker = .exited := by
  apply WorkerStage.eq_exited
  rw [← last]
  exact inv.bounded frame (mem_append_left _ read)

variable {stage : WorkerStage}

lemma InOrder.advance {toWorker : List Frame} (further : talk.worker.rank ≤ stage.rank)
    (past : stage ≠ .exited → talk.worker ≠ .exited ∧ talk.worker ≠ .verifying) :
    InOrder { talk with worker := stage, toWorker } :=
  { inv with
    bounded := fun frame mem => Nat.le_trans (inv.bounded frame mem) further
    attested := fun runs _ => inv.attested (past runs).1 (past runs).2
    ended := fun ends => by
      have exited := inv.ended ends
      by_contra runs
      exact (past runs).1 exited }

lemma InOrder.send (later : frame.rank = 0 ∨ talk.worker.rank < frame.rank)
    (within : frame.rank ≤ stage.rank) (further : talk.worker.rank ≤ stage.rank)
    (past : stage ≠ .exited → stage ≠ .verifying → frame = .complete ∨
      talk.worker ≠ .exited ∧ talk.worker ≠ .verifying) (opens : ∀ id, frame = .opened id →
      talk.worker ≠ .exited ∧ talk.worker ≠ .verifying)
    (ended : talk.worker = .exited → stage = .exited) :
    InOrder { talk.send frame with worker := stage } := by
  have stays (ends : talk.pump = .losing ∨ talk.pump = .leaving) :
      stage = .exited := ended (inv.ended ends)
  unfold Conversation.send
  split
  next shut =>
    exact { inv with
      bounded := fun frame mem =>
        Nat.le_trans (inv.bounded frame mem) further
      attested := fun _ _ => .inr shut
      ended := stays }
  next heard =>
  have said : Conversation.said { talk with
      fromWorker := talk.fromWorker ++ [frame], worker := stage } =
      talk.said ++ [frame] := by
    simp [Conversation.said]
  have attested (runs : talk.worker ≠ .exited)
      (verified : talk.worker ≠ .verifying) : .complete ∈ talk.said :=
    (inv.attested runs verified).resolve_right heard
  constructor
  · rw [said, ranks_append, pairwise_append]
    refine ⟨inv.ordered, ?_, ?_⟩
    · exact (pairwise_singleton _ _).sublist filter_sublist
    · intro _ mem _ lastMember
      obtain ⟨-, other, got, rfl⟩ := mem_ranks.mp mem
      obtain ⟨placed, _, single, rfl⟩ := mem_ranks.mp lastMember
      rw [mem_singleton.mp single] at placed ⊢
      have next := later.resolve_left (Nat.ne_of_gt placed)
      exact Nat.lt_of_le_of_lt (inv.bounded other got) next
  · rw [said]
    intro other mem
    obtain old | new := mem_append.mp mem
    · exact Nat.le_trans (inv.bounded other old) further
    · rw [mem_singleton.mp new]
      exact within
  · rw [said]
    intro runs verified
    obtain rfl | ⟨ran, was⟩ := past runs verified
    · simp
    · exact .inl (mem_append_left _ (attested ran was))
  · rw [said]
    intro id mem
    obtain old | new := mem_append.mp mem
    · exact mem_append_left _ (inv.completed id old)
    · have opening := opens id (mem_singleton.mp new).symm
      exact mem_append_left _ (attested opening.1 opening.2)
  · exact inv.judged
  · exact stays

lemma InOrder.sendLast (last : frame.rank = 3) (runs : talk.worker ≠ .exited) :
    InOrder { talk.send frame with worker := .exited } := by
  apply inv.send
  · rw [last]
    exact .inr (Nat.lt_of_not_le fun exited => runs (WorkerStage.eq_exited exited))
  · exact Nat.le_of_eq last
  · exact talk.worker.rank_le_exited
  · exact fun running => absurd rfl running
  · rintro _ rfl
    cases last
  · exact fun _ => rfl

lemma InOrder.await {next : WorkerStage} (further : talk.worker.rank ≤ next.rank)
    (runs : talk.worker ≠ .exited) (verified : talk.worker ≠ .verifying)
    (awaited : talk.await frame next = some post) : post.InOrder := by
  unfold Conversation.await at awaited
  split at awaited
  next _ _ _ =>
    cases awaited
    split
    · exact inv.advance further fun _ => ⟨runs, verified⟩
    · exact inv.advance (WorkerStage.rank_le_exited _) fun _ => ⟨runs, verified⟩
  · split at awaited
    · cases awaited
      exact inv.advance (WorkerStage.rank_le_exited _) fun _ => ⟨runs, verified⟩
    · cases awaited

lemma InOrder.act {kind : ChannelKind} {act : WorkerAct}
    (acted : talk.act kind act = some post) : post.InOrder := by
  unfold Conversation.act at acted
  cases act with
  | say frame =>
    dsimp only at acted
    split at acted
    · cases acted
    next talks =>
    cases acted
    simp only [Bool.or_eq_true, Bool.not_eq_true', not_or, Bool.not_eq_false] at talks
    have silent := Frame.rank_of_isMessage talks.2
    have kept := inv.send (.inl silent) (silent ▸ Nat.zero_le _) (Nat.le_refl _)
        (fun runs verified => .inr ⟨runs, verified⟩) (by rintro id rfl; cases silent) id
    rw [talk.send_worker_self] at kept
    exact kept
  | hear =>
    dsimp only at acted
    split at acted
    · cases acted
      exact inv.mono rfl rfl rfl id rfl
    · cases acted
      exact inv.mono rfl rfl rfl id rfl
    next verified =>
      apply inv.await _ (by simp [verified]) (by simp [verified]) acted
      rw [verified]
      split <;> decide
    next opened =>
      apply inv.await _ (by simp [opened]) (by simp [opened]) acted
      rw [opened]
      decide
    · cases acted
  | complete =>
    dsimp only at acted
    split at acted
    next verifying =>
      cases acted
      apply inv.send
      · rw [verifying]
        decide
      · decide
      · rw [verifying]
        decide
      · exact fun _ _ => .inl rfl
      · exact fun _ opened => nomatch opened
      · simp [verifying]
    · cases acted
  | fail =>
    dsimp only at acted
    split at acted
    next standing =>
      cases acted
      apply inv.sendLast rfl
      obtain verifying | opens := standing <;> simp [*]
    · cases acted
  | giveUp =>
    dsimp only at acted
    split at acted
    next verifying =>
      cases acted
      exact inv.sendLast rfl (by simp [verifying])
    · cases acted
  | open_ =>
    dsimp only at acted
    split at acted
    next opens =>
      cases acted
      have past : talk.worker ≠ .exited ∧ talk.worker ≠ .verifying := by
        simp [opens]
      apply inv.send
      · rw [opens]
        exact .inr (by simp [WorkerStage.rank, Frame.rank])
      · exact Nat.le_refl 2
      · rw [opens]
        decide
      · exact fun _ _ => .inr past
      · exact fun _ _ => past
      · exact fun exited => absurd exited past.1
    · cases acted
  | die =>
    cases acted
    exact inv.advance talk.worker.rank_le_exited fun runs => absurd rfl runs

end InOrder

end Conversation

namespace Channel

def Orderly (channel : Channel) : Prop := ∀ worker, (channel.workers worker).InOrder

variable {chan : Channel}

lemma opened_orderly (kind : ChannelKind) : (opened kind).Orderly := by
  intro _
  cases kind <;> exact Conversation.fresh_inOrder "" ""

lemma onService_reported {svc : String} {change : Conversation → Conversation}
    (same : ∀ talk, (change talk).reported = talk.reported) (worker : Nat) :
    ((chan.onService svc change).workers worker).reported = (chan.workers worker).reported := by
  unfold onService
  split
  next new _ =>
    by_cases equal : worker = new
    · subst equal
      simp [update, same]
    · simp [update, equal]
  · rfl

section Orderly

variable (order : chan.Orderly)
include order

variable {worker : Nat} {change : Conversation → Conversation} {pump : PumpStage}
  {frame : Frame} {post : Channel}

lemma Orderly.update (kept : (change (chan.workers worker)).InOrder) :
    (chan.update worker change).Orderly := by
  intro other
  by_cases same : other = worker
  · subst same
    simpa [Channel.update] using kept
  · simpa [Channel.update, same] using order other

lemma Orderly.onService {svc : String} (kept : ∀ {talk : Conversation}, talk.InOrder →
      (change talk).InOrder) : (chan.onService svc change).Orderly := by
  unfold Channel.onService
  split
  · exact order.update (kept (order _))
  · exact order

lemma Orderly.stop (svc : String) : (chan.stop svc).Orderly :=
  order.onService Conversation.InOrder.end_

lemma Orderly.endWhere (ends : Nat → Bool) : (chan.endWhere ends).Orderly := by
  intro worker
  dsimp only [Channel.endWhere]
  split
  · exact (order worker).end_
  · exact order worker

lemma Orderly.moveTo (judged : pump = .judging → .complete ∈ (chan.workers worker).reported)
    (ended : pump = .losing ∨ pump = .leaving → (chan.workers worker).worker = .exited) :
    (chan.moveTo worker pump).Orderly :=
  order.update ((order worker).moveTo judged ended)

lemma Orderly.moveOn (judging : pump ≠ .judging) (losing : pump ≠ .losing)
    (leaving : pump ≠ .leaving) : (chan.moveTo worker pump).Orderly :=
  order.moveTo (fun judges => absurd judges judging)
    fun ends => absurd ends (not_or.mpr ⟨losing, leaving⟩)

lemma Orderly.take {rest : List Frame} (reading : (chan.workers worker).pump = .reading)
    (queued : (chan.workers worker).fromWorker = frame :: rest) :
    (chan.take worker frame rest).Orderly :=
  order.update ((order worker).take reading queued)

lemma Orderly.relay (read : frame ∈ (chan.workers worker).reported) :
    (chan.relay worker frame).Orderly := by
  unfold Channel.relay
  split
  · have verified : (chan.onService (chan.workers worker).service
        fun talk => { talk with verified := true }).Orderly :=
      order.onService fun inv => inv.mono rfl rfl rfl id rfl
    apply verified.moveTo
    · intro _
      rw [onService_reported (by intro _; rfl)]
      exact read
    · exact fun ends => by cases ends <;> contradiction
  · exact order
  · exact order.moveTo (fun judges => nomatch judges) fun _ =>
      (order worker).exited read rfl
  · exact order.moveTo (fun judges => nomatch judges) fun _ =>
      (order worker).exited read rfl
  · exact order

lemma Orderly.judge (worker : Nat) : (chan.judge worker).Orderly := by
  unfold Channel.judge
  split
  · exact .moveOn order (by simp) (by simp) (by simp)
  · split
    · exact order.moveOn (by simp) (by simp) (by simp)
    · exact .moveOn order (by simp) (by simp) (by simp)

lemma Orderly.openWinner (worker : Nat) : (chan.openWinner worker).Orderly := by
  apply Orderly.moveOn _ (by simp) (by simp) (by simp)
  apply (order.endWhere _).onService
  intro _ inv
  exact (inv.write .open_).mono rfl rfl rfl id rfl

lemma Orderly.forget (exited : (chan.workers worker).worker = .exited) :
    (chan.forget worker).Orderly := by
  unfold Channel.forget
  split
  · exact .moveTo order (fun judges => nomatch judges) fun _ => exited
  · exact order.moveTo (fun judges => nomatch judges) fun _ => exited

lemma Orderly.pumpStep (ran : chan.pumpStep worker = some post) : post.Orderly := by
  dsimp only [Channel.pumpStep] at ran
  split at ran
  next reading =>
    split at ran
    next _ _ queued =>
      cases ran
      apply (order.take reading queued).relay
      simp [Channel.take, Channel.update]
    · split at ran
      · cases ran
        split <;> exact order.moveOn (by simp) (by simp) (by simp)
      · cases ran
  · cases ran
    exact order.judge worker
  · cases ran
    exact (order.stop _).moveOn (by simp) (by simp) (by simp)
  · cases ran
    exact order.openWinner worker
  · cases ran
    exact .moveOn order (by simp) (by simp) (by simp)
  · cases ran
    exact (order.stop _).moveOn (by simp) (by simp) (by simp)
  · split at ran
    next exited =>
      cases ran
      exact order.forget exited
    · cases ran
  · cases ran
    exact .moveOn order (by simp) (by simp) (by simp)
  · cases ran

lemma Orderly.begin_ (svc : String) (spawns : Bool) : (chan.begin_ svc spawns).1.Orderly := by
  unfold Channel.begin_
  split
  · exact order
  · split
    · exact order
    · split
      · exact order
      next user _ =>
      split
      · have fresh : (chan.update chan.spawned fun _ => { service := svc, user }).Orderly :=
          order.update (Conversation.fresh_inOrder svc user)
        exact fresh
      · exact order

lemma Orderly.startConversation (svc sess : String) :
    (chan.startConversation svc sess).1.Orderly := by
  dsimp only [Channel.startConversation]
  split
  · exact order
  next worker _ =>
  have told : (chan.update worker fun talk =>
      { talk.write .start with sentStart := true }).Orderly :=
    order.update (((order worker).write .start).mono rfl rfl rfl id rfl)
  split <;> exact told

lemma Orderly.step {op : ChannelOp} (ran : chan.step op = some post) : post.Orderly := by
  have call {handled : Channel × Option ChannelError} {post : Channel}
      (kept : handled.1.Orderly) (called : chan.call handled = some post) :
      post.Orderly := by
    unfold Channel.call at called
    split at called
    · cases called
    · cases called
      exact kept
  cases op with
  | beginVerification svc spawns =>
    apply call _ ran
    unfold Channel.beginVerification
    split
    · exact order
    · exact order.begin_ svc spawns
  | beginVerificationForUser svc username spawns =>
    apply call _ ran
    unfold Channel.beginVerificationForUser
    split
    · split
      · exact order
      · exact order.begin_ svc spawns
    · split
      · exact order
      · have named : Orderly { chan with user := some username } := order
        exact named.begin_ svc spawns
  | answerQuery =>
    apply call _ ran
    unfold Channel.answerQuery
    split
    · exact order
    · exact order.update ((order _).write _)
  | cancel => exact call (order.endWhere _) ran
  | startSessionWhenReady =>
    dsimp only [Channel.step] at ran
    split at ran
    · apply call _ ran
      unfold Channel.startSessionWhenReady
      repeat' split
      all_goals first | exact order | exact order.stop _
    · cases ran
  | startConversation =>
    obtain ⟨⟨svc, sess⟩, -, rfl⟩ := Option.map_eq_some_iff.mp ran
    exact order.startConversation svc sess
  | stopConflictingSession =>
    dsimp only [Channel.step] at ran
    split at ran
    · apply call _ ran
      unfold Channel.stopConflictingSession
      split <;> exact order
    · cases ran
  | hangUp =>
    cases ran
    exact order.endWhere _
  | pump =>
    dsimp only [Channel.step] at ran
    split at ran
    · exact order.pumpStep ran
    · cases ran
  | work worker =>
    dsimp only [Channel.step] at ran
    split at ran
    · obtain ⟨_, acted, rfl⟩ := Option.map_eq_some_iff.mp ran
      exact order.update ((order worker).act acted)
    · cases ran

end Orderly

end Channel

end Synoik
