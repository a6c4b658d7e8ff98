import Synoik.Splash.Serving
import Synoik.Support.Runs

/-!
# What the splash's calls keep

Every call returns, and leaves every connection served.
-/

namespace Synoik.Plymouth.Server

open List

variable {srv post pre : Server} {id : Nat} {conn : Connection}

lemma attend_serves (bound : Nat) : Serves bound attend := by
  intro _ _ _ ready _
  exact serve_serves (Nat.lt_succ_self _) ready (Nat.le_refl _)

/-- What a call keeps that passes no password on. -/
structure Kept (before after : Server) : Prop where
  good : after.Good []
  allowedUid : after.allowedUid = before.allowedUid
  prompted : before.Prompted → after.Prompted
  replies : ∀ {id : Nat} {conn : Connection}, before.record id = some conn →
    ∃ later, after.record id = some later ∧ Continues conn.replies later.replies

lemma Served.kept (served : Served [] [] pre post) : Kept pre post where
  good := served.good
  allowedUid := served.leads.allowedUid
  prompted := served.prompted
  replies old := by
    obtain ⟨later, old, goes⟩ := served.leads.records old
    exact ⟨later, old, goes.replies⟩

lemma quiet_nil (srv : Server) : ∀ other ∈ ([] : List Nat), other ∉ srv.waiters := by
  simp

lemma accept_kept (good : srv.Good []) (uid : Nat) : Kept srv (srv.accept uid) := by
  have lack : srv.connections srv.nextId = none := by
    cases held : srv.connections srv.nextId with
    | none => rfl
    | some => exact absurd (good.waits.spawned held) (Nat.lt_irrefl _)
  have own : (srv.accept uid).connections srv.nextId = some { uid } := Function.update_self _ _ _
  have other {id : Nat} (ne : id ≠ srv.nextId) :
      (srv.accept uid).connections id = srv.connections id := Function.update_of_ne ne _ _
  have old {id : Nat} {conn : Connection} (held : srv.connections id = some conn) :
      (srv.accept uid).connections id = some conn := by
    rw [other (Nat.ne_of_lt (good.waits.spawned held)), held]
  refine ⟨⟨⟨good.waits.distinct, ?_, ?_, ?_⟩, ?_, good.dropped, ?_⟩, rfl, fun asks => asks, ?_⟩
  · intro id
    rw [show (srv.accept uid).waiters = srv.waiters from rfl, good.waits.waiting]
    by_cases new : id = srv.nextId
    · subst new
      rw [own, lack]
      simp
    · rw [other new]
  · intro id _ mem
    obtain ⟨conn, held, one⟩ := good.waits.prompts mem
    exact ⟨conn, old held, one⟩
  · intro id conn held
    by_cases new : id = srv.nextId
    · exact new ▸ Nat.lt_succ_self _
    · rw [other new] at held
      exact Nat.lt_succ_of_lt (good.waits.spawned held)
  · intro id conn _ held
    by_cases new : id = srv.nextId
    · subst new
      rw [own] at held
      cases held
      refine ⟨⟨⟨[], ⟨[], rfl, .nil⟩, rfl⟩, rfl, fun _ => rfl, rfl, ?_, fun _ => rfl⟩, rfl⟩
      exact nil_prefix
    · rw [other new] at held
      exact good.served (not_mem_nil) held
  · intro id conn gone
    exact Nat.lt_succ_of_lt (good.former gone)
  · intro id conn known
    refine ⟨conn, ?_, .refl _⟩
    have old : id ≠ srv.nextId := by
      rintro rfl
      unfold record at known
      rw [lack] at known
      exact absurd (good.former known) (Nat.lt_irrefl _)
    unfold record at known ⊢
    rw [other old]
    exact known

/-- A connection that has been read from. -/
def reads (conn : Connection) (reqs : List Request) (rest : List UInt8)
    (closed : Bool) : Connection :=
  { conn with buffer := rest, queue := conn.queue ++ reqs, asked := conn.asked ++ reqs, closed }

variable {reqs : List Request} {rest : List UInt8} {closed : Bool}

lemma read_steady (flushed : conn.Flushed srv.allowedUid) (stays : conn.closed = false)
    (whole : nextRequest rest = none) : (reads conn reqs rest closed).Steady srv.allowedUid where
  order := by
    obtain ⟨inHand, ⟨answered, asked, replies⟩, holds⟩ := flushed.order
    refine ⟨inHand, ⟨answered, ?_, replies⟩, holds⟩
    simp only [reads, asked, append_assoc]
  whole := whole
  told := (flushed.steady stays).told

lemma read_steadily (flushed : conn.Flushed srv.allowedUid) :
    Steadily conn (reads conn reqs rest closed) := by
  refine ⟨Iff.rfl, ?_⟩
  intro waits
  obtain ⟨_, ⟨_, asked, replies⟩, holds⟩ := flushed.order
  unfold Connection.Holds at holds
  rw [waits] at holds
  obtain ⟨-, _, rfl, -⟩ := holds
  -- One request at least has no reply yet.
  have inside : conn.replies.length < conn.asked.length := by
    rw [asked, ← replies.length_eq]
    simp only [length_append, length_singleton]
    omega
  exact (getElem?_append_left inside).symm

variable {read : Connection} {waiting : Waiting} {allowedUid : Nat}

lemma read_ready (good : srv.Good []) (held : srv.connections id = some conn)
    (steadily : Steadily conn read) (steady : read.Steady srv.allowedUid) :
    (srv.put id read).Ready id [] := by
  have hits := put_touches srv id read
  have wider : srv.Good [id] :=
    ⟨good.waits, fun _ => good.served not_mem_nil, good.dropped, good.former⟩
  refine ⟨hits.good wider (good.waits.spawned held)
    (put_waits good.waits held steadily) good.dropped, not_mem_nil, nofun, ?_⟩
  intro _ here
  rw [hits.own] at here
  cases here
  exact steady

lemma read_kept (good : srv.Good []) (held : srv.connections id = some conn)
    (steadily : Steadily conn read) (replies : read.replies = conn.replies)
    (steady : read.Steady srv.allowedUid) :
    ∃ post, ((srv.put id read).attend id).map (fun srv => srv.reap id) =
      some post ∧ Kept srv post := by
  have hits := put_touches srv id read
  have ready := read_ready good held steadily steady
  obtain ⟨post, serving, served, flushed⟩ := attend_serves _ ready (Nat.le_refl _)
  have all := served.trans (reap_served served.good not_mem_nil flushed)
  refine ⟨post.reap id, by rw [serving]; rfl, all.good, all.leads.allowedUid, all.prompted, ?_⟩
  intro other _ old
  by_cases same : other = id
  · subst same
    rw [record_of_held held] at old
    cases old
    rw [← replies]
    exact all.kept.replies (record_of_held hits.own)
  · exact all.kept.replies ((hits.record same).trans old)

lemma onReadable_kept (good : srv.Good []) (id : Nat) (bytes : List UInt8) (ended : Bool) :
    ∃ post, srv.onReadable id bytes ended = some post ∧ Kept srv post := by
  unfold onReadable
  rcases held : srv.connections id with _ | conn
  · exact ⟨srv, rfl, good.unchanged.kept⟩
  · obtain ⟨flushed, stays⟩ := good.served not_mem_nil held
    exact read_kept good held (read_steadily flushed) rfl
      (read_steady flushed stays (takeRequests_rest (Nat.le_refl _)))

lemma acknowledges (req : Request) (other : waiting ≠ .password)
    (blocks : req.blocks waiting = true) : req.fits .ack = true := by
  cases waiting with
  | password => exact absurd rfl other
  | quit | modeChange =>
    cases req with
    | quit | changeMode => rfl
    | _ => exact nomatch blocks

lemma resume_kept (good : srv.Good []) (other : waiting ≠ .password) (id : Nat) :
    ∃ post, resume attend srv id waiting .ack = some post ∧ Served [] [] srv post := by
  rcases held : srv.connections id with _ | conn
  · exact ⟨srv, by simp only [resume, held], good.unchanged⟩
  by_cases waits : conn.waiting = some waiting
  · have lack : id ∉ srv.waiters := by
      rw [good.waits.waiting, held]
      rintro ⟨_, ⟨⟩, password⟩
      rw [waits, Option.some.injEq] at password
      exact other password
    obtain ⟨post, resuming, served⟩ := resume_served (attend_serves _) good
      not_mem_nil srv.quiet_nil held waits (fun req => acknowledges req other)
      (Nat.le_refl _)
    rw [unasked_eq_self lack] at resuming
    refine ⟨post, resuming, served.good, ?_, ?_⟩
    · exact (answered_leads good not_mem_nil held (by exact nofun)).trans served.leads
    · intro asks
      apply served.prompted
      unfold answered
      rw [unasked_eq_self lack]
      exact asks
  · refine ⟨srv, ?_, good.unchanged⟩
    simp only [resume, held, ne_eq, waits, not_false_eq_true, if_true]

lemma resumeAll_kept (other : waiting ≠ .password) (ids : List Nat) (good : srv.Good []) :
    ∃ post, resumeAll waiting ids srv = some post ∧ Served [] [] srv post := by
  induction ids generalizing srv with
  | nil => exact ⟨srv, rfl, good.unchanged⟩
  | cons id _ ih =>
    obtain ⟨_, resuming, one⟩ := resume_kept good other id
    obtain ⟨post, rest, last⟩ := ih one.good
    exact ⟨post, by simp only [resumeAll, resuming, Option.bind_some, rest], one.trans last⟩

lemma close_kept (good : srv.Good []) (id : Nat) : Served [] [] srv (srv.close id) := by
  unfold close
  rcases held : srv.connections id with _ | conn
  · exact good.unchanged
  · have wider : srv.Good [id] :=
      ⟨good.waits, fun _ => good.served not_mem_nil, good.dropped, good.former⟩
    have flushed := (good.served not_mem_nil held).1
    have put : Served [id] [] srv (srv.put id { conn with closed := true }) :=
      put_served wider not_mem_nil held ⟨.refl _, suffix_refl _⟩ (.of_eq rfl rfl rfl)
    refine put.trans (reap_served put.good not_mem_nil ?_)
    intro _ here
    rw [(put_touches _ _ _).own] at here
    cases here
    exact flushed.close

lemma closeAll_kept (ids : List Nat) (good : srv.Good []) :
    Served [] [] srv (ids.foldl close srv) := by
  induction ids generalizing srv with
  | nil => exact good.unchanged
  | cons id _ ih =>
    have one := close_kept good id
    exact one.trans (ih one.good)

lemma finishQuit_kept (good : srv.Good []) (inv again : List Nat) :
    ∃ post, srv.finishQuit inv again = some post ∧ Served [] [] srv post := by
  obtain ⟨_, resuming, one⟩ := resumeAll_kept
    (by simp : Waiting.quit ≠ .password) ((srv.inOrder inv).filter (srv.waitsFor .quit)) good
  refine ⟨_, by unfold finishQuit; rw [resuming]; rfl, one.trans ?_⟩
  exact closeAll_kept _ one.good

/-- Every call returns and leaves every connection served. All but one pass no password
on. -/
lemma step_kept (good : srv.Good []) (op : ServerOp)
    (other : ∀ answer, op ≠ .answerPassword (some answer)) :
    ∃ post, srv.step op = some post ∧ Kept srv post := by
  have same {post : Server} (same : Same srv post) :
      ∃ later, some post = some later ∧ Kept srv later := ⟨post, rfl, (same.served good).kept⟩
  have served {res : Option Server}
      (served : ∃ post, res = some post ∧ Served [] [] srv post) :
      ∃ post, res = some post ∧ Kept srv post := by
    obtain ⟨post, ret, served⟩ := served
    exact ⟨post, ret, served.kept⟩
  cases op with
  | accept uid => exact ⟨_, rfl, accept_kept good uid⟩
  | onReadable id bytes ended => exact onReadable_kept good id bytes ended
  | answerPassword answer =>
    cases answer with
    | some answer => exact absurd rfl (other answer)
    | none =>
      apply served
      rcases waiters : srv.passwordWaiters with _ | ⟨⟨_, _⟩, _⟩
      · exact ⟨srv, by simp only [step, answerPassword, waiters], good.unchanged⟩
      · obtain ⟨_, held, waits⟩ := head_waits good.waits waiters
        obtain ⟨post, answering, asks, served⟩ := answerPassword_served
          (attend_serves _) good srv.quiet_nil waiters (Nat.le_refl _) none held waits
        exact ⟨post, answering, served.good,
          (answered_leads good not_mem_nil held (by exact nofun)).trans
            served.leads, fun _ => asks⟩
  | finishQuit inv again => exact served (finishQuit_kept good inv again)
  | finishModeChange =>
    exact served (resumeAll_kept (by simp : Waiting.modeChange ≠ .password) _ good)
  | show_ => exact same (showSplash_same srv)
  | end_ inv again =>
    apply served
    obtain ⟨_, ending, one, -⟩ :=
      endSplash_served (attend_serves _) good srv.quiet_nil (Nat.le_refl _)
    obtain ⟨post, finishing, last⟩ := finishQuit_kept one.good inv again
    refine ⟨post, ?_, one.trans last⟩
    simp only [step, end_, ending, Option.bind_some, finishing]
  | holdModeChanges | takeEvents | takeClosing =>
    exact same ⟨rfl, rfl, rfl, rfl, rfl, fun asks => asks⟩

/-- What a connection is told besides acknowledgements and refusals. -/
def handed (server : Server) (id : Nat) (answer : Text) : List Reply :=
  if server.waiters.head? = some id then [.answer answer] else []

lemma answerPassword_kept (good : srv.Good []) (asks : srv.Prompted) (answer : Text) :
    ∃ post, srv.step (.answerPassword (some answer)) = some post ∧ post.Good [] ∧
      post.allowedUid = srv.allowedUid ∧ post.Prompted ∧ ∀ {id : Nat} {conn : Connection},
        srv.record id = some conn → ∃ later, post.record id = some later ∧
          Continues (conn.replies ++ srv.handed id answer) later.replies := by
  rcases waiters : srv.passwordWaiters with _ | ⟨⟨one, _⟩, _⟩
  · refine ⟨srv, by simp only [step, answerPassword, waiters], good, rfl, asks, ?_⟩
    intro id conn old
    refine ⟨conn, old, ?_⟩
    simp [handed, Server.waiters, waiters, Continues.refl]
  · obtain ⟨asker, held, waits⟩ := head_waits good.waits waiters
    obtain ⟨post, answering, asks, served⟩ := answerPassword_served
      (attend_serves _) good srv.quiet_nil waiters (Nat.le_refl _) (some answer) held waits
    refine ⟨post, answering, served.good, served.leads.allowedUid, asks, ?_⟩
    intro id _ old
    have head : srv.waiters.head? = some one := by simp [Server.waiters, waiters]
    have hits := answered_touches srv one asker (.answer answer)
    unfold handed
    simp only [head, Option.some.injEq]
    by_cases same : one = id
    · subst same
      rw [record_of_held held] at old
      cases old
      rw [if_pos rfl]
      exact served.kept.replies (record_of_held hits.own)
    · rw [if_neg same, append_nil]
      exact served.kept.replies ((hits.record (Ne.symm same)).trans old)

lemma new_good (allowedUid : Nat) (splash : Splash) (fates : List (Option Nat)) :
    (new allowedUid splash fates).Good [] where
  waits := by
    refine ⟨nodup_nil, ?_, nofun, nofun⟩
    intro _
    constructor
    · exact nofun
    · rintro ⟨_, ⟨⟩, _⟩
  served _ := nofun
  dropped := nofun
  former := nofun

/-- What holds between two calls: every connection has been served, and the splash
prompts for the first waiter. -/
structure Sound (allowedUid : Nat) (server : Server) : Prop where
  good : server.Good []
  uid : server.allowedUid = allowedUid
  prompted : server.Prompted

lemma Sound.step (inv : Sound allowedUid srv) (op : ServerOp) :
    ∃ post, srv.step op = some post ∧ Sound allowedUid post := by
  by_cases ans : ∃ answer, op = .answerPassword (some answer)
  · obtain ⟨answer, rfl⟩ := ans
    obtain ⟨post, ran, good, uid, asks, -⟩ := answerPassword_kept inv.good inv.prompted answer
    exact ⟨post, ran, good, uid.trans inv.uid, asks⟩
  · obtain ⟨post, ran, kept⟩ := step_kept inv.good op fun answer same => ans ⟨answer, same⟩
    exact ⟨post, ran, kept.good, kept.allowedUid.trans inv.uid, kept.prompted inv.prompted⟩

variable {splash : Splash} {fates : List (Option Nat)} {ops : List ServerOp}

lemma runs_sound (run : Runs step (fun _ _ => True) (new allowedUid splash fates) ops srv) :
    Sound allowedUid srv := by
  refine run.invariant (Sound allowedUid) ?_ ⟨new_good _ _ _, rfl, rfl⟩
  intro _ op _ _ ran inv
  obtain ⟨_, other, inv⟩ := inv.step op
  rw [ran] at other
  cases other
  exact inv

/-- In every run, a connection can be served once it has been read from. -/
lemma runs_ready (run : Runs step (fun _ _ => True) (new allowedUid splash fates) ops srv)
    (held : srv.connections id = some conn) (whole : nextRequest rest = none) :
    (srv.put id (reads conn reqs rest closed)).Ready id [] := by
  have good := (runs_sound run).good
  obtain ⟨flushed, stays⟩ := good.served not_mem_nil held
  exact read_ready good held (read_steadily flushed) (read_steady flushed stays whole)

end Synoik.Plymouth.Server
