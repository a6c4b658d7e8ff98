import Synoik.Splash.Connections

/-!
# What serving a connection keeps

Requests are answered one by one in their order, and serving one connection leaves
alone those that are being served further out: they wait for no password, and only
those that do are gone on with. Every request is taken from a queue once, so that
serving comes to an end.
-/

namespace Synoik.Plymouth.Server

open List

variable {srv after pre mid : Server} {id : Nat} {busy : List Nat}
  {conn later : Connection}

/-- A connection can be served while others are being served further out, which wait
for no password. -/
structure Ready (server : Server) (id : Nat) (busy : List Nat) : Prop where
  good : server.Good (id :: busy)
  apart : id ∉ busy
  quiet : ∀ other ∈ busy, other ∉ server.waiters
  steady : ∀ {conn : Connection}, server.connections id = some conn → conn.Steady server.allowedUid

/-- What serves connections with so many requests queued at the most: it returns, and the
connection has been served then, others along with it. -/
def Serves (bound : Nat) (serve : Server → Nat → Option Server) : Prop :=
  ∀ ⦃server : Server⦄ ⦃id : Nat⦄ ⦃busy : List Nat⦄, server.Ready id busy →
    server.load ≤ bound → ∃ after, serve server id = some after ∧
      Served (id :: busy) busy server after ∧
      ∀ {conn : Connection}, after.connections id = some conn → conn.Flushed after.allowedUid

lemma Served.quiet {out : List Nat} (waits : pre.Waits)
    (served : Served out busy pre after) (quiet : ∀ other ∈ busy, other ∉ pre.waiters) :
    ∀ other ∈ busy, other ∉ after.waiters := by
  intro other mem asked
  apply quiet other mem
  rw [served.good.waits.waiting, served.leads.kept mem] at asked
  exact waits.waiting.mpr asked

/-- The state in which a waiting request has got its reply. -/
def answered (server : Server) (id : Nat) (conn : Connection) (reply : Reply) : Server :=
  (server.unasked id).put id ({ conn with waiting := none }.reply reply)

lemma answered_touches (srv : Server) (id : Nat) (conn : Connection) (reply : Reply) :
    Touches id (some ({ conn with waiting := none }.reply reply)) srv
      (srv.answered id conn reply) :=
  ⟨rfl, rfl, rfl, fun _ _ => rfl⟩

section Answered

variable {waiting : Waiting} {reply : Reply}

lemma answered_steady (flushed : conn.Flushed srv.allowedUid) (stays : conn.closed = false)
    (waits : conn.waiting = some waiting)
    (fitting : ∀ req : Request, req.blocks waiting = true → req.fits reply = true) :
    ({ conn with waiting := none }.reply reply).Steady srv.allowedUid where
  order := by
    obtain ⟨_, ordered, holds⟩ := flushed.order
    unfold Connection.Holds at holds
    rw [waits] at holds
    obtain ⟨heard, req, rfl, blocks⟩ := holds
    refine ⟨[], ?_, rfl⟩
    have fits : fits (conn.uid = srv.allowedUid) req reply = true := by
      unfold Plymouth.fits
      rw [heard]
      simpa using fitting req blocks
    have taken := ordered
    exact taken.reply fits
  whole := flushed.whole
  told := Connection.told_reply (flushed.steady stays).told reply

lemma answered_ready (good : srv.Good busy) (free : id ∉ busy)
    (quiet : ∀ other ∈ busy, other ∉ srv.waiters)
    (held : srv.connections id = some conn) (waits : conn.waiting = some waiting)
    (fitting : ∀ req : Request, req.blocks waiting = true → req.fits reply = true) :
    (srv.answered id conn reply).Ready id busy := by
  have hits := answered_touches srv id conn reply
  have wider : srv.Good (id :: busy) := ⟨good.waits, fun out => good.served fun mem =>
      out (.tail _ mem), good.dropped, good.former⟩
  have inside := good.waits.spawned held
  have stillWaits := hits.waits_without good.waits inside rfl (by rintro _ ⟨⟩; exact nofun)
  refine ⟨hits.good wider inside stillWaits fun here => good.dropped here, free, ?_, ?_⟩
  · intro other mem asked
    apply quiet other mem
    have without : (srv.answered id conn reply).waiters =
        srv.waiters.filter (· ≠ id) := srv.unasked_waiters id
    rw [without] at asked
    exact (mem_filter.mp asked).1
  · intro _ here
    rw [hits.own] at here
    cases here
    obtain ⟨flushed, stays⟩ := good.served free held
    exact answered_steady flushed stays waits fitting

lemma answered_load (good : srv.Good busy) (held : srv.connections id = some conn) :
    (srv.answered id conn reply).load = srv.load := by
  have load := (answered_touches srv id conn reply).load (good.waits.spawned held)
  rw [held] at load
  have same : queueLength (some ({ conn with waiting := none }.reply reply)) =
      queueLength (some conn) := rfl
  omega

lemma resume_eq (serve : Server → Nat → Option Server) (held : srv.connections id = some conn)
    (waits : conn.waiting = some waiting) (reply : Reply) :
    resume serve (srv.unasked id) id waiting reply =
      (serve (srv.answered id conn reply) id).map fun srv => srv.reap id := by
  unfold resume
  rw [show (srv.unasked id).connections id = some conn from held]
  simp only [waits, ne_eq, not_true_eq_false, if_false]
  rfl

lemma resume_served {bound : Nat} {serve : Server → Nat → Option Server}
    (serves : Serves bound serve) (good : srv.Good busy) (free : id ∉ busy)
    (quiet : ∀ other ∈ busy, other ∉ srv.waiters)
    (held : srv.connections id = some conn) (waits : conn.waiting = some waiting)
    (fitting : ∀ req : Request, req.blocks waiting = true →
      req.fits reply = true) (light : srv.load ≤ bound) :
    ∃ after, resume serve (srv.unasked id) id waiting reply = some after ∧
      Served busy busy (srv.answered id conn reply) after := by
  have ready := answered_ready good free quiet held waits fitting
  obtain ⟨after, serving, served, flushed⟩ :=
    serves ready (Nat.le_trans (Nat.le_of_eq (answered_load good held)) light)
  refine ⟨after.reap id, ?_, served.trans (reap_served served.good free flushed)⟩
  rw [resume_eq serve held waits, serving]
  rfl

end Answered

section Passwords

variable {text : Option Text} {rest : List (Nat × Option Text)} {bound : Nat}
  {serve : Server → Nat → Option Server}

lemma unasked_head (waits : srv.Waits) (waiters : srv.passwordWaiters = (id, text) :: rest) :
    srv.unasked id = { srv with passwordWaiters := rest } := by
  have uniq := waits.distinct
  unfold Server.waiters at uniq
  unfold unasked
  rw [waiters, map_cons, nodup_cons] at uniq
  rw [waiters, filter_cons_of_neg (by simp), filter_eq_self.mpr]
  intro waiter mem
  rw [decide_eq_true_iff]
  intro same
  have again : waiter.1 ∈ rest.map Prod.fst := mem_map_of_mem mem
  exact uniq.1 (same ▸ again)

lemma head_waits (waits : srv.Waits) (waiters : srv.passwordWaiters = (id, text) :: rest) :
    ∃ conn, srv.connections id = some conn ∧ conn.waiting = some .password := by
  apply waits.waiting.mp
  unfold Server.waiters
  rw [waiters]
  exact .head _

lemma head_apart (waits : srv.Waits) (quiet : ∀ other ∈ busy, other ∉ srv.waiters)
    (held : srv.connections id = some conn) (asks : conn.waiting = some .password) : id ∉ busy := by
  intro mem
  exact quiet id mem (waits.waiting.mpr ⟨conn, held, asks⟩)

/-- What a password's client is told. -/
def passwordReply : Option Text → Reply
  | some answer => .answer answer
  | none => .noAnswer

lemma password_fits (answer : Option Text) (req : Request)
    (blocks : req.blocks .password = true) : req.fits (passwordReply answer) = true := by
  cases req with
  | password => cases answer <;> rfl
  | _ => exact nomatch blocks

lemma answerPassword_eq (serve : Server → Nat → Option Server) (waits : srv.Waits)
    (waiters : srv.passwordWaiters = (id, text) :: rest) (answer : Option Text) :
    answerPassword serve srv answer =
      (resume serve (srv.unasked id) id .password (passwordReply answer)).map updatePrompt := by
  rw [unasked_head waits waiters]
  unfold answerPassword
  rw [waiters]
  cases answer <;> rfl

lemma answerPassword_served (serves : Serves bound serve) (good : srv.Good busy)
    (quiet : ∀ other ∈ busy, other ∉ srv.waiters)
    (waiters : srv.passwordWaiters = (id, text) :: rest) (light : srv.load ≤ bound)
    (answer : Option Text) (held : srv.connections id = some conn)
    (waits : conn.waiting = some .password) :
    ∃ after, answerPassword serve srv answer = some after ∧ after.Prompted ∧
      Served busy busy (srv.answered id conn (passwordReply answer)) after := by
  have free := head_apart good.waits quiet held waits
  obtain ⟨after, resuming, served⟩ := resume_served serves good free quiet held waits
    (password_fits answer) light
  refine ⟨after.updatePrompt, ?_, updatePrompt_prompted _,
    served.trans ((updatePrompt_same _).served served.good)⟩
  rw [answerPassword_eq serve good.waits waiters, resuming]
  rfl

lemma answered_weight (good : srv.Good busy) (waiters : srv.passwordWaiters = (id, text) :: rest)
    (held : srv.connections id = some conn) (reply : Reply) :
    (srv.answered id conn reply).weight + 1 = srv.weight := by
  have fewer : (srv.answered id conn reply).passwordWaiters = rest := by
    unfold answered
    rw [unasked_head good.waits waiters]
    rfl
  unfold weight
  rw [answered_load good held, fewer, waiters, length_cons]
  omega

lemma answered_leads (good : srv.Good busy) (free : id ∉ busy)
    (held : srv.connections id = some conn) {reply : Reply}
    (other : ∀ answer, reply ≠ .answer answer) : Leads busy srv (srv.answered id conn reply) := by
  have hits := answered_touches srv id conn reply
  have goes : Goes conn ({ conn with waiting := none }.reply reply) :=
    ⟨.append other, suffix_refl _⟩
  refine hits.leads (good.waits.spawned held) held free ?_ ?_ ?_
  · rw [held]
    exact queueLength_le goes
  · rw [held]
    exact Nat.add_le_add (srv.unasked_length id) (queueLength_le goes)
  · intro _ old
    rw [record_of_held held] at old
    cases old
    exact ⟨_, record_of_held hits.own, goes⟩

lemma cancelPasswords_nil (serve : Server → Nat → Option Server) (most : Nat)
    (waiters : srv.passwordWaiters = []) : cancelPasswords serve most srv = some srv := by
  unfold cancelPasswords
  rw [waiters]
  rfl

lemma cancelPasswords_cons (serve : Server → Nat → Option Server) (most : Nat)
    (waiters : srv.passwordWaiters = (id, text) :: rest) : cancelPasswords serve (most + 1) srv =
      (answerPassword serve srv none).bind (cancelPasswords serve most) := by
  conv => lhs; unfold cancelPasswords
  rw [waiters]
  rfl

section

variable (serves : Serves bound serve)
include serves

lemma cancelRound_served (good : srv.Good busy) (quiet : ∀ other ∈ busy, other ∉ srv.waiters)
    (waiters : srv.passwordWaiters = (id, text) :: rest) (light : srv.load ≤ bound) :
    ∃ after, answerPassword serve srv none = some after ∧
      Served busy busy srv after ∧ after.weight < srv.weight := by
  obtain ⟨_, held, waits⟩ := head_waits good.waits waiters
  have free := head_apart good.waits quiet held waits
  obtain ⟨after, answering, asks, served⟩ := answerPassword_served serves good
    quiet waiters light none held waits
  have leads : Leads busy srv after :=
    (answered_leads good free held (by exact nofun)).trans served.leads
  refine ⟨after, answering, ⟨served.good, leads, fun _ => asks⟩, ?_⟩
  rw [← answered_weight good waiters held (passwordReply none)]
  exact Nat.lt_succ_of_le served.leads.weight

lemma cancelPasswords_served {most : Nat}
    (good : srv.Good busy) (quiet : ∀ other ∈ busy, other ∉ srv.waiters)
    (light : srv.load ≤ bound) (enough : srv.weight ≤ most) :
    ∃ after, cancelPasswords serve most srv = some after ∧
      after.passwordWaiters = [] ∧ Served busy busy srv after := by
  induction most generalizing srv with
  | zero =>
    have nothing : srv.passwordWaiters = [] := by
      unfold weight at enough
      exact length_eq_zero_iff.mp (by omega)
    exact ⟨srv, cancelPasswords_nil serve 0 nothing, nothing, good.unchanged⟩
  | succ most ih =>
    rcases waiters : srv.passwordWaiters with _ | ⟨⟨_, _⟩, rest⟩
    · exact ⟨srv, cancelPasswords_nil serve _ waiters, waiters, good.unchanged⟩
    · obtain ⟨_, answering, one, lighter⟩ :=
        cancelRound_served serves good quiet waiters light
      obtain ⟨after, cancelling, unasked, rest⟩ := ih one.good
        (one.quiet good.waits quiet) (Nat.le_trans one.leads.load light)
        (Nat.le_of_lt_succ (Nat.lt_of_lt_of_le lighter enough))
      refine ⟨after, ?_, unasked, one.trans rest⟩
      rw [cancelPasswords_cons serve most waiters, answering]
      exact cancelling

lemma endSplash_served (good : srv.Good busy)
    (quiet : ∀ other ∈ busy, other ∉ srv.waiters) (light : srv.load ≤ bound) :
    ∃ after, endSplash serve srv = some after ∧ Served busy busy srv after ∧
      (srv.splash.shown = true → after.passwordWaiters = []) := by
  unfold endSplash
  cases shown : srv.splash.shown with
  | false => exact ⟨srv, rfl, good.unchanged, nofun⟩
  | true =>
    have same : Same srv { srv with
        splash := { srv.splash with
          shown := false, frozen := false, messages := [], progress := none } } :=
      splash_same rfl
    obtain ⟨after, cancelling, none, served⟩ := cancelPasswords_served serves
      (same.good good) quiet light (Nat.le_refl _)
    refine ⟨after.changed, ?_, ?_, ?_⟩
    · exact congrArg (Option.map changed) cancelling
    · exact ((same.served good).trans served).trans ((changed_same _).served served.good)
    · intro _
      rw [(changed_same _).passwordWaiters]
      exact none

end

end Passwords

/-- What becomes of a request: it is answered at once, or waits for a mode change, for
the end of the splash or for a password. -/
inductive Handled (serve : Server → Nat → Option Server) (server : Server) (id : Nat) :
    Request → Option (Server × Option Reply) → Prop
  | answers {request : Request} {after : Server} {reply : Reply} (same : Same server after)
      (fits : request.fits reply = true) (other : ∀ answer, reply ≠ .answer answer) :
      Handled serve server id request (some (after, some reply))
  | holds {name : Text} {after : Server} (same : Same server after) :
      Handled serve server id (.changeMode name) (some (after.wait id .modeChange, none))
  | ends {retain : Bool} (shown : server.splash.shown = true) :
      Handled serve server id (.quit retain) ((endSplash serve server).map fun server =>
        ({ server with events := server.events ++ [Event.quit retain] }.wait id .quit, none))
  | asks {text : Option Text} (shown : server.splash.shown = true) :
      Handled serve server id (.password text) (some (updatePrompt { server.wait id .password
        with passwordWaiters := (server.wait id .password).passwordWaiters ++ [(id, text)] }, none))

lemma handle_handled (serve : Server → Nat → Option Server) (srv : Server) (id : Nat)
    (req : Request) : Handled serve srv id req (handle serve srv id req) := by
  cases req with
  | ping | update | sysinit | error | deactivate | reactivate | reload | newRoot
  | ignoreKeystroke | cachedPassword | question | watchKeystroke | hasActiveVt | unknown =>
    exact .answers (.refl _) rfl nofun
  | pauseProgress | unpauseProgress => exact .answers (splash_same rfl) rfl nofun
  | showSplash => exact .answers (showSplash_same _) rfl nofun
  | changeMode =>
    dsimp only [handle]
    split
    next mode parsed =>
      split
      · split
        · exact .holds (splash_changed_same rfl)
        · exact .answers (splash_changed_same rfl) rfl nofun
      · exact .answers (.refl _) rfl nofun
    · exact .answers (.refl _) rfl nofun
  | systemUpdate =>
    refine .answers ?_ rfl nofun
    split
    · exact .refl _
    · exact splash_changed_same rfl
  | hideSplash =>
    refine .answers ?_ rfl nofun
    split
    · exact splash_changed_same rfl
    · exact .refl _
  | quit =>
    unfold handle
    cases shown : srv.splash.shown with
    | false => exact .answers (.refl _) rfl nofun
    | true => exact .ends shown
  | password =>
    unfold handle
    cases shown : srv.splash.shown with
    | false => exact .answers (.refl _) rfl nofun
    | true => exact .asks shown
  | showMessage =>
    refine .answers ?_ rfl nofun
    split
    · split
      · exact .refl _
      · exact splash_changed_same rfl
    · exact splash_changed_same rfl
  | hideMessage =>
    refine .answers ?_ rfl nofun
    split
    · exact splash_changed_same rfl
    · exact .refl _

lemma wait_eq {waiting : Waiting} (held : srv.connections id = some conn) :
    srv.wait id waiting = srv.put id { conn with waiting := some waiting } := by
  unfold wait
  rw [held]

section Requests

variable {req : Request} {queue : List Request} {bound : Nat}
  {serve : Server → Nat → Option Server}

/-- What is left of the connection whose request is handled. -/
def Outcome (request : Request) (taken : Connection) : Option Reply → Option Connection → Prop
  | some reply, later => request.fits reply = true ∧ (∀ answer, reply ≠ .answer answer) ∧
      later = some taken
  | none, later => ∃ waiting, request.blocks waiting = true ∧
      later = some { taken with waiting := some waiting }

lemma taken_goes (queued : conn.queue = req :: queue) : Goes conn { conn with queue } :=
  ⟨.refl _, queued ▸ suffix_cons _ _⟩

lemma taken_served (ready : srv.Ready id busy) (held : srv.connections id = some conn)
    (queued : conn.queue = req :: queue) :
    Served (id :: busy) busy srv (srv.put id { conn with queue }) :=
  put_served ready.good ready.apart held (taken_goes queued) (.of_eq rfl rfl rfl)

lemma taken_load (good : srv.Good busy) (held : srv.connections id = some conn)
    (queued : conn.queue = req :: queue) :
    (srv.put id { conn with queue }).load + 1 = srv.load := by
  have load := (put_touches srv id { conn with queue }).load (good.waits.spawned held)
  rw [held] at load
  have length : queueLength (some conn) = queue.length + 1 := congrArg length queued
  have rest : queueLength (some { conn with queue }) = queue.length := rfl
  omega

lemma taken_order (steady : conn.Steady srv.allowedUid)
    (idle : conn.waiting = none) (queued : conn.queue = req :: queue) :
    ({ conn with queue } : Connection).Ordered srv.allowedUid [req] := by
  obtain ⟨_, ⟨answered, asked, replies⟩, holds⟩ := steady.order
  unfold Connection.Holds at holds
  rw [idle] at holds
  subst holds
  refine ⟨answered, ?_, replies⟩
  rw [queued] at asked
  simpa using asked

/-- The state in which a connection waits for a password it has asked for. -/
def asking (server : Server) (id : Nat) (conn : Connection) (text : Option Text) : Server :=
  { server.put id { conn with waiting := some .password } with
    passwordWaiters := server.passwordWaiters ++ [(id, text)] }

variable {text : Option Text}

lemma asking_waits (waits : srv.Waits) (held : srv.connections id = some conn)
    (idle : conn.waiting = none) (one : conn.first = some (.password text)) :
    (srv.asking id { conn with queue } text).Waits := by
  have hits : Touches id (some { conn with queue, waiting := some .password })
      srv (srv.asking id { conn with queue } text) := ⟨rfl, rfl, rfl, fun _ _ => rfl⟩
  have lack : id ∉ srv.waiters := by
    rw [waits.waiting, held]
    rintro ⟨_, ⟨⟩, waits⟩
    rw [idle] at waits
    cases waits
  have waiters : (srv.asking id { conn with queue } text).waiters =
      srv.waiters ++ [id] := map_append
  have more : (srv.asking id { conn with queue } text).passwordWaiters =
      srv.passwordWaiters ++ [(id, text)] := rfl
  refine hits.waits waits (waits.spawned held) ?_ ?_ ?_ ?_
  · rw [waiters, nodup_append]
    refine ⟨waits.distinct, by simp, ?_⟩
    rintro other mem _ last rfl
    exact lack (mem_singleton.mp last ▸ mem)
  · intro other text ne
    rw [more]
    simp [ne]
  · rw [waiters]
    simp
  · intro other mem
    rw [more, mem_append, mem_singleton] at mem
    rcases mem with mem | last
    · exact absurd (mem_waiters.mpr ⟨other, mem⟩) lack
    · obtain rfl : other = text := congrArg Prod.snd last
      exact ⟨_, rfl, one⟩

lemma taken_first (steady : conn.Steady srv.allowedUid) (idle : conn.waiting = none)
    (queued : conn.queue = req :: queue) : conn.first = some req := by
  obtain ⟨_, asked, replies⟩ := taken_order steady idle queued
  have length := replies.length_eq
  unfold Connection.first
  rw [asked, ← length]
  simp

lemma asks_served (ready : srv.Ready id busy) (held : srv.connections id = some conn)
    (idle : conn.waiting = none) (queued : conn.queue = .password text :: queue) :
    Served (id :: busy) busy srv (srv.asking id { conn with queue } text).updatePrompt := by
  have hits : Touches id (some { conn with queue, waiting := some .password })
      srv (srv.asking id { conn with queue } text) := ⟨rfl, rfl, rfl, fun _ _ => rfl⟩
  have inside := ready.good.waits.spawned held
  have goes : Goes conn { conn with queue, waiting := some .password } :=
    ⟨.refl _, (taken_goes queued).queue⟩
  have waits : (srv.asking id { conn with queue } text).Waits :=
    asking_waits ready.good.waits held idle (taken_first (ready.steady held) idle queued)
  have good := hits.good ready.good inside waits fun gone => ready.good.dropped gone
  have same := updatePrompt_same (srv.asking id { conn with queue } text)
  refine ⟨same.good good, ?_, fun _ => updatePrompt_prompted _⟩
  refine .trans (hits.leads inside held ready.apart ?_ ?_ ?_) same.leads
  · rw [held]
    exact queueLength_le goes
  · rw [held]
    have length : queueLength (some conn) = queue.length + 1 := congrArg length queued
    have rest : queueLength (some { conn with queue, waiting := some .password }) =
      queue.length := rfl
    have more : (srv.asking id { conn with queue } text).passwordWaiters.length =
      srv.passwordWaiters.length + 1 := length_append
    omega
  · intro _ old
    rw [record_of_held held] at old
    cases old
    exact ⟨_, record_of_held hits.own, goes⟩

lemma wait_served {waiting : Waiting} (good : srv.Good (id :: busy))
    (free : id ∉ busy) (held : srv.connections id = some conn)
    (idle : conn.waiting = none) (other : waiting ≠ .password) :
    Served (id :: busy) busy srv (srv.wait id waiting) ∧
      (srv.wait id waiting).connections id = some { conn with waiting := some waiting } := by
  rw [wait_eq held]
  exact ⟨put_served good free held ⟨.refl _, suffix_refl _⟩
    (.of_ne (by simp [idle]) (by simp [other])), (put_touches _ _ _).own⟩

lemma Ready.quiet_cons (ready : srv.Ready id busy) (held : srv.connections id = some conn)
    (idle : conn.waiting = none) : ∀ other ∈ id :: busy, other ∉ srv.waiters := by
  intro other mem
  rcases mem_cons.mp mem with rfl | mem
  · rw [ready.good.waits.waiting, held]
    rintro ⟨_, ⟨⟩, waits⟩
    rw [idle] at waits
    cases waits
  · exact ready.quiet other mem

lemma handle_served (serves : Serves bound serve) (ready : srv.Ready id busy)
    (held : srv.connections id = some conn)
    (idle : conn.waiting = none) (queued : conn.queue = req :: queue)
    (light : srv.load ≤ bound + 1) : ∃ after reply,
      handle serve (srv.put id { conn with queue }) id req = some (after, reply) ∧
      Served (id :: busy) busy srv after ∧ after.load < srv.load ∧
      Outcome req { conn with queue } reply (after.connections id) := by
  have taken := taken_served ready held queued
  have own := (put_touches srv id { conn with queue }).own
  have load := taken_load ready.good held queued
  have less {after : Server} (leads : Leads busy (srv.put id { conn with queue }) after) :
      after.load < srv.load := by
    have load := leads.load
    omega
  have handled := handle_handled serve (srv.put id { conn with queue }) id req
  generalize handle serve (srv.put id { conn with queue }) id req = res at handled
  cases handled with
  | @answers _ after reply same fits other =>
    refine ⟨after, some reply, rfl, taken.trans (same.served taken.good), less same.leads,
      fits, other, ?_⟩
    rw [same.connections, own]
  | @holds name after same =>
    have mid := taken.trans (same.served taken.good)
    have held : after.connections id = some { conn with queue } := by
      rw [same.connections, own]
    have ⟨served, here⟩ := wait_served mid.good ready.apart held idle
      (by simp : Waiting.modeChange ≠ .password)
    exact ⟨_, none, rfl, mid.trans served, less (same.leads.trans served.leads),
      .modeChange, rfl, here⟩
  | @ends retain shown =>
    have quiet := ready.quiet_cons held idle
    obtain ⟨after, ending, served, -⟩ := endSplash_served serves taken.good quiet (by omega)
    have same : Same after { after with events := after.events ++ [Event.quit retain] } :=
      ⟨rfl, rfl, rfl, rfl, rfl, fun prompted => prompted⟩
    have mid : Served (id :: busy) busy (srv.put id { conn with queue })
        { after with events := after.events ++ [Event.quit retain] } :=
      ⟨same.good served.good, (served.leads.trans same.leads).fewer
        (subset_cons_self _ _), served.prompted⟩
    have held := (served.leads.kept (.head _)).trans own
    have ⟨waits, here⟩ := wait_served mid.good ready.apart held idle
      (by simp : Waiting.quit ≠ .password)
    rw [ending]
    exact ⟨_, none, rfl, taken.trans (mid.trans waits),
      less (mid.leads.trans waits.leads), .quit, rfl, here⟩
  | @asks text shown =>
    have asks := asks_served ready held idle queued
    have again : (srv.put id { conn with queue }).wait id .password =
        srv.put id { conn with queue, waiting := some .password } := by
      rw [wait_eq own]
      unfold put
      rw [Function.update_idem]
    have fewer : (srv.put id { conn with queue, waiting := some .password }).load <
        srv.load := by
      rw [← again, wait_eq own]
      exact less (put_leads taken.good ready.apart own ⟨.refl _, suffix_refl _⟩)
    rw [again]
    refine ⟨_, none, rfl, asks, ?_, .password, rfl, ?_⟩
    · rw [(updatePrompt_same _).load]
      exact fewer
    · rw [(updatePrompt_same _).connections]
      exact Function.update_self _ _ _

end Requests

section Serving

variable {req : Request} {queue : List Request} {reply : Reply} {bound most : Nat}

lemma reply_steady (steady : conn.Steady srv.allowedUid)
    (idle : conn.waiting = none) (queued : conn.queue = req :: queue)
    (fitting : fits (conn.uid = srv.allowedUid) req reply = true) :
    ({ conn with queue }.reply reply).Steady srv.allowedUid where
  order := ⟨[], (taken_order steady idle queued).reply fitting, by
    unfold Connection.Holds Connection.reply
    rw [idle]⟩
  whole := steady.whole
  told := Connection.told_reply steady.told reply

lemma wait_steady {waiting : Waiting} (steady : conn.Steady srv.allowedUid)
    (idle : conn.waiting = none) (queued : conn.queue = req :: queue)
    (heard : conn.uid = srv.allowedUid) (blocks : req.blocks waiting = true) :
    ({ conn with queue, waiting := some waiting } : Connection).Steady srv.allowedUid where
  order := ⟨[req], taken_order steady idle queued, heard, req, rfl, blocks⟩
  whole := steady.whole
  told := steady.told

lemma take_served {next : Server → Nat → Option Server} (serves : Serves bound next)
    (ready : srv.Ready id busy) (held : srv.connections id = some conn)
    (idle : conn.waiting = none) (queued : conn.queue = req :: queue)
    (light : srv.load ≤ bound + 1) : ∃ after reply, (if conn.uid = srv.allowedUid then
        handle next (srv.put id { conn with queue }) id req
      else some (srv.put id { conn with queue }, some .nak)) = some (after, reply) ∧
      Served (id :: busy) busy srv after ∧ after.load < srv.load ∧
      ((∃ answer, reply = some answer ∧ after.connections id = some { conn with queue } ∧
          fits (conn.uid = srv.allowedUid) req answer = true ∧
          ∀ text, answer ≠ .answer text) ∨ ∃ waiting, reply = none ∧ conn.uid = srv.allowedUid ∧
          req.blocks waiting = true ∧ after.connections id =
            some { conn with queue, waiting := some waiting }) := by
  by_cases heard : conn.uid = srv.allowedUid
  · obtain ⟨after, reply, handling, served, less, outcome⟩ :=
      handle_served serves ready held idle queued light
    rw [if_pos heard]
    refine ⟨after, reply, handling, served, less, ?_⟩
    cases reply with
    | some reply =>
      obtain ⟨fitting, other, here⟩ := outcome
      refine .inl ⟨reply, rfl, here, ?_, other⟩
      simpa [fits, heard] using fitting
    | none =>
      obtain ⟨waiting, blocks, here⟩ := outcome
      exact .inr ⟨waiting, rfl, heard, blocks, here⟩
  · rw [if_neg heard]
    refine ⟨_, _, rfl, taken_served ready held queued,
      Nat.lt_of_succ_le (Nat.le_of_eq (taken_load ready.good held queued)),
      .inl ⟨.nak, rfl, (put_touches _ _ _).own, ?_, nofun⟩⟩
    simp [fits, heard]

lemma reply_ready (ready : srv.Ready id busy)
    (held : srv.connections id = some conn) (idle : conn.waiting = none)
    (queued : conn.queue = req :: queue) (served : Served (id :: busy) busy srv after)
    (here : after.connections id = some { conn with queue })
    (fitting : fits (conn.uid = srv.allowedUid) req reply = true)
    (other : ∀ text, reply ≠ .answer text) :
    Served (id :: busy) busy after (after.put id ({ conn with queue }.reply reply)) ∧
      (after.put id ({ conn with queue }.reply reply)).Ready id busy := by
  have goes : Goes { conn with queue } ({ conn with queue }.reply reply) :=
    ⟨.append other, suffix_refl _⟩
  have replied := put_served served.good ready.apart here goes
    (.of_ne (by simp [idle]) (by simp [Connection.reply, idle]))
  have all := served.trans replied
  refine ⟨replied, all.good, ready.apart, all.quiet ready.good.waits ready.quiet, ?_⟩
  intro _ same
  rw [(put_touches _ _ _).own] at same
  cases same
  rw [all.leads.allowedUid]
  exact reply_steady (ready.steady held) idle queued fitting

lemma serve_stop (held : srv.connections id = some conn)
    (settled : conn.waiting = none → conn.queue = []) :
    serve (most + 1) srv id = some (srv.flush id) := by
  unfold serve
  rw [held]
  dsimp only
  split
  · rfl
  next idle => rw [settled (by simpa using idle)]

lemma serve_take (held : srv.connections id = some conn)
    (idle : conn.waiting = none) (queued : conn.queue = req :: queue) :
    serve (most + 1) srv id = (if conn.uid = srv.allowedUid then
        handle (serve most) (srv.put id { conn with queue }) id req
      else some (srv.put id { conn with queue }, some .nak)).bind fun (srv, reply) =>
          match reply with
          | none => some (srv.flush id)
          | some reply => (srv.connections id).bind fun conn =>
            serve most (srv.put id (conn.reply reply)) id := by
  have waits : conn.waiting.isSome = false := by rw [idle]; rfl
  conv => lhs; unfold serve
  simp only [held, waits, Bool.false_eq_true, if_false, queued]
  rfl

lemma serve_serves (less : bound < most) : Serves bound (serve most) := by
  induction most generalizing bound with
  | zero => exact absurd less (Nat.not_lt_zero _)
  | succ most ih =>
    intro srv id busy ready _
    rcases held : srv.connections id with _ | conn
    · refine ⟨srv, by simp only [serve, held], ready.good.unchanged, ?_⟩
      intro conn here
      rw [held] at here
      cases here
    have steady := ready.steady held
    -- Wherever it stops, the connection is flushed.
    have stop {stopped : Server} {later : Connection}
        (served : Served (id :: busy) busy srv stopped)
        (here : stopped.connections id = some later) (steady : later.Steady srv.allowedUid)
        (settled : later.waiting = none → later.queue = []) :
        Served (id :: busy) busy srv (stopped.flush id) ∧
          ∀ {conn : Connection}, (stopped.flush id).connections id = some conn →
            conn.Flushed (stopped.flush id).allowedUid := by
      rw [← served.leads.allowedUid] at steady
      obtain ⟨flushes, last, has, flushed⟩ :=
        flush_served served.good ready.apart here steady settled
      refine ⟨served.trans flushes, ?_⟩
      intro other same
      rw [has] at same
      cases same
      rw [flushes.leads.allowedUid]
      exact flushed
    by_cases settled : conn.waiting = none → conn.queue = []
    · exact ⟨_, serve_stop held settled, stop ready.good.unchanged held steady settled⟩
    obtain ⟨idle, waiting⟩ := Classical.not_imp.mp settled
    obtain ⟨_, queue, queued⟩ := exists_cons_of_ne_nil waiting
    have load := taken_load ready.good held queued
    have less : bound - 1 < most := by omega
    obtain ⟨after, _, handling, served, _, outcome⟩ :=
      take_served (ih less) ready held idle queued (by omega)
    rw [serve_take held idle queued, handling]
    rcases outcome with ⟨answer, rfl, here, fitting, other⟩ | ⟨_, rfl, heard, blocks, here⟩
    · obtain ⟨replied, again⟩ := reply_ready ready held idle queued served here fitting other
      have lighter : (after.put id ({ conn with queue }.reply answer)).load ≤ bound - 1 := by
        have load := replied.leads.load
        omega
      obtain ⟨last, serving, rest, flushed⟩ := ih less again lighter
      refine ⟨last, ?_, (served.trans replied).trans rest, flushed⟩
      simp only [Option.bind_some, here]
      exact serving
    · exact ⟨_, rfl, stop served here (wait_steady steady idle queued heard blocks) (by simp)⟩

end Serving

end Synoik.Plymouth.Server
