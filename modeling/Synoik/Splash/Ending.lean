import Synoik.Splash.Calls

/-!
# A quit takes the splash down

Ending the splash goes on with what is queued behind each waiting password. While none
of these requests shows the splash, it stays down and each of them is put through in
turn; the first that does shows it again in the middle of the quit.
-/

namespace Synoik.Plymouth

open List
open Option (bind_some some_get)

/-- Puts requests through while the splash is down, up to one that is held, and returns
the mode they leave. None if one of them shows the splash. -/
def putThrough (hold : Bool) : Mode → List Request → Option Mode
  | mode, [] => some mode
  | _, .showSplash :: _ => none
  | mode, .changeMode name :: rest =>
    match Mode.parse name with
    | some other =>
      if other ≠ mode then
        if hold then some other else putThrough hold other rest
      else putThrough hold mode rest
    | none => putThrough hold mode rest
  | mode, _ :: rest => putThrough hold mode rest

def putAllThrough (hold : Bool) : Mode → List (List Request) → Option Mode
  | mode, [] => some mode
  | mode, queue :: queues => (putThrough hold mode queue).bind fun mode =>
    putAllThrough hold mode queues

lemma putAllThrough_cons (hold : Bool) (mode : Mode) (queue : List Request)
    (queues : List (List Request)) :
    putAllThrough hold mode (queue :: queues) = (putThrough hold mode queue).bind fun mode =>
      putAllThrough hold mode queues := rfl

namespace Server

variable {srv after pre mid : Server} {id : Nat} {busy : List Nat}
  {conn later : Connection} {req : Request}

/-- What is queued behind the waiting passwords. -/
def queuedBehind (server : Server) : List (List Request) :=
  server.waiters.map fun id => ((server.connections id).map Connection.queue).getD []

/-- Whether one of these requests shows the splash again when the passwords are sent
elsewhere. -/
def reshows (server : Server) : Bool :=
  (putAllThrough server.holdModeChanges server.splash.mode server.queuedBehind).isNone

/-- No request to show the splash has been taken from a queue. -/
def Withholds (before after : Server) : Prop :=
  ∀ id conn, before.record id = some conn →
    ∃ later taken, after.record id = some later ∧ conn.queue = taken ++ later.queue ∧
      .showSplash ∉ taken

/-- One has been. -/
def Shows (before after : Server) : Prop :=
  ∃ id conn later taken, before.record id = some conn ∧
    after.record id = some later ∧ conn.queue = taken ++ later.queue ∧
    .showSplash ∈ taken

lemma Withholds.trans (first : Withholds pre mid) (last : Withholds mid after) :
    Withholds pre after := by
  intro id conn old
  obtain ⟨_, early, old, queue, none⟩ := first id conn old
  obtain ⟨later, late, old, rest, still⟩ := last id _ old
  refine ⟨later, early ++ late, old, by rw [queue, rest, append_assoc], ?_⟩
  rw [mem_append, not_or]
  exact ⟨none, still⟩

lemma Withholds.of_records (records : ∀ {id conn}, pre.record id = some conn →
    ∃ later, after.record id = some later ∧ later.queue = conn.queue) : Withholds pre after := by
  intro _ _ old
  obtain ⟨later, old, queue⟩ := records old
  exact ⟨later, [], old, queue.symm, not_mem_nil⟩

lemma Shows.not_withholds (shows : Shows pre after) : ¬ Withholds pre after := by
  intro withholds
  obtain ⟨id, conn, _, _, old, final, queue, mem⟩ := shows
  obtain ⟨_, _, same, again, none⟩ := withholds id conn old
  rw [final] at same
  cases same
  rw [queue] at again
  exact none (append_cancel_right again ▸ mem)

lemma Shows.of_leads {outer : List Nat} (first : Leads busy pre mid)
    (shows : Shows mid after) {last : Server} (second : Leads outer after last) :
    Shows pre last := by
  obtain ⟨id, _, _, taken, recorded, final, queue, mem⟩ := shows
  obtain ⟨earlier, pre⟩ : ∃ earlier, pre.record id = some earlier := by
    cases old : pre.record id with
    | some earlier => exact ⟨earlier, rfl⟩
    | none =>
      rw [first.unknown old] at recorded
      cases recorded
  obtain ⟨_, same, goes⟩ := first.records pre
  rw [recorded] at same
  cases same
  obtain ⟨last, final, ends⟩ := second.records final
  obtain ⟨early, first⟩ := goes.queue
  obtain ⟨late, rest⟩ := ends.queue
  refine ⟨id, earlier, last, early ++ (taken ++ late), pre, final, ?_, ?_⟩
  · rw [← first, queue, ← rest]
    simp
  · exact mem_append_right _ (mem_append_left _ mem)

lemma Same.withholds (same : Same pre after) : Withholds pre after := by
  apply Withholds.of_records
  intro id conn old
  exact ⟨conn, (same.record id).trans old, rfl⟩

variable {taken queue : List Request} {most bound : Nat}

lemma put_withholds (held : srv.connections id = some conn)
    (queue : conn.queue = taken ++ later.queue) (none : .showSplash ∉ taken) :
    Withholds srv (srv.put id later) := by
  intro other old known
  by_cases same : other = id
  · subst same
    rw [record_of_held held] at known
    cases known
    exact ⟨later, taken, record_of_held (put_touches _ _ _).own, queue, none⟩
  · exact ⟨old, [], ((put_touches _ _ _).record same).trans known, rfl, not_mem_nil⟩

/-- One connection is served with the splash down, which stays so, and leaves a mode. -/
structure StaysDown (id : Nat) (mode : Mode) (before after : Server) : Prop where
  shown : after.splash.shown = false
  mode : after.splash.mode = mode
  hold : after.holdModeChanges = before.holdModeChanges
  passwordWaiters : after.passwordWaiters = before.passwordWaiters
  others : ∀ other, other ≠ id → after.connections other = before.connections other
  withholds : Withholds before after

lemma StaysDown.trans {early late : Mode} (first : StaysDown id early pre mid)
    (last : StaysDown id late mid after) : StaysDown id late pre after where
  shown := last.shown
  mode := last.mode
  hold := last.hold.trans first.hold
  passwordWaiters := last.passwordWaiters.trans first.passwordWaiters
  others other ne := (last.others other ne).trans (first.others other ne)
  withholds := first.withholds.trans last.withholds

lemma changed_hold (srv : Server) : srv.changed.holdModeChanges = srv.holdModeChanges := by
  unfold changed
  split <;> rfl

lemma Same.staysDown (same : Same pre after) (shown : after.splash.shown = false)
    (hold : after.holdModeChanges = pre.holdModeChanges) :
    StaysDown id after.splash.mode pre after :=
  ⟨shown, rfl, hold, same.passwordWaiters, fun _ _ => by rw [same.connections], same.withholds⟩

lemma put_staysDown (held : srv.connections id = some conn)
    (dark : srv.splash.shown = false) (queue : conn.queue = taken ++ later.queue)
    (none : .showSplash ∉ taken) : StaysDown id srv.splash.mode srv (srv.put id later) :=
  ⟨dark, rfl, rfl, rfl, fun _ ne => (put_touches _ _ _).other ne, put_withholds held queue none⟩

lemma flush_splash (srv : Server) (id : Nat) :
    (srv.flush id).splash = srv.splash ∧ (srv.flush id).holdModeChanges = srv.holdModeChanges := by
  unfold flush
  split
  · exact ⟨rfl, rfl⟩
  · split <;> exact ⟨rfl, rfl⟩

lemma flush_staysDown (held : srv.connections id = some conn)
    (dark : srv.splash.shown = false) : StaysDown id srv.splash.mode srv (srv.flush id) := by
  obtain ⟨written, closed, -, -, same⟩ := flush_view held
  obtain ⟨splash, hold⟩ := srv.flush_splash id
  have put : StaysDown id srv.splash.mode srv
      (srv.put id { conn with written, out := [], closed }) :=
    put_staysDown held dark (nil_append _).symm not_mem_nil
  rw [← splash]
  exact put.trans (same.staysDown (by rw [splash, dark]) hold)

/-- A change of the splash that leaves it down, in its mode and with its prompt. -/
def Dims (server after : Server) : Prop :=
  Same server after ∧ after.splash.shown = false ∧
    after.holdModeChanges = server.holdModeChanges ∧ after.splash.mode = server.splash.mode

lemma Dims.refl (dark : srv.splash.shown = false) : Dims srv srv := ⟨.refl _, dark, rfl, rfl⟩

lemma dims_changed {splash : Splash} (dark : srv.splash.shown = false)
    (prompt : splash.passwordPrompt = srv.splash.passwordPrompt)
    (shown : splash.shown = srv.splash.shown) (mode : splash.mode = srv.splash.mode) :
    Dims srv { srv with splash }.changed := by
  refine ⟨splash_changed_same prompt, ?_, changed_hold _, ?_⟩
  · rw [changed_splash, shown, dark]
  · rw [changed_splash, mode]

/-- The request leaves the splash down, and is answered unless it is a mode change that is
held. -/
def StaysDark (serve : Server → Nat → Option Server) (server : Server) (id : Nat)
    (request : Request) : Prop :=
  ∃ after, Same server after ∧ after.splash.shown = false ∧
    after.holdModeChanges = server.holdModeChanges ∧
    ((∃ reply, handle serve server id request = some (after, some reply) ∧
        ∀ rest, putThrough server.holdModeChanges server.splash.mode (request :: rest) =
          putThrough server.holdModeChanges after.splash.mode rest) ∨
      (handle serve server id request = some (after.wait id .modeChange, none) ∧
        ∀ rest, putThrough server.holdModeChanges server.splash.mode (request :: rest) =
          some after.splash.mode))

lemma handle_dark (serve : Server → Nat → Option Server) (id : Nat)
    (dark : srv.splash.shown = false) (other : req ≠ .showSplash) : StaysDark serve srv id req := by
  -- All but mode changes are answered and leave the mode.
  have ans {after : Server} (reply : Reply) (dims : Dims srv after)
      (handled : handle serve srv id req = some (after, some reply)) (passes : ∀ rest,
        putThrough srv.holdModeChanges srv.splash.mode (req :: rest) =
          putThrough srv.holdModeChanges srv.splash.mode rest) : StaysDark serve srv id req := by
    obtain ⟨same, shown, hold, mode⟩ := dims
    refine ⟨after, same, shown, hold, .inl ⟨reply, handled, ?_⟩⟩
    rw [mode]
    exact passes
  cases req with
  | showSplash => exact absurd rfl other
  | ping | update | sysinit | error | deactivate | reactivate | reload | newRoot
  | ignoreKeystroke | cachedPassword | question | watchKeystroke | hasActiveVt | unknown =>
    exact ans _ (.refl dark) rfl fun _ => rfl
  | quit =>
    refine ans .ack (.refl dark) ?_ fun _ => rfl
    unfold handle
    rw [dark]
    rfl
  | password =>
    refine ans .noAnswer (.refl dark) ?_ fun _ => rfl
    unfold handle
    rw [dark]
    rfl
  | pauseProgress | unpauseProgress =>
    refine ans _ ?_ rfl fun _ => rfl
    exact ⟨splash_same rfl, dark, rfl, rfl⟩
  | systemUpdate =>
    refine ans _ ?_ rfl fun _ => rfl
    split
    · exact .refl dark
    · exact dims_changed dark rfl rfl rfl
  | hideSplash =>
    refine ans _ ?_ rfl fun _ => rfl
    split
    · exact dims_changed dark rfl rfl rfl
    · exact .refl dark
  | showMessage =>
    refine ans _ ?_ rfl fun _ => rfl
    split
    · split
      · exact .refl dark
      · exact dims_changed dark rfl rfl rfl
    · exact dims_changed dark rfl rfl rfl
  | hideMessage =>
    refine ans _ ?_ rfl fun _ => rfl
    split
    · exact dims_changed dark rfl rfl rfl
    · exact .refl dark
  | changeMode name =>
    cases parsed : Mode.parse name with
    | none =>
      refine ans .ack (.refl dark) ?_ fun _ => ?_
      · simp only [handle, parsed]
      · simp only [putThrough, parsed]
    | some mode =>
      by_cases ne : mode ≠ srv.splash.mode
      · have same : Same srv { srv with splash := { srv.splash with mode } }.changed :=
          splash_changed_same rfl
        refine ⟨_, same, ?_, changed_hold _, ?_⟩
        · rw [changed_splash]
          exact dark
        · simp only [handle, putThrough, parsed, if_pos ne, changed_hold, changed_splash]
          cases srv.holdModeChanges with
          | true => exact .inr ⟨rfl, fun _ => rfl⟩
          | false => exact .inl ⟨.ack, rfl, fun _ => rfl⟩
      · refine ans .ack (.refl dark) ?_ fun _ => ?_
        · simp only [handle, parsed, if_neg ne]
        · simp only [putThrough, parsed, if_neg ne]

/-- A queue is put through: the splash stays down if none of the requests shows it, and
else one that does is taken. -/
def Walks (id : Nat) (queue : List Request) (before after : Server) : Prop :=
  (∀ mode, putThrough before.holdModeChanges before.splash.mode queue = some mode →
    StaysDown id mode before after) ∧
  (putThrough before.holdModeChanges before.splash.mode queue = none → Shows before after)

/-- What puts the queue of a connection through with the splash down. -/
def ServesDark (bound : Nat) (serve : Server → Nat → Option Server) : Prop :=
  ∀ ⦃server after : Server⦄ ⦃id : Nat⦄ ⦃busy : List Nat⦄ ⦃conn : Connection⦄,
    server.Ready id busy → server.load ≤ bound →
    server.connections id = some conn → conn.waiting = none →
    conn.uid = server.allowedUid → server.splash.shown = false →
    serve server id = some after → Walks id conn.queue server after

lemma Walks.prepend {rest : List Request} {mode : Mode} (first : StaysDown id mode pre mid)
    (passes : putThrough pre.holdModeChanges pre.splash.mode queue =
      putThrough pre.holdModeChanges mode rest) (leads : Leads busy pre mid)
    (walks : Walks id rest mid after) : Walks id queue pre after := by
  unfold Walks at walks ⊢
  rw [first.hold, first.mode] at walks
  rw [passes]
  refine ⟨fun mode through => first.trans (walks.1 mode through), fun none => ?_⟩
  exact .of_leads leads (walks.2 none) (.refl _ : Leads [] after after)

/-- A request that shows the splash is taken, whatever comes after it. -/
lemma serve_shows (less : bound < most) (ready : srv.Ready id busy)
    (held : srv.connections id = some conn) (idle : conn.waiting = none)
    (queued : conn.queue = .showSplash :: queue) (light : srv.load ≤ bound + 1)
    (serving : serve (most + 1) srv id = some after) : Shows srv after := by
  obtain ⟨_, _, handling, served, _, outcome⟩ :=
    take_served (serve_serves less) ready held idle queued light
  rw [serve_take held idle queued, handling, bind_some] at serving
  rcases outcome with ⟨_, rfl, here, fitting, other⟩ | ⟨_, -, -, blocks, -⟩
  · obtain ⟨replied, again⟩ := reply_ready ready held idle queued served here fitting other
    have lighter := replied.leads.load
    obtain ⟨_, same, rest, -⟩ := serve_serves less again (by omega)
    simp only [here, bind_some] at serving
    rw [same] at serving
    cases serving
    obtain ⟨later, old, goes⟩ := rest.leads.records (record_of_held (put_touches _ _ _).own)
    obtain ⟨taken, split⟩ := goes.queue
    refine ⟨id, conn, later, .showSplash :: taken, record_of_held held, old, ?_, .head _⟩
    rw [queued, cons_append]
    exact congrArg _ split.symm
  · exact nomatch blocks

lemma hold_staysDown (held : srv.connections id = some conn) (dark : srv.splash.shown = false) :
    StaysDown id srv.splash.mode srv ((srv.wait id .modeChange).flush id) := by
  have waits : StaysDown id srv.splash.mode srv (srv.wait id .modeChange) := by
    rw [wait_eq held]
    exact put_staysDown held dark (nil_append _).symm not_mem_nil
  have here : (srv.wait id .modeChange).connections id =
      some { conn with waiting := some .modeChange } := by
    rw [wait_eq held]
    exact (put_touches _ _ _).own
  have flushed := flush_staysDown here waits.shown
  rw [waits.mode] at flushed
  exact waits.trans flushed

lemma serve_dark (less : bound < most) : ServesDark bound (serve most) := by
  induction most generalizing bound with
  | zero => exact absurd less (Nat.not_lt_zero _)
  | succ most ih =>
    intro srv _ id _ conn ready _ held idle heard dark serving
    rcases queued : conn.queue with _ | ⟨req, queue⟩
    · rw [serve_stop held fun _ => queued] at serving
      cases serving
      refine ⟨?_, nofun⟩
      rintro _ ⟨⟩
      exact flush_staysDown held dark
    have load := taken_load ready.good held queued
    have less : bound - 1 < most := by omega
    by_cases shows : req = .showSplash
    · subst shows
      exact ⟨nofun, fun _ =>
        serve_shows less ready held idle queued (by omega) serving⟩
    obtain ⟨mid, _, handling, served, _, outcome⟩ :=
      take_served (serve_serves less) ready held idle queued (by omega)
    rw [serve_take held idle queued, handling, bind_some] at serving
    rw [if_pos heard] at handling
    have split : conn.queue = [req] ++ queue := queued
    have popped : StaysDown id srv.splash.mode srv (srv.put id { conn with queue }) :=
      put_staysDown held dark split (by simpa using Ne.symm shows)
    obtain ⟨dimmed, same, shown, hold, handled⟩ := handle_dark (serve most) id popped.shown shows
    have own : dimmed.connections id = some { conn with queue } := by
      rw [same.connections, (put_touches _ _ _).own]
    have dims := popped.trans (same.staysDown shown hold)
    rcases handled with ⟨given, handled, passes⟩ | ⟨handled, passes⟩
    · rw [handling] at handled
      cases handled
      rcases outcome with ⟨_, ⟨⟩, here, fitting, other⟩ | ⟨_, ⟨⟩, _⟩
      obtain ⟨replied, again⟩ := reply_ready ready held idle queued served here fitting other
      have lighter := replied.leads.load
      simp only [here, bind_some] at serving
      have tells : StaysDown id mid.splash.mode mid
          (mid.put id ({ conn with queue }.reply given)) :=
        put_staysDown own shown (nil_append _).symm not_mem_nil
      refine .prepend (dims.trans tells) (passes queue) (served.leads.trans replied.leads)
        (ih less again (by omega) (put_touches _ _ _).own idle ?_ shown serving)
      rw [(served.leads.trans replied.leads).allowedUid]
      exact heard
    · rw [handling] at handled
      cases handled
      cases serving
      unfold Walks
      rw [show putThrough srv.holdModeChanges srv.splash.mode (req :: queue) =
        some dimmed.splash.mode from passes queue]
      refine ⟨?_, nofun⟩
      rintro _ ⟨⟩
      exact dims.trans (hold_staysDown own shown)

lemma updatePrompt_staysDown (id : Nat) (dark : srv.splash.shown = false) :
    StaysDown id srv.splash.mode srv srv.updatePrompt := by
  have same := srv.updatePrompt_same
  have splash : srv.updatePrompt.splash.shown = srv.splash.shown ∧
      srv.updatePrompt.splash.mode = srv.splash.mode ∧
      srv.updatePrompt.holdModeChanges = srv.holdModeChanges := by
    dsimp only [updatePrompt]
    split
    · exact ⟨rfl, rfl, rfl⟩
    · rw [changed_splash, changed_hold]
      exact ⟨rfl, rfl, rfl⟩
  rw [← splash.2.1]
  exact same.staysDown (by rw [splash.1, dark]) splash.2.2

lemma reap_staysDown (waits : srv.Waits) (lack : id ∉ srv.waiters)
    (dark : srv.splash.shown = false) : StaysDown id srv.splash.mode srv (srv.reap id) := by
  have refl : StaysDown id srv.splash.mode srv srv := (Same.refl srv).staysDown dark rfl
  rcases held : srv.connections id with _ | conn
  · simpa only [reap, held] using refl
  cases closed : conn.closed with
  | false => simpa [reap, held, closed] using refl
  | true =>
    have idle : conn.waiting ≠ some .password := by
      intro password
      exact lack (waits.waiting.mpr ⟨conn, held, password⟩)
    obtain ⟨hits, -, gone, -⟩ := reap_view waits held closed
    have reaped : srv.reap id = { srv with
        connections := Function.update srv.connections id none
        gone := Function.update srv.gone id (some conn)
        closing := srv.closing ++ [id] } := by
      simp [reap, held, closed, idle]
    refine ⟨?_, ?_, ?_, ?_, fun _ => hits.other, ?_⟩
    · rw [reaped]
      exact dark
    · rw [reaped]
    · rw [reaped]
    · rw [reaped]
    · apply Withholds.of_records
      intro other old known
      by_cases same : other = id
      · subst same
        rw [record_of_held held] at known
        cases known
        refine ⟨conn, ?_, rfl⟩
        unfold record
        rw [hits.own, gone]
        rfl
      · exact ⟨old, (hits.record same).trans known, rfl⟩

section Passwords

variable {bound : Nat} {serve : Server → Nat → Option Server} {text : Option Text}
  {rest : List (Nat × Option Text)}

/-- A waiting password is sent elsewhere, and what is queued behind it put through. -/
lemma answerPassword_dark (serves : Serves bound serve) (dims : ServesDark bound serve)
    (good : srv.Good busy) (quiet : ∀ other ∈ busy, other ∉ srv.waiters)
    (waiters : srv.passwordWaiters = (id, text) :: rest) (light : srv.load ≤ bound)
    (held : srv.connections id = some conn) (waits : conn.waiting = some .password)
    (dark : srv.splash.shown = false) (answering : answerPassword serve srv none = some after) :
    Walks id conn.queue (srv.answered id conn .noAnswer) after := by
  have ne := head_apart good.waits quiet held waits
  have ready : (srv.answered id conn .noAnswer).Ready id busy :=
    answered_ready good ne quiet held waits (password_fits none)
  have load : (srv.answered id conn .noAnswer).load = srv.load := answered_load good held
  obtain ⟨mid, serving, served, flushed⟩ := serves ready (by omega)
  have own := (answered_touches srv id conn .noAnswer).own
  have heard : conn.uid = srv.allowedUid := by
    obtain ⟨_, -, holds⟩ := (good.served ne held).1.order
    unfold Connection.Holds at holds
    rw [waits] at holds
    exact holds.1
  have walks := dims ready (by omega) own rfl heard dark serving
  rw [answerPassword_eq serve good.waits waiters, resume_eq serve held waits,
    show passwordReply none = .noAnswer from rfl, serving] at answering
  cases answering
  have reaped := reap_served served.good ne flushed
  constructor
  · intro mode through
    have down := walks.1 mode through
    have lack : id ∉ mid.waiters := by
      unfold Server.waiters
      rw [down.passwordWaiters]
      have without := srv.unasked_waiters id
      unfold Server.waiters at without
      rw [show (srv.answered id conn .noAnswer).passwordWaiters =
        (srv.unasked id).passwordWaiters from rfl, without]
      simp
    have drop := reap_staysDown served.good.waits lack down.shown
    have prompt := updatePrompt_staysDown id drop.shown
    rw [drop.mode] at prompt
    rw [down.mode] at drop prompt
    exact (down.trans drop).trans prompt
  · intro none
    exact .of_leads (.refl _ : Leads [] _ _) (walks.2 none)
      (reaped.leads.trans (updatePrompt_same _).leads)

lemma answered_withholds (held : srv.connections id = some conn)
    (reply : Reply) : Withholds srv (srv.answered id conn reply) := by
  have hits := answered_touches srv id conn reply
  apply Withholds.of_records
  intro other old known
  by_cases same : other = id
  · subst same
    rw [record_of_held held] at known
    cases known
    exact ⟨_, record_of_held hits.own, rfl⟩
  · exact ⟨old, (hits.record same).trans known, rfl⟩

lemma answered_waiters (waits : srv.Waits) (waiters : srv.passwordWaiters = (id, text) :: rest)
    (reply : Reply) : (srv.answered id conn reply).passwordWaiters = rest := by
  unfold answered
  rw [unasked_head waits waiters]
  rfl

lemma queuedBehind_head (waiters : srv.passwordWaiters = (id, text) :: rest)
    (held : srv.connections id = some conn) :
    srv.queuedBehind = conn.queue :: (rest.map Prod.fst).map fun id =>
      ((srv.connections id).map Connection.queue).getD [] := by
  unfold queuedBehind Server.waiters
  rw [waiters, map_cons, map_cons, held]
  rfl

lemma StaysDown.queuedBehind {mode : Mode} {reply : Reply} (waits : srv.Waits)
    (waiters : srv.passwordWaiters = (id, text) :: rest) (held : srv.connections id = some conn)
    (down : StaysDown id mode (srv.answered id conn reply) mid) :
    srv.queuedBehind = conn.queue :: mid.queuedBehind := by
  have uniq := waits.distinct
  unfold Server.waiters at uniq
  rw [waiters, map_cons, nodup_cons] at uniq
  have remaining : mid.waiters = rest.map Prod.fst := by
    unfold Server.waiters
    rw [down.passwordWaiters, answered_waiters waits waiters]
  rw [queuedBehind_head waiters held]
  unfold Server.queuedBehind
  rw [remaining]
  refine congrArg _ (map_congr_left ?_)
  intro other mem
  have ne : other ≠ id := fun same => uniq.1 (same ▸ mem)
  rw [down.others other ne, (answered_touches _ _ _ _).other ne]

/-- After one round the splash has been shown, or is down with the outlook it had. -/
lemma cancelRound_dark (serves : Serves bound serve) (dims : ServesDark bound serve)
    (good : srv.Good busy) (quiet : ∀ other ∈ busy, other ∉ srv.waiters)
    (waiters : srv.passwordWaiters = (id, text) :: rest) (light : srv.load ≤ bound)
    (dark : srv.splash.shown = false) (answering : answerPassword serve srv none = some after) :
    (srv.reshows = true ∧ Shows srv after) ∨
      (after.splash.shown = false ∧ srv.reshows = after.reshows ∧ Withholds srv after) := by
  obtain ⟨conn, held, waits⟩ := head_waits good.waits waiters
  have ne := head_apart good.waits quiet held waits
  have walks := answerPassword_dark serves dims good quiet waiters light held waits
    dark answering
  have first : Leads busy srv (srv.answered id conn .noAnswer) :=
    answered_leads good ne held (by exact nofun)
  cases through : putThrough srv.holdModeChanges srv.splash.mode
      conn.queue with
  | none =>
    refine .inl ⟨?_, Shows.of_leads first (walks.2 through) (.refl _ : Leads [] _ _)⟩
    unfold Server.reshows
    rw [queuedBehind_head waiters held, putAllThrough_cons, through]
    rfl
  | some mode =>
    have down := walks.1 mode through
    refine .inr ⟨down.shown, ?_, (answered_withholds held .noAnswer).trans down.withholds⟩
    unfold reshows
    rw [down.queuedBehind good.waits waiters held, putAllThrough_cons, through,
      down.hold, down.mode]
    rfl

lemma reshows_nil (waiters : srv.passwordWaiters = []) : srv.reshows = false := by
  unfold reshows queuedBehind Server.waiters
  rw [waiters]
  rfl

variable {most : Nat}

lemma cancelPasswords_dark_nil (dark : srv.splash.shown = false)
    (cancelling : cancelPasswords serve most srv = some after)
    (waiters : srv.passwordWaiters = []) : if srv.reshows then Shows srv after
    else after.splash.shown = false ∧ Withholds srv after := by
  rw [cancelPasswords_nil serve most waiters] at cancelling
  cases cancelling
  rw [reshows_nil waiters]
  exact ⟨dark, (Same.refl srv).withholds⟩

/-- With the splash down all waiting passwords are sent elsewhere, and it stays down if
nothing queued behind them shows it. -/
lemma cancelPasswords_dark (serves : Serves bound serve) (dims : ServesDark bound serve)
    (good : srv.Good busy) (quiet : ∀ other ∈ busy, other ∉ srv.waiters)
    (light : srv.load ≤ bound) (enough : srv.weight ≤ most) (dark : srv.splash.shown = false)
    (cancelling : cancelPasswords serve most srv = some after) : if srv.reshows then Shows srv after
    else after.splash.shown = false ∧ Withholds srv after := by
  induction most generalizing srv with
  | zero =>
    unfold weight at enough
    exact cancelPasswords_dark_nil dark cancelling (length_eq_zero_iff.mp (by omega))
  | succ most ih =>
    rcases waiters : srv.passwordWaiters with _ | ⟨⟨_, _⟩, _⟩
    · exact cancelPasswords_dark_nil dark cancelling waiters
    obtain ⟨_, answering, first, lighter⟩ := cancelRound_served serves good quiet waiters light
    have still := first.quiet good.waits quiet
    have lessLoad := Nat.le_trans first.leads.load light
    have fewer := Nat.le_of_lt_succ (Nat.lt_of_lt_of_le lighter enough)
    rw [cancelPasswords_cons serve most waiters, answering, bind_some] at cancelling
    obtain ⟨_, again, -, last⟩ := cancelPasswords_served serves first.good still lessLoad fewer
    rw [cancelling] at again
    cases again
    rcases cancelRound_dark serves dims good quiet waiters light dark answering with
      ⟨reshows, shows⟩ | ⟨down, same, withholds⟩
    · rw [reshows]
      exact .of_leads (.refl _ : Leads [] _ _) shows last.leads
    · have res := ih first.good still lessLoad fewer down cancelling
      rw [same]
      split
      next shows =>
        rw [if_pos shows] at res
        exact .of_leads first.leads res (.refl _ : Leads [] _ _)
      next stays =>
      rw [if_neg stays] at res
      exact ⟨res.1, withholds.trans res.2⟩

lemma endSplash_dark (serves : Serves bound serve) (dims : ServesDark bound serve)
    (good : srv.Good busy) (quiet : ∀ other ∈ busy, other ∉ srv.waiters)
    (light : srv.load ≤ bound) (shown : srv.splash.shown = true)
    (ending : endSplash serve srv = some after) : if srv.reshows then Shows srv after
    else after.splash.shown = false ∧ Withholds srv after := by
  have same : Same srv { srv with
      splash := { srv.splash with
        shown := false, frozen := false, messages := [], progress := none } } :=
    splash_same rfl
  unfold endSplash at ending
  rw [shown] at ending
  obtain ⟨mid, cancelling, rfl⟩ := Option.map_eq_some_iff.mp ending
  have changed := changed_same mid
  have res := cancelPasswords_dark serves dims (same.good good) quiet light
    (Nat.le_refl _) rfl cancelling
  change if srv.reshows then _ else _ at res
  split
  next shows =>
    rw [if_pos shows] at res
    exact .of_leads (same.leads : Leads [] _ _) res (changed.leads : Leads [] _ _)
  next stays =>
  rw [if_neg stays] at res
  refine ⟨?_, (same.withholds.trans res.2).trans changed.withholds⟩
  rw [changed_splash]
  exact res.1

end Passwords

lemma put_reshows (lack : id ∉ srv.waiters) : (srv.put id conn).reshows = srv.reshows := by
  have behind : (srv.put id conn).queuedBehind = srv.queuedBehind := by
    unfold queuedBehind
    rw [show (srv.put id conn).waiters = srv.waiters from rfl]
    apply map_congr_left
    intro other mem
    have ne : other ≠ id := fun same => lack (same ▸ mem)
    rw [(put_touches _ _ _).other ne]
  unfold reshows
  rw [behind]
  rfl

lemma wait_fields (srv : Server) (id : Nat) (waits : Waiting) :
    (srv.wait id waits).splash = srv.splash ∧
      (srv.wait id waits).passwordWaiters = srv.passwordWaiters := by
  unfold wait
  split <;> exact ⟨rfl, rfl⟩

lemma wait_withholds (srv : Server) (id : Nat) (waits : Waiting) :
    Withholds srv (srv.wait id waits) := by
  rcases held : srv.connections id with _ | _
  · unfold wait
    rw [held]
    exact (Same.refl srv).withholds
  · rw [wait_eq held]
    exact put_withholds held (nil_append _).symm not_mem_nil

/-- A quit is handled, perhaps while others are being handled further out. When it returns,
the splash is down, no password is waited for and nothing has shown the splash meanwhile,
if and only if the splash was up and what was queued behind the waiting passwords does
not show it, or nothing was waited for. -/
theorem quit_takes_down {most : Nat} {retain : Bool} {queue : List Request}
    (ready : server.Ready id busy) (present : server.connections id = some conn)
    (idle : conn.waiting = none) (queued : conn.queue = .quit retain :: queue)
    (enough : server.load ≤ most) : ∃ after reply,
      handle (serve most) (server.put id { conn with queue }) id (.quit retain) =
        some (after, reply) ∧
      ((after.splash.shown = false ∧ after.passwordWaiters = [] ∧ Withholds server after) ↔
        if server.splash.shown then server.reshows = false else server.passwordWaiters = []) := by
  have quiet := ready.quiet_cons present idle
  have load := taken_load ready.good present queued
  have taken := taken_served ready present queued
  have split : conn.queue = [.quit retain] ++ queue := queued
  have popped : Withholds server (server.put id { conn with queue }) :=
    put_withholds present split (by simp)
  unfold handle
  cases shown : server.splash.shown with
  | false =>
    have dark : (server.put id { conn with queue }).splash.shown = false := shown
    rw [dark]
    refine ⟨_, _, rfl, ?_⟩
    simp only [Bool.false_eq_true, if_false]
    exact ⟨fun down => down.2.1, fun unasked => ⟨dark, unasked, popped⟩⟩
  | true =>
    have lit : (server.put id { conn with queue }).splash.shown = true := shown
    have bound : server.load - 1 < most := by omega
    obtain ⟨after, ending, served, none⟩ := endSplash_served (serve_serves bound)
      taken.good quiet (by omega)
    have result := endSplash_dark (serve_serves bound) (serve_dark bound) taken.good quiet
      (by omega) lit ending
    rw [put_reshows (quiet id mem_cons_self)] at result
    have same : Same after { after with events := after.events ++ [Event.quit retain] } :=
      ⟨rfl, rfl, rfl, rfl, rfl, fun prompted => prompted⟩
    have here := (served.leads.kept (.head _)).trans (put_touches _ _ _).own
    obtain ⟨waits, -⟩ := wait_served (same.good served.good) ready.apart here idle
      (by simp : Waiting.quit ≠ .password)
    obtain ⟨splash, waiters⟩ := wait_fields
      { after with events := after.events ++ [Event.quit retain] } id .quit
    rw [lit, ending]
    refine ⟨_, _, rfl, ?_⟩
    rw [splash, waiters, if_pos rfl]
    cases reshows : server.reshows with
    | true =>
      rw [reshows, if_pos rfl] at result
      have shows := Shows.of_leads taken.leads result (same.leads.trans waits.leads)
      exact ⟨fun down => absurd down.2.2 shows.not_withholds, nofun⟩
    | false =>
      rw [reshows, if_neg Bool.false_ne_true] at result
      refine ⟨fun _ => rfl, fun _ => ⟨result.1, none lit, ?_⟩⟩
      exact ((popped.trans result.2).trans same.withholds).trans (wait_withholds _ _ _)

/-- One client shows the splash and asks for a password. -/
def oneAsks : List ServerOp := [.accept 0, .accept 0, .onReadable 1 [0x24, 0, 0x2a, 0] false]

/-- Another client's quit takes the splash down. -/
theorem quit_takes_down_asking : ∃ server connection after reply, server.Ready 2 [] ∧
      server.connections 2 = some connection ∧ connection.queue = [.quit false] ∧
      server.splash.shown = true ∧ server.waiters = [1] ∧
      handle (serve 1) (server.put 2 { connection with queue := [] }) 2 (.quit false) =
        some (after, reply) ∧
      after.splash.shown = false ∧ after.passwordWaiters = [] ∧ Withholds server after := by
  let start := (runUnder step (fun _ _ => True) oneAsks (new 0 {} [])).get (by decide +kernel)
  have run : Runs step (fun _ _ => True) (new 0 {} []) oneAsks start := runs_get _
  let read := reads { uid := 0 } [.quit false] [] false
  have ready : (start.put 2 read).Ready 2 [] := runs_ready run (by decide +kernel) rfl
  have own := (put_touches start 2 read).own
  have enough : (start.put 2 read).load ≤ 1 := by decide +kernel
  obtain ⟨after, reply, handled, down⟩ := quit_takes_down ready own rfl rfl enough
  exact ⟨start.put 2 read, read, after, reply, ready, own, rfl, by decide +kernel,
    by decide +kernel, handled, down.mpr (by decide +kernel)⟩

/-- One client asks for a password and then to show the splash. Another one's quit sends
the password elsewhere, and the splash is up when it has been handled. -/
theorem quit_shows_again : ∃ before after, Runs step (fun _ _ => True) (new 0 {} [])
        [.accept 0, .accept 0, .onReadable 1 [0x24, 0, 0x2a, 0, 0x24, 0] false] before ∧
      before.splash.shown = true ∧ before.reshows = true ∧
      before.step (.onReadable 2 [0x51, 0] false) = some after ∧
      (after.connections 2).map Connection.waiting = some (some .quit) ∧
      Event.quit false ∈ after.events ∧ after.splash.shown = true := by
  exact ⟨_, _, runs_get (by decide +kernel), by decide +kernel, by decide +kernel,
    (some_get (by decide +kernel)).symm, by decide +kernel, by decide +kernel, by decide +kernel⟩

end Server

end Synoik.Plymouth
