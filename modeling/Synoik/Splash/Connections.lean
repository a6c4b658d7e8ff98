import Mathlib.Data.List.Forall2
import Synoik.Splash.Server

/-!
# What holds of the splash's connections

The requests of a connection are those answered, the one that waits and those queued
behind it, and the password waiters are the connections that wait for a password. A
change either leaves the connections alone or touches one of them.
-/

namespace Synoik.Plymouth

open List

/-- Which replies a request can get. -/
def Request.fits : Request → Reply → Bool
  | .password _, .answer _ => true
  | .password _, reply | .cachedPassword, reply | .question _, reply
  | .watchKeystroke, reply => reply == .noAnswer
  | .hasActiveVt, reply | .unknown _, reply => reply == .nak
  | _, reply => reply == .ack

/-- Which replies a request of a client can get: nobody but the one user is heard. -/
def fits (heard : Bool) (request : Request) (reply : Reply) : Bool :=
  if heard then request.fits reply else reply == .nak

/-- What a request may wait for. -/
def Request.blocks : Request → Waiting → Bool
  | .password _, .password => true
  | .quit _, .quit => true
  | .changeMode _, .modeChange => true
  | _, _ => false

namespace Connection

/-- The requests read so far are those answered, one reply to each, those in hand and those
in the queue. -/
def Ordered (allowedUid : Nat) (conn : Connection) (inHand : List Request) : Prop :=
  ∃ answered, conn.asked = answered ++ inHand ++ conn.queue ∧
    List.Forall₂ (fun request reply =>
      fits (conn.uid = allowedUid) request reply = true) answered conn.replies

/-- The request after those that have been answered. -/
def first (conn : Connection) : Option Request := conn.asked[conn.replies.length]?

/-- What is in hand between two steps: the request that waits. -/
def Holds (allowedUid : Nat) (conn : Connection) (inHand : List Request) : Prop :=
  match conn.waiting with
  | none => inHand = []
  | some waiting => conn.uid = allowedUid ∧
      ∃ request, inHand = [request] ∧ request.blocks waiting = true

/-- A connection that can be served. -/
structure Steady (allowedUid : Nat) (conn : Connection) : Prop where
  order : ∃ inHand, conn.Ordered allowedUid inHand ∧ conn.Holds allowedUid inHand
  whole : nextRequest conn.buffer = none
  told : conn.written ++ conn.out = conn.replies.flatMap Reply.encode

/-- A connection that has been served. -/
structure Flushed (allowedUid : Nat) (conn : Connection) : Prop where
  order : ∃ inHand, conn.Ordered allowedUid inHand ∧ conn.Holds allowedUid inHand
  whole : nextRequest conn.buffer = none
  settled : conn.waiting = none → conn.queue = []
  out : conn.out = []
  sent : conn.written <+: conn.replies.flatMap Reply.encode
  told : conn.closed = false → conn.written = conn.replies.flatMap Reply.encode

variable {allowedUid : Nat} {conn : Connection}

lemma Flushed.steady (flushed : conn.Flushed allowedUid)
    (stays : conn.closed = false) : conn.Steady allowedUid where
  order := flushed.order
  whole := flushed.whole
  told := by rw [flushed.out, flushed.told stays, append_nil]

lemma Flushed.close (flushed : conn.Flushed allowedUid) :
    Flushed allowedUid { conn with closed := true } where
  order := flushed.order
  whole := flushed.whole
  settled := flushed.settled
  out := flushed.out
  sent := flushed.sent
  told := fun opens => nomatch opens

lemma Ordered.reply {req : Request} {reply : Reply} (ordered : conn.Ordered allowedUid [req])
    (fitting : fits (conn.uid = allowedUid) req reply = true) :
    (conn.reply reply).Ordered allowedUid [] := by
  obtain ⟨answered, asked, replies⟩ := ordered
  refine ⟨answered ++ [req], by simpa [Connection.reply] using asked, ?_⟩
  exact rel_append replies (.cons fitting .nil)

lemma told_reply (told : conn.written ++ conn.out =
      conn.replies.flatMap Reply.encode) (reply : Reply) :
    (conn.reply reply).written ++ (conn.reply reply).out =
      (conn.reply reply).replies.flatMap Reply.encode := by
  simp [Connection.reply, ← told]

end Connection

namespace Server

variable {srv after pre mid : Server} {id : Nat} {busy : List Nat}

/-- How many requests a connection has queued, if it is there. -/
def queueLength (conn : Option Connection) : Nat := (conn.map fun conn => conn.queue.length).getD 0

lemma queued_update {connections : Nat → Option Connection} {bound : Nat}
    {val : Option Connection} (inside : id < bound) :
    queued (Function.update connections id val) bound + queueLength (connections id) =
      queued connections bound + queueLength val := by
  have out {bound : Nat} (out : bound ≤ id) :
      queued (Function.update connections id val) bound = queued connections bound := by
    induction bound with
    | zero => rfl
    | succ bound ih =>
      have ne : bound ≠ id := Nat.ne_of_lt out
      simp only [queued, Function.update_of_ne ne]
      rw [ih (Nat.le_of_lt out)]
  induction bound with
  | zero => exact absurd inside (Nat.not_lt_zero _)
  | succ bound ih =>
    by_cases last : id = bound
    · subst last
      simp only [queued, Function.update_self, out (Nat.le_refl _), queueLength]
      omega
    · have ne : bound ≠ id := fun same => last same.symm
      have inside : id < bound := by omega
      have rest := ih inside
      simp only [queued, Function.update_of_ne ne] at rest ⊢
      omega

def waiters (server : Server) : List Nat := server.passwordWaiters.map Prod.fst

lemma mem_waiters : id ∈ srv.waiters ↔ ∃ text, (id, text) ∈ srv.passwordWaiters := by
  simp [waiters]

/-- The password waiters are the connections that wait for one, each with the prompt it
asked for. -/
structure Waits (server : Server) : Prop where
  distinct : server.waiters.Nodup
  waiting : ∀ {id : Nat}, id ∈ server.waiters ↔ ∃ conn,
    server.connections id = some conn ∧ conn.waiting = some .password
  prompts : ∀ {id : Nat} {text : Option Text}, (id, text) ∈ server.passwordWaiters →
    ∃ conn, server.connections id = some conn ∧ conn.first = some (.password text)
  spawned : ∀ {id : Nat} {conn : Connection}, server.connections id = some conn → id < server.nextId

/-- Every connection has been served, those apart that are being served. -/
structure Good (server : Server) (apart : List Nat) : Prop where
  waits : server.Waits
  served : ∀ {id : Nat} {conn : Connection}, id ∉ apart →
    server.connections id = some conn → conn.Flushed server.allowedUid ∧ conn.closed = false
  dropped : ∀ {id : Nat} {conn : Connection},
    server.gone id = some conn → conn.Flushed server.allowedUid
  former : ∀ {id : Nat} {conn : Connection}, server.gone id = some conn → id < server.nextId

/-- The prompt on the splash is that of the first waiter. -/
def Prompted (server : Server) : Prop :=
  server.splash.passwordPrompt = server.passwordWaiters.head?.map fun waiter => Prompt.mk waiter.2

/-- A connection as it is, or as it was when it was dropped. -/
def record (server : Server) (id : Nat) : Option Connection :=
  (server.connections id).or (server.gone id)

lemma record_of_held {conn : Connection}
    (held : srv.connections id = some conn) : srv.record id = some conn := by
  unfold record
  rw [held]
  rfl

/-- How many passwords can still be waited for. -/
def weight (server : Server) : Nat := server.passwordWaiters.length + server.load

/-- Replies that came after others, none of them an answer. -/
def Continues (before after : List Reply) : Prop :=
  ∃ more, after = before ++ more ∧ ∀ answer, .answer answer ∉ more

lemma Continues.refl (replies : List Reply) : Continues replies replies := ⟨[], by simp, by simp⟩

lemma Continues.trans {one last third : List Reply} (early : Continues one last)
    (late : Continues last third) : Continues one third := by
  obtain ⟨more, rfl, quiet⟩ := early
  obtain ⟨rest, rfl, still⟩ := late
  refine ⟨more ++ rest, by simp, fun answer mem => ?_⟩
  obtain mem | mem := mem_append.mp mem
  · exact quiet answer mem
  · exact still answer mem

lemma Continues.append {replies : List Reply} {reply : Reply}
    (other : ∀ answer, reply ≠ .answer answer) : Continues replies (replies ++ [reply]) :=
  ⟨[reply], rfl, fun answer mem => other answer (mem_singleton.mp mem).symm⟩

/-- A connection at two times: replies have come, and requests been taken from the
queue. -/
structure Goes (before after : Connection) : Prop where
  replies : Continues before.replies after.replies
  queue : after.queue <:+ before.queue

lemma Goes.refl (conn : Connection) : Goes conn conn := ⟨.refl _, suffix_refl _⟩

lemma Goes.trans {one last third : Connection} (early : Goes one last)
    (late : Goes last third) : Goes one third :=
  ⟨early.replies.trans late.replies, late.queue.trans early.queue⟩

/-- What happens between two states while some connections are being served further
out. -/
structure Leads (busy : List Nat) (before after : Server) : Prop where
  kept : ∀ {id : Nat}, id ∈ busy → after.connections id = before.connections id
  allowedUid : after.allowedUid = before.allowedUid
  nextId : after.nextId = before.nextId
  load : after.load ≤ before.load
  weight : after.weight ≤ before.weight
  records : ∀ {id : Nat} {conn : Connection}, before.record id = some conn →
    ∃ later, after.record id = some later ∧ Goes conn later
  unknown : ∀ {id : Nat}, before.record id = none → after.record id = none

lemma Leads.refl (srv : Server) : Leads busy srv srv where
  kept _ := rfl
  allowedUid := rfl
  nextId := rfl
  load := Nat.le_refl _
  weight := Nat.le_refl _
  records old := ⟨_, old, .refl _⟩
  unknown lack := lack

lemma Leads.trans (one : Leads busy pre mid) (second : Leads busy mid after) :
    Leads busy pre after where
  kept mem := (second.kept mem).trans (one.kept mem)
  allowedUid := second.allowedUid.trans one.allowedUid
  nextId := second.nextId.trans one.nextId
  load := Nat.le_trans second.load one.load
  weight := Nat.le_trans second.weight one.weight
  records old := by
    obtain ⟨_, old, early⟩ := one.records old
    obtain ⟨last, old, late⟩ := second.records old
    exact ⟨last, old, early.trans late⟩
  unknown lack := second.unknown (one.unknown lack)

lemma Leads.fewer {rest : List Nat} (leads : Leads rest pre after)
    (subset : busy ⊆ rest) : Leads busy pre after :=
  { leads with kept := fun mem => leads.kept (subset mem) }

/-- Such a change that leaves every connection served, some apart. -/
structure Served (apart busy : List Nat) (before after : Server) : Prop where
  good : after.Good apart
  leads : Leads busy before after
  prompted : before.Prompted → after.Prompted

lemma Served.trans {early late : List Nat} (one : Served early busy pre mid)
    (last : Served late busy mid after) : Served late busy pre after :=
  ⟨last.good, one.leads.trans last.leads, last.prompted ∘ one.prompted⟩

lemma Good.unchanged {out : List Nat} (good : srv.Good out) : Served out busy srv srv :=
  ⟨good, .refl _, fun asks => asks⟩

/-- The splash and the events apart, nothing has changed. -/
structure Same (before after : Server) : Prop where
  connections : after.connections = before.connections
  nextId : after.nextId = before.nextId
  allowedUid : after.allowedUid = before.allowedUid
  passwordWaiters : after.passwordWaiters = before.passwordWaiters
  gone : after.gone = before.gone
  prompted : before.Prompted → after.Prompted

namespace Same

lemma refl (srv : Server) : Same srv srv := ⟨rfl, rfl, rfl, rfl, rfl, id⟩

lemma trans (one : Same pre mid) (last : Same mid after) : Same pre after :=
  ⟨last.connections.trans one.connections, last.nextId.trans one.nextId,
    last.allowedUid.trans one.allowedUid,
    last.passwordWaiters.trans one.passwordWaiters, last.gone.trans one.gone,
    last.prompted ∘ one.prompted⟩

section

variable (same : Same pre after)
include same

lemma load : after.load = pre.load := by
  unfold Server.load
  rw [same.connections, same.nextId]

lemma weight : after.weight = pre.weight := by
  unfold Server.weight
  rw [same.passwordWaiters, same.load]

lemma good {out : List Nat} (good : pre.Good out) : after.Good out := by
  obtain ⟨connections, nextId, allowedUid, passwordWaiters, gone, -⟩ := same
  constructor
  · constructor
    · unfold waiters
      rw [passwordWaiters]
      exact good.waits.distinct
    · unfold waiters
      rw [passwordWaiters, connections]
      exact good.waits.waiting
    · rw [passwordWaiters, connections]
      exact good.waits.prompts
    · rw [connections, nextId]
      exact good.waits.spawned
  · rw [connections, allowedUid]
    exact good.served
  · rw [gone, allowedUid]
    exact good.dropped
  · rw [gone, nextId]
    exact good.former

lemma record (id : Nat) : after.record id = pre.record id := by
  unfold Server.record
  rw [same.connections, same.gone]

lemma leads : Leads busy pre after where
  kept _ := by rw [same.connections]
  allowedUid := same.allowedUid
  nextId := same.nextId
  load := Nat.le_of_eq same.load
  weight := Nat.le_of_eq same.weight
  records old := ⟨_, (same.record _).trans old, .refl _⟩
  unknown lack := (same.record _).trans lack

lemma served {out : List Nat} (good : pre.Good out) : Served out busy pre after :=
  ⟨same.good good, same.leads, same.prompted⟩

end

end Same

lemma changed_same (srv : Server) : Same srv srv.changed := by
  unfold changed
  split
  · exact .refl _
  · exact ⟨rfl, rfl, rfl, rfl, rfl, id⟩

lemma splash_same {splash : Splash} (prompt : splash.passwordPrompt = srv.splash.passwordPrompt) :
    Same srv { srv with splash } :=
  ⟨rfl, rfl, rfl, rfl, rfl, fun asks => prompt.trans asks⟩

lemma splash_changed_same {splash : Splash}
    (prompt : splash.passwordPrompt = srv.splash.passwordPrompt) :
    Same srv { srv with splash }.changed :=
  (splash_same prompt).trans (changed_same _)

lemma changed_splash (srv : Server) : srv.changed.splash = srv.splash := by
  unfold changed
  split <;> rfl

lemma updatePrompt_prompted (srv : Server) : srv.updatePrompt.Prompted := by
  dsimp only [updatePrompt]
  split
  next asks => exact asks
  · unfold Prompted
    rw [changed_splash, (changed_same _).passwordWaiters]

lemma updatePrompt_same (srv : Server) : Same srv srv.updatePrompt := by
  have asks := srv.updatePrompt_prompted
  revert asks
  dsimp only [updatePrompt]
  split
  · exact fun _ => .refl _
  · intro asks
    have same := changed_same { srv with
      splash := { srv.splash with
        passwordPrompt := srv.passwordWaiters.head?.map fun waiter =>
          Prompt.mk waiter.2 } }
    exact ⟨same.connections, same.nextId, same.allowedUid, same.passwordWaiters, same.gone,
      fun _ => asks⟩

lemma showSplash_same (srv : Server) : Same srv srv.showSplash := by
  unfold showSplash
  split
  · exact splash_changed_same rfl
  · exact .refl _

/-- One connection has changed, and the waiting passwords perhaps. -/
structure Touches (id : Nat) (value : Option Connection) (before after : Server) : Prop where
  connections : after.connections = Function.update before.connections id value
  nextId : after.nextId = before.nextId
  allowedUid : after.allowedUid = before.allowedUid
  gone : ∀ other, other ≠ id → after.gone other = before.gone other

namespace Touches

variable {val : Option Connection} {conn : Connection}

section

variable (hits : Touches id val pre after)
include hits

lemma own : after.connections id = val := by
  rw [hits.connections, Function.update_self]

lemma other {other : Nat}
    (ne : other ≠ id) : after.connections other = pre.connections other := by
  rw [hits.connections, Function.update_of_ne ne]

lemma load (inside : id < pre.nextId) :
    after.load + queueLength (pre.connections id) = pre.load + queueLength val := by
  unfold Server.load
  rw [hits.connections, hits.nextId]
  exact queued_update inside

lemma waits (waits : pre.Waits) (inside : id < pre.nextId) (uniq : after.waiters.Nodup)
    (rest : ∀ {other text}, other ≠ id →
      ((other, text) ∈ after.passwordWaiters ↔ (other, text) ∈ pre.passwordWaiters))
    (own : id ∈ after.waiters ↔ ∃ conn, val = some conn ∧ conn.waiting = some .password)
    (prompts : ∀ {text}, (id, text) ∈ after.passwordWaiters →
      ∃ conn, val = some conn ∧ conn.first = some (.password text)) : after.Waits where
  distinct := uniq
  waiting := by
    intro other
    by_cases same : other = id
    · subst same
      rw [own, hits.own]
    · rw [hits.other same, ← waits.waiting, mem_waiters, mem_waiters]
      simp only [rest same]
  prompts := by
    intro other _ mem
    by_cases same : other = id
    · subst same
      rw [hits.own]
      exact prompts mem
    · rw [hits.other same]
      exact waits.prompts ((rest same).mp mem)
  spawned := by
    intro other _ held
    rw [hits.nextId]
    by_cases same : other = id
    · exact same ▸ inside
    · rw [hits.other same] at held
      exact waits.spawned held

lemma good (good : pre.Good (id :: busy)) (inside : id < pre.nextId) (waits : after.Waits)
    (dropped : ∀ {conn : Connection}, after.gone id = some conn → conn.Flushed after.allowedUid) :
    after.Good (id :: busy) where
  waits := waits
  served := by
    intro other conn out held
    have ne : other ≠ id := fun same => out (same ▸ (.head _))
    rw [hits.other ne] at held
    rw [hits.allowedUid]
    exact good.served out held
  dropped := by
    intro other conn held
    by_cases same : other = id
    · subst same
      exact dropped held
    · rw [hits.gone other same] at held
      rw [hits.allowedUid]
      exact good.dropped held
  former := by
    intro other _ held
    rw [hits.nextId]
    by_cases same : other = id
    · exact same ▸ inside
    · rw [hits.gone other same] at held
      exact good.former held

lemma record {other : Nat} (ne : other ≠ id) : after.record other = pre.record other := by
  unfold Server.record
  rw [hits.other ne, hits.gone other ne]

lemma leads (inside : id < pre.nextId) (held : pre.connections id = some conn) (free : id ∉ busy)
    (shorter : queueLength val ≤ queueLength (pre.connections id))
    (lighter : after.passwordWaiters.length + queueLength val ≤
      pre.passwordWaiters.length + queueLength (pre.connections id))
    (records : ∀ {conn : Connection}, pre.record id = some conn →
      ∃ later, after.record id = some later ∧ Goes conn later) : Leads busy pre after where
  kept mem := hits.other fun same => free (same ▸ mem)
  allowedUid := hits.allowedUid
  nextId := hits.nextId
  load := by
    have load := hits.load inside
    omega
  weight := by
    have load := hits.load inside
    unfold Server.weight
    omega
  records := by
    intro other conn old
    by_cases same : other = id
    · subst same
      exact records old
    · exact ⟨conn, (hits.record same).trans old, .refl _⟩
  unknown := by
    intro other lack
    by_cases same : other = id
    · subst same
      rw [record_of_held held] at lack
      cases lack
    · exact (hits.record same).trans lack

end

end Touches

variable {conn later : Connection}

lemma queueLength_le (goes : Goes conn later) :
    queueLength (some later) ≤ queueLength (some conn) :=
  goes.queue.length_le

lemma put_touches (srv : Server) (id : Nat) (conn : Connection) :
    Touches id (some conn) srv (srv.put id conn) :=
  ⟨rfl, rfl, rfl, fun _ _ => rfl⟩

lemma put_records (held : srv.connections id = some conn)
    (goes : Goes conn later) {old : Connection} (known : srv.record id = some old) :
    ∃ new, (srv.put id later).record id = some new ∧ Goes old new := by
  rw [record_of_held held] at known
  cases known
  exact ⟨later, record_of_held (put_touches srv id later).own, goes⟩

lemma put_leads (good : srv.Good (id :: busy)) (free : id ∉ busy)
    (held : srv.connections id = some conn) (goes : Goes conn later) :
    Leads busy srv (srv.put id later) := by
  have shorter := queueLength_le goes
  rw [← held] at shorter
  exact (put_touches srv id later).leads (good.waits.spawned held) held free
    shorter (Nat.add_le_add_left shorter _) (put_records held goes)

/-- Whether a connection waits for a password, and which, is left alone. -/
structure Steadily (conn later : Connection) : Prop where
  status : later.waiting = some .password ↔ conn.waiting = some .password
  first : conn.waiting = some .password → conn.first = later.first

lemma Steadily.of_eq (waits : later.waiting = conn.waiting) (asked : later.asked = conn.asked)
    (replies : later.replies = conn.replies) : Steadily conn later where
  status := by rw [waits]
  first _ := by
    unfold Connection.first
    rw [asked, replies]

lemma Steadily.of_ne (idle : conn.waiting ≠ some .password)
    (later_idle : later.waiting ≠ some .password) : Steadily conn later where
  status := iff_of_false later_idle idle
  first waits := absurd waits idle

lemma put_waits (waits : srv.Waits) (held : srv.connections id = some conn)
    (steadily : Steadily conn later) : (srv.put id later).Waits := by
  refine (put_touches srv id later).waits waits (waits.spawned held) waits.distinct
    (fun _ => Iff.rfl) ?_ ?_
  · rw [show (srv.put id later).waiters = srv.waiters from rfl, waits.waiting, held]
    simpa using steadily.status.symm
  · intro text mem
    obtain ⟨_, here, one⟩ := waits.prompts mem
    rw [held] at here
    cases here
    obtain ⟨_, here, waiting⟩ := waits.waiting.mp (mem_waiters.mpr ⟨text, mem⟩)
    rw [held] at here
    cases here
    exact ⟨later, rfl, (steadily.first waiting).symm.trans one⟩

lemma put_served (good : srv.Good (id :: busy)) (free : id ∉ busy)
    (held : srv.connections id = some conn) (goes : Goes conn later)
    (steadily : Steadily conn later) : Served (id :: busy) busy srv (srv.put id later) where
  good := by
    exact (put_touches srv id later).good good (good.waits.spawned held)
      (put_waits good.waits held steadily) fun held => good.dropped held
  leads := put_leads good free held goes
  prompted := fun asks => asks

lemma flush_view (held : srv.connections id = some conn) :
    ∃ written closed, written <+: conn.written ++ conn.out ∧ (closed = false → conn.closed = false ∧
        written = conn.written ++ conn.out) ∧
      Same (srv.put id { conn with written, out := [], closed }) (srv.flush id) := by
  have all (same : Same (srv.put id { conn with
        written := conn.written ++ conn.out, out := [] }) (srv.flush id)) :
      ∃ written closed, written <+: conn.written ++ conn.out ∧
        (closed = false → conn.closed = false ∧ written = conn.written ++ conn.out) ∧
        Same (srv.put id { conn with written, out := [], closed }) (srv.flush id) :=
    ⟨_, conn.closed, prefix_refl _, fun stays => ⟨stays, rfl⟩, same⟩
  unfold flush at all ⊢
  rw [held] at all ⊢
  dsimp only at all ⊢
  by_cases empty : conn.out.isEmpty
  · rw [if_pos empty] at all ⊢
    apply all
    have nothing : conn.out = [] := isEmpty_iff.mp empty
    have unchanged : ({ conn with
        written := conn.written ++ conn.out, out := [] } : Connection) = conn := by
      rw [nothing, append_nil, ← nothing]
    rw [unchanged]
    refine ⟨?_, rfl, rfl, rfl, rfl, fun asks => asks⟩
    exact (Function.update_eq_self_iff.mpr held.symm).symm
  · rw [if_neg empty] at all ⊢
    revert all
    cases srv.fates.head?.join with
    | none => exact fun all => all ⟨rfl, rfl, rfl, rfl, rfl, fun asks => asks⟩
    | some most =>
      dsimp only
      by_cases cut : most < conn.out.length
      · intro _
        refine ⟨conn.written ++ conn.out.take most, true, ?_, nofun, ?_⟩
        · exact (prefix_append_right_inj _).mpr ( take_prefix _ _)
        · rw [if_pos cut]
          exact ⟨rfl, rfl, rfl, rfl, rfl, fun asks => asks⟩
      · rw [if_neg cut]
        exact fun all => all ⟨rfl, rfl, rfl, rfl, rfl, fun asks => asks⟩

lemma flush_served (good : srv.Good (id :: busy)) (free : id ∉ busy)
    (held : srv.connections id = some conn) (steady : conn.Steady srv.allowedUid)
    (settled : conn.waiting = none → conn.queue = []) :
    Served (id :: busy) busy srv (srv.flush id) ∧
      ∃ later, (srv.flush id).connections id = some later ∧ later.Flushed srv.allowedUid := by
  obtain ⟨written, closed, sent, told, same⟩ := flush_view held
  have put : Served (id :: busy) busy srv (srv.put id { conn with written, out := [], closed }) :=
    put_served good free held ⟨.refl _, suffix_refl _⟩ (.of_eq rfl rfl rfl)
  refine ⟨put.trans (same.served put.good), { conn with written, out := [], closed }, ?_, ?_⟩
  · rw [same.connections]
    exact (put_touches _ _ _).own
  · exact {
      order := steady.order
      whole := steady.whole
      settled := settled
      out := rfl
      sent := by
        rw [← steady.told]
        exact sent
      told := fun stays => (told stays).2.trans steady.told }

/-- The state without one of the password waiters. -/
def unasked (server : Server) (id : Nat) : Server :=
  { server with passwordWaiters := server.passwordWaiters.filter fun waiter => waiter.1 ≠ id }

lemma unasked_waiters (srv : Server) (id : Nat) :
    (srv.unasked id).waiters = srv.waiters.filter (· ≠ id) := by
  unfold waiters unasked
  rw [filter_map]
  rfl

lemma unasked_eq_self (lack : id ∉ srv.waiters) : srv.unasked id = srv := by
  unfold unasked
  rw [filter_eq_self.mpr]
  intro _ mem
  rw [decide_eq_true_iff]
  rintro rfl
  exact lack (mem_map_of_mem mem)

lemma unasked_length (srv : Server) (id : Nat) :
    (srv.unasked id).passwordWaiters.length ≤ srv.passwordWaiters.length :=
  length_filter_le _ _

lemma Touches.waits_without {val : Option Connection}
    (hits : Touches id val pre after) (waits : pre.Waits) (inside : id < pre.nextId)
    (waiters : after.passwordWaiters = (pre.unasked id).passwordWaiters)
    (waiting : ∀ conn, val = some conn → conn.waiting ≠ some .password) : after.Waits := by
  have without : after.waiters = pre.waiters.filter (· ≠ id) := by
    rw [← unasked_waiters]
    unfold Server.waiters
    rw [waiters]
  have none {text : Option Text} : (id, text) ∉ after.passwordWaiters := by
    rw [waiters]
    simp [unasked]
  refine hits.waits waits inside ?_ ?_ ?_ fun mem => absurd mem none
  · rw [without]
    exact waits.distinct.filter _
  · intro _ _ ne
    rw [waiters]
    simp [unasked, ne]
  · rw [without, mem_filter, decide_eq_true_iff]
    constructor
    · intro ⟨_, ne⟩
      exact absurd rfl ne
    · intro ⟨conn, held, waits⟩
      exact absurd waits (waiting conn held)

lemma reap_view (waits : srv.Waits) (held : srv.connections id = some conn)
    (closed : conn.closed = true) : Touches id none srv (srv.reap id) ∧
      (srv.reap id).passwordWaiters = (srv.unasked id).passwordWaiters ∧
      (srv.reap id).gone id = some conn ∧ (srv.Prompted → (srv.reap id).Prompted) := by
  have dropped (base : Server) (same : Same (srv.unasked id) base)
      (asks : srv.Prompted → base.Prompted) (reaped : srv.reap id = { base with
        connections := Function.update base.connections id none
        gone := Function.update base.gone id (some conn)
        closing := base.closing ++ [id] }) :
      Touches id none srv (srv.reap id) ∧
        (srv.reap id).passwordWaiters = (srv.unasked id).passwordWaiters ∧
        (srv.reap id).gone id = some conn ∧ (srv.Prompted → (srv.reap id).Prompted) := by
    rw [reaped]
    refine ⟨⟨?_, same.nextId, same.allowedUid, ?_⟩, same.passwordWaiters, ?_, asks⟩
    · rw [same.connections]
      rfl
    · intro _ ne
      dsimp only
      rw [same.gone, Function.update_of_ne ne]
      rfl
    · exact Function.update_self _ _ _
  by_cases waiting : conn.waiting = some .password
  · apply dropped _ (updatePrompt_same _) fun _ => updatePrompt_prompted _
    simp only [reap, held, closed, waiting, Bool.not_true, Bool.false_eq_true, if_false, if_true]
    rfl
  · have lack : id ∉ srv.waiters := by
      rw [waits.waiting, held]
      simpa using waiting
    apply dropped srv
    · rw [unasked_eq_self lack]
      exact .refl _
    · exact fun asks => asks
    · simp only [reap, held, closed, waiting, Bool.not_true, Bool.false_eq_true, if_false]

lemma reap_served (good : srv.Good (id :: busy)) (free : id ∉ busy)
    (flushed : ∀ {conn : Connection}, srv.connections id = some conn →
      conn.Flushed srv.allowedUid) : Served busy busy srv (srv.reap id) := by
  -- A connection that is flushed and stays, or is not there, is not apart any more.
  have stays (kept : srv.reap id = srv)
      (opened : ∀ {conn : Connection}, srv.connections id = some conn →
        conn.closed = false) : Served busy busy srv (srv.reap id) := by
    rw [kept]
    refine ⟨⟨good.waits, ?_, good.dropped, good.former⟩, .refl _, fun asks => asks⟩
    intro other conn out held
    by_cases same : other = id
    · subst same
      exact ⟨flushed held, opened held⟩
    · exact good.served (by simp [same, out]) held
  rcases held : srv.connections id with _ | conn
  · apply stays
    · simp only [reap, held]
    · rw [held]
      exact nofun
  · cases closed : conn.closed with
    | false =>
      apply stays
      · simp only [reap, held, closed, Bool.not_false, if_true]
      · intro other same
        rw [held] at same
        cases same
        exact closed
    | true =>
      obtain ⟨hits, waiters, gone, asks⟩ := reap_view good.waits held closed
      have inside := good.waits.spawned held
      have waits := hits.waits_without good.waits inside waiters nofun
      have kept : (srv.reap id).Good (id :: busy) := by
        apply hits.good good inside waits
        intro other same
        rw [gone] at same
        cases same
        rw [hits.allowedUid]
        exact flushed held
      refine ⟨⟨waits, ?_, kept.dropped, kept.former⟩, ?_, asks⟩
      · intro _ conn out here
        refine kept.served ?_ here
        rw [mem_cons, not_or]
        refine ⟨?_, out⟩
        rintro rfl
        rw [hits.own] at here
        cases here
      · refine hits.leads inside held free (Nat.zero_le _) ?_ ?_
        · rw [waiters]
          have fewer := srv.unasked_length id
          have nothing : queueLength none = 0 := rfl
          omega
        · intro _ old
          rw [record_of_held held] at old
          cases old
          refine ⟨conn, ?_, .refl _⟩
          unfold record
          rw [hits.own, gone]
          rfl

end Server

end Synoik.Plymouth
