import Synoik.Shield.Gate

/-!
# A locked session can always be got back into

Beside the shield stands what became of its requests: which is the last one that
was not cancelled, which are unanswered, whether the last one has an open channel,
and how many retries are scheduled.
-/

namespace Synoik

open ScreenShield

/-- The calls the compositor makes on a session's shield. -/
inductive ShieldOp where
  | setSettings (settings : ShieldSettings)
  | activate (now : Duration)
  | deactivate
  | lock (now : Duration) (passwordModeNone : Bool)
  | lockInstant (now : Duration) (passwordModeNone : Bool)
  | authenticatorReady (epoch : Epoch) (ready : Bool)
  | authenticatorLost
  | retryAuthenticator
  /-- The foreground service changed: the conversation is cancelled and begun
  again. -/
  | restart
  | onSessionIdle (now : Duration)
  | fadeComplete (now : Duration)
  | onUserActive
  | wakeUpScreen
  | prepareForSleep (aboutToSuspend : Bool) (now : Duration) (passwordModeNone : Bool)

namespace ScreenShield

/-- A refused lock changes nothing and asks for nothing. -/
def orRefused (shield : ScreenShield)
    (moved : Except LockRefused (ScreenShield × ShieldEffects)) :
    ScreenShield × ShieldEffects :=
  match moved with
  | .ok moved => moved
  | .error _ => (shield, {})

def restart (shield : ScreenShield) : ScreenShield × ShieldEffects :=
  if !shield.locked then
    (shield, {})
  else
    let (shield, effects) := shield.dropAuthenticator.retryAuthenticator
    (shield, { effects with cancelAuthenticator := true })

variable {shield : ScreenShield}

lemma restart_asks (locked : shield.locked = true) (active : shield.active = true) :
    shield.Turns shield.restart shield.gate.asking
      { request := some (shield.epoch + 1), cancel := true } := by
  have asks : shield.dropAuthenticator.Turns shield.dropAuthenticator.retryAuthenticator
      shield.gate.asking { request := some (shield.epoch + 1) } :=
    retryAuthenticator_asks locked active rfl
  unfold restart
  rw [if_neg (by simp [locked])]
  refine ⟨asks.greeter, asks.gate, ?_⟩
  rw [Wants.mk.injEq]
  exact ⟨congrArg Wants.request asks.wants, rfl, congrArg Wants.retry asks.wants⟩

lemma orRefused_moves {moved : Except LockRefused (ScreenShield × ShieldEffects)}
    (moves : ∀ done, moved = .ok done → shield.Moves done) :
    shield.Moves (shield.orRefused moved) := by
  cases moved with
  | ok done => exact moves done rfl
  | error => exact ⟨rfl, .keep⟩

end ScreenShield

def ShieldOp.apply (shield : ScreenShield) : ShieldOp → ScreenShield × ShieldEffects
  | .setSettings settings => (shield.setSettings settings, {})
  | .activate now => shield.activate now
  | .deactivate => shield.deactivate
  | .lock now passwordModeNone => shield.orRefused (shield.lock now passwordModeNone)
  | .lockInstant now passwordModeNone =>
    shield.orRefused (shield.lockInstant now passwordModeNone)
  | .authenticatorReady epoch ready => shield.authenticatorReady epoch ready
  | .authenticatorLost => shield.authenticatorLost
  | .retryAuthenticator => shield.retryAuthenticator
  | .restart => shield.restart
  | .onSessionIdle now => shield.onSessionIdle now
  | .fadeComplete now => shield.fadeComplete now
  | .onUserActive => shield.onUserActive
  | .wakeUpScreen => shield.wakeUpScreen
  | .prepareForSleep aboutToSuspend now passwordModeNone =>
    shield.prepareForSleep aboutToSuspend now passwordModeNone

/-- The shield and what became of its requests. -/
structure Line where
  shield : ScreenShield := {}
  /-- The last request, unless it was cancelled. -/
  latest : Option Epoch := none
  unanswered : List Epoch := []
  /-- Whether the last request was granted and its channel not lost since. -/
  channel : Bool := false
  retries : Nat := 0

namespace Line

/-- What a call tells about the requests before the shield acts on it. -/
def hear (line : Line) : ShieldOp → Line
  | .authenticatorReady epoch ready =>
    { line with
      unanswered := line.unanswered.filter (· != epoch)
      channel := line.channel || (ready && line.latest == some epoch) }
  | .authenticatorLost => { line with unanswered := [], channel := false }
  | .retryAuthenticator => { line with retries := line.retries - 1 }
  | _ => line

/-- What the shield's effects do to the requests. -/
def record (line : Line) (effects : ShieldEffects) : Line :=
  let line :=
    if effects.cancelAuthenticator then { line with latest := none, channel := false }
    else line
  let line :=
    match effects.requestAuthenticator with
    | some epoch =>
      { line with
        latest := some epoch
        unanswered := epoch :: line.unanswered
        channel := false }
    | none => line
  match effects.retryAuthenticatorAfter with
  | some _ => { line with retries := line.retries + 1 }
  | none => line

def step (line : Line) (op : ShieldOp) : Line :=
  let moved := op.apply line.shield
  { line.hear op with shield := moved.1 }.record moved.2

/-- A session from its start, through the calls in order. -/
def run (settings : ShieldSettings) (ops : List ShieldOp) : Line :=
  ops.foldl step { shield := { settings } }

/-- What every call keeps. The request that is waited for is the last one and is
unanswered, and a locked shield waits for one, has its channel, or will ask again. -/
structure Attended (line : Line) : Prop where
  session : line.shield.greeter = false
  covers : line.shield.locked = true → line.shield.active = true
  awaited : ∀ epoch, line.shield.awaitingAuthenticator = some epoch →
    epoch = line.shield.epoch ∧ epoch ∈ line.unanswered ∧
      line.latest = some epoch ∧ line.shield.active = true
  attended : line.shield.locked = true →
    line.shield.awaitingAuthenticator.isSome = true ∨ line.channel = true ∨ 0 < line.retries

/-- The requests after a call, by what it told and what it asked. -/
structure Follows (line : Line) (heard : Line) (gate : Gate) (wants : Wants)
    (after : Line) : Prop where
  session : after.shield.greeter = line.shield.greeter
  gate : after.shield.gate = gate
  latest : after.latest = (wants.request <|>
    if wants.cancel then none else heard.latest)
  unanswered : after.unanswered = wants.request.toList ++ heard.unanswered
  channel : after.channel = (heard.channel && !wants.cancel && wants.request.isNone)
  retries : after.retries = heard.retries + wants.retry.toNat

variable {line : Line}

lemma step_follows (op : ShieldOp) {gate : Gate} {wants : Wants}
    (turns : line.shield.Turns (op.apply line.shield) gate wants) :
    line.Follows (line.hear op) gate wants (line.step op) := by
  obtain ⟨greeter, gate, rfl⟩ := turns
  unfold step record
  cases req : (op.apply line.shield).2.requestAuthenticator <;>
    cases cancel : (op.apply line.shield).2.cancelAuthenticator <;>
    cases retry : (op.apply line.shield).2.retryAuthenticatorAfter <;>
    constructor <;>
    simp [ShieldEffects.wants, req, cancel, retry, greeter, gate]

lemma attended_of_unlocked (sess : line.shield.greeter = false)
    (unlocked : line.shield.locked = false)
    (idle : line.shield.awaitingAuthenticator = none) : line.Attended := by
  constructor
  · exact sess
  · intro locked
    simp [unlocked] at locked
  · intro _ waits
    simp [idle] at waits
  · intro locked
    simp [unlocked] at locked

section Attended

variable {line : Line} (attended : line.Attended)
include attended

variable {heard post : Line}

lemma Attended.asking {cancel : Bool} (follows : line.Follows heard line.shield.gate.asking
      { request := some (line.shield.epoch + 1), cancel } post) : post.Attended := by
  have awaiting : post.shield.awaitingAuthenticator = some (line.shield.epoch + 1) :=
    congrArg Gate.awaiting follows.gate
  have epoch := congrArg Gate.epoch follows.gate
  have active := congrArg Gate.active follows.gate
  constructor
  · rw [follows.session, attended.session]
  · intro _
    exact active
  · intro asked waits
    obtain rfl : line.shield.epoch + 1 = asked := Option.some.inj (awaiting.symm.trans waits)
    refine ⟨epoch.symm, ?_, follows.latest, active⟩
    rw [follows.unanswered]
    exact .head _
  · intro _
    exact .inl (by rw [awaiting]; rfl)

lemma Attended.raised
    (follows : line.Follows heard line.shield.gate.raised { cancel := true } post) :
    post.Attended :=
  attended_of_unlocked (follows.session.trans attended.session)
    (congrArg Gate.locked follows.gate) (congrArg Gate.awaiting follows.gate)

lemma Attended.kept {gate : Gate}
    (same : gate = line.shield.gate ∨ gate = line.shield.gate.covered)
    (follows : line.Follows line gate {} post) : post.Attended := by
  have locked : post.shield.locked = line.shield.locked := by
    obtain rfl | rfl := same <;> exact congrArg Gate.locked follows.gate
  have awaiting : post.shield.awaitingAuthenticator = line.shield.awaitingAuthenticator := by
    obtain rfl | rfl := same <;> exact congrArg Gate.awaiting follows.gate
  have epoch : post.shield.epoch = line.shield.epoch := by
    obtain rfl | rfl := same <;> exact congrArg Gate.epoch follows.gate
  have active : line.shield.active = true → post.shield.active = true := by
    intro active
    obtain rfl | rfl := same
    · exact (congrArg Gate.active follows.gate).trans active
    · exact congrArg Gate.active follows.gate
  have latest : post.latest = line.latest := by simpa using follows.latest
  have unanswered := follows.unanswered
  have channel : post.channel = line.channel := by simpa using follows.channel
  have retries := follows.retries
  constructor
  · rw [follows.session, attended.session]
  · rw [locked]
    exact fun isLocked => active (attended.covers isLocked)
  · rw [awaiting, epoch, latest, unanswered]
    intro asked waits
    obtain ⟨cur, waiting, last, down⟩ := attended.awaited asked waits
    exact ⟨cur, waiting, last, active down⟩
  · rw [locked, awaiting, channel, retries]
    exact attended.attended

lemma Attended.moves {op : ShieldOp} (quiet : line.hear op = line)
    (moves : line.shield.Moves (op.apply line.shield)) : (line.step op).Attended := by
  obtain ⟨greeter, move⟩ := moves
  generalize reached : (op.apply line.shield).1.gate = gate at move
  generalize want : (op.apply line.shield).2.wants = wants at move
  have follows := step_follows op ⟨greeter, reached, want⟩
  rw [quiet] at follows
  cases move with
  | keep => exact attended.kept (.inl rfl) follows
  | cover => exact attended.kept (.inr rfl) follows
  | raise => exact attended.raised follows
  | ask => exact attended.asking follows

lemma Attended.ready (epoch : Epoch) (ready : Bool) :
    (line.step (.authenticatorReady epoch ready)).Attended := by
  by_cases awaited : line.shield.awaitingAuthenticator = some epoch
  · obtain ⟨cur, -, last, active⟩ := attended.awaited epoch awaited
    cases ready with
    | true =>
      have follows := step_follows (.authenticatorReady epoch true)
        (authenticatorReady_grants awaited active)
      have awaiting := congrArg Gate.awaiting follows.gate
      have channel := follows.channel
      constructor
      · rw [follows.session, attended.session]
      · intro _
        exact (congrArg Gate.active follows.gate).trans active
      · intro asked waits
        exact absurd (awaiting.symm.trans waits) (by simp [Gate.granted])
      · intro _
        refine .inr (.inl (channel.trans ?_))
        simp [hear, last]
    | false =>
      have follows := step_follows (.authenticatorReady epoch false)
        (authenticatorReady_refuses awaited active)
      have awaiting := congrArg Gate.awaiting follows.gate
      have locked := congrArg Gate.locked follows.gate
      constructor
      · rw [follows.session, attended.session]
      · intro _
        exact (congrArg Gate.active follows.gate).trans active
      · intro asked waits
        exact absurd (awaiting.symm.trans waits) (by simp [Gate.unanswered])
      · -- Only a locked shield schedules a retry, and only it needs one.
        intro isLocked
        refine .inr (.inr ?_)
        rw [follows.retries, show line.shield.locked = true from
          locked.symm.trans isLocked]
        exact Nat.succ_pos _
  · -- The shield ignores the answer, so only the requests change.
    have ignored := authenticatorReady_ignored attended.session ready
      (fun both : line.shield.awaitingAuthenticator = some epoch ∧ _ => awaited both.1)
    unfold step record
    rw [ShieldOp.apply, ignored]
    constructor
    · exact attended.session
    · exact attended.covers
    · intro asked waits
      obtain ⟨cur, waiting, last, down⟩ := attended.awaited asked waits
      have other : asked ≠ epoch := by
        rintro rfl
        exact awaited waits
      exact ⟨cur, List.mem_filter.mpr ⟨waiting, by simpa using other⟩, last, down⟩
    · intro locked
      obtain waits | channel | retries := attended.attended locked
      · exact .inl waits
      · exact .inr (.inl (by simp [hear, channel]))
      · exact .inr (.inr retries)

lemma Attended.lost : (line.step .authenticatorLost).Attended := by
  cases locked : line.shield.locked with
  | true =>
    exact attended.asking (step_follows .authenticatorLost
      (authenticatorLost_asks locked (attended.covers locked)))
  | false =>
    have follows := step_follows .authenticatorLost
      (authenticatorLost_forgets attended.session (by simp [locked]))
    exact attended_of_unlocked (follows.session.trans attended.session)
      ((congrArg Gate.locked follows.gate).trans locked)
      (congrArg Gate.awaiting follows.gate)

lemma Attended.retried : (line.step .retryAuthenticator).Attended := by
  cases locked : line.shield.locked with
  | true =>
    cases awaiting : line.shield.awaitingAuthenticator with
    | none =>
      have asks := retryAuthenticator_asks locked
        (attended.covers locked) awaiting
      exact attended.asking (step_follows .retryAuthenticator asks)
    | some =>
      -- A request is out already, and it attends to the shield.
      have stays : line.shield.retryAuthenticator = (line.shield, {}) := by
        simp [ScreenShield.retryAuthenticator, awaiting]
      unfold step record
      rw [ShieldOp.apply, stays]
      exact ⟨attended.session, attended.covers, attended.awaited,
        fun _ => .inl (by simp [awaiting])⟩
  | false =>
    have stays : line.shield.retryAuthenticator = (line.shield, {}) := by
      simp [ScreenShield.retryAuthenticator, locked]
    unfold step record
    rw [ShieldOp.apply, stays]
    exact ⟨attended.session, attended.covers, attended.awaited,
      fun isLocked => absurd isLocked (by simp [locked])⟩

lemma Attended.restarted : (line.step .restart).Attended := by
  cases locked : line.shield.locked with
  | true =>
    exact attended.asking (step_follows .restart
      (restart_asks locked (attended.covers locked)))
  | false =>
    apply attended.moves rfl
    have stays : line.shield.restart = (line.shield, {}) := by simp [ScreenShield.restart, locked]
    rw [ShieldOp.apply, stays]
    exact ⟨rfl, .keep⟩

lemma Attended.step (op : ShieldOp) : (line.step op).Attended := by
  have sess := attended.session
  cases op with
  | setSettings settings => exact attended.moves rfl (setSettings_moves settings)
  | activate now => exact attended.moves rfl (activate_moves now)
  | deactivate => exact attended.moves rfl (deactivate_moves sess)
  | lock =>
    exact attended.moves rfl (orRefused_moves fun _ locks =>
    lock_moves sess locks)
  | lockInstant =>
    exact attended.moves rfl (orRefused_moves fun _ locks =>
    lockInstant_moves sess locks)
  | authenticatorReady epoch ready => exact attended.ready epoch ready
  | authenticatorLost => exact attended.lost
  | retryAuthenticator => exact attended.retried
  | restart => exact attended.restarted
  | onSessionIdle now => exact attended.moves rfl (onSessionIdle_moves now)
  | fadeComplete now => exact attended.moves rfl (fadeComplete_moves now)
  | onUserActive => exact attended.moves rfl (onUserActive_moves sess)
  | wakeUpScreen => exact attended.moves rfl (wakeUpScreen_moves sess)
  | prepareForSleep => exact attended.moves rfl (prepareForSleep_moves sess _ _ _)

end Attended

lemma run_attended (settings : ShieldSettings) (ops : List ShieldOp) :
    (run settings ops).Attended := by
  have start : Attended { shield := { settings } } := attended_of_unlocked rfl rfl rfl
  unfold run
  generalize ({ shield := { settings } } : Line) = line at start
  induction ops generalizing line with
  | nil => exact start
  | cons op _ ih => exact ih _ (start.step op)

/-- However the calls come, a locked session has an open channel, or a request
under its epoch that is still to be answered, or a retry scheduled; and a shield
that is down without being locked or waiting goes away on a key press. -/
theorem no_lockout (settings : ShieldSettings) (ops : List ShieldOp) :
    let line := run settings ops
    (line.shield.locked = true →
      line.channel = true ∨ line.shield.epoch ∈ line.unanswered ∨ 0 < line.retries) ∧
    (line.shield.active = true → line.shield.locked = false →
      line.shield.awaitingAuthenticator = none → line.shield.isDismissible = true) := by
  have attended := run_attended settings ops
  constructor
  · intro locked
    obtain waits | channel | retries := attended.attended locked
    · obtain ⟨epoch, awaited⟩ := Option.isSome_iff_exists.mp waits
      obtain ⟨rfl, unanswered, -, -⟩ := attended.awaited epoch awaited
      exact .inr (.inl unanswered)
    · exact .inl channel
    · exact .inr (.inr retries)
  · intro active unlocked idle
    simp [ScreenShield.isDismissible, ScreenShield.isChallenging, active, unlocked, idle]

/-- A lock whose channel is lost and whose first retry is refused waits for the
next one. -/
theorem no_lockout_after_loss :
    let line := run {} [.lock 0 false, .authenticatorReady 1 true, .authenticatorLost,
      .authenticatorReady 2 false]
    line.shield.locked = true ∧
      (line.channel = true ∨ line.shield.epoch ∈ line.unanswered ∨ 0 < line.retries) :=
  ⟨by decide +kernel, (no_lockout {} _).1 (by decide +kernel)⟩

end Line

end Synoik
