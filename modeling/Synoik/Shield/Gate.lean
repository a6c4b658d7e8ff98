import Synoik.Shield.Locked

/-!
# The gate of a session's shield

Of the shield only four fields bear on when it is locked: whether it is down,
whether it is locked, the request it waits for, and the epoch of its last request.
A call of the session makes one of four moves on them; an answer of the verifier
grants or refuses the request waited for, and a lost channel is asked for again.
-/

namespace Synoik

structure Gate where
  active : Bool
  locked : Bool
  awaiting : Option Epoch
  epoch : Epoch
deriving DecidableEq

def ScreenShield.gate (shield : ScreenShield) : Gate :=
  { active := shield.active
    locked := shield.locked
    awaiting := shield.awaitingAuthenticator
    epoch := shield.epoch }

/-- What a call asks of the verifier. -/
structure Wants where
  request : Option Epoch := none
  cancel : Bool := false
  retry : Bool := false

def ShieldEffects.wants (effects : ShieldEffects) : Wants :=
  { request := effects.requestAuthenticator
    cancel := effects.cancelAuthenticator
    retry := effects.retryAuthenticatorAfter.isSome }

namespace Gate

variable (gate : Gate)

def covered : Gate :=
  { gate with active := true }

def raised : Gate :=
  { gate with active := false, locked := false, awaiting := none }

def asking : Gate :=
  { gate with
    active := true
    awaiting := some (gate.epoch + 1)
    epoch := gate.epoch + 1 }

def granted : Gate :=
  { gate with locked := true, awaiting := none }

def unanswered : Gate :=
  { gate with awaiting := none }

/-- What the session's own calls do. The verifier's answers do more. -/
inductive Move (gate : Gate) : Gate → Wants → Prop
  | keep : Move gate gate {}
  | cover : Move gate gate.covered {}
  | raise : Move gate gate.raised { cancel := true }
  | ask (cancel : Bool) :
      Move gate gate.asking { request := some (gate.epoch + 1), cancel }

end Gate

namespace ScreenShield

/-- A call that takes the gate to another, asking for this much. -/
structure Turns (shield : ScreenShield) (moved : ScreenShield × ShieldEffects)
    (gate : Gate) (wants : Wants) : Prop where
  greeter : moved.1.greeter = shield.greeter
  gate : moved.1.gate = gate
  wants : moved.2.wants = wants

/-- A call that makes one of the session's own moves. -/
structure Moves (shield : ScreenShield) (moved : ScreenShield × ShieldEffects) : Prop where
  greeter : moved.1.greeter = shield.greeter
  move : shield.gate.Move moved.1.gate moved.2.wants

variable {shield : ScreenShield}

lemma setSettings_moves (settings : ShieldSettings) :
    shield.Moves (shield.setSettings settings, {}) :=
  ⟨rfl, .keep⟩

lemma activate_moves (now : Duration) : shield.Moves (shield.activate now) := ⟨rfl, .cover⟩

lemma fadeComplete_moves (now : Duration) : shield.Moves (shield.fadeComplete now) := ⟨rfl, .cover⟩

lemma onSessionIdle_moves (now : Duration) : shield.Moves (shield.onSessionIdle now) := ⟨rfl, .keep⟩

variable {epoch : Epoch}

section

variable (awaited : shield.awaitingAuthenticator = some epoch)
include awaited

lemma authenticatorReady_grants (active : shield.active = true) :
    shield.Turns (shield.authenticatorReady epoch true) shield.gate.granted {} := by
  unfold authenticatorReady
  rw [if_neg (by simp [awaited, active, isUp])]
  exact ⟨rfl, rfl, rfl⟩

lemma authenticatorReady_refuses (active : shield.active = true) :
    shield.Turns (shield.authenticatorReady epoch false) shield.gate.unanswered
      { retry := shield.locked } := by
  unfold authenticatorReady
  rw [if_neg (by simp [awaited, active, isUp])]
  cases locked : shield.locked <;> constructor <;>
    simp [locked, gate, Gate.unanswered, ShieldEffects.wants]

end

lemma retryAuthenticator_asks (locked : shield.locked = true)
    (active : shield.active = true) (idle : shield.awaitingAuthenticator = none) :
    shield.Turns shield.retryAuthenticator shield.gate.asking
      { request := some (shield.epoch + 1) } := by
  unfold retryAuthenticator
  simp only [locked, active, idle, isUp, Bool.not_true, Bool.true_or, Bool.or_self,
    Option.isSome_none, if_neg Bool.false_ne_true]
  constructor <;>
    simp [requestAuthenticator, gate, Gate.asking, ShieldEffects.wants, active, locked]

lemma authenticatorLost_asks (locked : shield.locked = true) (active : shield.active = true) :
    shield.Turns shield.authenticatorLost shield.gate.asking
      { request := some (shield.epoch + 1) } := by
  unfold authenticatorLost retryAuthenticator
  simp only [locked, active, isUp, Bool.not_true, Bool.true_or, Bool.or_self,
    Option.isSome_none, if_neg Bool.false_ne_true]
  constructor <;>
    simp [requestAuthenticator, gate, Gate.asking, ShieldEffects.wants, active, locked]

section Session

variable (session : shield.greeter = false)
include session

lemma isUp_of_session : shield.isUp = shield.active := by
  rw [isUp, session, Bool.or_false]

lemma deactivate_raises : shield.Turns shield.deactivate shield.gate.raised { cancel := true } := by
  unfold deactivate
  rw [if_neg (session ▸ Bool.false_ne_true)]
  exact ⟨rfl, rfl, rfl⟩

lemma deactivate_moves : shield.Moves shield.deactivate := by
  obtain ⟨greeter, gate, wants⟩ := deactivate_raises session
  refine ⟨greeter, ?_⟩
  rw [gate, wants]
  exact .raise

variable {now : Duration} {passwordModeNone : Bool} {moved : ScreenShield × ShieldEffects}

lemma lock_moves (locks : shield.lock now passwordModeNone = .ok moved) : shield.Moves moved := by
  unfold lock at locks
  split at locks
  · cases locks
  · rw [session, if_neg Bool.false_ne_true] at locks
    dsimp only at locks
    split at locks
    · cases locks
      exact ⟨rfl, .cover⟩
    · cases locks
      exact ⟨rfl, .ask false⟩

lemma lockInstant_moves (locks : shield.lockInstant now passwordModeNone = .ok moved) :
    shield.Moves moved := by
  unfold lockInstant at locks
  cases first : shield.lock now passwordModeNone with
  | error =>
    rw [first] at locks
    cases locks
  | ok covered =>
    have moves : shield.Moves covered := lock_moves session first
    rw [first] at locks
    cases locks
    exact ⟨moves.greeter, moves.move⟩

lemma retryAuthenticator_moves : shield.Moves shield.retryAuthenticator := by
  unfold retryAuthenticator
  rw [isUp_of_session session]
  split
  · exact ⟨rfl, .keep⟩
  next asks =>
  simp only [Bool.or_eq_true, Bool.not_eq_true', not_or, Bool.not_eq_true] at asks
  have active : shield.active = true := by simpa using asks.1.2
  have asked : shield.requestAuthenticator.gate = shield.gate.asking := by
    simp [requestAuthenticator, gate, Gate.asking, active]
  refine ⟨rfl, ?_⟩
  rw [asked]
  exact .ask false

lemma authenticatorLost_forgets (unlocked : (shield.locked && shield.active) = false) :
    shield.Turns shield.authenticatorLost shield.gate.unanswered {} := by
  unfold authenticatorLost
  rw [if_pos]
  · exact ⟨rfl, rfl, rfl⟩
  · simpa [isUp, session, imp_iff_not_or] using unlocked

lemma authenticatorReady_ignored {epoch : Epoch} (ready : Bool)
    (other : ¬ (shield.awaitingAuthenticator = some epoch ∧ shield.active = true)) :
    shield.authenticatorReady epoch ready = (shield, {}) := by
  unfold authenticatorReady
  rw [isUp_of_session session]
  rw [if_pos]
  rw [not_and_or, Bool.not_eq_true] at other
  exact other

lemma onUserActive_moves : shield.Moves shield.onUserActive := by
  unfold onUserActive
  split
  · exact ⟨rfl, .keep⟩
  · have moves := deactivate_moves session
    exact ⟨moves.greeter, moves.move⟩

lemma wakeUpScreen_moves : shield.Moves shield.wakeUpScreen := by
  unfold wakeUpScreen
  split
  · have moves := onUserActive_moves session
    exact ⟨moves.greeter, moves.move⟩
  · exact ⟨rfl, .keep⟩

lemma prepareForSleep_moves (aboutToSuspend : Bool) (now : Duration) (passwordModeNone : Bool) :
    shield.Moves (shield.prepareForSleep aboutToSuspend now passwordModeNone) := by
  unfold prepareForSleep
  split
  · exact wakeUpScreen_moves session
  · split
    · exact ⟨rfl, .keep⟩
    · split
      next locks =>
        have moves := lock_moves session locks
        exact ⟨moves.greeter, moves.move⟩
      · exact ⟨rfl, .keep⟩

end Session

end ScreenShield

end Synoik
