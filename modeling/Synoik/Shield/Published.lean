import Synoik.Shield.Lockout
import Synoik.Support.Runs

/-!
# What the shield publishes

The changes that the shield reports, put together, say what it is.
-/

namespace Synoik

/-- A call on a session's shield. Its authenticator is also dropped by itself. -/
inductive ShieldEvent where
  | call (op : ShieldOp)
  | dropAuthenticator

namespace ScreenShield

def on (shield : ScreenShield) : ShieldEvent → ScreenShield × ShieldEffects
  | .call op => op.apply shield
  | .dropAuthenticator => (shield.dropAuthenticator, {})

/-- The shield, with what was last published of it: whether it is active, and locked. -/
def publish (shown : ScreenShield × Bool × Bool) (event : ShieldEvent) :
    Option (ScreenShield × Bool × Bool) :=
  let (after, effects) := shown.1.on event
  some (after, effects.activeChanged.getD shown.2.1, effects.lockedChanged.getD shown.2.2)

/-- A change that is reported is one, and it is reported. -/
def Reports (before after : Bool) (change : Option Bool) : Prop :=
  after = change.getD before ∧ change ≠ some before

/-- A shield of a session is locked only while it is active, and published as it is. -/
structure Exact (shield : ScreenShield) (published : Bool × Bool) : Prop where
  session : shield.greeter = false
  covered : shield.locked = true → shield.active = true
  same : published = (shield.active, shield.locked)

lemma lockInstant_eq (shield : ScreenShield) (now : Duration) (mode : Bool) :
    shield.lockInstant now mode = (shield.lock now mode).map fun moved =>
      (moved.1, { moved.2 with curtainInstant := true }) := by
  unfold lockInstant
  cases shield.lock now mode <;> rfl

section Calls

attribute [local grind] on ShieldOp.apply orRefused restart setSettings setActive setLocked stamp
  activate deactivate lock requestAuthenticator authenticatorReady authenticatorLost
  retryAuthenticator dropAuthenticator onSessionIdle fadeComplete onUserActive prepareForSleep
  wakeUpScreen isChallenging isUp Except.map

attribute [local grind =] lockInstant_eq

variable {shield : ScreenShield} (ev : ShieldEvent)

lemma on_greeter : (shield.on ev).1.greeter = shield.greeter := by
  rcases ev with op | _
  · cases op <;> grind
  · grind

lemma on_covered (sess : shield.greeter = false)
    (covered : shield.locked = true → shield.active = true) :
    (shield.on ev).1.locked = true → (shield.on ev).1.active = true := by
  rcases ev with op | _
  · cases op <;> grind
  · grind

lemma on_reports (sess : shield.greeter = false) :
    Reports shield.active (shield.on ev).1.active (shield.on ev).2.activeChanged ∧
      Reports shield.locked (shield.on ev).1.locked (shield.on ev).2.lockedChanged := by
  unfold Reports
  rcases ev with op | _
  · cases op <;> grind
  · grind

end Calls

lemma Exact.publish {shield : ScreenShield} {published : Bool × Bool} {ev : ShieldEvent}
    {post : ScreenShield × Bool × Bool} (exact : Exact shield published)
    (ran : publish (shield, published) ev = some post) : Exact post.1 post.2 := by
  obtain ⟨sess, covered, rfl⟩ := exact
  cases ran
  obtain ⟨active, locked⟩ := on_reports ev sess
  exact ⟨(on_greeter ev).trans sess, on_covered ev sess covered,
    Prod.ext active.1.symm locked.1.symm⟩

/-- Along every run what was published is what the shield is, every change that is published
is one, and a locked shield is active. -/
theorem published_exact {settings : ShieldSettings} {events : List ShieldEvent}
    {shield : ScreenShield} {published : Bool × Bool}
    (run : Runs publish (fun _ _ => True) ({ settings }, false, false) events (shield, published)) :
    published = (shield.active, shield.locked) ∧ (shield.locked → shield.active) ∧
      ∀ event, (shield.on event).2.activeChanged ≠ some published.1 ∧
        (shield.on event).2.lockedChanged ≠ some published.2 := by
  obtain ⟨session, covered, rfl⟩ : Exact shield published :=
    run.invariant (fun shown => Exact shown.1 shown.2) (fun _ ran exact => exact.publish ran)
      ⟨rfl, nofun, rfl⟩
  refine ⟨rfl, covered, fun event => ?_⟩
  obtain ⟨active, locked⟩ := on_reports event session
  exact ⟨active.2, locked.2⟩

theorem published_exact_locked : ∃ shield, Runs publish (fun _ _ => True) ({}, false, false)
    [.call (.lock 0 false), .call (.authenticatorReady 1 true)] (shield, true, true) ∧
      (true, true) = (shield.active, shield.locked) := by
  have run : Runs publish (fun _ _ => True) ({}, false, false)
      [.call (.lock 0 false), .call (.authenticatorReady 1 true)] (_, true, true) :=
    runs_of_runUnder rfl
  exact ⟨_, run, (published_exact run).1⟩

end ScreenShield

end Synoik
