import Mathlib.Order.Basic

/-!
# The screen shield

The shield is down while it is active, and raising it takes authentication while
it is locked. A lock covers the screen at once and asks for a verifier; only a
verifier that answers turns it into a lock. Times are in milliseconds.
-/

namespace Synoik

abbrev Duration := Nat

/-- Which lock a request to the verifier, or its answer, belongs to. -/
abbrev Epoch := Nat

/-- What the caller publishes after driving the shield. -/
structure ShieldEffects where
  activeChanged : Option Bool := none
  lockedChanged : Option Bool := none
  wakeUpScreen : Bool := false
  clearClipboard : Bool := false
  requestAuthenticator : Option Epoch := none
  cancelAuthenticator : Bool := false
  retryAuthenticatorAfter : Option Duration := none
  armLockTimer : Option Duration := none
  cancelLockTimer : Bool := false
  cancelDialog : Bool := false
  startFade : Bool := false
  stopFade : Bool := false
  curtainInstant : Bool := false

structure ShieldSettings where
  disableLockScreen : Bool := false
  lockEnabled : Bool := true
  disableShowPassword : Bool := false
  lockDelay : Duration := 0
  enablePassword : Bool := true

def standardFadeTime : Duration := 10000

/-- The first wait before asking again for a lost channel; it doubles with each
attempt up to the longest. -/
def recoverFirst : Duration := 1000

def recoverMax : Duration := 30000

inductive LockRefused where
  | lockedDown

structure ScreenShield where
  active : Bool := false
  locked : Bool := false
  activationTime : Option Duration := none
  settings : ShieldSettings := {}
  awaitingAuthenticator : Option Epoch := none
  epoch : Epoch := 0
  recoverAttempts : Nat := 0
  greeter : Bool := false

namespace ScreenShield

variable (shield : ScreenShield)

/-- Whether getting back in takes a password, or may do so once a pending request
is answered. -/
def isChallenging : Bool := shield.locked || shield.awaitingAuthenticator.isSome

def isDismissible : Bool := shield.active && !shield.isChallenging

/-- The greeter's shield covers the screen even while it is not active. -/
def isUp : Bool := shield.active || shield.greeter

def setSettings (settings : ShieldSettings) : ScreenShield :=
  { shield with settings }

def setActive (active : Bool) : ScreenShield × ShieldEffects :=
  ({ shield with active },
    { activeChanged := if shield.active != active then some active else none })

def setLocked (locked : Bool) : ScreenShield × ShieldEffects :=
  ({ shield with locked },
    { lockedChanged := if shield.locked != locked then some locked else none })

variable (now : Duration)

/-- Stamps the time the shield was first wanted down. -/
def stamp : ScreenShield :=
  { shield with activationTime := shield.activationTime <|> some now }

def activate : ScreenShield × ShieldEffects := (shield.stamp now).setActive true

def deactivate : ScreenShield × ShieldEffects :=
  if shield.greeter then
    let (shield, effects) := { shield with activationTime := none }.setActive false
    (shield, { effects with wakeUpScreen := true })
  else
    let (shield, effects) :=
      { shield with
        activationTime := none
        awaitingAuthenticator := none
        recoverAttempts := 0 }.setActive false
    let (shield, unlocked) := shield.setLocked false
    (shield,
      { effects with
        wakeUpScreen := true
        cancelAuthenticator := true
        cancelLockTimer := true
        stopFade := true
        lockedChanged := unlocked.lockedChanged })

/-- Asks for a verifier under a new epoch. -/
def requestAuthenticator : ScreenShield :=
  { shield with
    epoch := shield.epoch + 1
    awaitingAuthenticator := some (shield.epoch + 1) }

def lock (passwordModeNone : Bool) : Except LockRefused (ScreenShield × ShieldEffects) :=
  if shield.settings.disableLockScreen then
    .error .lockedDown
  else if shield.greeter then
    .ok (shield, {})
  else
    let (shield, effects) := shield.activate now
    let effects := { effects with clearClipboard := true }
    if passwordModeNone then
      .ok (shield, effects)
    else
      let shield := shield.requestAuthenticator
      .ok (shield, { effects with requestAuthenticator := some shield.epoch })

def lockInstant (passwordModeNone : Bool) : Except LockRefused (ScreenShield × ShieldEffects) := do
  let (shield, effects) ← shield.lock now passwordModeNone
  return (shield, { effects with curtainInstant := true })

/-- The wait before the next attempt to replace a lost channel. -/
def recoverDelay : Duration :=
  min (recoverFirst * Nat.pow 2 (min shield.recoverAttempts 16)) recoverMax

def authenticatorReady (epoch : Epoch) (ready : Bool) : ScreenShield × ShieldEffects :=
  if shield.awaitingAuthenticator ≠ some epoch ∨ shield.isUp = false then
    (shield, {})
  else
    let shield := { shield with awaitingAuthenticator := none }
    if ready then
      { shield with recoverAttempts := 0 }.setLocked true
    else if shield.locked then
      ({ shield with recoverAttempts := shield.recoverAttempts + 1 },
        { retryAuthenticatorAfter := some shield.recoverDelay })
    else
      (shield, {})

def retryAuthenticator : ScreenShield × ShieldEffects :=
  if !shield.locked || !shield.isUp || shield.awaitingAuthenticator.isSome then
    (shield, {})
  else
    let shield := shield.requestAuthenticator
    (shield, { requestAuthenticator := some shield.epoch })

def authenticatorLost : ScreenShield × ShieldEffects :=
  let shield := { shield with awaitingAuthenticator := none }
  if !shield.locked || !shield.isUp then
    (shield, {})
  else
    shield.retryAuthenticator

def dropAuthenticator : ScreenShield :=
  { shield with awaitingAuthenticator := none, recoverAttempts := 0 }

def onSessionIdle : ScreenShield × ShieldEffects :=
  let arms := shield.settings.lockEnabled && !shield.locked &&
    shield.awaitingAuthenticator.isNone
  (shield.stamp now,
    { cancelDialog := true
      armLockTimer :=
        if arms then some (max shield.settings.lockDelay standardFadeTime) else none
      startFade := !shield.active })

def fadeComplete : ScreenShield × ShieldEffects :=
  let (shield, effects) := shield.activate now
  (shield, { effects with curtainInstant := true, stopFade := true })

def onUserActive : ScreenShield × ShieldEffects :=
  if shield.isChallenging then
    (shield, { stopFade := true })
  else
    let (shield, effects) := shield.deactivate
    (shield, { effects with stopFade := true })

def wakeUpScreen (shield : ScreenShield) : ScreenShield × ShieldEffects :=
  if shield.active then
    let (shield, effects) := shield.onUserActive
    (shield, { effects with wakeUpScreen := true })
  else
    (shield, {})

def prepareForSleep (aboutToSuspend : Bool) (now : Duration) (passwordModeNone : Bool) :
    ScreenShield × ShieldEffects :=
  if !aboutToSuspend then
    shield.wakeUpScreen
  else if !shield.settings.lockEnabled then
    (shield, { cancelDialog := true })
  else
    match shield.lock now passwordModeNone with
    | .ok (shield, effects) => (shield, { effects with cancelDialog := true })
    | .error _ => (shield, { cancelDialog := true })

end ScreenShield

end Synoik
