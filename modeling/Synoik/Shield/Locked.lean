import Synoik.Shield.Compositor

/-!
# What raises a locked shield

Every handler either leaves `locked` alone, or raises a shield that does not
challenge, or was given a verdict.
-/

namespace Synoik

open UnlockDialog

open ScreenShield

namespace ScreenShield

variable {shield : ScreenShield} {now : Duration}

@[simp] lemma fadeComplete_locked (shield : ScreenShield) (now : Duration) :
    (shield.fadeComplete now).1.locked = shield.locked := rfl

@[simp] lemma dropAuthenticator_locked (shield : ScreenShield) :
    shield.dropAuthenticator.locked = shield.locked := rfl

@[simp] lemma retryAuthenticator_locked (shield : ScreenShield) :
    shield.retryAuthenticator.1.locked = shield.locked := by
  unfold retryAuthenticator
  split <;> rfl

@[simp] lemma authenticatorLost_locked (shield : ScreenShield) :
    shield.authenticatorLost.1.locked = shield.locked := by
  dsimp only [authenticatorLost]
  split
  · rfl
  · rw [retryAuthenticator_locked]

@[simp] lemma authenticatorReady_false_locked (shield : ScreenShield) (epoch : Epoch) :
    (shield.authenticatorReady epoch false).1.locked = shield.locked := by
  unfold authenticatorReady
  split
  · rfl
  · dsimp only
    split
    · contradiction
    · split <;> rfl

lemma authenticatorReady_locked (locked : shield.locked = true) (epoch : Epoch)
    (ready : Bool) : (shield.authenticatorReady epoch ready).1.locked = true := by
  cases ready with
  | false => rw [authenticatorReady_false_locked, locked]
  | true =>
    unfold authenticatorReady
    split
    · exact locked
    · rfl

variable {passwordModeNone : Bool} {moved : ScreenShield × ShieldEffects}

lemma lock_locked (locks : shield.lock now passwordModeNone = .ok moved) :
    moved.1.locked = shield.locked := by
  unfold lock at locks
  split at locks
  · cases locks
  · split at locks
    · cases locks
      rfl
    · dsimp only at locks
      split at locks <;> cases locks <;> rfl

lemma lockInstant_locked (locks : shield.lockInstant now passwordModeNone = .ok moved) :
    moved.1.locked = shield.locked := by
  unfold lockInstant at locks
  cases first : shield.lock now passwordModeNone with
  | error =>
    rw [first] at locks
    cases locks
  | ok _ =>
    have kept := lock_locked first
    rw [first] at locks
    cases locks
    exact kept

section

variable (locked : shield.locked = true)
include locked

lemma onUserActive_locked : shield.onUserActive.1.locked = true := by
  simp [onUserActive, isChallenging, locked]

lemma wakeUpScreen_locked : shield.wakeUpScreen.1.locked = true := by
  unfold wakeUpScreen
  split
  · exact onUserActive_locked locked
  · exact locked

lemma prepareForSleep_locked (aboutToSuspend : Bool) (now : Duration) (passwordModeNone : Bool) :
    (shield.prepareForSleep aboutToSuspend now passwordModeNone).1.locked = true := by
  unfold prepareForSleep
  split
  · exact wakeUpScreen_locked locked
  · split
    · exact locked
    · cases locks : shield.lock now passwordModeNone with
      | error => exact locked
      | ok => exact (lock_locked locks).trans locked

lemma isDismissible_of_locked : shield.isDismissible = false := by
  simp [isDismissible, isChallenging, locked]

end

end ScreenShield

/-- Effects that neither unlock nor ask the verifier for anything but to hear an
answer. -/
structure UnlockEffects.Idle (effects : UnlockEffects) : Prop where
  unlock : effects.unlock = false
  request : ∀ request, effects.request = some request → ∃ text, request = .answer text

namespace UnlockDialog

open UnlockEffects (Idle)

variable (dlg : UnlockDialog) (now : Duration) {effs : UnlockEffects}

lemma idle_of_silent (unlock : effs.unlock = false) (silent : effs.request = none) : effs.Idle :=
  ⟨unlock, fun req sent => by simp [silent] at sent⟩

lemma showPrompt_idle : (dlg.showPrompt now).2.Idle := by
  dsimp only [showPrompt]
  split <;> exact idle_of_silent rfl rfl

lemma showClock_idle : dlg.showClock.2.Idle := by
  dsimp only [showClock]
  split <;> split <;> exact idle_of_silent rfl rfl

lemma askUsername_idle : (dlg.askUsername now).2.Idle := idle_of_silent rfl rfl

lemma togglePeek_idle : (dlg.togglePeek now).2.Idle := by
  dsimp only [togglePeek]
  split <;> exact idle_of_silent rfl rfl

lemma submit_idle : (dlg.submit now).2.Idle := by
  dsimp only [submit]
  split
  · exact idle_of_silent rfl rfl
  · split
    · split <;> exact idle_of_silent rfl rfl
    · exact ⟨rfl, fun _ sent => ⟨_, (Option.some.inj sent).symm⟩⟩

lemma tick_idle : (dlg.tick now).2.Idle := by
  dsimp only [tick]
  split
  · have clock := showClock_idle (dlg.advanceMessages now).2
    exact ⟨clock.unlock, clock.request⟩
  · exact idle_of_silent rfl rfl

lemma entryKey_idle {edit : EntryEdit} {dialog' : UnlockDialog}
    (claimed : dlg.entryKey edit now = (dialog', some effs)) : effs.Idle := by
  have prompt := dlg.showPrompt_idle now
  dsimp only [entryKey] at claimed
  split at claimed
  · split at claimed <;> cases claimed <;> exact ⟨prompt.unlock, prompt.request⟩
  · cases claimed

lemma takeKey_idle (key : ShieldKey) (edit : EntryEdit) : (dlg.takeKey key edit now).2.Idle := by
  unfold takeKey
  split
  · split
    · exact dlg.showPrompt_idle now
    · exact dlg.showClock_idle
  · split
    · exact dlg.showPrompt_idle now
    · exact dlg.submit_idle now
  all_goals
    split
    next claimed => exact dlg.entryKey_idle now claimed
    · exact showPrompt_idle _ now

lemma pressKey_idle (key : ShieldKey) (edit : EntryEdit) : (dlg.pressKey key edit now).2.Idle :=
  ⟨(dlg.takeKey_idle now key edit).unlock, (dlg.takeKey_idle now key edit).request⟩

/-- Only the verdict of the verifier unlocks. -/
lemma onVerifierEvent_idle {ev : VerifierEvent} (other : ev ≠ .complete) :
    (dlg.onVerifierEvent ev now).2.Idle := by
  cases ev with
  | complete => exact absurd rfl other
  | showMessage =>
    dsimp only [onVerifierEvent]
    split <;> exact idle_of_silent rfl rfl
  | _ => exact idle_of_silent rfl rfl

end UnlockDialog

namespace Compositor

variable {st : Compositor} {now : Duration}

@[simp] lemma send_shield (st : Compositor) (req : VerifierRequest) :
    (st.send req).shield = st.shield := by
  unfold send
  split
  · rfl
  · split <;> rfl

@[simp] lemma publishEffects_shield (st : Compositor) (effs : ShieldEffects) :
    (st.publishEffects effs).shield = st.shield := by
  unfold publishEffects armTimers
  split <;> split <;> simp

@[simp] lemma askVerifier_locked (st : Compositor) (epoch : Epoch) :
    (st.askVerifier epoch).shield.locked = st.shield.locked := by
  dsimp only [askVerifier]
  repeat' split
  all_goals simp

@[simp] lemma drive_locked (st : Compositor) (moved : ScreenShield × ShieldEffects) :
    (st.drive moved).shield.locked = moved.1.locked := by
  unfold drive applyShieldEffects
  split <;> simp

lemma driveLock_locked {moved : Except LockRefused (ScreenShield × ShieldEffects)}
    (kept : ∀ res, moved = .ok res → res.1.locked = st.shield.locked) :
    (st.driveLock moved).shield.locked = st.shield.locked := by
  unfold driveLock
  split
  next res => rw [drive_locked, kept res rfl]
  · rfl

@[simp] lemma passOn_shield (st : Compositor) (effs : UnlockEffects) :
    (st.passOn effs).shield = st.shield := by
  unfold passOn armUnlockMessageTimer sendAny
  split <;> split <;> simp

lemma publishUnlock_shield {effs : UnlockEffects} (idle : effs.unlock = false) :
    (st.publishUnlock effs).shield = st.shield := by
  dsimp only [publishUnlock]
  rw [idle, Bool.false_and, if_neg Bool.false_ne_true, passOn_shield]

variable {moved : UnlockDialog × UnlockEffects}

lemma converse_shield (idle : moved.2.unlock = false) : (st.converse moved).shield = st.shield :=
  publishUnlock_shield idle

lemma greeterAskUser_locked (st : Compositor) (user : UserInfo) (listed : Bool) (now : Duration) :
    (st.greeterAskUser user listed now).shield.locked = st.shield.locked := by
  refine (congrArg ScreenShield.locked (converse_shield ?_)).trans ?_
  · exact (showPrompt_idle _ _).unlock
  · simp

lemma driveDialog_locked (idle : moved.2.unlock = false) (now : Duration) :
    (st.driveDialog moved now).shield.locked = st.shield.locked := by
  unfold driveDialog applyUnlockEffects
  rw [publishUnlock_shield idle]
  split
  · exact greeterAskUser_locked _ _ _ _
  · rfl

lemma greeterShowStart_locked (st : Compositor) (now : Duration) :
    (st.greeterShowStart now).shield.locked = st.shield.locked := by
  unfold greeterShowStart
  split
  · exact driveDialog_locked (askUsername_idle _ _).unlock now
  · exact driveDialog_locked (showClock_idle _).unlock now

lemma greeterBackToStart_locked (st : Compositor) (cancel : Bool) (now : Duration) :
    (st.greeterBackToStart cancel now).shield.locked = st.shield.locked := by
  unfold greeterBackToStart
  rw [greeterShowStart_locked]
  split <;> simp

lemma syncGreeterUserList_locked (st : Compositor) (now : Duration) :
    (st.syncGreeterUserList now).shield.locked = st.shield.locked := by
  unfold syncGreeterUserList
  split
  · rfl
  · split
    · exact greeterShowStart_locked st now
    · rfl

lemma onLoginGridAction_locked (st : Compositor) (action : GridAction) (now : Duration) :
    (st.onLoginGridAction action now).shield.locked = st.shield.locked := by
  cases action with
  | pick =>
    dsimp only [onLoginGridAction]
    split
    · exact greeterAskUser_locked _ _ _ _
    · rfl
  | a11y => rfl
  | enterName => exact driveDialog_locked (askUsername_idle _ _).unlock now

@[simp] lemma restart_locked (st : Compositor) : st.restart.shield.locked = st.shield.locked := by
  unfold restart
  simp

lemma syncVerifierForeground_locked (st : Compositor) (now : Duration) :
    (st.syncVerifierForeground now).shield.locked = st.shield.locked := by
  unfold syncVerifierForeground
  split
  · rfl
  · split
    · rfl
    · dsimp only
      split
      · split
        · exact greeterBackToStart_locked _ _ _
        · rfl
      · split
        · rfl
        · refine (driveDialog_locked ?_ now).trans ?_
          · exact (onVerifierEvent_idle _ _ (by simp)).unlock
          · simp

section Locked

variable (locked : st.shield.locked = true) (now : Duration)
include locked

lemma onShieldKey_locked (key : ShieldKey) (edit : EntryEdit) (grid : Option GridAction) :
    (st.onShieldKey key edit grid now).shield.locked = true := by
  unfold onShieldKey
  rw [isDismissible_of_locked locked, if_neg Bool.false_ne_true]
  split
  · exact locked
  · split
    · split
      · rw [onLoginGridAction_locked, locked]
      · exact locked
    · split
      · rw [greeterBackToStart_locked, locked]
      · split
        · exact locked
        · rw [driveDialog_locked (pressKey_idle _ _ _ _).unlock, locked]

lemma onShieldClick_locked (dest : ClickTarget) :
    (st.onShieldClick dest now).shield.locked = true := by
  unfold onShieldClick switchUser
  rw [isDismissible_of_locked locked, if_neg Bool.false_ne_true]
  split
  · exact locked
  · split
    · exact locked
    · split
      · split
        · rw [onLoginGridAction_locked, locked]
        · exact locked
      · split
        · have idle := (showClock_idle st.dialog).unlock
          exact (driveDialog_locked idle now).trans locked
        · split
          · rw [driveDialog_locked (togglePeek_idle _ _).unlock, locked]
          · rw [driveDialog_locked (showPrompt_idle _ _).unlock, locked]

lemma gateVerifierEvent_locked (ev : VerifierEvent) :
    (st.gateVerifierEvent ev).shield.locked = true := by
  unfold gateVerifierEvent
  split
  · rw [drive_locked, authenticatorReady_locked locked]
  · rw [drive_locked, authenticatorReady_locked locked]
  · split
    · exact locked
    · rw [drive_locked, authenticatorLost_locked, locked]
  · split
    · rw [send_shield, locked]
    · split <;> exact locked
  · split <;> exact locked
  · exact locked

lemma onVerifierEvent_locked {ev : VerifierEvent} (other : ev ≠ .complete) :
    (st.onVerifierEvent ev now).shield.locked = true := by
  unfold onVerifierEvent
  rw [driveDialog_locked (onVerifierEvent_idle _ _ other).unlock]
  exact gateVerifierEvent_locked locked ev

lemma onLockTimer_locked : (st.onLockTimer now).shield.locked = true := by
  dsimp only [onLockTimer]
  split
  · split
    · rw [driveLock_locked fun _ locks => lock_locked locks, locked]
    · exact locked
  · exact locked

end Locked

end Compositor

/-- The events that open a locked shield: the verdict of the verifier, an unlock
by logind, and the screen saver's interface switching it off. -/
def ShellEvent.opens : ShellEvent → Bool
  | .verifier .complete => true
  | .sessionLock lock => !lock
  | .screenSaverSetActive active => !active
  | _ => false

namespace Compositor

lemma handle_locked {st : Compositor} {ev : ShellEvent}
    (closed : ev.opens = false) (now : Duration) (locked : st.shield.locked = true) :
    (st.handle now ev).shield.locked = true := by
  cases ev with
  | screenSaverLock =>
    exact (driveLock_locked fun _ locks => lock_locked locks).trans locked
  | screenSaverSetActive active =>
    cases active with
    | false => cases closed
    | true => exact (drive_locked _ (st.shield.activate now)).trans locked
  | sessionLock lock =>
    cases lock with
    | false => cases closed
    | true =>
      exact (driveLock_locked fun _ locks =>
      lockInstant_locked locks).trans locked
  | sessionActive =>
    dsimp only [handle, onSessionActive]
    split
    · rw [greeterBackToStart_locked, locked]
    · exact locked
  | prepareForSleep =>
    exact (drive_locked _ _).trans (prepareForSleep_locked locked _ _ _)
  | presence status =>
    cases status with
    | available => exact (drive_locked _ _).trans (onUserActive_locked locked)
    | idle => exact (drive_locked _ (st.shield.onSessionIdle now)).trans locked
    | invisible | busy | unknown => exact locked
  | key key edit grid => exact onShieldKey_locked locked now key edit grid
  | click dest => exact onShieldClick_locked locked now dest
  | switchUser =>
    exact (driveLock_locked fun _ locks =>
    lockInstant_locked locks).trans locked
  | verifier =>
    apply onVerifierEvent_locked locked
    rintro rfl
    cases closed
  | fingerprintReader =>
    dsimp only [handle, onFingerprintReader]
    split
    · exact locked
    · rw [syncVerifierForeground_locked, locked]
  | settings =>
    unfold handle onSettings
    rw [syncVerifierForeground_locked, syncGreeterUserList_locked]
    exact locked
  | accountChanged => exact locked
  | loginUsers =>
    dsimp only [handle, onLoginUsers]
    split
    · split
      · rw [syncGreeterUserList_locked, locked]
      · exact locked
    · rw [syncGreeterUserList_locked, locked]
  | watchdog =>
    dsimp only [handle, onWatchdog]
    split
    · rw [drive_locked, authenticatorReady_false_locked, locked]
    · exact locked
  | retryTimer =>
    dsimp only [handle, onRetryTimer]
    split
    · exact locked
    · split
      · exact locked
      · rw [drive_locked, retryAuthenticator_locked, locked]
  | fadeTimer =>
    dsimp only [handle, onFadeTimer]
    split
    · rw [drive_locked, fadeComplete_locked, locked]
    · exact locked
  | lockTimer => exact onLockTimer_locked locked now
  | messageTimer =>
    dsimp only [handle, onMessageTimer]
    split
    · rw [driveDialog_locked (tick_idle _ _).unlock, locked]
    · exact locked
  | clockTick =>
    dsimp only [handle, onClockTick]
    split
    · rw [driveDialog_locked (tick_idle _ _).unlock, locked]
    · exact locked
  | sessionTimer =>
    dsimp only [handle, onSessionTimer]
    split
    · rw [send_shield, locked]
    · exact locked
  | exhaustedTimer =>
    dsimp only [handle, onExhaustedTimer]
    split
    · split
      · rw [greeterBackToStart_locked, locked]
      · exact locked
    · exact locked
  | tileDwell =>
    dsimp only [handle, onTileDwell]
    split
    · rw [onLoginGridAction_locked, locked]
    · exact locked

/-- A locked shield stays locked through any events, in any order, that carry
neither the verifier's verdict, nor logind's unlock, nor the screen saver's
interface switching it off. -/
theorem locked_until_opened (state : Compositor) (events : List (Duration × ShellEvent))
    (locked : state.shield.locked = true) (closed : ∀ event ∈ events, event.2.opens = false) :
    (state.handleAll events).shield.locked = true := by
  induction events generalizing state with
  | nil => exact locked
  | cons event _ ih =>
    obtain ⟨now, event⟩ := event
    apply ih
    · exact handle_locked (closed (now, event) (.head _)) now locked
    · intro other member
      exact closed other (.tail _ member)

/-- A session locked by the screen saver's interface and a verifier that answered. -/
def lockedSession : Compositor :=
  ({} : Compositor).handleAll
    [(0, .screenSaverLock), (1, .verifier (.ready 1))]

/-- Through a night's sleep, a wrong password and a lost verifier. -/
theorem locked_until_opened_overnight : lockedSession.shield.locked = true ∧
      (lockedSession.handleAll [(2, .prepareForSleep true), (3, .prepareForSleep false),
          (4, .presence .available), (5, .key .enter (fun text => (.ignored, text)) none),
          (6, .verifier .failed), (7, .verifier .lost), (8, .click .elsewhere),
          (9, .settings {} 3 false)]).shield.locked = true :=
  ⟨by decide +kernel, locked_until_opened lockedSession _ (by decide +kernel) (by decide +kernel)⟩

/-- No verdict and no logind unlock, and the shield is raised all the same. -/
theorem not_locked_until_verdict : lockedSession.shield.locked = true ∧
      (lockedSession.handleAll [(2, .screenSaverSetActive false)]).shield.locked = false := by
  decide +kernel

end Compositor

end Synoik
