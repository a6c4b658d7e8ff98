import Synoik.Shield.UnlockDialog

/-!
# The compositor's side of the lock

Every handler that drives the shield or the unlock dialog, with the queue of
requests to the verifier and the timers it arms. What is drawn is left out: no
handler reads it back. Where the pointer hits something, what a key does in the
user grid and which key was pressed come with the event.
-/

namespace Synoik

inductive LoginPage where
  | grid
  | name
  | prompt (user : String) (listed : Bool)
deriving DecidableEq

def LoginPage.isAskingAUser : LoginPage → Bool
  | .prompt _ _ => true
  | _ => false

inductive GridAction where
  | pick (tile : Nat)
  | enterName
  | a11y
deriving DecidableEq

/-- The sending end of the request queue, and what the verifier has not read. -/
structure RequestSender where
  closed : Bool := false
  queue : List VerifierRequest := []

structure Compositor where
  shield : ScreenShield := {}
  dialog : UnlockDialog := {}
  greeter : Bool := false
  nested : Bool := false
  loginPage : LoginPage := .grid
  loginUsers : List UserInfo := []
  loginUsersLoaded : Bool := false
  disableUserList : Bool := false
  greeterVisit : Nat := 0
  gdmRequests : Option RequestSender := some {}
  fingerprintReader : ReaderType := .none
  verifierForeground : Option AuthService := none
  allowedFailures : Nat := 3
  passwordModeNone : Bool := false
  lockTimer : Option Duration := none
  fadeTimer : Bool := false
  /-- The epochs whose request has a deadline running. -/
  watchdogs : List Epoch := []
  /-- The timers that ask again for a lost channel. -/
  retryTimers : Nat := 0
  messageTimer : Option Duration := none
  /-- The services whose session starts once the login dialog has faded out. -/
  sessionTimers : List String := []
  /-- The visits to be sent back to the start once their messages are read. -/
  exhaustedTimers : List Nat := []

inductive ShieldKey where
  | escape
  | enter
  | shiftLike
  | other
deriving DecidableEq

inductive PresenceStatus where
  | available
  | invisible
  | busy
  | idle
  | unknown (status : Nat)

/-- The clock gives way to the prompt on any key, and Escape and Return act on a
prompt that is already up. -/
def UnlockDialog.takeKey (dialog : UnlockDialog) (key : ShieldKey) (edit : EntryEdit)
    (now : Duration) : UnlockDialog × UnlockEffects :=
  match key with
  | .escape => if dialog.page == .clock then dialog.showPrompt now else dialog.cancel
  | .enter =>
    if dialog.page == .clock then dialog.showPrompt now else dialog.submit now
  | .shiftLike | .other =>
    match dialog.entryKey edit now with
    | (dialog, some effects) => (dialog, effects)
    | (dialog, none) => dialog.showPrompt now

/-- What a key does to the dialog. A prompt it brings up arms the reader. -/
def UnlockDialog.pressKey (dialog : UnlockDialog) (key : ShieldKey) (edit : EntryEdit)
    (now : Duration) : UnlockDialog × UnlockEffects :=
  let wasClock := dialog.page == .clock
  let (dialog, effects) := dialog.takeKey key edit now
  let raised := wasClock && dialog.page == .prompt
  (dialog,
    { effects with
      startFingerprint := effects.startFingerprint || raised
      redraw := effects.redraw || raised })

def maxUsers : Nat := 12

def showsGrid (count : Nat) : Bool := 1 ≤ count && count ≤ maxUsers

namespace Compositor

variable (state : Compositor)

def shieldIsUp : Bool := state.greeter || state.shield.active

def greeterUserListDisabled : Bool :=
  state.disableUserList || (state.loginUsersLoaded && !showsGrid state.loginUsers.length)

/-- Queues a request, unless there is no verifier or it has gone. -/
def send (request : VerifierRequest) : Compositor :=
  match state.gdmRequests with
  | none => state
  | some sender =>
    if sender.closed then state
    else
      { state with
        gdmRequests := some { sender with queue := sender.queue ++ [request] } }

/-- Whether a request would reach the verifier's queue. -/
def reachesVerifier : Bool := state.gdmRequests.any fun sender => !sender.closed

variable (epoch : Epoch)

def beginRequest : BeginRequest :=
  { username := state.dialog.user.name
    epoch
    reader := state.fingerprintReader
    login := state.greeter
    allowedFailures := state.allowedFailures
    passwordEnabled := state.shield.settings.enablePassword }

variable (effects : ShieldEffects)

/-- The timers the effects start and stop. -/
def armTimers : Compositor :=
  { state with
    fadeTimer :=
      if effects.startFade then true
      else if effects.stopFade then false
      else state.fadeTimer
    lockTimer :=
      match effects.armLockTimer with
      | some delay => some delay
      | none => if effects.cancelLockTimer then none else state.lockTimer
    retryTimers := state.retryTimers + if effects.retryAuthenticatorAfter.isSome then 1 else 0 }

/-- Everything in the effects but the request for a verifier. -/
def publishEffects : Compositor :=
  let state :=
    if effects.cancelAuthenticator then
      let state := state.send .cancel
      { state with dialog := state.dialog.showClock.1 }
    else
      state
  let state :=
    if effects.cancelDialog then { state with dialog := state.dialog.cancel.1 }
    else state
  state.armTimers effects

/-- Asks the verifier for a conversation and arms a deadline; when there is nobody
to ask, the shield hears so at once. -/
def askVerifier : Compositor :=
  let asked := state.reachesVerifier
  let state := state.send (.begin (state.beginRequest epoch))
  let state :=
    if state.gdmRequests.isSome then
      { state with
        verifierForeground := some (foregroundService
          state.shield.settings.enablePassword state.fingerprintReader) }
    else
      state
  if asked then
    { state with watchdogs := epoch :: state.watchdogs }
  else
    -- The answer asks for nothing in turn, so publishing it is all that is left.
    let (shield, effects) := state.shield.authenticatorReady epoch false
    { state with shield }.publishEffects effects

def applyShieldEffects : Compositor :=
  let state :=
    match effects.requestAuthenticator with
    | some epoch => state.askVerifier epoch
    | none => state
  state.publishEffects effects

/-- Drives the shield and publishes what it wants. -/
def drive (moved : ScreenShield × ShieldEffects) : Compositor :=
  { state with shield := moved.1 }.applyShieldEffects moved.2

/-- Drives the shield with a lock, which may be refused. -/
def driveLock (moved : Except LockRefused (ScreenShield × ShieldEffects)) : Compositor :=
  match moved with
  | .ok moved => state.drive moved
  | .error _ => state

def armUnlockMessageTimer : Compositor :=
  { state with messageTimer := state.dialog.messageDeadline }

def sendAny : Option VerifierRequest → Compositor
  | some request => state.send request
  | none => state

/-- The dialog's requests go out, and the timer of its messages is set. -/
def passOn (effects : UnlockEffects) : Compositor :=
  let state := state.sendAny effects.request
  let state := if effects.startFingerprint then state.send .startFingerprint else state
  let state := state.armUnlockMessageTimer
  { state with dialog := state.dialog.takeWiggle.2 }

/-- Everything in the effects but a name entered at the greeter. -/
def publishUnlock (effects : UnlockEffects) : Compositor :=
  let state := state.passOn effects
  if effects.unlock && !state.greeter then
    state.drive state.shield.deactivate
  else
    state

/-- Drives the dialog and publishes what it wants, a name entered apart. -/
def converse (moved : UnlockDialog × UnlockEffects) : Compositor :=
  { state with dialog := moved.1 }.publishUnlock moved.2

def greeterAskUser (user : UserInfo) (listed : Bool) (now : Duration) : Compositor :=
  let state := { state with
    greeterVisit := state.greeterVisit + 1
    loginPage := .prompt user.name listed
    dialog := state.dialog.setUser user
    shield := state.shield.dropAuthenticator }
  let state := state.drive state.shield.retryAuthenticator
  let (dialog, effects) := state.dialog.showPrompt now
  state.converse (dialog, { effects with startFingerprint := true })

def applyUnlockEffects (effects : UnlockEffects) (now : Duration) : Compositor :=
  let state :=
    match effects.nameEntered with
    | some name => state.greeterAskUser { name } false now
    | none => state
  state.publishUnlock effects

/-- Drives the dialog and publishes what it wants. -/
def driveDialog (moved : UnlockDialog × UnlockEffects) (now : Duration) : Compositor :=
  { state with dialog := moved.1 }.applyUnlockEffects moved.2 now

variable (now : Duration)

def greeterShowStart : Compositor :=
  if state.greeterUserListDisabled then
    let state := { state with loginPage := .name }
    state.driveDialog (state.dialog.askUsername now) now
  else
    { state.driveDialog state.dialog.showClock now with loginPage := .grid }

def greeterBackToStart (cancel : Bool) (now : Duration) : Compositor :=
  let state := if cancel then state.send .cancel else state
  let state := { state with
    shield := state.shield.dropAuthenticator
    greeterVisit := state.greeterVisit + 1 }
  state.greeterShowStart now

def syncGreeterUserList : Compositor :=
  if !state.greeter then
    state
  else if (state.loginPage == .grid && state.greeterUserListDisabled) ||
      (state.loginPage == .name && !state.greeterUserListDisabled) then
    state.greeterShowStart now
  else
    state

def onLoginGridAction (action : GridAction) (now : Duration) : Compositor :=
  match action with
  | .pick tile =>
    match state.loginUsers[tile]? with
    | some user => state.greeterAskUser user true now
    | none => state
  | .a11y => state
  | .enterName =>
    let state := { state with loginPage := .name }
    state.driveDialog (state.dialog.askUsername now) now

def onScreenSaverLock : Compositor := state.driveLock (state.shield.lock now state.passwordModeNone)

def onScreenSaverSetActive (active : Bool) (now : Duration) : Compositor :=
  if active then state.drive (state.shield.activate now)
  else state.drive state.shield.deactivate

def onSessionLock (lock : Bool) (now : Duration) : Compositor :=
  if lock then state.driveLock (state.shield.lockInstant now false)
  else state.drive state.shield.deactivate

/-- A greeter that was left asking somebody starts over when it comes back. -/
def onSessionActive (active : Bool) (now : Duration) : Compositor :=
  if active && state.greeter && state.loginPage.isAskingAUser then
    state.greeterBackToStart true now
  else
    state

def onPrepareForSleep (aboutToSuspend : Bool) (now : Duration) : Compositor :=
  state.drive (state.shield.prepareForSleep aboutToSuspend now false)

def onPresence (status : PresenceStatus) (now : Duration) : Compositor :=
  match status with
  | .idle => state.drive (state.shield.onSessionIdle now)
  | .available => state.drive state.shield.onUserActive
  | .busy | .invisible | .unknown _ => state

def onShieldKey (key : ShieldKey) (edit : EntryEdit) (grid : Option GridAction)
    (now : Duration) : Compositor :=
  if !state.shieldIsUp then
    state
  else if state.greeter && state.loginPage == .grid then
    match grid with
    | some action => state.onLoginGridAction action now
    | none => state
  else if state.greeter && key == .escape then
    state.greeterBackToStart state.loginPage.isAskingAUser now
  else if state.shield.isDismissible then
    state.drive state.shield.deactivate
  else if key == .shiftLike && state.dialog.page == .clock then
    state
  else
    state.driveDialog (state.dialog.pressKey key edit now) now

/-- What the pointer is on: the greeter's accessibility button or grid, the
switch-user button while it reacts, the peek toggle, or nothing of these. -/
inductive ClickTarget where
  | a11yButton
  | grid (action : Option GridAction)
  | switchUserButton
  | peekToggle
  | elsewhere
deriving DecidableEq

def switchUser : Compositor := state.driveDialog state.dialog.cancel now

def onShieldClick (target : ClickTarget) (now : Duration) : Compositor :=
  if !state.shieldIsUp then
    state
  else if state.greeter && target == .a11yButton then
    state
  else if state.greeter && state.loginPage == .grid then
    match target with
    | .grid (some action) => state.onLoginGridAction action now
    | _ => state
  else if state.shield.isDismissible then
    state.drive state.shield.deactivate
  else if target == .switchUserButton then
    state.switchUser now
  else if state.dialog.page == .prompt && state.dialog.peek.isSome &&
      target == .peekToggle then
    state.driveDialog (state.dialog.togglePeek now) now
  else
    state.driveDialog (state.dialog.showPrompt now) now

def activateSwitchUser : Compositor :=
  state.driveLock (state.shield.lockInstant now state.passwordModeNone)

/-- What a verifier event means to the shield and the greeter. -/
def gateVerifierEvent (event : VerifierEvent) : Compositor :=
  match event with
  | .ready epoch => state.drive (state.shield.authenticatorReady epoch true)
  | .unavailable epoch _ =>
    state.drive (state.shield.authenticatorReady epoch false)
  | .lost =>
    if state.greeter && !state.loginPage.isAskingAUser then
      { state with shield := state.shield.dropAuthenticator }
    else
      state.drive state.shield.authenticatorLost
  | .sessionOpened service =>
    if state.greeter && state.nested then state.send (.startSession service)
    else if state.greeter then
      { state with sessionTimers := service :: state.sessionTimers }
    else
      state
  | .exhausted =>
    if state.greeter && state.loginPage.isAskingAUser then
      { state with exhaustedTimers := state.greeterVisit :: state.exhaustedTimers }
    else
      state
  | _ => state

def onVerifierEvent (state : Compositor) (event : VerifierEvent) (now : Duration) : Compositor :=
  let state := state.gateVerifierEvent event
  state.driveDialog (state.dialog.onVerifierEvent event now) now

/-- Cancels the conversation and begins it again. -/
def restart : Compositor :=
  let state := state.send .cancel
  let state := { state with shield := state.shield.dropAuthenticator }
  state.drive state.shield.retryAuthenticator

/-- When another service is in the foreground now than the open conversation
began with, the conversation is cancelled and begun again. -/
def syncVerifierForeground : Compositor :=
  match state.verifierForeground with
  | none => state
  | some began =>
    if foregroundService state.shield.settings.enablePassword
        state.fingerprintReader = began then
      state
    else
      let state := { state with verifierForeground := none }
      if state.greeter then
        if state.loginPage.isAskingAUser then state.greeterBackToStart true now
        else state
      else if !state.shield.locked then
        state
      else
        let state := state.restart
        let (dialog, effects) := state.dialog.onVerifierEvent .reset now
        state.driveDialog
          (dialog, { effects with startFingerprint := dialog.page == .prompt }) now

def onFingerprintReader (reader : ReaderType) (now : Duration) : Compositor :=
  if state.fingerprintReader = reader then state
  else { state with fingerprintReader := reader }.syncVerifierForeground now

/-- New settings reach the shield and the dialog, and may change the greeter's
start page or the foreground service. -/
def onSettings (settings : ShieldSettings) (allowedFailures : Nat)
    (disableUserList : Bool) (now : Duration) : Compositor :=
  let state := { state with
    shield := state.shield.setSettings settings
    dialog := state.dialog.setPeekLockedDown settings.disableShowPassword
    allowedFailures
    disableUserList }
  (state.syncGreeterUserList now).syncVerifierForeground now

def onAccountChanged (realName : String) (passwordModeNone : Bool) : Compositor :=
  { state with dialog := state.dialog.setRealName realName, passwordModeNone }

def onLoginUsers (users : List UserInfo) (now : Duration) : Compositor :=
  let firstLoad := !state.loginUsersLoaded
  let state := { state with loginUsersLoaded := true }
  if state.loginUsers = users then
    if firstLoad then state.syncGreeterUserList now else state
  else
    { state with loginUsers := users }.syncGreeterUserList now

def onWatchdog : Compositor :=
  if epoch ∈ state.watchdogs then
    let state := { state with watchdogs := state.watchdogs.erase epoch }
    state.drive (state.shield.authenticatorReady epoch false)
  else
    state

def onRetryTimer : Compositor :=
  match state.retryTimers with
  | 0 => state
  | retryTimers + 1 =>
    let state := { state with retryTimers }
    if state.greeter && !state.loginPage.isAskingAUser then state
    else state.drive state.shield.retryAuthenticator

def onFadeTimer : Compositor :=
  if state.fadeTimer then
    let state := { state with fadeTimer := false }
    state.drive (state.shield.fadeComplete now)
  else
    state

def onLockTimer : Compositor :=
  if state.lockTimer.isSome then
    let state := { state with lockTimer := none }
    if state.shield.isDismissible then
      state.driveLock (state.shield.lock now false)
    else
      state
  else
    state

def onMessageTimer : Compositor :=
  if state.messageTimer.isSome then
    let state := { state with messageTimer := none }
    state.driveDialog (state.dialog.tick now) now
  else
    state

def onClockTick : Compositor :=
  if state.dialog.isWaitingToEscape then
    state.driveDialog (state.dialog.tick now) now
  else
    state

def onSessionTimer (service : String) : Compositor :=
  if service ∈ state.sessionTimers then
    { state with
      sessionTimers := state.sessionTimers.erase service }.send (.startSession service)
  else
    state

def onExhaustedTimer (visit : Nat) (now : Duration) : Compositor :=
  if visit ∈ state.exhaustedTimers then
    let state := { state with exhaustedTimers := state.exhaustedTimers.erase visit }
    if state.greeterVisit = visit then state.greeterBackToStart true now else state
  else
    state

/-- The user grid's keyboard focus has rested on a tile. -/
def onTileDwell (tile : Nat) (now : Duration) : Compositor :=
  if state.greeter && state.loginPage == .grid then
    state.onLoginGridAction (.pick tile) now
  else
    state

end Compositor

inductive ShellEvent where
  | screenSaverLock
  | screenSaverSetActive (active : Bool)
  | sessionLock (lock : Bool)
  | sessionActive (active : Bool)
  | prepareForSleep (aboutToSuspend : Bool)
  | presence (status : PresenceStatus)
  | key (key : ShieldKey) (edit : EntryEdit) (grid : Option GridAction)
  | click (target : Compositor.ClickTarget)
  | switchUser
  | verifier (event : VerifierEvent)
  | fingerprintReader (reader : ReaderType)
  | settings (settings : ShieldSettings) (allowedFailures : Nat)
      (disableUserList : Bool)
  | accountChanged (realName : String) (passwordModeNone : Bool)
  | loginUsers (users : List UserInfo)
  | watchdog (epoch : Epoch)
  | retryTimer
  | fadeTimer
  | lockTimer
  | messageTimer
  | clockTick
  | sessionTimer (service : String)
  | exhaustedTimer (visit : Nat)
  | tileDwell (tile : Nat)

namespace Compositor

def handle (state : Compositor) (now : Duration) : ShellEvent → Compositor
  | .screenSaverLock => state.onScreenSaverLock now
  | .screenSaverSetActive active => state.onScreenSaverSetActive active now
  | .sessionLock lock => state.onSessionLock lock now
  | .sessionActive active => state.onSessionActive active now
  | .prepareForSleep aboutToSuspend => state.onPrepareForSleep aboutToSuspend now
  | .presence status => state.onPresence status now
  | .key key edit grid => state.onShieldKey key edit grid now
  | .click target => state.onShieldClick target now
  | .switchUser => state.activateSwitchUser now
  | .verifier event => state.onVerifierEvent event now
  | .fingerprintReader reader => state.onFingerprintReader reader now
  | .settings settings allowedFailures disableUserList =>
    state.onSettings settings allowedFailures disableUserList now
  | .accountChanged realName passwordModeNone =>
    state.onAccountChanged realName passwordModeNone
  | .loginUsers users => state.onLoginUsers users now
  | .watchdog epoch => state.onWatchdog epoch
  | .retryTimer => state.onRetryTimer
  | .fadeTimer => state.onFadeTimer now
  | .lockTimer => state.onLockTimer now
  | .messageTimer => state.onMessageTimer now
  | .clockTick => state.onClockTick now
  | .sessionTimer service => state.onSessionTimer service
  | .exhaustedTimer visit => state.onExhaustedTimer visit now
  | .tileDwell tile => state.onTileDwell tile now

/-- Events in the order they come, each at its own time. -/
def handleAll (state : Compositor) : List (Duration × ShellEvent) → Compositor
  | [] => state
  | (now, event) :: events => (state.handle now event).handleAll events

end Compositor

end Synoik
