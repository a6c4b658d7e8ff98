import Synoik.Shield.Gate

/-!
# What an event does to a session's gate

A session is a compositor that is not the greeter. On it every event makes one of
the gate's moves, and queues a request to begin exactly when the gate asks.
-/

namespace Synoik

open List ScreenShield UnlockDialog

variable {now : Duration} {st : Compositor}

namespace UnlockDialog

variable {dialog : UnlockDialog}

@[simp] lemma showMessageNow_status (msg : Option Message) :
    (dialog.showMessageNow msg now).2.status = dialog.status := rfl

@[simp] lemma queueMessage_status (msg : Option Message) :
    (dialog.queueMessage msg now).2.status = dialog.status := by
  unfold queueMessage
  split <;> rfl

@[simp] lemma dropMessages_status : dialog.dropMessages.2.status = dialog.status := rfl

@[simp] lemma filterMessages_status (src : MessageSource) :
    (dialog.filterMessages src now).2.status = dialog.status := by
  dsimp only [filterMessages]
  split <;> rfl

lemma advanceQueue_status (q : List (Option Message)) :
    (advanceQueue now q dialog).2.status = dialog.status := by
  induction q generalizing dialog with
  | nil => rfl
  | cons _ _ ih =>
    rw [advanceQueue]
    split
    · rfl
    · exact ih

@[simp] lemma advanceMessages_status : (dialog.advanceMessages now).2.status = dialog.status :=
  advanceQueue_status _

/-- A dialog that does not ask for a name, with effects that name nobody, do not
unlock, and send nothing but an answer. -/
structure Quiet (moved : UnlockDialog × UnlockEffects) : Prop where
  idle : moved.2.Idle
  unnamed : moved.1.status ≠ .askingName
  nobody : moved.2.nameEntered = none

lemma showClock_quiet : Quiet dialog.showClock := by
  dsimp only [showClock]
  split <;> split <;> exact ⟨idle_of_silent rfl rfl, by simp_all [clearEntry], rfl⟩

section Unnamed

variable (unnamed : dialog.status ≠ .askingName)
include unnamed

lemma showPrompt_quiet : Quiet (dialog.showPrompt now) := by
  dsimp only [showPrompt]
  split <;> exact ⟨idle_of_silent rfl rfl, unnamed, rfl⟩

lemma togglePeek_quiet : Quiet (dialog.togglePeek now) := by
  dsimp only [togglePeek]
  split <;> exact ⟨idle_of_silent rfl rfl, unnamed, rfl⟩

lemma submit_quiet : Quiet (dialog.submit now) := by
  refine ⟨dialog.submit_idle now, ?_, ?_⟩
  · dsimp only [submit]
    split
    · exact unnamed
    · simp [clearEntry]
  · dsimp only [submit]
    split <;> rfl

lemma tick_quiet : Quiet (dialog.tick now) := by
  dsimp only [tick]
  split
  · have clock : Quiet (dialog.advanceMessages now).2.showClock := showClock_quiet
    exact ⟨⟨clock.idle.unlock, clock.idle.request⟩, clock.unnamed, clock.nobody⟩
  · exact ⟨idle_of_silent rfl rfl, by simpa using unnamed, rfl⟩

lemma entryKey_quiet {edit : EntryEdit} {moved : UnlockDialog} {effects : Option UnlockEffects}
    (fed : dialog.entryKey edit now = (moved, effects)) :
    moved.status ≠ .askingName ∧ ∀ claimed ∈ effects, Quiet (moved, claimed) := by
  have prompt : Quiet (dialog.showPrompt now) := showPrompt_quiet unnamed
  dsimp only [entryKey] at fed
  split at fed
  · split at fed <;> cases fed
    all_goals
      refine ⟨prompt.unnamed, ?_⟩
      rintro claimed mem
      cases mem
      try exact ⟨⟨prompt.idle.unlock, prompt.idle.request⟩, prompt.unnamed, prompt.nobody⟩
  · cases fed
    exact ⟨prompt.unnamed, by rintro claimed ⟨⟩⟩

lemma takeKey_quiet (key : ShieldKey) (edit : EntryEdit) : Quiet (dialog.takeKey key edit now) := by
  have fed : ∀ moved effects, dialog.entryKey edit now = (moved, effects) →
      moved.status ≠ .askingName ∧ ∀ claimed ∈ effects, Quiet (moved, claimed) :=
    fun _ _ => entryKey_quiet unnamed
  unfold takeKey
  split
  · split
    · exact showPrompt_quiet unnamed
    · exact showClock_quiet
  · split
    · exact showPrompt_quiet unnamed
    · exact submit_quiet unnamed
  all_goals
    split
    next claimed => exact (fed _ _ claimed).2 _ rfl
    next unclaimed => exact showPrompt_quiet (fed _ _ unclaimed).1

lemma pressKey_quiet (key : ShieldKey) (edit : EntryEdit) :
    Quiet (dialog.pressKey key edit now) := by
  have taken : Quiet (dialog.takeKey key edit now) := takeKey_quiet unnamed key edit
  exact ⟨dialog.pressKey_idle now key edit, taken.unnamed, taken.nobody⟩

lemma onVerifierEvent_quiet {ev : VerifierEvent} (other : ev ≠ .complete) :
    Quiet (dialog.onVerifierEvent ev now) := by
  have idle := dialog.onVerifierEvent_idle now other
  cases ev with
  | showMessage =>
    dsimp only [onVerifierEvent]
    split
    · exact ⟨idle_of_silent rfl rfl, unnamed, rfl⟩
    · exact ⟨idle_of_silent rfl rfl, by simpa using unnamed, rfl⟩
  | failed =>
    refine ⟨idle, ?_, rfl⟩
    dsimp only [onVerifierEvent]
    split <;> simp [endQuestion]
  | _ => exact ⟨idle, by simp [onVerifierEvent, endQuestion, clearEntry, unnamed], rfl⟩

end Unnamed

end UnlockDialog

def VerifierRequest.begun : VerifierRequest → Option Epoch
  | .begin request => some request.epoch
  | _ => none

namespace Compositor

/-- The epochs of the requests to begin that the verifier has not read. -/
def begins (state : Compositor) : List Epoch :=
  match state.gdmRequests with
  | none => []
  | some sender => sender.queue.filterMap VerifierRequest.begun

structure InSession (state : Compositor) : Prop where
  greeter : state.greeter = false
  shield : state.shield.greeter = false
  unnamed : state.dialog.status ≠ .askingName
  exhausted : state.exhaustedTimers = []

/-- A session still, with this gate and these requests to begin queued since. -/
structure Reaches (state after : Compositor) (gate : Gate) (asked : List Epoch) : Prop where
  session : after.InSession
  gate : after.shield.gate = gate
  begins : after.begins = state.begins ++ asked

/-- Nothing that bears on the gate has happened. -/
def Rests (state after : Compositor) : Prop := Reaches state after state.shield.gate []

variable {mid post : Compositor} {moved : ScreenShield × ShieldEffects} {effects : UnlockEffects}
  {gate : Gate} {asked : List Epoch}

lemma Reaches.rests (one : Reaches st mid gate asked) (last : Rests mid post) :
    Reaches st post gate asked := by
  refine ⟨last.session, last.gate.trans one.gate, ?_⟩
  rw [last.begins, one.begins, append_nil]

lemma Rests.reaches (one : Rests st mid) (last : Reaches mid post gate asked) :
    Reaches st post gate asked := by
  refine ⟨last.session, last.gate, ?_⟩
  rw [last.begins, one.begins, append_nil]

/-- What an event can do to a session. -/
inductive Turns (state after : Compositor) : Prop
  | rest : Rests state after → Turns state after
  | cover : Reaches state after state.shield.gate.covered [] → Turns state after
  | raise : Reaches state after state.shield.gate.raised [] → Turns state after
  | ask : Reaches state after state.shield.gate.asking [state.shield.epoch + 1] →
      Turns state after
  /-- There is nobody to ask, so the request is refused at once. -/
  | vain : Reaches state after state.shield.gate.asking.unanswered [] →
      Turns state after

section

variable (req : VerifierRequest)
include req

lemma begins_send : (st.send req).begins =
      st.begins ++ if st.reachesVerifier then req.begun.toList else [] := by
  unfold begins send reachesVerifier
  cases reqs : st.gdmRequests with
  | none => simp [reqs]
  | some sender =>
    cases closed : sender.closed with
    | true => simp [reqs, closed]
    | false => cases begun : req.begun <;> simp [closed, begun]

@[simp] lemma send_frame : (st.send req).greeter = st.greeter ∧ (st.send req).dialog = st.dialog ∧
      (st.send req).exhaustedTimers = st.exhaustedTimers := by
  unfold send
  split
  · exact ⟨rfl, rfl, rfl⟩
  · split <;> exact ⟨rfl, rfl, rfl⟩

end

section

variable (session : st.InSession)
include session

lemma send_inSession (req : VerifierRequest) : (st.send req).InSession := by
  constructor
  · simpa using session.greeter
  · simpa using session.shield
  · simpa using session.unnamed
  · simpa using session.exhausted

lemma send_rests {req : VerifierRequest} (other : req.begun = none) : Rests st (st.send req) := by
  refine ⟨send_inSession session req, ?_, ?_⟩
  · rw [send_shield]
  · simp [begins_send, other]

/-- Everything a session keeps in mind beside its gate may change. -/
lemma rests_of_frame (unnamed : post.dialog.status ≠ .askingName)
    (frame : (post.greeter, post.shield, post.gdmRequests, post.exhaustedTimers) =
      (st.greeter, st.shield, st.gdmRequests, st.exhaustedTimers)) : Rests st post := by
  simp only [Prod.mk.injEq] at frame
  obtain ⟨greeter, shield, reqs, exhausted⟩ := frame
  refine ⟨⟨greeter.trans session.greeter, ?_, unnamed, ?_⟩, ?_, ?_⟩
  · rw [shield, session.shield]
  · rw [exhausted, session.exhausted]
  · rw [shield]
  · rw [begins, reqs, ← begins, append_nil]

lemma publishEffects_rests (effects : ShieldEffects) : Rests st (st.publishEffects effects) := by
  have cancelled : Rests st
      (if effects.cancelAuthenticator then
        { st.send .cancel with dialog := (st.send .cancel).dialog.showClock.1 }
      else st) := by
    split
    · apply Reaches.rests (send_rests session (by rfl : VerifierRequest.begun .cancel = _))
      exact rests_of_frame (send_inSession session .cancel)
        UnlockDialog.showClock_quiet.unnamed rfl
    · exact rests_of_frame session session.unnamed rfl
  apply Reaches.rests cancelled
  unfold publishEffects armTimers
  generalize (if effects.cancelAuthenticator then
      { st.send .cancel with dialog := (st.send .cancel).dialog.showClock.1 }
    else st) = cleared at cancelled
  have session := cancelled.session
  split
  · exact rests_of_frame session UnlockDialog.showClock_quiet.unnamed rfl
  · exact rests_of_frame session session.unnamed rfl

lemma askVerifier_reaches (reached : st.reachesVerifier = true) (epoch : Epoch) :
    Reaches st (st.askVerifier epoch) st.shield.gate [epoch] := by
  have sent : Reaches st (st.send (.begin (st.beginRequest epoch)))
      st.shield.gate [epoch] := by
    refine ⟨send_inSession session _, ?_, ?_⟩
    · rw [send_shield]
    · rw [begins_send, reached]
      rfl
  apply sent.rests
  unfold askVerifier
  rw [if_pos reached]
  split <;> exact rests_of_frame sent.session sent.session.unnamed rfl

/-- With nobody to ask, the shield is refused what it waits for. -/
lemma askVerifier_vain (unreached : st.reachesVerifier = false) {epoch : Epoch}
    (awaited : st.shield.awaitingAuthenticator = some epoch) (active : st.shield.active = true) :
    Reaches st (st.askVerifier epoch) st.shield.gate.unanswered [] := by
  have sent : Rests st (st.send (.begin (st.beginRequest epoch))) := by
    refine ⟨send_inSession session _, ?_, ?_⟩
    · rw [send_shield]
    · rw [begins_send, unreached]
      rfl
  have refuses := authenticatorReady_refuses awaited active
  have told (noted : Compositor) (rests : Rests st noted)
      (shield : noted.shield = st.shield) :
      Reaches st
        ({ noted with shield := (noted.shield.authenticatorReady epoch false).1
          }.publishEffects (noted.shield.authenticatorReady epoch false).2)
        st.shield.gate.unanswered [] := by
    have refused : Reaches st
        { noted with shield := (noted.shield.authenticatorReady epoch false).1 }
        st.shield.gate.unanswered [] := by
      rw [shield]
      refine ⟨⟨rests.session.greeter, ?_, rests.session.unnamed,
        rests.session.exhausted⟩, ?_, rests.begins⟩
      · exact refuses.greeter.trans session.shield
      · exact refuses.gate
    exact refused.rests (publishEffects_rests refused.session _)
  dsimp only [askVerifier]
  rw [if_neg (by simp [unreached])]
  split
  · apply told
    · exact sent.rests (rests_of_frame sent.session sent.session.unnamed rfl)
    · exact send_shield _ _
  · exact told _ sent (send_shield _ _)

lemma drive_reaches (greeter : moved.1.greeter = st.shield.greeter)
    (silent : moved.2.requestAuthenticator = none) :
    Reaches st (st.drive moved) moved.1.gate [] := by
  have driven : Compositor.InSession { st with shield := moved.1 } :=
    ⟨session.greeter, greeter.trans session.shield, session.unnamed, session.exhausted⟩
  have rests := publishEffects_rests driven moved.2
  unfold drive applyShieldEffects
  rw [silent]
  exact ⟨rests.session, rests.gate, rests.begins⟩

/-- A shield that asks has its request queued, or is refused at once. -/
lemma drive_asks {cancel : Bool} (asks : st.shield.Turns moved st.shield.gate.asking
      { request := some (st.shield.epoch + 1), cancel }) :
    Reaches st (st.drive moved) st.shield.gate.asking [st.shield.epoch + 1] ∨
      Reaches st (st.drive moved) st.shield.gate.asking.unanswered [] := by
  obtain ⟨shield, effects⟩ := moved
  obtain ⟨greeter, gate, wants⟩ := asks
  have driven : Compositor.InSession { st with shield } :=
    ⟨session.greeter, greeter.trans session.shield, session.unnamed, session.exhausted⟩
  have req : effects.requestAuthenticator = some (st.shield.epoch + 1) :=
    congrArg Wants.request wants
  unfold drive applyShieldEffects
  rw [req]
  cases reaches : Compositor.reachesVerifier { st with shield } with
  | true =>
    have asked := askVerifier_reaches driven reaches (st.shield.epoch + 1)
    have rests := asked.rests (publishEffects_rests asked.session effects)
    exact .inl ⟨rests.session, rests.gate.trans gate, rests.begins⟩
  | false =>
    have asked := askVerifier_vain driven reaches (congrArg Gate.awaiting gate)
      (congrArg Gate.active gate)
    have rests := asked.rests (publishEffects_rests asked.session effects)
    exact .inr ⟨rests.session, rests.gate.trans (congrArg Gate.unanswered gate), rests.begins⟩

lemma drive_turns (moves : st.shield.Moves moved) : Turns st (st.drive moved) := by
  obtain ⟨greeter, move⟩ := moves
  have published (silent : moved.2.wants.request = none) :
      Reaches st (st.drive moved) moved.1.gate [] :=
    drive_reaches session greeter silent
  generalize reached : moved.1.gate = gate at move published
  generalize want : moved.2.wants = wants at move published
  cases move with
  | keep => exact .rest (published rfl)
  | cover => exact .cover (published rfl)
  | raise => exact .raise (published rfl)
  | ask =>
    obtain asked | refused := drive_asks session ⟨greeter, reached, want⟩
    · exact .ask asked
    · exact .vain refused

lemma sendAny_rests {req : Option VerifierRequest}
    (other : ∀ sent ∈ req, sent.begun = none) : Rests st (st.sendAny req) := by
  cases req with
  | none => exact rests_of_frame session session.unnamed rfl
  | some sent => exact send_rests session (other sent rfl)

lemma passOn_rests (other : ∀ sent ∈ effects.request, sent.begun = none) :
    Rests st (st.passOn effects) := by
  have answered := sendAny_rests session other
  have armed : Rests st
      (if effects.startFingerprint then
        (st.sendAny effects.request).send .startFingerprint
      else st.sendAny effects.request) := by
    split
    · exact .rests answered (send_rests answered.session rfl)
    · exact answered
  exact .rests armed
    (rests_of_frame armed.session armed.session.unnamed rfl)

lemma publishUnlock_rests (idle : effects.Idle) : Rests st (st.publishUnlock effects) := by
  dsimp only [publishUnlock]
  rw [idle.unlock, Bool.false_and, if_neg Bool.false_ne_true]
  apply passOn_rests session
  intro sent req
  obtain ⟨_, rfl⟩ := idle.request sent req
  rfl

lemma driveDialog_rests {moved : UnlockDialog × UnlockEffects}
    (quiet : UnlockDialog.Quiet moved) : Rests st (st.driveDialog moved now) := by
  have turned : Rests st { st with dialog := moved.1 } := rests_of_frame session quiet.unnamed rfl
  unfold driveDialog applyUnlockEffects
  rw [quiet.nobody]
  exact .rests turned (publishUnlock_rests turned.session quiet.idle)

/-- The verdict raises the shield, whatever it is waiting for. -/
lemma publishUnlock_raises (unlocks : effects.unlock = true) (silent : effects.request = none) :
    Reaches st (st.publishUnlock effects) st.shield.gate.raised [] := by
  have passed : Rests st (st.passOn effects) := passOn_rests session (by simp [silent])
  have raises := deactivate_raises passed.session.shield
  have driven := drive_reaches passed.session raises.greeter
    (congrArg Wants.request raises.wants)
  rw [raises.gate, passed.gate] at driven
  dsimp only [publishUnlock]
  rw [unlocks, passed.session.greeter]
  exact passed.reaches driven

end

lemma Turns.rests (turns : Turns st mid) (rests : Rests mid post) : Turns st post := by
  cases turns with
  | rest one => exact .rest (one.rests rests)
  | cover one => exact .cover (one.rests rests)
  | raise one => exact .raise (one.rests rests)
  | ask one => exact .ask (one.rests rests)
  | vain one => exact .vain (one.rests rests)

lemma Rests.turns (rests : Rests st mid) (turns : Turns mid post) : Turns st post := by
  have gate := rests.gate
  have epoch : mid.shield.epoch = st.shield.epoch := congrArg Gate.epoch gate
  cases turns with
  | rest last => exact .rest (rests.reaches (gate ▸ last))
  | cover last => exact .cover (rests.reaches (gate ▸ last))
  | raise last => exact .raise (rests.reaches (gate ▸ last))
  | ask last => exact .ask (rests.reaches (epoch ▸ gate ▸ last))
  | vain last => exact .vain (rests.reaches (gate ▸ last))

lemma Turns.session (turns : Turns st post) : post.InSession := by
  cases turns with
  | rest reaches | cover reaches | raise reaches | ask reaches => exact reaches.session
  | vain reaches => exact reaches.session

section Session

variable (session : st.InSession)
include session

lemma rests_self : Rests st st := rests_of_frame session session.unnamed rfl

lemma driveLock_turns {moved : Except LockRefused (ScreenShield × ShieldEffects)}
    (moves : ∀ done, moved = .ok done → st.shield.Moves done) : Turns st (st.driveLock moved) := by
  unfold driveLock
  split
  next done => exact drive_turns session (moves done rfl)
  · exact .rest (rests_self session)

lemma onShieldKey_turns (key : ShieldKey) (edit : EntryEdit)
    (grid : Option GridAction) : Turns st (st.onShieldKey key edit grid now) := by
  unfold onShieldKey
  rw [session.greeter]
  simp only [Bool.false_and, if_neg Bool.false_ne_true]
  split
  · exact .rest (rests_self session)
  · split
    · exact drive_turns session (deactivate_moves session.shield)
    · split
      · exact .rest (rests_self session)
      · exact .rest (driveDialog_rests session
          (pressKey_quiet session.unnamed key edit))

lemma onShieldClick_turns (dest : ClickTarget) : Turns st (st.onShieldClick dest now) := by
  unfold onShieldClick switchUser
  rw [session.greeter]
  simp only [Bool.false_and, if_neg Bool.false_ne_true]
  split
  · exact .rest (rests_self session)
  · split
    · exact drive_turns session (deactivate_moves session.shield)
    · split
      · exact .rest (driveDialog_rests session showClock_quiet)
      · split
        · exact .rest (driveDialog_rests session
            (togglePeek_quiet session.unnamed))
        · exact .rest (driveDialog_rests session
            (showPrompt_quiet session.unnamed))

lemma syncGreeterUserList_eq : st.syncGreeterUserList now = st := by
  unfold syncGreeterUserList
  rw [session.greeter]
  rfl

lemma restart_turns (locked : st.shield.locked = true)
    (active : st.shield.active = true) : Turns st st.restart := by
  have sent : Rests st (st.send .cancel) := send_rests session rfl
  -- The cancelled request is forgotten before the shield asks again.
  obtain ⟨dropped, equal⟩ : ∃ dropped, dropped = { st.send .cancel with
      shield := (st.send .cancel).shield.dropAuthenticator } := ⟨_, rfl⟩
  have asksAgain : st.restart =
      dropped.drive dropped.shield.retryAuthenticator := by
    rw [equal]
    rfl
  have shield : dropped.shield = st.shield.dropAuthenticator := by rw [equal, send_shield]
  have forgotten : Reaches st dropped st.shield.gate.unanswered [] := by
    refine ⟨?_, congrArg ScreenShield.gate shield, ?_⟩
    · subst equal
      exact ⟨sent.session.greeter, sent.session.shield, sent.session.unnamed,
        sent.session.exhausted⟩
    · subst equal
      exact sent.begins
  have asking : dropped.shield.gate.asking = st.shield.gate.asking := by
    rw [shield]
    rfl
  have epoch : dropped.shield.epoch = st.shield.epoch := by
    rw [shield]
    rfl
  have asks := retryAuthenticator_asks
    (congrArg ScreenShield.locked shield |>.trans locked)
    (congrArg ScreenShield.active shield |>.trans active)
    (congrArg ScreenShield.awaitingAuthenticator shield)
  rw [asksAgain]
  obtain asked | refused := drive_asks forgotten.session asks
  · rw [asking, epoch] at asked
    refine .ask ⟨asked.session, asked.gate, ?_⟩
    rw [asked.begins, forgotten.begins, append_nil]
  · rw [asking] at refused
    refine .vain ⟨refused.session, refused.gate, ?_⟩
    rw [refused.begins, forgotten.begins, append_nil]

lemma syncVerifierForeground_turns (covers : st.shield.locked = true → st.shield.active = true) :
    Turns st (st.syncVerifierForeground now) := by
  unfold syncVerifierForeground
  split
  · exact .rest (rests_self session)
  · split
    · exact .rest (rests_self session)
    · have forgot : Rests st { st with verifierForeground := none } :=
        rests_of_frame session session.unnamed rfl
      rw [if_neg (session.greeter ▸ Bool.false_ne_true)]
      split
      · exact .rest forgot
      next locked =>
        have locked : st.shield.locked = true := by simpa using locked
        have restarted := restart_turns forgot.session locked (covers locked)
        have staying := restarted.session
        refine forgot.turns (restarted.rests (driveDialog_rests staying ?_))
        have reset : VerifierEvent.reset ≠ .complete := by simp
        have quiet : UnlockDialog.Quiet (UnlockDialog.onVerifierEvent _ .reset now) :=
          onVerifierEvent_quiet staying.unnamed reset
        exact ⟨⟨quiet.idle.unlock, quiet.idle.request⟩, quiet.unnamed, quiet.nobody⟩

end Session

end Compositor

/-- The events that do not come from the verifier, or stand in for it. -/
def ShellEvent.isOwn : ShellEvent → Bool
  | .verifier _ => false
  | .watchdog _ => false
  | _ => true

namespace Compositor

/-- The session's own events make the gate's own moves. -/
lemma handle_turns (session : st.InSession)
    (covers : st.shield.locked = true → st.shield.active = true) {ev : ShellEvent}
    (own : ev.isOwn = true) : Turns st (st.handle now ev) := by
  have shield := session.shield
  have stay : Turns st st := .rest (rests_self session)
  cases ev with
  | screenSaverLock => exact driveLock_turns session fun _ => lock_moves shield
  | screenSaverSetActive active =>
    cases active with
    | false => exact drive_turns session (deactivate_moves shield)
    | true => exact drive_turns session (activate_moves now)
  | sessionLock lock =>
    cases lock with
    | false => exact drive_turns session (deactivate_moves shield)
    | true => exact driveLock_turns session fun _ => lockInstant_moves shield
  | sessionActive =>
    dsimp only [handle, onSessionActive]
    rw [if_neg (by simp [session.greeter])]
    exact stay
  | prepareForSleep => exact drive_turns session (prepareForSleep_moves shield _ _ _)
  | presence status =>
    cases status with
    | available => exact drive_turns session (onUserActive_moves shield)
    | idle => exact drive_turns session (onSessionIdle_moves now)
    | invisible | busy | unknown => exact stay
  | key key edit grid => exact onShieldKey_turns session key edit grid
  | click dest => exact onShieldClick_turns session dest
  | switchUser => exact driveLock_turns session fun _ => lockInstant_moves shield
  | verifier => cases own
  | fingerprintReader reader =>
    dsimp only [handle, onFingerprintReader]
    split
    · exact stay
    · have noted : Rests st { st with fingerprintReader := reader } :=
        rests_of_frame session session.unnamed rfl
      exact noted.turns (syncVerifierForeground_turns noted.session covers)
  | settings settings allowedFailures disableUserList =>
    -- The settings are the one part of the shield that is not the gate's.
    have noted : Rests st { st with
        shield := st.shield.setSettings settings
        dialog := st.dialog.setPeekLockedDown settings.disableShowPassword
        allowedFailures
        disableUserList } :=
      ⟨⟨session.greeter, session.shield, session.unnamed, session.exhausted⟩, rfl,
        (append_nil _).symm⟩
    dsimp only [handle, onSettings]
    rw [syncGreeterUserList_eq noted.session]
    exact noted.turns (syncVerifierForeground_turns noted.session covers)
  | accountChanged => exact .rest (rests_of_frame session session.unnamed rfl)
  | loginUsers users =>
    have loaded : Rests st { st with loginUsersLoaded := true } :=
      rests_of_frame session session.unnamed rfl
    have listed : Rests st
        { st with loginUsersLoaded := true, loginUsers := users } :=
      rests_of_frame session session.unnamed rfl
    dsimp only [handle, onLoginUsers]
    rw [syncGreeterUserList_eq loaded.session, syncGreeterUserList_eq listed.session]
    split
    · split <;> exact .rest loaded
    · exact .rest listed
  | watchdog => cases own
  | retryTimer =>
    dsimp only [handle, onRetryTimer]
    split
    · exact stay
    next retryTimers _ =>
      have counted : Rests st { st with retryTimers } := rests_of_frame session session.unnamed rfl
      rw [if_neg (by simp [session.greeter])]
      exact counted.turns (drive_turns counted.session
        (retryAuthenticator_moves shield))
  | fadeTimer =>
    dsimp only [handle, onFadeTimer]
    split
    · have stopped : Rests st { st with fadeTimer := false } :=
        rests_of_frame session session.unnamed rfl
      exact stopped.turns (drive_turns stopped.session
        (fadeComplete_moves now))
    · exact stay
  | lockTimer =>
    dsimp only [handle, onLockTimer]
    split
    · have stopped : Rests st { st with lockTimer := none } :=
        rests_of_frame session session.unnamed rfl
      split
      · exact stopped.turns (driveLock_turns stopped.session
          fun _ => lock_moves shield)
      · exact .rest stopped
    · exact stay
  | messageTimer =>
    dsimp only [handle, onMessageTimer]
    split
    · have stopped : Rests st { st with messageTimer := none } :=
        rests_of_frame session session.unnamed rfl
      exact .rest (Reaches.rests stopped (driveDialog_rests stopped.session
        (tick_quiet session.unnamed)))
    · exact stay
  | clockTick =>
    dsimp only [handle, onClockTick]
    split
    · exact .rest (driveDialog_rests session
        (tick_quiet session.unnamed))
    · exact stay
  | sessionTimer svc =>
    dsimp only [handle, onSessionTimer]
    split
    · have counted : Rests st
          { st with sessionTimers := st.sessionTimers.erase svc } :=
        rests_of_frame session session.unnamed rfl
      exact .rest (Reaches.rests counted (send_rests counted.session rfl))
    · exact stay
  | exhaustedTimer =>
    dsimp only [handle, onExhaustedTimer]
    rw [if_neg (by simp [session.exhausted])]
    exact stay
  | tileDwell =>
    dsimp only [handle, onTileDwell]
    rw [if_neg (by simp [session.greeter])]
    exact stay

/-- What the dialog does with an event that carries no verdict. -/
lemma onVerifierEvent_reaches {ev : VerifierEvent} (other : ev ≠ .complete) {gate : Gate}
    {asked : List Epoch} (gated : Reaches st (st.gateVerifierEvent ev) gate asked) :
    Reaches st (st.onVerifierEvent ev now) gate asked :=
  gated.rests (driveDialog_rests gated.session
    (onVerifierEvent_quiet gated.session.unnamed other))

section Verifier

variable (session : st.InSession)
include session

variable {epoch : Epoch}

lemma drive_ignored {ready : Bool}
    (other : ¬ (st.shield.awaitingAuthenticator = some epoch ∧ st.shield.active = true)) :
    Rests st (st.drive (st.shield.authenticatorReady epoch ready)) := by
  rw [authenticatorReady_ignored session.shield ready other]
  exact drive_reaches session rfl rfl

section

variable (awaited : st.shield.awaitingAuthenticator = some epoch)
include awaited

lemma drive_refuses (active : st.shield.active = true) :
    Reaches st (st.drive (st.shield.authenticatorReady epoch false))
      st.shield.gate.unanswered [] := by
  have refuses := authenticatorReady_refuses awaited active
  have driven := drive_reaches session refuses.greeter
    (congrArg Wants.request refuses.wants)
  rw [refuses.gate] at driven
  exact driven

lemma ready_grants (active : st.shield.active = true) :
    Reaches st (st.onVerifierEvent (.ready epoch) now) st.shield.gate.granted [] := by
  have grants := authenticatorReady_grants awaited active
  have driven := drive_reaches session grants.greeter
    (congrArg Wants.request grants.wants)
  rw [grants.gate] at driven
  exact onVerifierEvent_reaches (by simp) driven

end

lemma ready_ignored
    (other : ¬ (st.shield.awaitingAuthenticator = some epoch ∧ st.shield.active = true)) :
    Rests st (st.onVerifierEvent (.ready epoch) now) :=
  onVerifierEvent_reaches (by simp) (drive_ignored session other)

variable {why : String}

lemma unavailable_refuses (awaited : st.shield.awaitingAuthenticator = some epoch)
    (active : st.shield.active = true) :
    Reaches st (st.onVerifierEvent (.unavailable epoch why) now) st.shield.gate.unanswered [] :=
  onVerifierEvent_reaches (by simp) (drive_refuses session awaited active)

lemma unavailable_ignored
    (other : ¬ (st.shield.awaitingAuthenticator = some epoch ∧ st.shield.active = true)) :
    Rests st (st.onVerifierEvent (.unavailable epoch why) now) :=
  onVerifierEvent_reaches (by simp) (drive_ignored session other)

lemma lost_forgets (unlocked : (st.shield.locked && st.shield.active) = false) :
    Reaches st (st.onVerifierEvent .lost now) st.shield.gate.unanswered [] := by
  have loses := authenticatorLost_forgets session.shield unlocked
  have driven := drive_reaches session loses.greeter
    (congrArg Wants.request loses.wants)
  rw [loses.gate] at driven
  apply onVerifierEvent_reaches (by simp)
  unfold gateVerifierEvent
  rw [if_neg (by simp [session.greeter])]
  exact driven

lemma lost_asks (locked : st.shield.locked = true) (active : st.shield.active = true) :
    Reaches st (st.onVerifierEvent .lost now) st.shield.gate.asking [st.shield.epoch + 1] ∨
      Reaches st (st.onVerifierEvent .lost now) st.shield.gate.asking.unanswered [] := by
  have gated : st.gateVerifierEvent .lost =
      st.drive st.shield.authenticatorLost := by
    unfold gateVerifierEvent
    rw [if_neg (by simp [session.greeter])]
  obtain asked | refused := drive_asks session
    (authenticatorLost_asks locked active)
  · exact .inl (onVerifierEvent_reaches (by simp) (gated ▸ asked))
  · exact .inr (onVerifierEvent_reaches (by simp) (gated ▸ refused))

lemma complete_raises : Reaches st (st.onVerifierEvent .complete now) st.shield.gate.raised [] := by
  have ended : Rests st
      { st with dialog := (st.dialog.onVerifierEvent .complete now).1 } :=
    rests_of_frame session (by simp [UnlockDialog.onVerifierEvent, UnlockDialog.endQuestion]) rfl
  have raised : Reaches _ (Compositor.publishUnlock _
      (st.dialog.onVerifierEvent .complete now).2) _ [] :=
    publishUnlock_raises ended.session rfl rfl
  exact ended.reaches raised

/-- Whatever else the verifier says is no business of the gate. -/
lemma onVerifierEvent_rests {ev : VerifierEvent} (other : ev ≠ .complete)
    (kept : ev ≠ .lost) (unready : ∀ epoch, ev ≠ .ready epoch)
    (available : ∀ epoch why, ev ≠ .unavailable epoch why) :
    Rests st (st.onVerifierEvent ev now) := by
  apply onVerifierEvent_reaches other
  have stay : Reaches st st st.shield.gate [] := rests_self session
  unfold gateVerifierEvent
  cases ev with
  | ready epoch => exact absurd rfl (unready epoch)
  | unavailable epoch why => exact absurd rfl (available epoch why)
  | lost => exact absurd rfl kept
  | sessionOpened | exhausted => simpa [session.greeter] using stay
  | _ => exact stay

end Verifier

end Compositor

end Synoik
