import Synoik.Shield.UnlockDialog
import Synoik.Support.Runs

/-!
# Whole runs of the unlock dialog

The dialog under any sequence of calls, with a log of what was asked, typed and made visible.
-/

namespace Synoik

inductive DialogOp where
  | setUser (user : UserInfo)
  | setRealName (realName : String)
  | takeWiggle
  | togglePeek
  | setPeekLockedDown (lockedDown : Bool)
  | askUsername
  | showPrompt
  | showClock
  | entryKey (edit : EntryEdit)
  | submit
  | cancel
  | tick
  | onVerifierEvent (event : VerifierEvent)

/-- The verifier has ended the conversation or the attempt. -/
def DialogOp.isVerdict : DialogOp → Bool
  | .onVerifierEvent .failed | .onVerifierEvent .reset | .onVerifierEvent .lost
  | .onVerifierEvent (.unavailable _ _) | .onVerifierEvent .complete => true
  | _ => false

namespace UnlockDialog

def call (dialog : UnlockDialog) (now : Duration) : DialogOp → UnlockDialog × UnlockEffects
  | .setUser user => (dialog.setUser user, {})
  | .setRealName realName => (dialog.setRealName realName, {})
  | .takeWiggle => (dialog.takeWiggle.2, {})
  | .togglePeek => dialog.togglePeek now
  | .setPeekLockedDown lockedDown => (dialog.setPeekLockedDown lockedDown, {})
  | .askUsername => dialog.askUsername now
  | .showPrompt => dialog.showPrompt now
  | .showClock => dialog.showClock
  | .entryKey edit => ((dialog.entryKey edit now).1, (dialog.entryKey edit now).2.getD {})
  | .submit => dialog.submit now
  | .cancel => dialog.cancel
  | .tick => dialog.tick now
  | .onVerifierEvent event => dialog.onVerifierEvent event now

variable {dlg : UnlockDialog} {now : Duration}

/-- What is asked, typed and visible, apart from the messages. -/
def face (dialog : UnlockDialog) :
    Page × DialogStatus × String × Option (String × Bool) × Bool × Bool × Option Duration :=
  (dialog.page, dialog.status, dialog.entry, dialog.question, dialog.isPeeking,
    dialog.peekLockedDown, dialog.lastActivity)

lemma queueMessage_face (msg : Option Message) : (dlg.queueMessage msg now).2.face = dlg.face := by
  unfold queueMessage
  split <;> rfl

lemma filterMessages_face (src : MessageSource) :
    (dlg.filterMessages src now).2.face = dlg.face := by
  dsimp only [filterMessages]
  split <;> rfl

lemma advanceQueue_face (q : List (Option Message)) :
    (advanceQueue now q dlg).2.face = dlg.face := by
  induction q generalizing dlg with
  | nil => rfl
  | cons _ _ ih =>
    rw [advanceQueue]
    split
    · rfl
    · exact ih

end UnlockDialog

open UnlockDialog

/-- What an observer of the calls and their effects has seen. -/
structure DialogLog where
  /-- A question is out that has not been answered or withdrawn, nor a name asked for. -/
  asked : Bool := false
  /-- The keys since the question or the last return to the clock, on an empty entry. -/
  typed : String := ""
  /-- The text was made visible since the question, the last return to the clock, the last
  answer and the last lockdown. -/
  peeked : Bool := false

def DialogLog.note (log : DialogLog) (dialog : UnlockDialog) (now : Duration)
    (op : DialogOp) : DialogLog :=
  let (after, effects) := dialog.call now op
  let answers := effects.request matches some (.answer _)
  { asked := match op with
      | .onVerifierEvent (.askQuestion _ _) => true
      | .askUsername => false
      | op => log.asked && !op.isVerdict && !answers
    typed := match op with
      | .onVerifierEvent (.askQuestion _ _) => ""
      | .entryKey edit => (edit log.typed).2
      | _ => if after.page = .clock then "" else log.typed
    peeked := match op with
      | .onVerifierEvent (.askQuestion _ _) | .setPeekLockedDown true => false
      | .togglePeek => log.peeked || (!dialog.isPeeking && after.isPeeking)
      | _ => log.peeked && !(dialog.page == .prompt && after.page == .clock) && !answers }

abbrev Watched := UnlockDialog × DialogLog

def Watched.step (watched : Watched) (op : Duration × DialogOp) : Option Watched :=
  some ((watched.1.call op.1 op.2).1, watched.2.note watched.1 op.1 op.2)

/-- The prompt is left with its question out and the text visible. -/
def LeavesVisible (watched : Watched) (op : Duration × DialogOp) : Prop :=
  watched.1.page = .prompt ∧ watched.1.status = .asking ∧ watched.1.isPeeking ∧
    match op.2 with
    | .showClock | .cancel => True
    | .tick => watched.1.lastActivity.any fun last => promptIdle ≤ op.1 - last
    | _ => False

section Steps

attribute [local grind] UnlockDialog.call DialogLog.note setUser setRealName takeWiggle togglePeek
  peek setPeekLockedDown askUsername showPrompt showClock cancel clearEntry dropMessages
  showMessageNow isEntryLive entryKey submit tick advanceMessages onVerifierEvent endQuestion
  DialogOp.isVerdict face

variable {pre after : Watched} {op : Duration × DialogOp}

/-- What is typed answers a question that is out, and is gone with the page. -/
structure Watched.Open (watched : Watched) : Prop where
  asking : watched.1.status = .asking → watched.2.asked ∧ watched.1.entry = watched.2.typed
  away : watched.1.page = .clock → watched.1.entry = ""

lemma Watched.Open.step (ran : pre.step op = some after) (isOpen : pre.Open) : after.Open := by
  cases ran
  obtain ⟨dlg, _⟩ := pre
  obtain ⟨now, op⟩ := op
  obtain ⟨asking, away⟩ := isOpen
  have queued := fun dlg => @queueMessage_face dlg now
  have advanced := @advanceQueue_face dlg now dlg.messageQueue
  have filtered := @filterMessages_face dlg now
  cases op with
  | onVerifierEvent ev => cases ev <;> constructor <;> grind
  | _ => constructor <;> grind

/-- A text is there only while something is asked, by the verifier or for a name. -/
structure UnlockDialog.Live (dialog : UnlockDialog) : Prop where
  typed : dialog.entry ≠ "" → dialog.status = .asking ∨ dialog.status = .askingName
  named : dialog.status = .askingName → dialog.question = some (usernameQuestion, false)

lemma UnlockDialog.Live.call {dlg : UnlockDialog} (live : dlg.Live) (now : Duration)
    (op : DialogOp) : (dlg.call now op).1.Live := by
  obtain ⟨typed, named⟩ := live
  have queued := fun dlg => @queueMessage_face dlg now
  have advanced := @advanceQueue_face dlg now dlg.messageQueue
  have filtered := @filterMessages_face dlg now
  cases op with
  | onVerifierEvent ev => cases ev <;> constructor <;> grind
  | _ => constructor <;> grind

/-- A visible text was made visible for the answer it is typed for. -/
def Watched.Covered (watched : Watched) : Prop :=
  watched.1.isPeeking → watched.1.status = .asking → watched.2.peeked

lemma Watched.Covered.step (stays : ¬ LeavesVisible pre op)
    (ran : pre.step op = some after) (covered : pre.Covered) : after.Covered := by
  cases ran
  obtain ⟨dlg, log⟩ := pre
  obtain ⟨now, op⟩ := op
  unfold Covered at *
  cases op with
  | onVerifierEvent ev =>
    have queued := fun dlg => @queueMessage_face dlg now
    have filtered := @filterMessages_face dlg now
    cases ev <;> grind
  | tick =>
    have advanced := @advanceQueue_face dlg now dlg.messageQueue
    unfold LeavesVisible at stays
    grind
  | submit =>
    have queued := fun dlg => @queueMessage_face dlg now
    grind
  | _ =>
    unfold LeavesVisible at stays
    grind

lemma UnlockDialog.call_answers (dlg : UnlockDialog) (now : Duration) (op : DialogOp) :
    let (after, effs) := dlg.call now op
    (∀ text, effs.request = some (.answer text) → dlg.status = .asking ∧
      text = dlg.entry ∧ after.entry = "" ∧ effs.nameEntered = none) ∧
    (op.isVerdict → after.entry = "") := by
  have queued := fun dlg => @queueMessage_face dlg now
  cases op with
  | onVerifierEvent ev => cases ev <;> grind
  | _ => grind

end Steps

variable {user : UserInfo} {ops : List (Duration × DialogOp)} {dialog : UnlockDialog}
  {log : DialogLog}

/-- Along every run an answer is given to a question of the verifier that is out, not yet
answered or withdrawn and with no name asked for since, and says what was typed on an empty
entry since the question or the last return to the clock. The answer and every verdict
leave the entry empty. -/
theorem answer_per_question
    (run : Runs Watched.step (fun _ _ => True) ({ user }, {}) ops (dialog, log))
    (now : Duration) (op : DialogOp) :
    let (after, effects) := dialog.call now op
    (∀ text, effects.request = some (.answer text) →
      log.asked ∧ text = log.typed ∧ after.entry = "" ∧ effects.nameEntered = none) ∧
    (op.isVerdict → after.entry = "") := by
  have isOpen : Watched.Open (dialog, log) :=
    run.invariant _ (fun _ stepped => .step stepped) ⟨nofun, fun _ => rfl⟩
  obtain ⟨answers, verdicts⟩ := dialog.call_answers now op
  refine ⟨fun text request => ?_, verdicts⟩
  obtain ⟨asking, rfl, cleared, unnamed⟩ := answers text request
  exact ⟨(isOpen.asking asking).1, (isOpen.asking asking).2, cleared, unnamed⟩

def asksSecret : Duration × DialogOp := (0, .onVerifierEvent (.askQuestion "Password:" true))

def typesLetter : Duration × DialogOp := (0, .entryKey fun text => (.changed, text ++ "a"))

theorem answer_per_question_letter : ∃ dialog log,
    Runs Watched.step (fun _ _ => True) ({}, {}) [asksSecret, typesLetter] (dialog, log) ∧
      (dialog.call 0 .submit).2.request = some (.answer "a") ∧ "a" = log.typed := by
  have run : Runs Watched.step (fun _ _ => True) ({}, {}) [asksSecret, typesLetter] _ :=
    runs_of_runUnder rfl
  exact ⟨_, _, run, rfl, ((answer_per_question run 0 .submit).1 "a" rfl).2.1⟩

/-- While the prompt is not left with a question out and its text visible, the text for a
secret question is seen only if it was made visible for this answer. -/
theorem peek_covers_answer
    (run : Runs Watched.step (fun watched op => ¬ LeavesVisible watched op) ({ user }, {}) ops
      (dialog, log))
    (typed : dialog.entry ≠ "") (secret : dialog.asksForSecret) (seen : ¬ dialog.isSecret) :
    log.peeked := by
  have covered : Watched.Covered (dialog, log) :=
    run.invariant _ (fun may stepped => .step may stepped) nofun
  have live : dialog.Live := run.invariant (fun watched => watched.1.Live)
    (fun _ stepped live => by cases stepped; exact live.call ..) ⟨nofun, nofun⟩
  have asking : dialog.status = .asking := by
    refine (live.typed typed).resolve_right fun naming => ?_
    rw [asksForSecret, live.named naming] at secret
    cases secret
  exact covered (by simpa [isSecret, secret] using seen) asking

theorem peek_covers_answer_letter : ∃ dialog log,
    Runs Watched.step (fun watched op => ¬ LeavesVisible watched op) ({}, {})
      [asksSecret, (0, .togglePeek), typesLetter] (dialog, log) ∧ log.peeked := by
  have run : Runs Watched.step (fun watched op => ¬ LeavesVisible watched op) ({}, {})
      [asksSecret, (0, .togglePeek), typesLetter] _ :=
    .cons nofun rfl (.cons nofun rfl (.cons nofun rfl (.nil _)))
  exact ⟨_, _, run, peek_covers_answer run (by decide) rfl (by decide)⟩

/-- The text was made visible, the prompt left and the answer typed anew. -/
theorem peek_outlives_prompt : ∃ dialog log, Runs Watched.step (fun _ _ => True) ({}, {})
      [asksSecret, typesLetter, (0, .togglePeek), (0, .cancel), typesLetter] (dialog, log) ∧
      dialog.entry = "a" ∧ dialog.asksForSecret ∧ ¬ dialog.isSecret ∧ ¬ log.peeked :=
  ⟨_, _, runs_of_runUnder rfl, rfl, rfl, by decide, by decide⟩

end Synoik
