import Synoik.Shield.Verifier
import Synoik.Support.Offsets

/-!
# The unlock dialog

The prompt page of the shield: what the verifier asked, what has been typed, and
the messages under the entry, each of which stays on the screen for its reading
time before the next one takes its place. What a key does to the text of the
entry is a parameter.
-/

namespace Synoik

inductive Page where
  | clock
  | prompt
deriving DecidableEq

inductive DialogStatus where
  | notVerifying
  | asking
  | askingName
  | answered
  | failed
  | verified
deriving DecidableEq

structure Message where
  source : MessageSource
  text : String
  kind : MessageKind
deriving DecidableEq

structure UserInfo where
  name : String := ""
  realName : String := ""
deriving DecidableEq

structure UnlockEffects where
  request : Option VerifierRequest := none
  unlock : Bool := false
  redraw : Bool := false
  startFingerprint : Bool := false
  nameEntered : Option String := none

inductive EditOutcome where
  | ignored
  | activate
  | cancel
  | changed
  | moved

/-- What a key does to the text of an entry. -/
abbrev EntryEdit := String → EditOutcome × String

structure UnlockDialog where
  page : Page := .clock
  status : DialogStatus := .notVerifying
  user : UserInfo := {}
  entry : String := ""
  question : Option (String × Bool) := none
  message : Option Message := none
  wiggle : Bool := false
  messageUntil : Option Duration := none
  messageQueue : List (Option Message) := []
  isPeeking : Bool := false
  peekLockedDown : Bool := false
  lastActivity : Option Duration := none

/-- Back to the clock after this long without activity on the prompt. -/
def promptIdle : Duration := 120000

def usernameQuestion : String := "Username"

def userReadTime : Duration := 48

def userReadTimeMin : Duration := 2000

/-- How long a message is owed on the screen. -/
def readTime (text : String) : Duration := max (userReadTime * text.length) userReadTimeMin

/-- The prompt of the verifier as it is shown: without its last colons and the
blanks around it. -/
def cleanQuestion (question : String) : String :=
  if question = "Password:" ∨ question = "Password: " then
    "Password"
  else
    let trimmed := Offsets.dropTrailing Offsets.isWhitespace question.toList
    String.ofList (Offsets.trim (Offsets.dropTrailing (fun c => c = ':' ∨ c = '：') trimmed))

namespace UnlockDialog

variable (dialog : UnlockDialog)

def setRealName (realName : String) : UnlockDialog :=
  { dialog with user := { dialog.user with realName } }

def setUser (user : UserInfo) : UnlockDialog :=
  { dialog with user }

def takeWiggle : Bool × UnlockDialog := (dialog.wiggle, { dialog with wiggle := false })

/-- When the message on the screen may be replaced, if one is waiting. -/
def messageDeadline : Option Duration :=
  match dialog.messageQueue with
  | [] => none
  | _ :: _ => dialog.messageUntil

def messages : List Message := dialog.message.toList ++ dialog.messageQueue.reduceOption

/-- Whether a louder message than `kind` is on the screen or already waiting. -/
def hasLouder (kind : MessageKind) : Bool :=
  dialog.messages.any fun message => kind.priority < message.kind.priority

def showMessageNow (message : Option Message) (now : Duration) : Bool × UnlockDialog :=
  let changed := dialog.message != message
  let alarms := message.any fun message =>
    message.kind == .error && message.source == .fingerprint
  (changed,
    { dialog with
      wiggle := dialog.wiggle || (changed && alarms)
      messageUntil := message.map fun message => now + readTime message.text
      message })

def queueMessage (message : Option Message) (now : Duration) : Bool × UnlockDialog :=
  if dialog.messageUntil.any (now < ·) then
    (false, { dialog with messageQueue := dialog.messageQueue ++ [message] })
  else
    dialog.showMessageNow message now

def dropMessages : Bool × UnlockDialog :=
  { dialog with messageQueue := [] }.showMessageNow none 0

def filterMessages (source : MessageSource) (now : Duration) : Bool × UnlockDialog :=
  let doomed (message : Message) : Bool :=
    message.source == source && message.kind.priority < MessageKind.error.priority
  let dialog := { dialog with
    messageQueue := dialog.messageQueue.filter fun message => !message.any doomed }
  if dialog.message.any doomed then
    let next := dialog.messageQueue.head?.join
    { dialog with messageQueue := dialog.messageQueue.tail }.showMessageNow next now
  else
    (false, dialog)

/-- Shows the queued messages one after the other while the one on the screen has
had its time. -/
def advanceQueue (now : Duration) : List (Option Message) → UnlockDialog → Bool × UnlockDialog
  | [], dialog => (false, { dialog with messageQueue := [] })
  | next :: rest, dialog =>
    if dialog.messageUntil.any (now < ·) then
      (false, { dialog with messageQueue := next :: rest })
    else
      let (shown, dialog) := dialog.showMessageNow next now
      let (later, dialog) := advanceQueue now rest dialog
      (shown || later, dialog)

variable (now : Duration)

def advanceMessages : Bool × UnlockDialog := advanceQueue now dialog.messageQueue dialog

def clearEntry : UnlockDialog :=
  { dialog with entry := "" }

/-- With no question out the entry counts as a secret. -/
def asksForSecret : Bool := dialog.question.all Prod.snd

def isSecret : Bool := dialog.asksForSecret && !dialog.isPeeking

def peek : Option Bool :=
  if !dialog.asksForSecret || dialog.peekLockedDown then none
  else some dialog.isPeeking

def togglePeek : UnlockDialog × UnlockEffects :=
  let dialog := { dialog with lastActivity := some now }
  if dialog.peek.isNone then
    (dialog, {})
  else
    ({ dialog with isPeeking := !dialog.isPeeking }, { redraw := true })

def setPeekLockedDown (lockedDown : Bool) : UnlockDialog :=
  { dialog with
    peekLockedDown := lockedDown
    isPeeking := dialog.isPeeking && !lockedDown }

def isEntryLive : Bool :=
  dialog.page == .prompt && (dialog.status == .asking || dialog.status == .askingName)

def askUsername : UnlockDialog × UnlockEffects :=
  let dialog := ({ dialog with user := {}, isPeeking := false }.dropMessages).2
  ({ dialog.clearEntry with
      question := some (usernameQuestion, false)
      status := .askingName
      page := .prompt
      lastActivity := some now },
    { redraw := true })

def showPrompt : UnlockDialog × UnlockEffects :=
  let dialog := { dialog with lastActivity := some now }
  if dialog.page = .prompt then
    (dialog, {})
  else
    ({ dialog with page := .prompt }, { startFingerprint := true, redraw := true })

def showClock : UnlockDialog × UnlockEffects :=
  let dialog := { dialog.clearEntry with lastActivity := none }
  let dialog :=
    if dialog.status = .askingName then
      { dialog with status := .notVerifying, question := none }
    else
      dialog
  let (cleared, dialog) := dialog.dropMessages
  if dialog.page = .clock then
    (dialog, { redraw := cleared })
  else
    ({ dialog with page := .clock }, { redraw := true })

/-- Feeds a key to the entry, which may not be interested in it. The prompt comes
up either way. -/
def entryKey (edit : EntryEdit) (now : Duration) : UnlockDialog × Option UnlockEffects :=
  let (dialog, effects) := dialog.showPrompt now
  if dialog.isEntryLive then
    let (outcome, entry) := edit dialog.entry
    let dialog := { dialog with entry }
    match outcome with
    | .changed | .moved => (dialog, some { effects with redraw := true })
    | .ignored | .activate | .cancel => (dialog, none)
  else
    (dialog, none)

def submit : UnlockDialog × UnlockEffects :=
  let dialog := { dialog with lastActivity := some now }
  if !dialog.isEntryLive then
    (dialog, {})
  else if dialog.status = .askingName then
    if dialog.entry = "" then
      (dialog, {})
    else
      ({ dialog.clearEntry with question := none, status := .notVerifying },
        { nameEntered := some dialog.entry, redraw := true })
  else
    let answered := { dialog.clearEntry with status := .answered }
    ((answered.queueMessage none now).2,
      { request := some (.answer dialog.entry), redraw := true })

def cancel : UnlockDialog × UnlockEffects := dialog.showClock

def tick : UnlockDialog × UnlockEffects :=
  let (advanced, dialog) := dialog.advanceMessages now
  let escaping := dialog.page == .prompt &&
    dialog.lastActivity.any fun last => promptIdle ≤ now - last
  if escaping then
    let (dialog, effects) := dialog.showClock
    (dialog, { effects with redraw := effects.redraw || advanced })
  else
    (dialog, { redraw := advanced })

def isWaitingToEscape : Bool := dialog.page == .prompt && dialog.lastActivity.isSome

/-- The conversation is over: nothing is asked and nothing may be typed. -/
def endQuestion (status : DialogStatus) : UnlockDialog :=
  { dialog.clearEntry with status, question := none }

def onVerifierEvent (event : VerifierEvent) (now : Duration) : UnlockDialog × UnlockEffects :=
  match event with
  | .ready _ => (dialog, {})
  | .lost =>
    ({ dialog.endQuestion .notVerifying with page := .clock }, { redraw := true })
  | .unavailable _ _ => (dialog.endQuestion .notVerifying, { redraw := true })
  | .askQuestion question secret =>
    ({ dialog.clearEntry with
        isPeeking := false
        question := some (cleanQuestion question, secret)
        status := .asking },
      { redraw := true })
  | .filterMessages source =>
    let (changed, dialog) := dialog.filterMessages source now
    (dialog, { redraw := changed })
  | .showMessage text kind source =>
    if dialog.hasLouder kind then
      (dialog, {})
    else
      let (changed, dialog) := dialog.queueMessage (some { text, kind, source }) now
      (dialog, { redraw := changed })
  | .complete => (dialog.endQuestion .verified, { unlock := true, redraw := true })
  | .failed =>
    let dialog := dialog.endQuestion .failed
    let failure : Message :=
      { text := "Authentication failed", kind := .error, source := .password }
    let dialog :=
      if dialog.message.isNone then (dialog.queueMessage (some failure) now).2
      else dialog
    (dialog, { redraw := true })
  | .exhausted => (dialog, {})
  | .sessionOpened _ => (dialog, {})
  | .reset =>
    (((dialog.endQuestion .notVerifying).queueMessage none now).2,
      { redraw := true })

end UnlockDialog

end Synoik
