import Synoik.Shield.Dialog

/-!
# Messages of the unlock dialog

What waits is shown in its turn, and what is shown stays for its time.
-/

namespace Synoik.UnlockDialog

variable {dlg post : UnlockDialog} {now : Duration} {source : MessageSource}
  {next : Option Message} {rest queue : List (Option Message)} {op : Duration × DialogOp}

def step (dialog : UnlockDialog) (op : Duration × DialogOp) : Option UnlockDialog :=
  some (dialog.call op.1 op.2).1

/-- The message on the screen is the same and for as long. -/
def Keeps (dialog after : UnlockDialog) : Prop :=
  after.message = dialog.message ∧ after.messageUntil = dialog.messageUntil

/-- A message has just been put on the screen, or taken from it. -/
def Puts (now : Duration) (after : UnlockDialog) : Prop :=
  after.messageUntil = after.message.map fun message => now + readTime message.text

def Due (dialog : UnlockDialog) (now : Duration) : Prop := ¬ dialog.messageUntil.any (now < ·)

/-- What waits does so behind a message on the screen. -/
def Waiting (dialog : UnlockDialog) : Prop := dialog.messageQueue ≠ [] → dialog.messageUntil ≠ none

/-- The head of the queue was taken to the screen, or past a clear one behind it. -/
def Promotes (next : Option Message) (rest : List (Option Message)) (after : UnlockDialog) : Prop :=
  after.messageQueue <:+ rest ∧
    ∀ message, next = some message → after.message = next ∧ after.messageQueue = rest

def isDoomed (source : MessageSource) (message : Message) : Bool :=
  message.source == source && message.kind.priority < MessageKind.error.priority

/-- The filter takes the message on the screen and finds a clear ahead of other messages. -/
def FindsClear (dialog : UnlockDialog) (source : MessageSource) : Prop :=
  dialog.message.any (isDoomed source) ∧ ∃ next rest,
    (dialog.messageQueue.filter fun message => !message.any (isDoomed source)) =
      none :: next :: rest

/-- The screen is cleared ahead of the messages that wait, by a filter or by a reset or an
answer that comes before the tick that is due. -/
def ClearsAhead (dialog : UnlockDialog) : Duration × DialogOp → Prop
  | (now, .submit) => dialog.isEntryLive ∧ dialog.status = .asking ∧ dialog.messageQueue ≠ [] ∧
      dialog.Due now
  | (now, .onVerifierEvent .reset) => dialog.messageQueue ≠ [] ∧ dialog.Due now
  | (_, .onVerifierEvent (.filterMessages source)) => dialog.FindsClear source
  | _ => False

/-- Calls that may take a message off before its time: they leave the page, ask for a name or
filter the quieter messages of its service. -/
def Excuses (dialog : UnlockDialog) (message : Message) : Duration × DialogOp → Prop
  | (_, .showClock) | (_, .cancel) => dialog.page = .prompt
  | (_, .askUsername) => True
  | (now, .tick) => dialog.page = .prompt ∧ (dialog.tick now).1.page = .clock
  | (_, .onVerifierEvent (.filterMessages source)) => isDoomed source message
  | _ => False

/-- The clock is shown again, which takes the message off it. -/
def ClearsClock (dialog : UnlockDialog) : Duration × DialogOp → Prop
  | (_, .showClock) | (_, .cancel) => dialog.page = .clock
  | _ => False

lemma filterMessages_shows : Keeps dlg (dlg.filterMessages source now).2 ∨
      Puts now (dlg.filterMessages source now).2 ∧ ∀ msg ∈ dlg.message, isDoomed source msg := by
  dsimp only [filterMessages]
  split
  next doomed => exact .inr ⟨rfl, fun msg shown => by rwa [shown] at doomed⟩
  · exact .inl ⟨rfl, rfl⟩

lemma filterMessages_waits (unclear : ¬ dlg.FindsClear source) (waits : dlg.Waiting) :
    (dlg.filterMessages source now).2.Waiting := by
  have shown : ∀ queue : List (Option Message), (¬ ∃ next rest, queue = none :: next :: rest) →
      queue.tail ≠ [] → (queue.head?.join.map fun msg => now + readTime msg.text) ≠ none
    | [], _, left => absurd rfl left
    | [_], _, left => absurd rfl left
    | none :: next :: rest, clear, _ => absurd ⟨next, rest, rfl⟩ clear
    | some _ :: _ :: _, _, _ => nofun
  dsimp only [filterMessages]
  split
  next doomed => exact shown _ fun clear => unclear ⟨doomed, clear⟩
  · exact fun left => waits fun empty => left (by simp [empty])

/-- Queued messages take the screen only when the one on it has had its time, and wait only
behind one that has not. -/
lemma advanceQueue_shows :
    let post := (advanceQueue now queue dlg).2
    (Keeps dlg post ∨ Puts now post ∧ dlg.Due now) ∧ post.Waiting ∧
      post.messageQueue <:+ queue := by
  induction queue generalizing dlg with
  | nil => exact ⟨.inl ⟨rfl, rfl⟩, nofun, List.nil_suffix⟩
  | cons next _ ih =>
    rw [advanceQueue]
    split
    next owed =>
      refine ⟨.inl ⟨rfl, rfl⟩, fun _ none => ?_, List.suffix_refl _⟩
      rw [none] at owed
      cases owed
    next due =>
    obtain ⟨shows, waits, suffix⟩ := @ih (dlg.showMessageNow next now).2
    refine ⟨.inr ⟨?_, due⟩, waits, suffix.trans (List.suffix_cons _ _)⟩
    rcases shows with ⟨msg, until_⟩ | ⟨put, -⟩
    · exact until_.trans (congrArg (Option.map _) msg.symm)
    · exact put

lemma advanceQueue_promotes (due : dlg.Due now) :
    Promotes next rest (advanceQueue now (next :: rest) dlg).2 := by
  rw [advanceQueue, if_neg due]
  refine ⟨advanceQueue_shows.2.2, ?_⟩
  rintro msg rfl
  have positive : 0 < readTime msg.text := Nat.lt_of_lt_of_le (by decide) (Nat.le_max_right _ _)
  cases rest with
  | nil => exact ⟨rfl, rfl⟩
  | cons _ _ =>
    dsimp only
    rw [advanceQueue, if_pos (by simp [showMessageNow, positive])]
    exact ⟨rfl, rfl⟩

section Steps

attribute [local grind] call setUser setRealName takeWiggle togglePeek peek setPeekLockedDown
  askUsername showPrompt showClock cancel clearEntry dropMessages showMessageNow isEntryLive
  entryKey submit tick advanceMessages onVerifierEvent endQuestion queueMessage Due

/-- A message leaves the screen only when it has had its time or the call excuses it. -/
lemma call_shows (op : Duration × DialogOp) :
    Keeps dlg (dlg.call op.1 op.2).1 ∨ Puts op.1 (dlg.call op.1 op.2).1 ∧
      (dlg.Due op.1 ∨ ClearsClock dlg op ∨ ∀ msg ∈ dlg.message, Excuses dlg msg op) := by
  obtain ⟨now, op⟩ := op
  have advanced := (@advanceQueue_shows dlg now dlg.messageQueue).1
  have filtered := @filterMessages_shows dlg now
  have unmoved : (advanceQueue now dlg.messageQueue dlg).2.page = dlg.page :=
    congrArg Prod.fst (advanceQueue_face _)
  cases op with
  | onVerifierEvent ev => cases ev <;> grind [Keeps, Puts, Excuses]
  | showClock | cancel => cases page : dlg.page <;> grind [Keeps, Puts, Excuses, ClearsClock]
  | _ => grind [Keeps, Puts, Excuses]

lemma Waiting.step (clears : ¬ ClearsAhead dlg op) (ran : dlg.step op = some post)
    (waits : dlg.Waiting) : post.Waiting := by
  cases ran
  obtain ⟨now, op⟩ := op
  have advanced := (@advanceQueue_shows dlg now dlg.messageQueue).2.1
  cases op with
  | onVerifierEvent ev =>
    cases ev with
    | filterMessages source => exact filterMessages_waits clears waits
    | _ => grind [ClearsAhead, Waiting]
  | _ => grind [ClearsAhead, Waiting]

lemma tick_eq (stays : (dlg.tick now).1.page = dlg.page) :
    (dlg.tick now).1 = (advanceQueue now dlg.messageQueue dlg).2 := by
  have unmoved : (advanceQueue now dlg.messageQueue dlg).2.page = dlg.page :=
    congrArg Prod.fst (advanceQueue_face _)
  grind

end Steps

/-- Unless the screen is cleared ahead of what waits, a message that waits has a deadline and
the tick at it takes the message to the screen. A message put on the screen stays there until
its time has passed, a call excuses it or the clock is shown over it. -/
theorem messages_not_stranded {user : UserInfo} {ops : List (Duration × DialogOp)}
    (run : Runs step (fun dialog op => ¬ ClearsAhead dialog op) { user } ops dialog) :
    (∀ next rest, dialog.messageQueue = next :: rest → ∃ deadline,
      dialog.messageDeadline = some deadline ∧ ((dialog.tick deadline).1.page = dialog.page →
        Promotes next rest (dialog.tick deadline).1)) ∧
    ∀ op after message later final, dialog.step op = some after → ¬ Keeps dialog after →
      after.message = some message →
      Runs step (fun dialog next => next.1 < op.1 + readTime message.text ∧
        ¬ Excuses dialog message next ∧ ¬ ClearsClock dialog next) after later final →
        final.message = some message := by
  refine ⟨fun next rest queue => ?_, ?_⟩
  · have waiting : dialog.Waiting := run.invariant _ (fun may ran => .step may ran) nofun
    obtain ⟨deadline, due⟩ := Option.ne_none_iff_exists'.mp (waiting (queue ▸ List.cons_ne_nil _ _))
    refine ⟨deadline, by rwa [messageDeadline, queue], fun stays => ?_⟩
    rw [tick_eq stays, queue]
    exact advanceQueue_promotes (by simp [Due, due])
  · rintro op _ message later final ⟨⟩ fresh shown stays
    have put := ((call_shows op).resolve_left fresh).1
    rw [Puts, shown] at put
    refine (stays.invariant (fun dialog => dialog.message = some message ∧
      dialog.messageUntil = some (op.1 + readTime message.text)) ?_ ⟨shown, put⟩).1
    rintro dialog next after ⟨early, unexcused, uncovered⟩ ran ⟨up, until_⟩
    cases ran
    rcases @call_shows dialog next with keeps | ⟨-, due | covered | excused⟩
    · exact ⟨keeps.1.trans up, keeps.2.trans until_⟩
    · exact absurd due (by simp [Due, until_, early])
    · exact absurd covered uncovered
    · exact absurd (excused message up) unexcused

def showsHint : Duration × DialogOp :=
  (0, .onVerifierEvent (.showMessage "hint" .hint .fingerprint))

def showsError : Duration × DialogOp :=
  (0, .onVerifierEvent (.showMessage "error" .error .password))

theorem messages_not_stranded_error : ∃ dialog,
    Runs step (fun dialog op => ¬ ClearsAhead dialog op) {} [showsHint, showsError] dialog ∧
      dialog.messageQueue ≠ [] ∧ ∃ deadline, dialog.messageDeadline = some deadline := by
  have run : Runs step (fun dialog op => ¬ ClearsAhead dialog op) {} [showsHint, showsError] _ :=
    .cons nofun rfl (.cons nofun rfl (.nil _))
  obtain ⟨deadline, known, -⟩ := (messages_not_stranded run).1 _ _ rfl
  exact ⟨_, run, nofun, deadline, known⟩

/-- The filter takes the hint off and finds the clear of the reset ahead of the error. -/
theorem error_stranded : ∃ dialog,
    Runs step (fun _ _ => True) {} [showsHint, (0, .onVerifierEvent .reset), showsError,
      (0, .onVerifierEvent (.filterMessages .fingerprint))] dialog ∧
      dialog.messageQueue ≠ [] ∧ dialog.messageDeadline = none :=
  ⟨_, runs_of_runUnder rfl, nofun, rfl⟩

end Synoik.UnlockDialog
