import Synoik.Input.KeyboardA11y

/-!
# Mouse Keys off

The keypad presses buttons and moves the pointer. What it holds down or keeps moving is given up
when a change of the settings turns off both Mouse Keys and the keyboard shortcuts.
-/

namespace Synoik.KeyboardA11y

inductive Button where
  | left
  | middle
  | right
deriving DecidableEq

structure MouseKeys where
  button : Button := .left
  held : Button → Bool := fun _ => false
  moveTimer : Option Nat := none
  lastKey : Option Keysym := none
  /-- The timers of moves that are armed. -/
  timers : List Nat := []
  nextToken : Nat := 0

namespace MouseKeys

variable (mouse : MouseKeys)

/-- Presses or releases the selected button. -/
def mouseKeysButton (press : Bool) : MouseKeys :=
  { mouse with held := Function.update mouse.held mouse.button press }

def startMouseKeysMove (keysym : Keysym) : MouseKeys :=
  if mouse.moveTimer.isSome then { mouse with lastKey := keysym }
  else
    { mouse with
      lastKey := keysym
      moveTimer := some mouse.nextToken
      timers := mouse.nextToken :: mouse.timers
      nextToken := mouse.nextToken + 1 }

def stopMouseKeysMove : MouseKeys :=
  { mouse with
    moveTimer := none
    timers := mouse.timers.filter fun token => mouse.moveTimer ≠ some token }

/-- What a press does; whether it is taken is `mouseKeysPress`. -/
def press (keysym : Keysym) (numLock : Bool) : MouseKeys :=
  let mouse := mouse.stopMouseKeysMove
  if numLock then mouse
  else match keysym with
    | .kpDivide => { mouse with button := .left }
    | .kpMultiply => { mouse with button := .middle }
    | .kpSubtract => { mouse with button := .right }
    | .kpBegin | .kp5 => (mouse.mouseKeysButton true).mouseKeysButton false
    | .kpInsert | .kp0 => mouse.mouseKeysButton true
    | .kpDecimal | .kpDelete => mouse.mouseKeysButton false
    | .kpAdd =>
      (((mouse.mouseKeysButton true).mouseKeysButton false).mouseKeysButton true).mouseKeysButton
        false
    | keysym =>
      if (mouseKeysDirection keysym).isSome then mouse.startMouseKeysMove keysym else mouse

def enableMouseKeys : MouseKeys :=
  { mouse.stopMouseKeysMove with button := .left, lastKey := none }

/-- No button is left held behind. -/
def letGo (button : Button) : MouseKeys :=
  if mouse.held button then { mouse with button }.mouseKeysButton false else mouse

def disableMouseKeys : MouseKeys :=
  ((mouse.stopMouseKeysMove.letGo .left).letGo .middle).letGo .right

/-- The part of a change of the settings that is about Mouse Keys. -/
def sync (old new : Settings) : MouseKeys :=
  let isOn (settings : Settings) := settings.enable || settings.mousekeysEnable
  if isOn new ≠ isOn old ∨ new.enable ≠ old.enable then
    if isOn new then mouse.enableMouseKeys else mouse.disableMouseKeys
  else mouse

/-- The part of the filter that is about Mouse Keys. -/
def filter (keys : State) (keycode : Keycode) (pressed : Bool) : MouseKeys :=
  if keys.applied.mousekeysEnable && !keys.replaying then
    if pressed then mouse.press (keys.keysym keycode) keys.numLock
    else if mouseKeysRelease (keys.keysym keycode) keys.numLock then mouse.stopMouseKeysMove
    else mouse
  else mouse

end MouseKeys

inductive MouseOp where
  | keyboard (op : Op)
  | moveTimer (token : Nat)

namespace MouseKeys

/-- A move goes on with every expiry of its timer. -/
def step (state : State × MouseKeys) : MouseOp → Option (State × MouseKeys)
  | .keyboard op =>
    (KeyboardA11y.step state.1 op).map fun after =>
      let mouse := state.2.sync state.1.applied after.applied
      (after, match op with
        | .key keycode pressed _ _ => mouse.filter state.1.syncKeyboardA11y keycode pressed
        | _ => mouse)
  | .moveTimer token => if token ∈ state.2.timers then some state else none

/-- Whether the settings are applied. -/
def syncs : MouseOp → Bool
  | .keyboard (.setSettings _) | .keyboard (.keymap _ _) | .moveTimer _ => false
  | _ => true

/-- Mouse Keys are turned off only with the keyboard shortcuts off. -/
abbrev OffTogether (state : State × MouseKeys) (op : MouseOp) : Prop :=
  syncs op = true → state.1.applied.mousekeysEnable = true →
    state.1.settings.mousekeysEnable = false → state.1.settings.enable = false

/-- A move has one timer, and there is nothing to give up unless Mouse Keys are on. -/
structure Settled (isOn : Bool) (mouse : MouseKeys) : Prop where
  timed : ∀ token ∈ mouse.timers, mouse.moveTimer = some token
  still : isOn = false → mouse.timers = []
  released : isOn = false → ∀ button, mouse.held button = false

variable {mouse : MouseKeys} {isOn : Bool} {old new : Settings} {state after : State × MouseKeys}
  {op : MouseOp} {ops : List MouseOp}

lemma Settled.stopped (settled : mouse.Settled isOn) : mouse.stopMouseKeysMove.timers = [] := by
  simpa [stopMouseKeysMove] using settled.timed

lemma letGo_held (button : Button) :
    (mouse.letGo button).held = Function.update mouse.held button false := by
  unfold letGo
  split
  · rfl
  next up => rw [← (Bool.not_eq_true _).mp up, Function.update_eq_self]

@[simp] lemma letGo_timers (button : Button) : (mouse.letGo button).timers = mouse.timers := by
  unfold letGo
  split <;> rfl

lemma disable_settled (settled : mouse.Settled isOn) : mouse.disableMouseKeys.Settled false := by
  have still : mouse.disableMouseKeys.timers = [] := by
    simp [disableMouseKeys, settled.stopped]
  refine ⟨by simp [still], fun _ => still, ?_⟩
  rintro - button
  cases button <;> simp [disableMouseKeys, letGo_held, Function.update]

lemma sync_settled (settled : mouse.Settled old.mousekeysEnable)
    (together : old.mousekeysEnable = true → new.mousekeysEnable = false → new.enable = false) :
    (mouse.sync old new).Settled new.mousekeysEnable := by
  have stopped : mouse.enableMouseKeys.timers = [] := settled.stopped
  dsimp only [sync]
  split
  · split
    next on =>
      refine ⟨by simp [stopped], fun _ => stopped, ?_⟩
      intro off
      apply settled.released
      -- The shortcuts are on, so Mouse Keys were not on before.
      grind
    next off =>
    rw [(Bool.or_eq_false_iff.mp ((Bool.not_eq_true _).mp off)).2]
    exact disable_settled settled
  · obtain ⟨timed, still, released⟩ := settled
    constructor <;> grind

lemma press_settled (settled : mouse.Settled true) (keysym : Keysym) (numLock : Bool) :
    (mouse.press keysym numLock).Settled true := by
  have stopped := settled.stopped
  refine ⟨?_, nofun, nofun⟩
  unfold press startMouseKeysMove mouseKeysButton
  grind

lemma sync_applied (keys : State) : keys.syncKeyboardA11y.applied = keys.settings ∧
    keys.syncKeyboardA11y.settings = keys.settings := by
  unfold State.syncKeyboardA11y State.clearSlowKeys State.cancelTimers
  grind

/-- The settings that a key event does not change. -/
def firm (settings : Settings) : Bool × Bool := (settings.mousekeysEnable, settings.enable)

lemma filter_firm {keys : State} (synced : keys.settings = keys.applied)
    (keycode : Keycode) (pressed : Bool) (timeMs now : Nat) :
    firm (keys.keyboardA11yFilter keycode pressed timeMs now).2.applied = firm keys.applied := by
  have timed : ∀ keys : State, ∀ settings,
      (keys.filterTimed settings keycode pressed now).2.applied = keys.applied := by
    intro keys _
    unfold State.filterTimed State.cancelSlowKey State.cancelTimers State.startSlowKey
    grind
  have enabled : ∀ keysym, firm (keys.enableKeysRelease keysym).applied = firm keys.applied := by
    intro _
    unfold State.enableKeysRelease firm
    grind [sync_applied]
  unfold State.keyboardA11yFilter State.enableKeysPress
  grind [firm]

lemma processKey_firm (keys : State) (keycode : Keycode) (pressed physical : Bool)
    (timeMs now : Nat) : firm (keys.processKey keycode pressed physical timeMs now).applied =
      firm keys.settings := by
  have synced : keys.syncKeyboardA11y.settings = keys.syncKeyboardA11y.applied := by
    rw [(sync_applied keys).1, (sync_applied keys).2]
  unfold State.processKey State.keyboardA11yAdmits
  grind [filter_firm, sync_applied]

/-- Mouse Keys and the shortcuts become what the settings say when these are applied. -/
lemma step_firm {keys post : State} {op : Op} (ran : KeyboardA11y.step keys op = some post) :
    firm post.applied =
      if syncs (.keyboard op) then firm keys.settings else firm keys.applied := by
  cases op with
  | key =>
    obtain ⟨-, ran⟩ := Option.ite_none_left_eq_some.mp ran
    cases ran
    exact processKey_firm _ _ _ _ _ _
  | slowKeyTimer =>
    obtain ⟨-, ran⟩ := Option.ite_none_right_eq_some.mp ran
    cases ran
    exact processKey_firm _ _ _ _ _ _
  | toggleSlowKeysTimer =>
    obtain ⟨-, ran⟩ := Option.ite_none_right_eq_some.mp ran
    cases ran
    exact (congrArg firm (sync_applied _).1).trans rfl
  | sync =>
    cases ran
    exact congrArg firm (sync_applied _).1
  | setSettings | keymap =>
    cases ran
    rfl

lemma step_settled (together : OffTogether state op) (stepped : step state op = some after)
    (settled : state.2.Settled state.1.applied.mousekeysEnable) :
    after.2.Settled after.1.applied.mousekeysEnable := by
  cases op with
  | moveTimer =>
    simp only [step, Option.ite_none_right_eq_some, Option.some.injEq] at stepped
    exact stepped.2 ▸ settled
  | keyboard op =>
    obtain ⟨keys, ran, rfl⟩ := Option.map_eq_some_iff.mp stepped
    have firmly := step_firm ran
    have turned : state.1.applied.mousekeysEnable = true → keys.applied.mousekeysEnable = false →
        keys.applied.enable = false := by
      intro on off
      split at firmly
      next syncing =>
        obtain ⟨mouse, shortcuts⟩ := Prod.ext_iff.mp firmly
        exact shortcuts.trans (together syncing on (mouse.symm.trans off))
      · have mouse := (Prod.ext_iff.mp firmly).1
        cases on.symm.trans (mouse.symm.trans off)
    have synced := sync_settled settled turned
    cases op with
    | key keycode pressed timeMs now =>
      obtain ⟨-, ran⟩ := Option.ite_none_left_eq_some.mp ran
      cases ran
      have kept := (Prod.ext_iff.mp (processKey_firm state.1 keycode pressed true timeMs now)).1
      change _ = state.1.settings.mousekeysEnable at kept
      rw [← (sync_applied state.1).1] at kept
      dsimp only [firm] at kept synced ⊢
      rw [kept] at synced ⊢
      unfold filter
      split
      next on =>
        obtain ⟨on, -⟩ := Bool.and_eq_true_iff.mp on
        rw [on] at synced ⊢
        split
        · exact press_settled synced _ _
        · split
          · exact ⟨by simp [synced.stopped], nofun, nofun⟩
          · exact synced
      · exact synced
    | _ => exact synced

/-- As long as Mouse Keys are turned off only with the shortcuts off, they hold no button and
move nothing when they are off. -/
theorem mouse_keys_off (run : Runs step OffTogether ({}, {}) ops after)
    (off : after.1.applied.mousekeysEnable = false) :
    (∀ button, after.2.held button = false) ∧ after.2.timers = [] := by
  have settled := run.invariant (fun state => state.2.Settled state.1.applied.mousekeysEnable)
    step_settled ⟨nofun, fun _ => rfl, fun _ _ => rfl⟩
  exact ⟨settled.released off, settled.still off⟩

def keypad : Keycode → Keysym
  | 0 => .kpInsert
  | _ => .kpUp

theorem mouse_keys_off_alone : ∃ finish : State × MouseKeys,
    finish.1.applied.mousekeysEnable = false ∧ (∀ button, finish.2.held button = false) ∧
      finish.2.timers = [] :=
  have run : Runs step OffTogether ({}, {}) ([.setSettings { mousekeysEnable := true },
      .keymap keypad false, .key 0 true 0 0, .setSettings {}, .sync].map .keyboard) _ :=
    runs_of_runUnder rfl
  ⟨_, rfl, mouse_keys_off run rfl⟩

/-- With the shortcuts on, Mouse Keys are turned off while a button is held and the pointer
moves. -/
theorem mouse_keys_left_on : ∃ finish, Runs step (fun _ _ => True) ({}, {})
      ([.setSettings { enable := true, mousekeysEnable := true }, .keymap keypad false,
        .key 0 true 0 0, .key 1 true 0 0, .setSettings { enable := true }, .sync,
        .key 1 false 0 0].map .keyboard) finish ∧
    finish.1.applied.mousekeysEnable = false ∧ finish.2.held .left = true ∧ finish.2.timers = [0] :=
  ⟨_, runs_of_runUnder rfl, rfl, rfl, rfl⟩

end MouseKeys

end Synoik.KeyboardA11y
