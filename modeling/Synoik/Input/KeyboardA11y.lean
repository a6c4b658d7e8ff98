import Mathlib.Data.List.Nodup
import Synoik.Support.Runs

/-!
# Keyboard accessibility filters

A physical key event passes the filters or is swallowed; a slow key is pressed by its timer.
Each release asks again what the settings and Num Lock make of the key, so one that changes hands
between its press and its release goes another way than its press.
-/

namespace Synoik.KeyboardA11y

open List

variable {st after : State} {keycode : Keycode} {timeMs now : Nat}

abbrev Keycode := Nat

inductive Keysym where
  | kp0 | kp1 | kp2 | kp3 | kp4 | kp5 | kp6 | kp7 | kp8 | kp9
  | kpAdd | kpBegin | kpDecimal | kpDelete | kpDivide | kpDown | kpEnd | kpHome | kpInsert
  | kpLeft | kpMultiply | kpPageDown | kpPageUp | kpRight | kpSubtract | kpUp
  | shiftL | shiftR
  | other (code : Nat)
deriving DecidableEq

variable (keysym : Keysym)

def isShift : Bool := keysym = .shiftL || keysym = .shiftR

def mouseKeysDirection : Keysym → Option (Int × Int)
  | .kpHome | .kp7 => some (-1, -1)
  | .kpUp | .kp8 => some (0, -1)
  | .kpPageUp | .kp9 => some (1, -1)
  | .kpLeft | .kp4 => some (-1, 0)
  | .kpRight | .kp6 => some (1, 0)
  | .kpEnd | .kp1 => some (-1, 1)
  | .kpDown | .kp2 => some (0, 1)
  | .kpPageDown | .kp3 => some (1, 1)
  | _ => none

/-- Whether Mouse Keys takes a press. -/
def mouseKeysPress (numLock : Bool) : Bool :=
  !numLock && match keysym with
    | .kpDivide | .kpMultiply | .kpSubtract => true
    | .kpBegin | .kp5 | .kpInsert | .kp0 | .kpDecimal | .kpDelete | .kpAdd => true
    | keysym => (mouseKeysDirection keysym).isSome

/-- Whether a release is of one of the keypad keys that Mouse Keys owns. -/
def mouseKeysRelease (numLock : Bool) : Bool :=
  !numLock && match keysym with
    | .shiftL | .shiftR | .other _ => false
    | _ => true

structure Settings where
  enable : Bool := false
  bouncekeysEnable : Bool := false
  bouncekeysDelay : Nat := 300
  mousekeysEnable : Bool := false
  slowkeysEnable : Bool := false
  slowkeysDelay : Nat := 300
  stickykeysEnable : Bool := false
deriving DecidableEq

/-- A key event: a physical one with what became of it, or a slow key that is pressed now. -/
structure Entry where
  key : Keycode
  pressed : Bool
  physical : Bool
  admitted : Bool

/-- The physical state of a key, by a log whose newest entry comes first. -/
def isDown (key : Keycode) : List Entry → Bool
  | [] => false
  | entry :: log =>
    if entry.key = key ∧ entry.physical then entry.pressed else isDown key log

/-- The state of a key as the keymap has it. -/
def inKeymap (key : Keycode) : List Entry → Bool
  | [] => false
  | entry :: log =>
    if entry.key = key ∧ entry.admitted then entry.pressed else inKeymap key log

structure State where
  settings : Settings := {}
  applied : Settings := {}
  swallowed : List Keycode := []
  replaying : Bool := false
  slowKeys : List (Keycode × Nat) := []
  debounce : Option (Keycode × Nat) := none
  toggleSlowKeysTimer : Bool := false
  shiftCount : Nat := 0
  lastShiftTime : Nat := 0
  /-- The timers of slow keys that are armed. -/
  timers : List (Keycode × Nat) := []
  nextToken : Nat := 0
  keysym : Keycode → Keysym := .other
  numLock : Bool := false
  log : List Entry := []

namespace State

def cancelTimers (state : State) (tokens : List Nat) : State :=
  { state with timers := state.timers.filter fun timer => timer.2 ∉ tokens }

def clearSlowKeys (state : State) : State :=
  { state.cancelTimers (state.slowKeys.map Prod.snd) with slowKeys := [] }

def syncKeyboardA11y (state : State) : State :=
  let new := state.settings
  let old := state.applied
  if new = old then state
  else
    let state :=
      if new.enable ≠ old.enable ∨ new.slowkeysEnable ≠ old.slowkeysEnable then
        state.clearSlowKeys
      else state
    let state :=
      if new.enable ≠ old.enable ∨ new.bouncekeysEnable ≠ old.bouncekeysEnable then
        { state with debounce := none }
      else state
    let state :=
      if new.enable ≠ old.enable then
        { state with toggleSlowKeysTimer := false, shiftCount := 0, lastShiftTime := 0 }
      else state
    { state with applied := new }

def enableKeysPress (state : State) (keysym : Keysym) (timeMs : Nat) : State :=
  if isShift keysym then
    { state with
        toggleSlowKeysTimer := true
        shiftCount := if state.lastShiftTime + 15000 < timeMs then 1 else state.shiftCount + 1
        lastShiftTime := timeMs }
  else { state with shiftCount := 0, toggleSlowKeysTimer := false }

def enableKeysRelease (state : State) (keysym : Keysym) : State :=
  if !isShift keysym then state
  else
    let state := { state with toggleSlowKeysTimer := false }
    if 5 ≤ state.shiftCount then
      let on := !state.applied.stickykeysEnable
      let settings := { state.settings with stickykeysEnable := on }
      { state with shiftCount := 0, settings }.syncKeyboardA11y
    else state

def startSlowKey (state : State) (keycode : Keycode) : State :=
  { state with
      slowKeys := state.slowKeys ++ [(keycode, state.nextToken)]
      timers := state.timers ++ [(keycode, state.nextToken)]
      nextToken := state.nextToken + 1 }

/-- The first entry of a slow key goes, with its timer. -/
def cancelSlowKey (state : State) (entry : Keycode × Nat) : State :=
  { state.cancelTimers [entry.2] with slowKeys := state.slowKeys.erase entry }

/-- Bounce Keys and Slow Keys, with the settings that were read before. -/
def filterTimed (state : State) (settings : Settings) (keycode : Keycode) (pressed : Bool)
    (now : Nat) : Bool × State :=
  let bounces := settings.bouncekeysEnable && settings.bouncekeysDelay ≠ 0
  if bounces && pressed &&
      state.debounce.any (fun window => window.1 = keycode && now < window.2) then
    (false, state)
  else
    let state :=
      if bounces && !pressed then
        { state with debounce := some (keycode, now + settings.bouncekeysDelay) }
      else state
    if settings.slowkeysEnable && settings.slowkeysDelay ≠ 0 then
      if pressed then (false, state.startSlowKey keycode)
      else
        match state.slowKeys.find? fun entry => entry.1 = keycode with
        | some entry => (false, state.cancelSlowKey entry)
        | none => (true, state)
    else (true, state)

def keyboardA11yFilter (state : State) (keycode : Keycode) (pressed : Bool)
    (timeMs now : Nat) : Bool × State :=
  let settings := state.applied
  let keysym := state.keysym keycode
  let numLock := state.numLock
  let state :=
    if settings.enable then
      if pressed then state.enableKeysPress keysym timeMs else state.enableKeysRelease keysym
    else state
  if settings.mousekeysEnable &&
      (if pressed then mouseKeysPress keysym numLock else mouseKeysRelease keysym numLock) then
    (false, state)
  else state.filterTimed settings keycode pressed now

def keyboardA11yAdmits (state : State) (keycode : Keycode) (pressed : Bool)
    (timeMs now : Nat) : Bool × State :=
  let state := state.syncKeyboardA11y
  if state.replaying then (true, { state with replaying := false })
  else if !pressed && keycode ∈ state.swallowed then
    let (_, state) := state.keyboardA11yFilter keycode false timeMs now
    (false, { state with swallowed := state.swallowed.filter (· ≠ keycode) })
  else
    let (admitted, state) := state.keyboardA11yFilter keycode pressed timeMs now
    (admitted,
      if pressed && !admitted then { state with swallowed := keycode :: state.swallowed }
      else state)

def processKey (state : State) (keycode : Keycode) (pressed physical : Bool)
    (timeMs now : Nat) : State :=
  let (admitted, state) := state.keyboardA11yAdmits keycode pressed timeMs now
  { state with log := { key := keycode, pressed, physical, admitted } :: state.log }

/-- A slow key was held long enough: its press is let through next, and its release after. -/
def readySlowKey (state : State) (keycode : Keycode) : State :=
  { state with
      slowKeys := state.slowKeys.filter (·.1 ≠ keycode)
      swallowed := state.swallowed.filter (· ≠ keycode)
      replaying := true }

def acceptSlowKey (state : State) (keycode : Keycode) (timeMs now : Nat) : State :=
  (state.readySlowKey keycode).processKey keycode true false timeMs now

end State

inductive Op where
  | key (keycode : Keycode) (pressed : Bool) (timeMs now : Nat)
  | slowKeyTimer (timer : Keycode × Nat) (timeMs now : Nat)
  | toggleSlowKeysTimer
  | setSettings (settings : Settings)
  | sync
  | keymap (keysym : Keycode → Keysym) (numLock : Bool)

/-- The events of a physical key alternate, and a timer that is armed may expire. -/
def step (state : State) : Op → Option State
  | .key keycode pressed timeMs now =>
    if isDown keycode state.log = pressed then none
    else some (state.processKey keycode pressed true timeMs now)
  | .slowKeyTimer timer timeMs now =>
    if timer ∈ state.timers then
      some ((state.cancelTimers [timer.2]).acceptSlowKey timer.1 timeMs now)
    else none
  | .toggleSlowKeysTimer =>
    if state.toggleSlowKeysTimer then
      let on := !state.applied.slowkeysEnable
      let settings := { state.settings with slowkeysEnable := on }
      some { state with toggleSlowKeysTimer := false, settings }.syncKeyboardA11y
    else none
  | .setSettings settings => some { state with settings }
  | .sync => some state.syncKeyboardA11y
  | .keymap keysym numLock => some { state with keysym, numLock }

/-- What passes alternates, a release passes exactly if the keymap has the key down, and no
press passes for a key that is up. -/
def Straight : List Entry → Prop
  | [] => True
  | entry :: log => Straight log ∧
      (entry.admitted = true → entry.pressed = !inKeymap entry.key log) ∧
      (entry.pressed = false → (entry.admitted = true ↔ inKeymap entry.key log = true)) ∧
      (entry.admitted = true → entry.pressed = true → isDown entry.key (entry :: log) = true)

/-- A release that Mouse Keys would take finds the key swallowed, and one of a slow key that
still waits takes it off the list. -/
def ReleaseFollows (state : State) : Op → Prop
  | .key keycode false _ _ =>
    let synced := state.syncKeyboardA11y
    let taken := synced.applied.mousekeysEnable &&
      mouseKeysRelease (synced.keysym keycode) synced.numLock
    (keycode ∉ synced.swallowed → taken = false) ∧
    ((∃ entry ∈ synced.slowKeys, entry.1 = keycode) → taken = false ∧
      synced.applied.slowkeysEnable = true ∧ synced.applied.slowkeysDelay ≠ 0)
  | _ => True

structure Sound (state : State) : Prop where
  quiet : state.replaying = false
  keymap : ∀ key, inKeymap key state.log = true ↔
    isDown key state.log = true ∧ key ∉ state.swallowed
  held : ∀ key ∈ state.swallowed, isDown key state.log = true
  slow : ∀ entry ∈ state.slowKeys, entry.1 ∈ state.swallowed
  once : (state.slowKeys.map Prod.fst).Nodup
  armed : ∀ timer ∈ state.timers, timer ∈ state.slowKeys
  straight : Straight state.log

namespace State

variable {last : State} {settings : Settings}

/-- Nothing is let through or swallowed, and slow keys leave the list with their timers. -/
structure Calm (state after : State) : Prop where
  log : after.log = state.log
  swallowed : after.swallowed = state.swallowed
  replaying : after.replaying = state.replaying
  slow : after.slowKeys.Sublist state.slowKeys
  armed : (∀ timer ∈ state.timers, timer ∈ state.slowKeys) →
    ∀ timer ∈ after.timers, timer ∈ after.slowKeys

lemma Calm.refl (st : State) : st.Calm st := ⟨rfl, rfl, rfl, .refl _, id⟩

lemma Calm.trans (one : st.Calm after) (second : after.Calm last) : st.Calm last :=
  ⟨second.log.trans one.log, second.swallowed.trans one.swallowed,
    second.replaying.trans one.replaying, second.slow.trans one.slow,
    fun armed => second.armed (one.armed armed)⟩

lemma Calm.sound (calm : st.Calm after) (inv : Sound st) : Sound after where
  quiet := calm.replaying ▸ inv.quiet
  keymap := calm.log ▸ calm.swallowed ▸ inv.keymap
  held := calm.log ▸ calm.swallowed ▸ inv.held
  slow entry mem := calm.swallowed ▸ inv.slow entry (calm.slow.subset mem)
  once := inv.once.sublist (calm.slow.map _)
  armed := calm.armed inv.armed
  straight := calm.log ▸ inv.straight

lemma sync_calm (st : State) : st.Calm st.syncKeyboardA11y := by
  have cleared : st.Calm st.clearSlowKeys := by
    refine ⟨rfl, rfl, rfl, nil_sublist _, ?_⟩
    intro armed timer mem
    obtain ⟨has, lack⟩ := mem_filter.mp mem
    exact absurd (mem_map_of_mem (armed timer has)) (of_decide_eq_true lack)
  obtain ⟨_, _, _, _, armed⟩ := cleared
  unfold syncKeyboardA11y
  constructor <;> grind

lemma enableKeysPress_calm (st : State) (keysym : Keysym) (timeMs : Nat) :
    st.Calm (st.enableKeysPress keysym timeMs) := by
  unfold enableKeysPress
  constructor <;> grind

lemma enableKeysRelease_calm (st : State) (keysym : Keysym) :
    st.Calm (st.enableKeysRelease keysym) := by
  have synced := sync_calm { st with
    toggleSlowKeysTimer := false, shiftCount := 0
    settings := { st.settings with stickykeysEnable := !st.applied.stickykeysEnable } }
  obtain ⟨log, swallowed, replaying, slow, armed⟩ := synced
  unfold enableKeysRelease
  constructor <;> grind

lemma cancelSlowKey_calm {entry : Keycode × Nat} (mem : entry ∈ st.slowKeys) :
    st.Calm (st.cancelSlowKey entry) := by
  refine ⟨rfl, rfl, rfl, erase_sublist, ?_⟩
  intro armed timer kept
  obtain ⟨has, other⟩ := mem_filter.mp kept
  refine (mem_erase_of_ne ?_).mpr (armed timer has)
  rintro rfl
  simp at other

lemma filter_press (st : State) (keycode : Keycode) (timeMs now : Nat) :
    ∃ mid, st.Calm mid ∧ ((st.keyboardA11yFilter keycode true timeMs now).2 = mid ∨
        st.keyboardA11yFilter keycode true timeMs now = (false, mid.startSlowKey keycode)) := by
  have pressed := st.enableKeysPress_calm (st.keysym keycode) timeMs
  unfold keyboardA11yFilter filterTimed
  grind [Calm.refl]

/-- A release takes the key off the list, if Slow Keys does anything, and passes if it was not
waiting. -/
lemma filterTimed_release (st : State) (settings : Settings) (keycode : Keycode) (now : Nat)
    (once : (st.slowKeys.map Prod.fst).Nodup) :
    st.Calm (st.filterTimed settings keycode false now).2 ∧
    ((∀ entry ∈ st.slowKeys, entry.1 ≠ keycode) →
      (st.filterTimed settings keycode false now).1 = true) ∧
    (settings.slowkeysEnable = true → settings.slowkeysDelay ≠ 0 →
      ∀ entry ∈ (st.filterTimed settings keycode false now).2.slowKeys, entry.1 ≠ keycode) := by
  have alone : ∀ entry ∈ st.slowKeys, ∀ other ∈ st.slowKeys.erase entry, other.1 ≠ entry.1 := by
    intro entry mem other kept same
    obtain rfl := inj_on_of_nodup_map once (mem_of_mem_erase kept) mem same
    exact (Nodup.of_map _ once).not_mem_erase kept
  obtain ⟨debounce, settled⟩ : ∃ debounce, (if (settings.bouncekeysEnable &&
      settings.bouncekeysDelay ≠ 0) && !false then
        { st with debounce := some (keycode, now + settings.bouncekeysDelay) }
      else st) = { st with debounce } := by
    split
    · exact ⟨_, rfl⟩
    · exact ⟨st.debounce, rfl⟩
  have calm : st.Calm { st with debounce } := ⟨rfl, rfl, rfl, .refl _, id⟩
  unfold filterTimed
  simp only [Bool.and_false, Bool.false_and, Bool.false_eq_true, if_false, settled]
  split
  next _ =>
    cases got : find? (fun entry => decide (entry.1 = keycode)) st.slowKeys with
    | none => exact ⟨calm, fun _ => rfl, fun _ _ => by simpa using got⟩
    | some entry =>
      have mem := mem_of_find?_eq_some got
      have named : entry.1 = keycode := by simpa using find?_some got
      refine ⟨calm.trans (cancelSlowKey_calm mem), ?_, ?_⟩
      · exact fun lack => absurd named (lack entry mem)
      · exact fun _ _ other kept => named ▸ alone entry mem other kept
  next off => exact ⟨calm, fun _ => rfl, fun _ _ => absurd off (by simp [*])⟩

lemma filter_release (st : State) (keycode : Keycode) (timeMs now : Nat)
    (once : (st.slowKeys.map Prod.fst).Nodup) : ∃ verdict ended,
      st.keyboardA11yFilter keycode false timeMs now = (verdict, ended) ∧
      st.Calm ended ∧ ((st.applied.mousekeysEnable &&
          mouseKeysRelease (st.keysym keycode) st.numLock) = false →
        ((∀ entry ∈ st.slowKeys, entry.1 ≠ keycode) → verdict = true) ∧
        (st.applied.slowkeysEnable = true → st.applied.slowkeysDelay ≠ 0 →
          ∀ entry ∈ ended.slowKeys, entry.1 ≠ keycode)) := by
  obtain ⟨mid, set, enabled⟩ : ∃ mid, (if st.applied.enable then
      st.enableKeysRelease (st.keysym keycode) else st) = mid ∧ st.Calm mid := by
    refine ⟨_, rfl, ?_⟩
    split
    · exact st.enableKeysRelease_calm _
    · exact .refl _
  obtain ⟨calm, passed, gone⟩ := mid.filterTimed_release st.applied keycode now
    (once.sublist (enabled.slow.map _))
  unfold keyboardA11yFilter
  simp only [Bool.false_eq_true, if_false, set]
  split
  next taken => exact ⟨_, _, rfl, enabled, fun free => absurd taken (by simp only [free]; simp)⟩
  · refine ⟨_, _, rfl, enabled.trans calm, fun _ => ⟨fun lack => ?_, gone⟩⟩
    exact passed fun entry mem => lack entry (enabled.slow.subset mem)

end State

open State

variable {op : Op}

section

variable (inv : Sound st)
include inv

/-- A key that is pressed, with nothing of its last press left behind. -/
lemma Sound.press (up : isDown keycode st.log = false) :
    Sound (st.processKey keycode true true timeMs now) := by
  have synced := st.sync_calm.sound inv
  have log := st.sync_calm.log
  obtain ⟨_, calm, done⟩ := st.syncKeyboardA11y.filter_press keycode timeMs now
  have settled := calm.sound synced
  have log' := calm.log
  have quiet := synced.quiet
  obtain ⟨q, _, _, _, _, _, _⟩ := settled
  unfold processKey keyboardA11yAdmits
  rcases done with same | same
  · constructor <;> grind [isDown, inKeymap, Straight]
  · constructor <;> grind [isDown, inKeymap, Straight, startSlowKey]

lemma Sound.release (down : isDown keycode st.log = true)
    (follows : ReleaseFollows st (.key keycode false timeMs now)) :
    Sound (st.processKey keycode false true timeMs now) := by
  have synced := st.sync_calm.sound inv
  have down' := st.sync_calm.log ▸ down
  obtain ⟨_, drops⟩ := follows
  unfold processKey keyboardA11yAdmits
  generalize st.syncKeyboardA11y = st' at *
  obtain ⟨verdict, ended, filtered, calm, free⟩ := st'.filter_release keycode timeMs now synced.once
  have quiet := synced.quiet
  have waiting := synced.slow
  obtain ⟨_, _, _, slow, once, _, _⟩ := calm.sound synced
  have log := calm.log
  have same := calm.swallowed
  have fewer : ∀ entry ∈ ended.slowKeys, entry ∈ st'.slowKeys := fun _ mem => calm.slow.subset mem
  by_cases swallowed : keycode ∈ st'.swallowed
  · have gone : ∀ entry ∈ ended.slowKeys, entry.1 ≠ keycode := by
      intro entry mem named
      obtain ⟨untaken, on, delayed⟩ := drops ⟨entry, fewer entry mem, named⟩
      exact (free untaken).2 on delayed entry mem named
    constructor <;> grind [isDown, inKeymap, Straight]
  · have passed : verdict = true := by grind
    constructor <;> grind [isDown, inKeymap, Straight]

lemma Sound.accept {timer : Keycode × Nat} (armed : timer ∈ st.timers) :
    Sound ((st.cancelTimers [timer.2]).acceptSlowKey timer.1 timeMs now) := by
  obtain ⟨_, _, _, slow, once, ready, _⟩ := inv
  have rest : ∀ other ∈ st.timers.filter (fun timer' => timer'.2 ∉ [timer.2]),
      other ∈ st.slowKeys.filter (·.1 ≠ timer.1) := by
    intro other kept
    obtain ⟨has, ne⟩ := mem_filter.mp kept
    refine mem_filter.mpr ⟨ready other has, decide_eq_true fun same => ?_⟩
    obtain rfl := inj_on_of_nodup_map once (ready other has) (ready timer armed) same
    simp at ne
  obtain ⟨log, swallowed, replaying, fewer, armed'⟩ :=
    sync_calm ((st.cancelTimers [timer.2]).readySlowKey timer.1)
  have once' := once.sublist ((fewer.trans filter_sublist).map _)
  have fewer' := fewer.subset
  replace armed' := armed' rest
  unfold acceptSlowKey processKey keyboardA11yAdmits
  generalize (State.readySlowKey _ _).syncKeyboardA11y = synced at *
  simp only [readySlowKey, cancelTimers] at log swallowed replaying fewer'
  constructor <;> grind [isDown, inKeymap, Straight]

lemma Sound.step (follows : ReleaseFollows st op)
    (ran : KeyboardA11y.step st op = some after) : Sound after := by
  cases op with
  | key _ pressed =>
    obtain ⟨alternates, ⟨⟩⟩ := Option.ite_none_left_eq_some.mp ran
    cases pressed with
    | true => exact inv.press (Bool.eq_false_iff.mpr alternates)
    | false => exact inv.release (by simpa using alternates) follows
  | slowKeyTimer =>
    obtain ⟨armed, ⟨⟩⟩ := Option.ite_none_right_eq_some.mp ran
    exact inv.accept armed
  | toggleSlowKeysTimer =>
    obtain ⟨_, ⟨⟩⟩ := Option.ite_none_right_eq_some.mp ran
    exact (sync_calm _).sound
      ⟨inv.quiet, inv.keymap, inv.held, inv.slow, inv.once, inv.armed, inv.straight⟩
  | sync =>
    cases ran
    exact st.sync_calm.sound inv
  | setSettings | keymap =>
    cases ran
    exact ⟨inv.quiet, inv.keymap, inv.held, inv.slow, inv.once, inv.armed, inv.straight⟩

end

/-- A key release goes the way its press went, along every run in which no release is taken by
Mouse Keys that took another way when it was pressed, and none leaves its slow key waiting. -/
theorem releases_follow_presses {ops : List Op}
    (run : Runs step ReleaseFollows {} ops after) : Straight after.log :=
  (run.invariant Sound (fun follows stepped sound => sound.step follows stepped)
    ⟨rfl, by simp [inKeymap, isDown], by simp, by simp, by simp, by simp, trivial⟩).straight

/-- A slow key that is held long enough. -/
theorem releases_follow_presses_slow : ∃ finish, Runs step ReleaseFollows {}
        [.setSettings { slowkeysEnable := true }, .key 30 true 0 0, .slowKeyTimer (30, 0) 300 300,
          .key 30 false 400 400] finish ∧ finish.log.length = 3 ∧ Straight finish.log := by
  obtain ⟨finish, run, three⟩ : ∃ finish, Runs step ReleaseFollows {}
      [.setSettings { slowkeysEnable := true }, .key 30 true 0 0, .slowKeyTimer (30, 0) 300 300,
        .key 30 false 400 400] finish ∧ finish.log.length = 3 :=
    ⟨_, .cons trivial rfl (.cons trivial rfl (.cons trivial rfl
      (.cons ⟨fun _ => rfl, by rintro ⟨_, ⟨⟩, _⟩⟩ rfl (.nil _)))), rfl⟩
  exact ⟨finish, run, three, releases_follow_presses run⟩

/-- Num Lock goes off while a keypad key is down: the press reached the keymap, and Mouse Keys
takes the release. -/
theorem release_taken_from_keymap : ∃ finish, Runs step (fun _ _ => True) {}
        [.setSettings { mousekeysEnable := true }, .keymap (fun _ => .kp5) true,
          .key 76 true 0 0, .keymap (fun _ => .kpBegin) false, .key 76 false 100 100] finish ∧
      inKeymap 76 finish.log = true ∧ isDown 76 finish.log = false ∧ ¬ Straight finish.log :=
  ⟨_, runs_of_runUnder rfl, rfl, rfl, fun straight => absurd (straight.2.2.1 rfl) (by decide)⟩

end Synoik.KeyboardA11y
