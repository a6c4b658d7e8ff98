import Synoik.Selection.Bridge
import Synoik.Support.Runs

/-!
# Queued pastes

Any call to the X server may fail; what failed is logged and the bridge goes on. The next paste
in the queue is started when the one in flight ends, and only then.
-/

namespace Synoik.Selection

/-- How the calls that start a conversion end. -/
structure Calls where
  internAtom : Bool := true
  deleteProperty : Bool := true
  convertSelection : Bool := true

/-- The atoms of text are known from the start. -/
def Calls.succeed (calls : Calls) (mimeType : String) : Bool :=
  ((atomForMime mimeType).isSome || calls.internAtom) && calls.deleteProperty &&
    calls.convertSelection

structure Transfer where
  request : Fetch
  isIncr : Bool := false
  buf : Bytes := []
  deadline : Nat

structure Pastes where
  fetching : Option Transfer := none
  fetchQueue : List Fetch := []

def transferTimeout : Nat := 10

namespace Pastes

variable (pastes : Pastes) (calls : Calls) (now : Nat)

/-- With a call that fails, the pasting client's descriptor is dropped. -/
def startFetch (request : Fetch) : Pastes :=
  if pastes.fetching.isSome then
    { pastes with fetchQueue := pastes.fetchQueue ++ [request] }
  else if calls.succeed request.mimeType then
    { pastes with fetching := some { request, deadline := now + transferTimeout } }
  else pastes

def finishFetch : Pastes :=
  match pastes.fetchQueue with
  | [] => { pastes with fetching := none }
  | request :: rest => startFetch { fetchQueue := rest } calls now request

/-- An owner's answer to the conversion in flight, and what is read of the property. -/
def onSelectionNotify (refused : Bool) (property : Option (Bool × Bytes)) : Pastes :=
  match pastes.fetching with
  | none => pastes
  | some transfer =>
    if refused then pastes.finishFetch calls now
    else match property with
      | none => pastes
      | some (true, _) =>
        { pastes with
          fetching := some { transfer with isIncr := true, deadline := now + transferTimeout } }
      | some (false, _) => pastes.finishFetch calls now

def onPropertyNotify (property : Option Bytes) : Pastes :=
  match pastes.fetching, property with
  | some transfer, some data =>
    if !transfer.isIncr then pastes
    else if data = [] ∨ transferLimit < transfer.buf.length + data.length then
      pastes.finishFetch calls now
    else { pastes with fetching := some { transfer with buf := transfer.buf ++ data } }
  | _, _ => pastes

end Pastes

inductive PasteOp where
  | fetch (request : Fetch)
  | selectionNotify (refused : Bool) (property : Option (Bool × Bytes))
  | propertyNotify (property : Option Bytes)
  | expire

/-- What the bridge takes next, when, and how the calls it makes end. -/
structure Turn where
  op : PasteOp
  now : Nat := 0
  calls : Calls := {}

namespace Pastes

def step (pastes : Pastes) (turn : Turn) : Option Pastes :=
  match turn.op with
  | .fetch request => some (pastes.startFetch turn.calls turn.now request)
  | .selectionNotify refused property =>
    some (pastes.onSelectionNotify turn.calls turn.now refused property)
  | .propertyNotify property => some (pastes.onPropertyNotify turn.calls turn.now property)
  | .expire =>
    if pastes.fetching.any fun transfer => transfer.deadline ≤ turn.now then
      -- A call that fails here ends the bridge.
      if pastes.fetchQueue.head?.all fun request => turn.calls.succeed request.mimeType then
        some (pastes.finishFetch turn.calls turn.now)
      else none
    else some pastes

/-- The next paste in the queue can be started, or none waits behind it. -/
def GoesOn (pastes : Pastes) (turn : Turn) : Prop :=
  ∀ request rest, pastes.fetchQueue = request :: rest → rest = [] ∨
    turn.calls.succeed request.mimeType = true

def Progresses (pastes : Pastes) : Prop := pastes.fetchQueue ≠ [] → pastes.fetching.isSome = true

variable {pastes after post : Pastes} {turn : Turn} {turns : List Turn}

lemma finishFetch_progresses (goesOn : pastes.GoesOn turn) :
    (pastes.finishFetch turn.calls turn.now).Progresses := by
  unfold finishFetch Progresses
  split
  next empty => exact fun waits => absurd empty waits
  next req rest queued =>
  intro waits
  rcases goesOn req rest queued with rfl | succeeds
  · simp [startFetch] at waits
    split at waits <;> simp at waits
  · simp [startFetch, succeeds]

lemma step_progresses (goesOn : pastes.GoesOn turn) (ran : pastes.step turn = some post)
    (progresses : pastes.Progresses) : post.Progresses := by
  have ended := finishFetch_progresses goesOn
  unfold step at ran
  split at ran
  next req _ =>
    cases ran
    unfold startFetch
    split
    next busy => exact fun _ => busy
    · split
      · exact fun _ => rfl
      · exact progresses
  next refused property _ =>
    cases ran
    unfold onSelectionNotify
    repeat' split
    all_goals first | exact ended | exact progresses | exact fun _ => rfl
  next property _ =>
    cases ran
    unfold onPropertyNotify
    repeat' split
    all_goals first | exact ended | exact progresses | exact fun _ => rfl
  · split at ran
    · split at ran <;> cases ran
      exact ended
    · cases ran
      exact progresses

/-- As long as no queued paste fails to start with another behind it, a paste is in flight
whenever one waits. -/
theorem queued_pastes_progress (run : Runs step GoesOn {} turns after)
    (waits : after.fetchQueue ≠ []) : ∃ transfer, after.fetching = some transfer :=
  Option.isSome_iff_exists.mp
    (run.invariant Progresses step_progresses (fun wrong => absurd rfl wrong) waits)

def image (fd : Nat) : Fetch := ⟨.clipboard, "image/png", fd⟩

theorem queued_pastes_progress_two :
    ∃ transfer, (Pastes.mk (some ⟨image 1, false, [], 10⟩) [image 2]).fetching = some transfer :=
  have run : Runs step GoesOn {} [⟨.fetch (image 1), 0, {}⟩, ⟨.fetch (image 2), 0, {}⟩] _ :=
    .cons nofun rfl (.cons nofun rfl (.nil _))
  queued_pastes_progress run nofun

/-- The first of three pastes ends, the second cannot be started, and nothing starts the third. -/
theorem queued_paste_waits_for_nothing :
    ∃ after, Runs step (fun _ _ => True) {} [⟨.fetch (image 1), 0, {}⟩, ⟨.fetch (image 2), 0, {}⟩,
        ⟨.fetch (image 3), 0, {}⟩, ⟨.selectionNotify true none, 1, { internAtom := false }⟩] after ∧
      after.fetchQueue = [image 3] ∧ after.fetching.isNone :=
  ⟨_, runs_of_runUnder rfl, rfl, rfl⟩

end Pastes

end Synoik.Selection
