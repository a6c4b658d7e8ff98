import Mathlib.Data.List.Nodup
import Synoik.Support.Runs

/-!
# Tray items

The watcher keeps a registry of items, two tasks follow each item, and a channel
carries what they send to the indicators the panel draws. Registry and
indicators are keyed by connection and path, while an unregistration names an id.
-/

namespace Synoik.StatusNotifier

open List

structure RegisteredItem where
  id : String
  uniqueName : String
  objectPath : String
  deriving DecidableEq

/-- What registry and store key an item by. -/
def RegisteredItem.place (item : RegisteredItem) : String × String :=
  (item.uniqueName, item.objectPath)

inductive ServiceRef where
  | path (uniqueName objectPath : String)
  | name (service : String)

def defaultItemObjectPath : String := "/StatusNotifierItem"

def itemId (service : Option String) (uniqueName objectPath : String) : String :=
  match service with
  | some service =>
    if service ≠ uniqueName then service else uniqueName ++ "@" ++ objectPath
  | none => uniqueName ++ "@" ++ objectPath

/-- The item a registration is about; a name is resolved to its owner. -/
def ServiceRef.item (owner : String) : ServiceRef → RegisteredItem
  | .path uniqueName objectPath =>
    ⟨itemId none uniqueName objectPath, uniqueName, objectPath⟩
  | .name service =>
    ⟨itemId (some service) owner defaultItemObjectPath, owner, defaultItemObjectPath⟩

/-- The properties of an item; only the one the compositor changes is told apart. -/
structure ItemProps (Rest : Type*) where
  supportsActivation : Bool
  rest : Rest

structure Indicator (Rest : Type*) where
  item : RegisteredItem
  props : ItemProps Rest

/-- The unregistration sends the id of the entry removed from the registry; the
rest of the entry is kept here to say which item it was. -/
inductive Msg (Rest : Type*) where
  | itemUpdated (item : RegisteredItem) (props : ItemProps Rest)
  | itemUnregistered (gone : RegisteredItem)
  | activationUnsupported (itemId : String)

variable {Rest : Type*}

namespace IndicatorStore

def upsert (store : List (Indicator Rest)) (item : RegisteredItem)
    (props : ItemProps Rest) : List (Indicator Rest) :=
  if store.any (·.item.place = item.place) then
    store.replaceF fun i => if i.item.place = item.place then some ⟨item, props⟩ else none
  else store ++ [⟨item, props⟩]

def remove (store : List (Indicator Rest)) (id : String) : List (Indicator Rest) :=
  store.eraseP (·.item.id = id)

def setActivationUnsupported (store : List (Indicator Rest)) (id : String) :
    List (Indicator Rest) :=
  store.replaceF fun i =>
    if i.item.id = id then some ⟨i.item, { i.props with supportsActivation := false }⟩
    else none

/-- `on_status_notifier_msg`, as far as the store goes. -/
def receive (store : List (Indicator Rest)) : Msg Rest → List (Indicator Rest)
  | .itemUpdated item props => upsert store item props
  | .itemUnregistered gone => remove store gone.id
  | .activationUnsupported id => setActivationUnsupported store id

end IndicatorStore

open IndicatorStore

/-- `owners` and `watched` are the running tasks of `watch_owner` and `watch_item`. -/
structure State (Rest : Type*) where
  registry : List RegisteredItem := []
  owners : List (String × String) := []
  watched : List RegisteredItem := []
  queue : List (Msg Rest) := []
  store : List (Indicator Rest) := []

namespace State

def send (state : State Rest) (msg : Msg Rest) : State Rest :=
  { state with queue := state.queue ++ [msg] }

/-- `register_status_notifier_item` after the argument is resolved. -/
def register (state : State Rest) (item : RegisteredItem) : State Rest :=
  if state.registry.any (·.place = item.place) then
    { state with registry := state.registry.replaceF fun i =>
        if i.place = item.place then some { i with id := item.id } else none }
  else
    { state with
      registry := state.registry ++ [item]
      owners := item.place :: state.owners
      watched := item :: state.watched }

/-- `remove_item` and the message both tasks send when it removed something. -/
def retire (state : State Rest) (place : String × String) : State Rest :=
  match state.registry.find? (·.place = place) with
  | none => state
  | some gone =>
    { state with registry := state.registry.eraseP (·.place = place) }.send
      (.itemUnregistered gone)

def deliver (state : State Rest) (msg : Msg Rest) (rest : List (Msg Rest)) : State Rest :=
  { state with queue := rest, store := receive state.store msg }

end State

inductive Op (Rest : Type*) where
  | register (service : ServiceRef) (owner : String)
  | read (item : RegisteredItem) (props : ItemProps Rest)
  | ownerGone (place : String × String)
  | itemGone (item : RegisteredItem)
  | ownerTaskEnds (place : String × String)
  | itemTaskEnds (item : RegisteredItem)
  | activateFails (itemId : String)
  | deliver

def step (state : State Rest) : Op Rest → Option (State Rest)
  | .register service owner => some (state.register (service.item owner))
  | .read item props =>
    if item ∈ state.watched then some (state.send (.itemUpdated item props)) else none
  | .ownerGone place =>
    if place ∈ state.owners then
      some ({ state with owners := state.owners.erase place }.retire place)
    else none
  | .itemGone item =>
    if item ∈ state.watched then
      some ({ state with watched := state.watched.erase item }.retire item.place)
    else none
  | .ownerTaskEnds place => some { state with owners := state.owners.erase place }
  | .itemTaskEnds item => some { state with watched := state.watched.erase item }
  | .activateFails itemId => some (state.send (.activationUnsupported itemId))
  | .deliver =>
    match state.queue with
    | [] => none
    | msg :: rest => some (state.deliver msg rest)

/-- A registration agrees with every registered item on id and place or on
neither, and properties are sent only for an item registered as the task knows it. -/
def Orderly (state : State Rest) : Op Rest → Prop
  | .register service owner => ∀ other ∈ state.registry,
      other.id = (service.item owner).id ↔ other.place = (service.item owner).place
  | .read item _ => item ∈ state.registry
  | _ => True

/-- The indicators once all that was sent is delivered. -/
def State.settled (state : State Rest) : List (Indicator Rest) :=
  state.queue.foldl receive state.store

/-- Each unregistration still to come finds no indicator of another item. -/
def Aimed : List (Indicator Rest) → List (Msg Rest) → Prop
  | _, [] => True
  | store, msg :: rest =>
    (∀ gone, msg = .itemUnregistered gone →
      ∀ indicator ∈ store, indicator.item.id = gone.id → indicator.item = gone) ∧
    Aimed (receive store msg) rest

structure Sound (state : State Rest) : Prop where
  places : (state.registry.map (·.place)).Nodup
  ids : ∀ a ∈ state.registry, ∀ b ∈ state.registry, a.id = b.id → a = b
  shownPlaces : ((state.settled.map (·.item)).map (·.place)).Nodup
  shown : ∀ item ∈ state.settled.map (·.item), item ∈ state.registry
  aimed : Aimed state.store state.queue

variable {msg : Msg Rest} {store : List (Indicator Rest)} {item : RegisteredItem}
  {st : State Rest}

lemma aimed_append {q : List (Msg Rest)} (aimed : Aimed store q)
    (last : Aimed (q.foldl receive store) [msg]) : Aimed store (q ++ [msg]) := by
  induction q generalizing store with
  | nil => exact last
  | cons _ _ ih => exact ⟨aimed.1, ih aimed.2 last⟩

@[simp]
lemma settled_send (st : State Rest) (msg : Msg Rest) :
    (st.send msg).settled = receive st.settled msg := by
  simp [State.settled, State.send]

variable {props : ItemProps Rest}

lemma mem_upsert {indicator : Indicator Rest}
    (got : indicator ∈ upsert store item props) : indicator.item = item ∨ indicator ∈ store := by
  unfold upsert at got
  split at got
  · clear * - got
    induction store with
    | nil => simp at got
    | cons => grind [replaceF]
  · grind

lemma upsert_places (uniq : ((store.map (·.item)).map (·.place)).Nodup) :
    (((upsert store item props).map (·.item)).map (·.place)).Nodup := by
  rw [map_map] at uniq ⊢
  unfold upsert
  split
  · -- The entry found is replaced by one of the same place.
    suffices same : ∀ store : List (Indicator Rest),
        (store.replaceF fun i => if i.item.place = item.place then some ⟨item, props⟩
          else none).map ((·.place) ∘ (·.item)) = store.map ((·.place) ∘ (·.item)) by
      rwa [same]
    intro store
    induction store with
    | nil => rfl
    | cons => grind [replaceF]
  · simp_all [nodup_append]

lemma setActivationUnsupported_items (store : List (Indicator Rest)) (id : String) :
    (setActivationUnsupported store id).map (·.item) = store.map (·.item) := by
  unfold setActivationUnsupported
  induction store with
  | nil => rfl
  | cons => grind [replaceF]

/-- A registration that agrees with the registry leaves it, or adds to it. -/
lemma register_registry
    (agrees : ∀ other ∈ st.registry, other.id = item.id ↔ other.place = item.place) :
    (st.register item).registry = st.registry ∨
      (st.register item).registry = st.registry ++ [item] ∧
        ∀ other ∈ st.registry, other.place ≠ item.place := by
  unfold State.register
  split
  · left
    simp only
    generalize st.registry = registry at agrees
    induction registry with
    | nil => rfl
    | cons head =>
      by_cases here : head.place = item.place
      · cases head
        simp_all [replaceF]
      · simp_all [replaceF]
  · grind

lemma Sound.register (inv : Sound st)
    (agrees : ∀ other ∈ st.registry, other.id = item.id ↔ other.place = item.place) :
    Sound (st.register item) := by
  have ⟨q, store⟩ : (st.register item).queue = st.queue ∧
      (st.register item).store = st.store := by
    unfold State.register
    split <;> exact ⟨rfl, rfl⟩
  have settled : (st.register item).settled = st.settled := by
    rw [State.settled, State.settled, q, store]
  obtain ⟨_, _, _, shown, _⟩ := inv
  refine ⟨?_, ?_, by rwa [settled], ?_, by rwa [store, q]⟩ <;>
    rcases register_registry agrees with same | ⟨added, _⟩
  · rwa [same]
  · grind
  · rwa [same]
  · grind
  · rwa [same, settled]
  · rw [added, settled]
    exact fun other among => mem_append_left _ (shown other among)

lemma Sound.tasks (inv : Sound st) (owners : List (String × String))
    (watched : List RegisteredItem) : Sound { st with owners := owners, watched := watched } :=
  ⟨inv.places, inv.ids, inv.shownPlaces, inv.shown, inv.aimed⟩

lemma Sound.send (inv : Sound st)
    (named : ∀ item props, msg = .itemUpdated item props → item ∈ st.registry)
    (stays : ∀ gone, msg ≠ .itemUnregistered gone) : Sound (st.send msg) := by
  obtain ⟨places, ids, shownPlaces, shown, aimed⟩ := inv
  refine ⟨places, ids, ?_, ?_, aimed_append aimed ⟨by grind, trivial⟩⟩ <;>
    rw [settled_send]
  · cases msg with
    | itemUpdated => exact upsert_places shownPlaces
    | itemUnregistered gone => exact absurd rfl (stays gone)
    | activationUnsupported => rwa [receive, setActivationUnsupported_items]
  · cases msg with
    | itemUpdated item props =>
      intro _ among
      obtain ⟨_, got, rfl⟩ := mem_map.mp among
      rcases mem_upsert got with same | old
      · exact same ▸ named item props rfl
      · exact shown _ (mem_map_of_mem old)
    | itemUnregistered gone => exact absurd rfl (stays gone)
    | activationUnsupported => rwa [receive, setActivationUnsupported_items]

lemma not_mem_eraseP {α : Type*} {x : α} {p : α → Bool} {list : List α} (uniq : list.Nodup)
    (hit : p x) (only : ∀ a ∈ list, p a → a = x) : x ∉ list.eraseP p := by
  induction list with
  | nil => simp
  | cons => grind

lemma remove_items (store : List (Indicator Rest)) (id : String) :
    (remove store id).map (·.item) = (store.map (·.item)).eraseP (·.id = id) := by
  rw [remove, eraseP_map]
  rfl

lemma Sound.retire (inv : Sound st) (place : String × String) : Sound (st.retire place) := by
  obtain ⟨places, ids, shownPlaces, shown, aimed⟩ := inv
  unfold State.retire
  split
  · exact ⟨places, ids, shownPlaces, shown, aimed⟩
  next gone got =>
  have has : gone ∈ st.registry := mem_of_find?_eq_some got
  have at_place : gone.place = place := by simpa using find?_some got
  -- An indicator that answers to the id sent is the one of the item removed.
  have only : ∀ item ∈ st.settled.map (·.item), item.id = gone.id → item = gone :=
    fun item among same => ids item (shown item among) gone has same
  refine ⟨places.sublist (eraseP_sublist.map _),
    fun a left b right =>
      ids a (mem_of_mem_eraseP left) b (mem_of_mem_eraseP right),
    ?_, ?_, aimed_append aimed ⟨?_, trivial⟩⟩
  · rw [settled_send, receive, remove_items]
    exact shownPlaces.sublist (eraseP_sublist.map _)
  · rw [settled_send, receive, remove_items]
    intro item among
    have other : item ≠ gone := by
      rintro rfl
      exact not_mem_eraseP (Nodup.of_map _ shownPlaces) (by simp)
        (fun other has hit => only other has (by simpa using hit)) among
    have kept : item.place ≠ place := by
      intro same
      exact other (inj_on_of_nodup_map places
        (shown item (mem_of_mem_eraseP among)) has (same.trans at_place.symm))
    exact (mem_eraseP_of_neg (by simpa using kept)).mpr
      (shown item (mem_of_mem_eraseP among))
  · rintro _ ⟨⟩ indicator among
    exact only _ (mem_map_of_mem among)

lemma Sound.deliver {rest : List (Msg Rest)} (inv : Sound st) (next : st.queue = msg :: rest) :
    Sound (st.deliver msg rest) := by
  obtain ⟨places, ids, shownPlaces, shown, aimed⟩ := inv
  simp only [State.settled, next] at shownPlaces shown aimed
  exact ⟨places, ids, shownPlaces, shown, aimed.2⟩

/-- An unregistration that is delivered takes no indicator of another item. -/
lemma Sound.unregistered {gone : RegisteredItem} {rest : List (Msg Rest)} (inv : Sound st)
    (next : st.queue = .itemUnregistered gone :: rest) {indicator : Indicator Rest}
    (found : indicator ∈ st.store) (other : indicator.item ≠ gone) :
    indicator ∈ receive st.store (.itemUnregistered gone) := by
  have aimed := inv.aimed
  rw [next] at aimed
  have kept : indicator.item.id ≠ gone.id := fun same => other (aimed.1 gone rfl indicator found same)
  exact (mem_eraseP_of_neg (by simpa using kept)).mpr found

lemma step_sound {post : State Rest} {op : Op Rest} (order : Orderly st op)
    (ran : step st op = some post) (inv : Sound st) : Sound post := by
  cases op with
  | register =>
    cases ran
    exact inv.register order
  | read =>
    obtain ⟨_, rfl⟩ := by simpa [step] using ran
    exact inv.send (by rintro _ _ ⟨⟩; exact order) nofun
  | ownerGone place =>
    obtain ⟨_, rfl⟩ := by simpa [step] using ran
    exact (inv.tasks _ _).retire place
  | itemGone item =>
    obtain ⟨_, rfl⟩ := by simpa [step] using ran
    exact (inv.tasks _ _).retire item.place
  | ownerTaskEnds place | itemTaskEnds item =>
    cases ran
    exact inv.tasks _ _
  | activateFails =>
    cases ran
    exact inv.send nofun nofun
  | deliver =>
    simp only [step] at ran
    split at ran
    · cases ran
    next next =>
    cases ran
    exact inv.deliver next

/-- Along every orderly run, once all is delivered every indicator is that of a
registered item, and the indicators of other items stay when an unregistration is delivered. -/
theorem indicators_registered {ops : List (Op Rest)} {finish : State Rest}
    (run : Runs step Orderly {} ops finish) :
    (finish.queue = [] → ∀ indicator ∈ finish.store, indicator.item ∈ finish.registry) ∧
      ∀ gone rest, finish.queue = .itemUnregistered gone :: rest →
        ∀ indicator ∈ finish.store, indicator.item ≠ gone →
          indicator ∈ receive finish.store (.itemUnregistered gone) := by
  have sound : Sound finish := by
    apply run.invariant Sound step_sound
    constructor <;> simp [State.settled, Aimed]
  refine ⟨fun delivered indicator found => ?_,
    fun _ _ next _ found other => sound.unregistered next found other⟩
  have shown := sound.shown
  simp only [State.settled, delivered] at shown
  exact shown _ (mem_map_of_mem found)

def byPath : ServiceRef := .path ":1.7" "/StatusNotifierItem"

def another : ServiceRef := .path ":1.8" "/StatusNotifierItem"

/-- Two items are shown, and the connection of the first goes away. -/
def oneOfTwoGone : List (Op Unit) :=
  [.register byPath "", .read (byPath.item "") ⟨true, ()⟩, .deliver, .register another "",
    .read (another.item "") ⟨true, ()⟩, .deliver, .ownerGone (byPath.item "").place]

theorem indicators_registered_ownerGone : ∃ finish, Runs step Orderly {} oneOfTwoGone finish ∧
      ⟨another.item "", true, ()⟩ ∈ receive finish.store (.itemUnregistered (byPath.item "")) := by
  have run : Runs step Orderly {} oneOfTwoGone _ :=
    .cons nofun rfl (.cons (.head _) rfl (.cons trivial rfl (.cons (by unfold Orderly; decide) rfl
      (.cons (.tail _ (.head _)) rfl (.cons trivial rfl (.cons trivial rfl (.nil _)))))))
  exact ⟨_, run, (indicators_registered run).2 _ _ rfl _ (.tail _ (.head _)) (by decide)⟩

/-- An item registered by path and again by name is shown under its first id and
unregistered under its second: its icon stays. -/
theorem indicator_left_behind : ∃ finish : State Unit, Runs step (fun _ _ => True) {}
        [.register byPath "", .read (byPath.item "") ⟨true, ()⟩, .deliver,
          .register (.name "org.app") ":1.7", .ownerGone (byPath.item "").place, .deliver] finish ∧
      finish.queue = [] ∧ finish.registry = [] ∧ finish.store.map (·.item) = [byPath.item ""] :=
  ⟨_, runs_of_runUnder rfl, rfl, rfl, rfl⟩

end Synoik.StatusNotifier
