import Synoik.Sessions.Removal

/-!
# Sessions that change hands

Objects and handles are numbered as they are made, and nothing that was dropped is registered
again. After a session is handed over, all that is registered under its id is younger than the
handover, so what the former holder has in hand is not what is registered.
-/

namespace Synoik.Sessions

variable {Record : Type} {id name : String}

variable {st post : State Record} {session : SessionObject} {op : Op Record} {mark : Nat}

namespace State

variable {handle : Handle} {number : Nat} {Value : Type}

lemma lookup_insert_ite (table : Table Value) (key other : String)
    (val : Value) : (table.insert key val).lookup other =
      if other = key then some val else table.lookup other := by
  split
  next same => rw [same, AList.lookup_insert]
  next same => exact AList.lookup_insert_ne same

lemma lookup_erase_ite (table : Table Value) (key other : String) :
    (table.erase key).lookup other = if other = key then none else table.lookup other := by
  split
  next same => rw [same, AList.lookup_erase]
  next same => exact AList.lookup_erase_ne same

/-- A number is that of something registered under an id. -/
def Registered (state : State Record) (id : String) (number : Nat) : Prop :=
  ∃ live, state.live.lookup id = some live ∧ (live.resource.number = number ∨
    ∃ name registered, live.toplevels.lookup name = some registered ∧
      registered.handle.number = number)

/-- What is had or registered is old or was made by the step. -/
structure Ages (state after : State Record) : Prop where
  next : state.nextObject ≤ after.nextObject
  objects : ∀ session ∈ after.objects, session ∈ state.objects ∨ session.number < after.nextObject
  handles : ∀ handle ∈ after.handles, handle ∈ state.handles ∨ handle.number < after.nextObject
  live : ∀ id number, after.Registered id number →
    state.Registered id number ∨ state.nextObject ≤ number

lemma addToplevel_ages {toplevel : Nat} : st.Ages (st.addToplevel session toplevel name) := by
  unfold addToplevel initInert initHandle
  constructor <;> grind [Registered, send, setToplevels, sessionOf_eq_some, lookup_insert_ite]

lemma removeToplevel_ages : st.Ages (st.removeToplevel session name) := by
  constructor <;> grind [removeToplevel, Registered, scheduleIf, scheduleSessionSave, setToplevels,
    sessionOf_eq_some, lookup_insert_ite, lookup_erase_ite]

lemma rename_ages {newName : String} : st.Ages (st.rename handle newName) := by
  constructor <;> grind [rename, Registered, scheduleIf, scheduleSessionSave, setToplevels, send,
    lookup_insert_ite, lookup_erase_ite]

variable {now : Nat}

lemma destroyed_ages : st.Ages (st.destroyed session now) := by
  constructor <;> grind [destroyed, Registered, saveLiveSessionToplevels,
    saveLiveSessionToplevelsMatching, scheduleSessionSave, List.mem_of_mem_erase, lookup_erase_ite]

/-- A request for a session hands the object it makes the id that it opens. -/
lemma getSession_live (client : Nat) (why : Option Reason) (want : Option String)
    (uuid : String) (now : Nat) : (st.getSession client why want uuid now).live =
      (st.opens (.getSession client why want uuid now)).elim st.live fun id => st.live.insert id
          { resource := ⟨st.nextObject, client, id⟩, reason := why.getD .launch } := by
  unfold getSession opens openSession initSession takeOver
  grind [send, scheduleSessionSave]

lemma getSession_ages {client : Nat} {why : Option Reason} {want : Option String}
    {uuid : String} : st.Ages (st.getSession client why want uuid now) := by
  unfold getSession openSession initSession takeOver
  constructor <;> grind [send, Registered, scheduleSessionSave, lookup_insert_ite,
    AList.lookup_empty, List.mem_singleton]

lemma step_ages (ran : step st op = some post) : st.Ages post := by
  cases op
  case getSession => cases ran; exact getSession_ages
  case unmapped | sweep | world =>
    constructor <;> grind [step, Registered, saveSessionToplevel,
      saveLiveSessionToplevelsMatching, scheduleSessionSave]
  all_goals obtain ⟨_, ⟨⟩⟩ := Option.ite_none_right_eq_some.mp ran
  case remove =>
    constructor <;> grind [remove, destroyed_ages, Ages, scheduleIf, scheduleSessionSave,
      Registered]
  case restoreToplevel =>
    constructor <;> grind [restoreToplevel, initInert, initHandle, Registered, send,
      addToplevel_ages, Ages]
  case destroyHandle | saveTimer => constructor <;> grind [Registered]
  exacts [destroyed_ages, addToplevel_ages, removeToplevel_ages, rename_ages]

/-- All that is registered under an id was made since some moment. -/
structure Renewed (state : State Record) (id : String) (mark : Nat) : Prop where
  reached : mark ≤ state.nextObject
  young : ∀ number, state.Registered id number → mark ≤ number

lemma Renewed.step (renewed : st.Renewed id mark) (ages : st.Ages post) : post.Renewed id mark :=
  ⟨renewed.reached.trans ages.next, fun number now => (ages.live id number now).elim
    (renewed.young number) renewed.reached.trans⟩

/-- A session that is opened under an id has nothing older registered. -/
lemma renewed_of_opens (opens : st.opens op = some id)
    (ran : Sessions.step st op = some post) : post.Renewed id st.nextObject := by
  cases op with
  | getSession =>
    cases ran
    refine ⟨getSession_ages.next, fun _ registered => ?_⟩
    unfold Registered at registered
    rw [getSession_live, opens] at registered
    grind [AList.lookup_insert, AList.lookup_empty]
  | _ => cases opens

lemma Renewed.sessionOf (renewed : st.Renewed session.id mark)
    (older : session.number < mark) : st.sessionOf session = none := by
  rw [Option.eq_none_iff_forall_not_mem]
  intro live held
  obtain ⟨got, rfl⟩ := sessionOf_eq_some.mp held
  exact Nat.not_le.mpr older (renewed.young _ ⟨live, got, .inl rfl⟩)

end State

/-- The request is made on a session object, or on one of the handles of its session. -/
def Op.On (session : SessionObject) (handles : List Handle) : Op Record → Prop
  | .destroy object _ | .remove object _ | .addToplevel object _ _
  | .restoreToplevel object _ _ | .removeToplevel object _ => object = session
  | .destroyHandle handle | .rename handle _ =>
    handle ∈ handles ∧ handle.sessionId = session.id
  | _ => False

open State

variable {handles : List Handle}

/-- What is older than all that is registered changes nothing. -/
lemma State.Renewed.unchanged (renewed : st.Renewed session.id mark)
    (older : session.number < mark) (olderHandles : ∀ handle ∈ handles, handle.number < mark)
    (on : op.On session handles) (ran : Sessions.step st op = some post) :
    post.store = st.store ∧ post.live = st.live := by
  have inert := renewed.sessionOf older
  have holder : ∀ live, st.live.lookup session.id = some live → mark ≤ live.resource.number :=
    fun live got => renewed.young _ ⟨live, got, .inl rfl⟩
  have registered : ∀ live name held, st.live.lookup session.id = some live →
      live.toplevels.lookup name = some held → mark ≤ held.handle.number :=
    fun live name held got has => renewed.young _ ⟨live, got, .inr ⟨name, held, has, rfl⟩⟩
  cases op
  case getSession | unmapped | sweep | saveTimer | world => exact on.elim
  all_goals obtain ⟨_, ⟨⟩⟩ := Option.ite_none_right_eq_some.mp ran
  case destroyHandle => exact ⟨rfl, rfl⟩
  case rename handle _ _ =>
    have old := olderHandles handle on.1
    have named := on.2
    grind [State.rename]
  all_goals cases on
  case addToplevel | restoreToplevel | removeToplevel =>
    grind [addToplevel, restoreToplevel, removeToplevel, initInert, initHandle, send]
  case destroy | remove => grind [State.destroyed, State.remove, Option.map_eq_some_iff]

/-- In every trace an id has one holder and a name answers to one handle. After a session was
handed over, nothing done on the former holder's object, or on a handle made before, changes
what is stored or what is registered. -/
theorem former_holder_out_of_reach {world : World Record} {store : SessionStore Record}
    {ops : List (Op Record)} (run : Runs step (fun _ _ => True) { world, store } ops state) :
    (∀ object other, (state.sessionOf object).isSome → (state.sessionOf other).isSome →
      object.id = other.id → object = other) ∧
    (∀ handle other target, state.restoreTargetFor handle = some target →
      state.restoreTargetFor other = some target → handle = other) ∧
    ∀ former opening taken later finish op after, state.Holds former →
      state.opens opening = some former.id → step state opening = some taken →
      Runs step (fun _ _ => True) taken later finish →
      op.On former state.handles → step finish op = some after →
      after.store = finish.store ∧ after.live = finish.live := by
  refine ⟨?_, ?_, ?_⟩
  · simp only [Option.isSome_iff_exists, sessionOf_eq_some]
    grind
  · simp only [restoreTargetFor, Option.bind_eq_some_iff, Option.ite_none_right_eq_some]
    grind
  intro former _ _ _ finish op _ holds opens stepped run' on acted
  have counted : (∀ session ∈ state.objects, session.number < state.nextObject) ∧
      ∀ handle ∈ state.handles, handle.number < state.nextObject := by
    refine run.invariant (fun state => (∀ session ∈ state.objects,
      session.number < state.nextObject) ∧
        ∀ handle ∈ state.handles, handle.number < state.nextObject) ?_ (by simp)
    intro _ _ _ _ stepped counted
    have ages := step_ages stepped
    constructor <;> grind [Ages]
  have renewed := run'.invariant (fun state' => state'.Renewed former.id state.nextObject)
      (fun _ stepped renewed => renewed.step (step_ages stepped)) (renewed_of_opens opens stepped)
  exact renewed.unchanged (counted.1 former holds.alive) counted.2 on acted

/-- A second client takes the session, and the first removes it in vain. -/
theorem former_holder_out_of_reach_remove : ∃ taken after,
      step (withToplevel (some 0)) (.getSession 2 (some .launch) (some "a1") "b1" 20) = some taken ∧
      step taken (.remove { number := 0, client := 1, id := "a1" } 30) = some after ∧
      after.store = taken.store ∧ after.live = taken.live := by
  have run : Runs step (fun _ _ => True) { world := (withToplevel (some 0)).world }
      [.getSession 1 (some .launch) none "a1" 10,
        .addToplevel { number := 0, client := 1, id := "a1" } 7 "main"] (withToplevel (some 0)) :=
    runs_of_runUnder rfl
  exact ⟨_, _, rfl, rfl, (former_holder_out_of_reach run).2.2
    { number := 0, client := 1, id := "a1" }
    (.getSession 2 (some .launch) (some "a1") "b1" 20) _ [] _
    (.remove { number := 0, client := 1, id := "a1" } 30) _ (by decide +kernel)
    (by decide +kernel) rfl (.nil _) rfl rfl⟩

end Synoik.Sessions
