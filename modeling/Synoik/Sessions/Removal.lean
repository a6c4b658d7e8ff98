import Synoik.Sessions.Manager
import Synoik.Support.Runs

/-!
# Removing a session

The store has a session only if one was opened under its id or a window registered in it was
saved. Destroying the object saves the windows registered in it, so a session that is removed
with a mapped window is stored anew by its own removal.
-/

namespace Synoik.Sessions

open List
open Option (ite_none_right_eq_some)

variable {Record : Type} {id sessionId name : String} {now : Nat}

variable {state : State Record} {session : SessionObject}

namespace SessionStore

variable {st : SessionStore Record}

/-- Nothing is stored under an id. -/
def Lacks (store : SessionStore Record) (id : String) : Prop := store.sessions.lookup id = none

lemma contains_eq_false_iff : st.contains id = false ↔ st.Lacks id := by
  unfold SessionStore.contains Lacks
  cases st.sessions.lookup id <;> simp

lemma lacks_remove : (st.remove id).1.Lacks id := AList.lookup_erase id _

lemma Lacks.touch (lacks : st.Lacks id) (other : id ≠ sessionId) :
    (st.touch sessionId now).Lacks id :=
  (AList.lookup_insert_ne other).trans lacks

variable {record : Record}

lemma lacks_saveToplevel_iff :
    (st.saveToplevel sessionId name record now).Lacks id ↔ st.Lacks id ∧ sessionId ≠ id := by
  unfold Lacks SessionStore.saveToplevel
  rw [AList.lookup_insert_eq_none, ne_comm, and_comm]

section

variable (lacks : st.Lacks id)
include lacks

lemma Lacks.remove : (st.remove sessionId).1.Lacks id := by
  by_cases same : id = sessionId
  · rw [same]
    exact lacks_remove
  · exact (AList.lookup_erase_ne same).trans lacks

lemma Lacks.ne {session : SessionRecord Record}
    (got : st.sessions.lookup sessionId = some session) : id ≠ sessionId := by
  rintro rfl
  rw [lacks] at got
  cases got

lemma Lacks.removeToplevel : (st.removeToplevel sessionId name).1.Lacks id := by
  unfold SessionStore.removeToplevel
  split
  · exact lacks
  next got => exact (AList.lookup_insert_ne (lacks.ne got)).trans lacks

lemma Lacks.renameToplevel {new : String} : (st.renameToplevel sessionId name new).1.Lacks id := by
  unfold SessionStore.renameToplevel
  split
  · exact lacks
  next got =>
  split
  · exact lacks
  · exact (AList.lookup_insert_ne (lacks.ne got)).trans lacks

end

/-- A sweep stores an id exactly if one of its windows has something to save. -/
lemma lacks_sweep_iff {world : World Record} {registrations : List (String × String × Nat)}
    {swept : SessionStore Record × Nat × Nat} :
    (registrations.foldl (State.saveRegistered world now) swept).1.Lacks id ↔
      swept.1.Lacks id ∧ ∀ reg ∈ registrations, reg.1 = id → world.record reg.2.2 = none := by
  induction registrations generalizing swept with
  | nil => simp
  | cons reg _ ih =>
    have one : (State.saveRegistered world now swept reg).1.Lacks id ↔
        swept.1.Lacks id ∧ (reg.1 = id → world.record reg.2.2 = none) := by
      obtain ⟨_, _, _⟩ := swept
      obtain ⟨_, _, toplevel⟩ := reg
      unfold State.saveRegistered
      cases got : world.record toplevel with
      | none => simp [got]
      | some => simp [got, lacks_saveToplevel_iff]
    rw [foldl_cons, ih, one, and_assoc, forall_mem_cons]

lemma Lacks.saveAll {registrations : List (String × String)} (lacks : st.Lacks id)
    (rest : ∀ reg ∈ registrations, reg.1 ≠ id) : (registrations.foldl (fun st reg =>
      st.saveToplevel reg.1 reg.2 record now) st).Lacks id := by
  induction registrations generalizing st with
  | nil => exact lacks
  | cons _ _ ih =>
    rw [forall_mem_cons] at rest
    exact ih (lacks_saveToplevel_iff.mpr ⟨lacks, rest.1⟩) rest.2

end SessionStore

namespace State

variable {post : State Record} {toplevel : Nat}

lemma mem_liveRegistrations : (id, name, toplevel) ∈ state.liveRegistrations ↔
      ∃ live registered, state.live.lookup id = some live ∧
        live.toplevels.lookup name = some registered ∧ registered.toplevel = toplevel := by
  unfold liveRegistrations
  simp only [mem_flatMap, mem_map, Prod.mk.injEq]
  constructor
  · rintro ⟨⟨_, live⟩, entry, ⟨_, registered⟩, has, rfl, rfl, rfl⟩
    exact ⟨live, registered, AList.mem_lookup_iff.mpr entry, AList.mem_lookup_iff.mpr has, rfl⟩
  · rintro ⟨live, registered, got, has, rfl⟩
    exact ⟨⟨id, live⟩, AList.mem_lookup_iff.mp got, ⟨name, registered⟩,
      AList.mem_lookup_iff.mp has, rfl, rfl, rfl⟩

lemma live_of_mem_registrationsFor {reg : String × String}
    (mem : reg ∈ state.registrationsFor toplevel) : (state.live.lookup reg.1).isSome := by
  unfold registrationsFor at mem
  simp only [mem_flatMap, mem_map] at mem
  obtain ⟨⟨_, live⟩, entry, _, _, rfl⟩ := mem
  rw [show state.live.lookup _ = some live from AList.mem_lookup_iff.mpr entry]
  rfl

lemma sessionOf_eq_some {live : LiveSession} : state.sessionOf session = some live ↔
      state.live.lookup session.id = some live ∧ live.resource = session := by
  unfold sessionOf
  simp

lemma takeOver_eq (state : State Record) (id : String) (resource : SessionObject)
    (why : Reason) : ∃ sent, state.takeOver id resource why =
      { state with live := state.live.insert id { resource, reason := why }, sent } := by
  unfold takeOver
  split
  · split <;> exact ⟨_, rfl⟩
  · exact ⟨_, rfl⟩

/-- Nobody holds an id, and nothing is stored under it. -/
structure Absent (state : State Record) (id : String) : Prop where
  unheld : state.live.lookup id = none
  unstored : state.store.Lacks id

namespace Absent

lemma scheduleIf {new : Bool} (lack : state.Absent id) : (state.scheduleIf new).Absent id := by
  unfold State.scheduleIf
  split
  · exact ⟨lack.unheld, lack.unstored⟩
  · exact lack

variable {live : LiveSession} {why : Reason}

section

variable (lack : state.Absent id)
include lack

lemma ne (got : state.live.lookup sessionId = some live) : id ≠ sessionId := by
  rintro rfl
  rw [lack.unheld] at got
  cases got

lemma setToplevels {toplevels : Table RegisteredToplevel}
    (other : id ≠ sessionId) : (state.setToplevels sessionId live toplevels).Absent id :=
  ⟨(AList.lookup_insert_ne other).trans lack.unheld, lack.unstored⟩

lemma sweep {only : Option String} :
    (state.saveLiveSessionToplevelsMatching only now).1.Absent id := by
  refine ⟨lack.unheld, SessionStore.lacks_sweep_iff.mpr ⟨lack.unstored, ?_⟩⟩
  rintro ⟨_, _, _⟩ mem rfl
  obtain ⟨_, _, got, _⟩ := mem_liveRegistrations.mp (mem_of_mem_filter mem)
  exact absurd rfl (lack.ne got)

lemma saveSessionToplevel : (state.saveSessionToplevel toplevel now).Absent id := by
  dsimp only [State.saveSessionToplevel]
  split
  · exact lack
  · split
    · exact lack
    · refine ⟨lack.unheld, lack.unstored.saveAll ?_⟩
      rintro _ mem rfl
      have held := live_of_mem_registrationsFor mem
      rw [lack.unheld] at held
      cases held

lemma takeOver {resource : SessionObject}
    (other : id ≠ sessionId) : (state.takeOver sessionId resource why).Absent id := by
  obtain ⟨_, taken⟩ := state.takeOver_eq sessionId resource why
  rw [taken]
  exact ⟨(AList.lookup_insert_ne other).trans lack.unheld, lack.unstored⟩

lemma openSession {client : Nat} (other : id ≠ sessionId) :
    (state.openSession client sessionId why now).1.Absent id := by
  have made : (state.initSession client sessionId).1.Absent id := ⟨lack.unheld, lack.unstored⟩
  have taken : ((state.initSession client sessionId).1.takeOver sessionId
      (state.initSession client sessionId).2 why).Absent id := made.takeOver other
  exact ⟨taken.unheld, taken.unstored.touch other⟩

end

end Absent

/-- The id under which an operation opens a session. -/
def opens (state : State Record) : Op Record → Option String
  | .getSession client (some _) sessionId uuid _ =>
    match state.known client sessionId with
    | some (_, true) => none
    | some (id, false) => some id
    | none => some uuid
  | _ => none

namespace Absent

section

variable (lack : state.Absent id)
include lack

lemma getSession {client : Nat} {why : Option Reason} {want : Option String} {uuid : String}
    (rest : state.opens (.getSession client why want uuid now) ≠ some id) :
    (state.getSession client why want uuid now).Absent id := by
  cases why with
  | none => exact ⟨lack.unheld, lack.unstored⟩
  | some why =>
    unfold opens at rest
    unfold State.getSession
    rcases got : state.known client want with _ | ⟨sessionId, same⟩
    · simp only [got] at rest ⊢
      have opened : (state.openSession client uuid why now).1.Absent id :=
        lack.openSession (fun same => rest (congrArg some same.symm))
      exact ⟨opened.unheld, opened.unstored⟩
    · cases same with
      | true =>
        exact ⟨lack.unheld, lack.unstored⟩
      | false =>
        simp only [got] at rest ⊢
        have opened : (state.openSession client sessionId why now).1.Absent id :=
          lack.openSession (fun same => rest (congrArg some same.symm))
        exact ⟨opened.unheld, opened.unstored⟩

lemma initHandle : (state.initHandle sessionId name).1.Absent id := ⟨lack.unheld, lack.unstored⟩

lemma addToplevel : (state.addToplevel session toplevel name).Absent id := by
  unfold State.addToplevel
  split
  · exact lack.initHandle
  next _ got =>
  have other := lack.ne (sessionOf_eq_some.mp got).1
  split
  · exact ⟨lack.unheld, lack.unstored⟩
  · exact lack.initHandle.setToplevels other

lemma removeToplevel : (state.removeToplevel session name).Absent id := by
  unfold State.removeToplevel
  split
  · exact lack
  next live got =>
  have kept : (state.setToplevels session.id live (live.toplevels.erase name)).Absent id :=
    lack.setToplevels (lack.ne (sessionOf_eq_some.mp got).1)
  exact scheduleIf ⟨kept.unheld, kept.unstored.removeToplevel⟩

lemma remove : (state.remove session).Absent id := by
  unfold State.remove
  split
  · exact scheduleIf ⟨lack.unheld, lack.unstored.remove⟩
  · exact lack

lemma destroyed : (state.destroyed session now).Absent id := by
  have gone : { state with objects := state.objects.erase session }.Absent id :=
    ⟨lack.unheld, lack.unstored⟩
  dsimp only [State.destroyed]
  split
  next held =>
    obtain ⟨_, got, _⟩ := Option.map_eq_some_iff.mp held
    have swept : (State.saveLiveSessionToplevelsMatching
        { state with objects := state.objects.erase session }
        (some session.id) now).1.Absent id := gone.sweep
    exact ⟨(AList.lookup_erase_ne (gone.ne got)).trans swept.unheld, swept.unstored⟩
  · exact gone

lemma rename {handle : Handle} {newName : String} : (state.rename handle newName).Absent id := by
  unfold State.rename
  split
  · exact lack
  next live got =>
  have kept : ∀ toplevels, (state.setToplevels handle.sessionId live toplevels).Absent id :=
    fun _ => lack.setToplevels (lack.ne got)
  dsimp only
  split
  · exact lack
  · split
    · exact lack
    · split
      · exact ⟨lack.unheld, lack.unstored⟩
      · exact scheduleIf ⟨(kept _).unheld, (kept _).unstored.renameToplevel⟩

/-- An id that is absent stays so until a session is opened under it. -/
lemma step {op : Op Record} (rest : state.opens op ≠ some id)
    (ran : Sessions.step state op = some post) : post.Absent id := by
  cases op with
  | getSession =>
    cases ran
    exact lack.getSession rest
  | destroy =>
    obtain ⟨_, ⟨⟩⟩ := ite_none_right_eq_some.mp ran
    exact lack.destroyed
  | remove =>
    obtain ⟨_, ⟨⟩⟩ := ite_none_right_eq_some.mp ran
    exact lack.remove.destroyed
  | addToplevel =>
    obtain ⟨_, ⟨⟩⟩ := ite_none_right_eq_some.mp ran
    exact lack.addToplevel
  | restoreToplevel =>
    obtain ⟨_, ⟨⟩⟩ := ite_none_right_eq_some.mp ran
    unfold State.restoreToplevel
    split
    · exact ⟨lack.unheld, lack.unstored⟩
    · exact lack.addToplevel
  | removeToplevel =>
    obtain ⟨_, ⟨⟩⟩ := ite_none_right_eq_some.mp ran
    exact lack.removeToplevel
  | destroyHandle | saveTimer =>
    obtain ⟨_, ⟨⟩⟩ := ite_none_right_eq_some.mp ran
    exact ⟨lack.unheld, lack.unstored⟩
  | rename =>
    obtain ⟨_, ⟨⟩⟩ := ite_none_right_eq_some.mp ran
    exact lack.rename
  | unmapped =>
    cases ran
    exact lack.saveSessionToplevel
  | sweep =>
    cases ran
    exact lack.sweep
  | world =>
    cases ran
    exact ⟨lack.unheld, lack.unstored⟩

end

end Absent

/-- A live session object that manages its id. -/
structure Holds (state : State Record) (session : SessionObject) : Prop where
  alive : session ∈ state.objects
  owns : (state.sessionOf session).isSome

instance (state : State Record) (session : SessionObject) : Decidable (state.Holds session) :=
  decidable_of_iff (session ∈ state.objects ∧ (state.sessionOf session).isSome)
    ⟨fun ⟨alive, owns⟩ => ⟨alive, owns⟩, fun ⟨alive, owns⟩ => ⟨alive, owns⟩⟩

/-- Nothing registered in a session has anything to save. -/
def NothingToSave (state : State Record) (id : String) : Prop :=
  ∀ registration ∈ state.liveRegistrations, registration.1 = id →
    state.world.record registration.2.2 = none

lemma remove_live : (state.remove session).live = state.live := by
  unfold remove scheduleIf
  split
  · dsimp only
    split <;> rfl
  · rfl

lemma remove_world : (state.remove session).world = state.world := by
  unfold remove scheduleIf
  split
  · dsimp only
    split <;> rfl
  · rfl

section

variable (owns : (state.sessionOf session).isSome)
include owns

lemma lacks_remove : (state.remove session).store.Lacks session.id := by
  have erased : (state.store.remove session.id).1.Lacks session.id := SessionStore.lacks_remove
  unfold remove scheduleIf
  rw [if_pos owns]
  dsimp only
  split <;> exact erased

lemma owned_after_remove :
    ((state.remove session).live.lookup session.id).map LiveSession.resource = some session := by
  obtain ⟨_, own⟩ := Option.isSome_iff_exists.mp owns
  obtain ⟨got, named⟩ := sessionOf_eq_some.mp own
  rw [remove_live, got, ← named]
  rfl

lemma lacks_removed_iff : ((state.remove session).destroyed session now).store.Lacks session.id ↔
      state.NothingToSave session.id := by
  unfold destroyed
  rw [if_pos (owned_after_remove owns)]
  apply SessionStore.lacks_sweep_iff.trans
  rw [and_iff_right (lacks_remove owns)]
  rw [remove_live, remove_world]
  constructor
  · intro nothing reg mem same
    exact nothing reg (mem_filter.mpr ⟨mem, by simp [same]⟩) same
  · intro nothing reg mem same
    exact nothing reg (mem_of_mem_filter mem) same

lemma unheld_removed :
    ((state.remove session).destroyed session now).live.lookup session.id = none := by
  unfold destroyed
  rw [if_pos (owned_after_remove owns)]
  exact AList.lookup_erase _ _

end

end State

open State

/-- A session that its holder removes stays out of the store until one is opened under its id,
if and only if nothing that is registered in it has anything to save. -/
theorem removed_stays_removed_iff (holds : state.Holds session) :
    (∀ removed ops finish, step state (.remove session now) = some removed →
        Runs step (fun state op => state.opens op ≠ some session.id) removed ops finish →
        finish.store.contains session.id = false) ↔ state.NothingToSave session.id := by
  have stepped : step state (.remove session now) =
      some ((state.remove session).destroyed session now) := if_pos holds.alive
  rw [← lacks_removed_iff holds.owns]
  constructor
  · intro always
    exact SessionStore.contains_eq_false_iff.mp (always _ [] _ stepped (.nil _))
  · intro unstored _ _ _ removing run
    rw [stepped] at removing
    cases removing
    have absent := run.invariant (fun state => state.Absent session.id)
        (fun others stepped absent => absent.step others stepped)
        ⟨unheld_removed holds.owns, unstored⟩
    exact SessionStore.contains_eq_false_iff.mpr absent.unstored

/-- A client's first session, with one toplevel registered, that the layout has or has not. -/
def withToplevel (record : Option Nat) : State Nat :=
  let state : State Nat :=
    { world := { isAlive := fun _ => true, hadInitialCommit := fun _ => false,
                 record := fun _ => record } }
  (state.getSession 1 (some .launch) none "a1" 10).addToplevel
    { number := 0, client := 1, id := "a1" } 7 "main"

theorem removed_stays_removed_iff_unmapped :
    (withToplevel none).Holds { number := 0, client := 1, id := "a1" } ∧ (∀ removed ops finish,
        step (withToplevel none) (.remove { number := 0, client := 1, id := "a1" } 20) =
            some removed →
        Runs step (fun state op => state.opens op ≠ some "a1") removed ops finish →
        finish.store.contains "a1" = false) :=
  ⟨by decide +kernel, (removed_stays_removed_iff (by decide +kernel)).mpr (fun _ _ _ => rfl)⟩

/-- A mapped toplevel: the removal itself stores the session again. -/
theorem removed_is_stored_again : ∃ removed,
      (withToplevel (some 0)).Holds { number := 0, client := 1, id := "a1" } ∧
      step (withToplevel (some 0)) (.remove { number := 0, client := 1, id := "a1" } 20) =
        some removed ∧ removed.store.contains "a1" = true :=
  ⟨_, by decide +kernel, rfl, by decide +kernel⟩

end Synoik.Sessions
