import Synoik.Ipc.Refresh
import Synoik.Support.Corrections

/-!
# The windows of the stream

A window that changed otherwise than in its focus, its place or its urgency is sent whole. The
other events tell one thing of one window; focus alone speaks of all of them.
-/

namespace Synoik.Ipc

open List
open Option (isSome_iff_exists isSome_map map_eq_some_iff)

variable {Place Time : Type}

namespace Layout

variable {creds : Nat → Option Int} {layout : Layout Place Time}
  {laid other : LaidOut Place Time} {id : Nat}
  {win : Window Place Time}

/-- What a client should know about a window. -/
def windowOf (credentials : Nat → Option Int) (layout : Layout Place Time)
    (id : Nat) : Option (Window Place Time) :=
  (layout.ipcWindows credentials).find? fun window => window.id == id

lemma ipcWindows_distinct : ((layout.ipcWindows creds).map Window.id).Nodup := by
  unfold ipcWindows
  rw [map_map]
  exact layout.windowsDistinct

lemma windowOf_eq_some : layout.windowOf creds id = some win ↔ ∃ laid ∈ layout.windows,
      makeIpcWindow creds laid = win ∧ laid.mapped.id = id := by
  unfold windowOf
  rw [Keyed.find?_eq_some_iff ipcWindows_distinct]
  unfold ipcWindows
  rw [mem_map]
  constructor
  · rintro ⟨⟨laid, mem, rfl⟩, rfl⟩
    exact ⟨laid, mem, rfl, rfl⟩
  · rintro ⟨laid, mem, rfl, rfl⟩
    exact ⟨⟨laid, mem, rfl⟩, rfl⟩

lemma windowOf_eq_none_iff : layout.windowOf creds id = none ↔ id ∉ layout.seenWindows := by
  unfold windowOf
  rw [Keyed.find?_eq_none_iff]
  unfold ipcWindows seenWindows
  rw [map_map]
  rfl

end Layout

/-- What an event tells of a window; the rest is only sent with the whole window. -/
inductive WindowField where
  | rest
  | focus
  | timestamp
  | urgency
  | layout
deriving DecidableEq

/-- A window as it is but for what single events tell. -/
def Window.Alike (known target : Window Place Time) : Prop :=
  { known with
    isFocused := target.isFocused
    focusTimestamp := target.focusTimestamp
    isUrgent := target.isUrgent
    layout := target.layout } = target

def WindowField.Agrees (known target : Window Place Time) : WindowField → Prop
  | rest => known.Alike target
  | focus => known.isFocused = target.isFocused
  | timestamp => known.focusTimestamp = target.focusTimestamp
  | urgency => known.isUrgent = target.isUrgent
  | layout => known.layout = target.layout

lemma Window.eq_of_agrees {known dest : Window Place Time}
    (agrees : ∀ field : WindowField, field.Agrees known dest) : known = dest := by
  have alike : known.Alike dest := agrees .rest
  unfold Window.Alike at alike
  rw [← show known.isFocused = dest.isFocused from agrees .focus,
    ← show known.focusTimestamp = dest.focusTimestamp from agrees .timestamp,
    ← show known.isUrgent = dest.isUrgent from agrees .urgency,
    ← show known.layout = dest.layout from agrees .layout] at alike
  exact alike

namespace WindowsState

variable {dest : Nat → Option (Window Place Time)}
  {st : WindowsState Place Time} {event : Event Place Time}
  {rest events : List (Event Place Time)} {id : Nat}
  {win known : Window Place Time} {field : WindowField}

/-- One field of one window is as it should be. The window itself is there, or not, as it
should be, with the rest of its fields. -/
def Right (target : Nat → Option (Window Place Time))
    (state : WindowsState Place Time) (facet : Nat × WindowField) : Prop :=
  match target facet.1 with
  | none => facet.2 = .rest → state.lookup facet.1 = none
  | some wanted =>
    (facet.2 = .rest → (state.lookup facet.1).isSome = true) ∧
      ∀ known ∈ state.lookup facet.1, facet.2.Agrees known wanted

/-- An event tells the truth about the target. -/
def Truthful (target : Nat → Option (Window Place Time)) : Event Place Time → Prop
  | .windowOpenedOrChanged window => target window.id = some window
  | .windowClosed id => target id = none
  | .windowFocusChanged id =>
    ∀ other, ∀ wanted ∈ target other, wanted.isFocused = true ↔ some other = id
  | .windowFocusTimestampChanged id focusTimestamp =>
    ∀ wanted ∈ target id, wanted.focusTimestamp = focusTimestamp
  | .windowUrgencyChanged id urgent => ∀ wanted ∈ target id, wanted.isUrgent = urgent
  | .windowLayoutsChanged changes =>
    ∀ change ∈ changes, ∀ wanted ∈ target change.1, wanted.layout = change.2
  | _ => False

def Fixes : Event Place Time → Nat × WindowField → Prop
  | .windowOpenedOrChanged window, (other, field) =>
    other = window.id ∨ field = .focus ∧ window.isFocused = true
  | .windowClosed id, (other, _) => other = id
  | .windowFocusChanged _, (_, field) => field = .focus
  | .windowFocusTimestampChanged id _, (other, field) => other = id ∧ field = .timestamp
  | .windowUrgencyChanged id _, (other, field) => other = id ∧ field = .urgency
  | .windowLayoutsChanged changes, (other, field) =>
    other ∈ changes.map Prod.fst ∧ field = .layout
  | _, _ => False

def closings : List (Event Place Time) → List Nat :=
  List.filterMap fun
    | .windowClosed id => some id
    | _ => none

structure Safe (target : Nat → Option (Window Place Time))
    (state : WindowsState Place Time)
    (events : List (Event Place Time)) : Prop where
  keyed : Table.KeyedBy state Window.id
  truthful : ∀ event ∈ events, Truthful target event
  closedOnce : (closings events).Nodup
  closable : ∀ id ∈ closings events, (state.lookup id).isSome = true
  movable : ∀ changes, Event.windowLayoutsChanged changes ∈ events → ∀ change ∈ changes,
    (target change.1).isSome = true ∧ (state.lookup change.1).isSome = true

/-- What is true of any layout's windows. -/
structure Coherent (target : Nat → Option (Window Place Time)) : Prop where
  keyed : ∀ id, ∀ wanted ∈ target id, wanted.id = id
  focused : ∀ id other, ∀ wanted ∈ target id, ∀ otherWanted ∈ target other,
    wanted.isFocused = true → otherWanted.isFocused = true → id = other

/-- The part of the state after an event that it takes. -/
def applied (state : WindowsState Place Time)
    (event : Event Place Time) : Option (WindowsState Place Time) :=
  match state.apply event with
  | .applied part => some part
  | _ => none

lemma closings_cons_of_not {event : Event Place Time}
    (stays : ∀ id, event ≠ .windowClosed id) : closings (event :: rest) = closings rest := by
  unfold closings
  cases event with
  | windowClosed id => exact absurd rfl (stays id)
  | _ => rfl

lemma Safe.next {next : WindowsState Place Time}
    (safe : Safe dest st (event :: rest)) (stays : ∀ id, event ≠ .windowClosed id)
    (keyed : Table.KeyedBy next Window.id)
    (kept : ∀ id, (st.lookup id).isSome = true → (next.lookup id).isSome = true) :
    Safe dest next rest := by
  have closings : closings (event :: rest) = closings rest := closings_cons_of_not stays
  refine ⟨keyed, fun other mem => safe.truthful other (.tail _ mem),
    closings ▸ safe.closedOnce, ?_, ?_⟩
  · intro id mem
    exact kept id (safe.closable id (closings ▸ mem))
  · intro changes mem change new
    obtain ⟨want, has⟩ := safe.movable changes (.tail _ mem) change new
    exact ⟨want, kept _ has⟩

variable {change : Window Place Time → Window Place Time}

lemma Safe.mapValues (safe : Safe dest st (event :: rest))
    (stays : ∀ id, event ≠ .windowClosed id) (kept : ∀ win, (change win).id = win.id) :
    Safe dest (Table.mapValues st change) rest := by
  apply safe.next stays (safe.keyed.mapValues kept)
  intro _ has
  rw [Table.lookup_mapValues, isSome_map]
  exact has

variable {facet : Nat × WindowField} {changes : List (Nat × Place)}
  {other : WindowsState Place Time}

lemma Right.map (post : other.lookup facet.1 = (st.lookup facet.1).map change)
    (agrees : ∀ want ∈ dest facet.1, ∀ known ∈ st.lookup facet.1,
      facet.2.Agrees known want ∨ Fixes event facet → facet.2.Agrees (change known) want)
    (lack : Fixes event facet → facet.2 ≠ .rest)
    (pre : Right dest st facet ∨ Fixes event facet) : Right dest other facet := by
  unfold Right at pre ⊢
  rw [post]
  cases wants : dest facet.1 with
  | none =>
    rw [wants] at pre
    intro whole
    have lacking := pre.resolve_right (fun fixes => lack fixes whole) whole
    rw [lacking]
    rfl
  | some want =>
    rw [wants] at pre
    constructor
    · intro whole
      rw [isSome_map]
      exact (pre.resolve_right (fun fixes => lack fixes whole)).1 whole
    · intro _ got
      obtain ⟨old, has, rfl⟩ := map_eq_some_iff.mp got
      exact agrees want wants old has (pre.imp_left fun right => right.2 old has)

lemma focus_step {focused : Option Nat}
    (safe : Safe dest st (.windowFocusChanged focused :: rest)) :
    CorrectsOnce applied (Safe dest) (Right dest) Fixes st (.windowFocusChanged focused) rest := by
  refine ⟨_, rfl, safe.mapValues (fun _ => by simp) (fun _ => rfl), ?_⟩
  intro facet pre
  refine .map (Table.lookup_mapValues _) ?_ ?_ pre
  · intro want wants _ got agrees
    have truth := safe.truthful _ (.head _) facet.1 want wants
    obtain ⟨_, field⟩ := facet
    cases field with
    | focus =>
      unfold WindowField.Agrees
      rw [Bool.eq_iff_iff, decide_eq_true_iff, truth, safe.keyed _ _ got]
    | rest | timestamp | urgency | layout => exact agrees.resolve_right (by simp [Fixes])
  · intro fixes whole
    obtain ⟨_, field⟩ := facet
    cases (show field = _ from fixes).symm.trans whole

lemma single_step {single : WindowField} (safe : Safe dest st (event :: rest))
    (stays : ∀ other, event ≠ .windowClosed other)
    (taken : applied st event = some (Table.mapValues st fun win =>
      if win.id = id then change win else win))
    (fixes : ∀ facet, Fixes event facet ↔ facet.1 = id ∧ facet.2 = single)
    (partly : single ≠ .rest) (kept : ∀ win, (change win).id = win.id)
    (others : ∀ field, field ≠ single → ∀ known want, field.Agrees known want →
      field.Agrees (change known) want)
    (tells : ∀ want ∈ dest id, ∀ known, single.Agrees (change known) want) :
    CorrectsOnce applied (Safe dest) (Right dest) Fixes st event rest := by
  refine ⟨_, taken, safe.mapValues stays ?_, ?_⟩
  · intro win
    split
    · exact kept win
    · rfl
  intro facet pre
  refine .map (Table.lookup_mapValues _) ?_ ?_ pre
  · intro want wants known got agrees
    have named : known.id = facet.1 := safe.keyed _ _ got
    rw [fixes] at agrees
    split
    next same =>
      by_cases told : facet.2 = single
      · rw [told]
        exact tells want (same ▸ named ▸ wants) known
      · exact others _ told _ _ (agrees.resolve_right fun fixed => told fixed.2)
    next ne =>
    exact agrees.resolve_right fun fixed => ne (named.trans fixed.1)
  · intro fixed whole
    exact partly (((fixes facet).mp fixed).2.symm.trans whole)

lemma timestamp_step {focusTimestamp : Option Time}
    (safe : Safe dest st (.windowFocusTimestampChanged id focusTimestamp :: rest)) :
    CorrectsOnce applied (Safe dest) (Right dest) Fixes st
      (.windowFocusTimestampChanged id focusTimestamp) rest := by
  refine single_step safe (fun _ => by simp) rfl (fun _ => Iff.rfl) (by simp) (fun _ => rfl)
    ?_ (fun want wants _ => (safe.truthful _ (.head _) want wants).symm)
  intro field ne _ _ agrees
  cases field with
  | timestamp => exact absurd rfl ne
  | rest | focus | urgency | layout => exact agrees

lemma urgency_step {urgent : Bool}
    (safe : Safe dest st (.windowUrgencyChanged id urgent :: rest)) :
    CorrectsOnce applied (Safe dest) (Right dest) Fixes st
      (.windowUrgencyChanged id urgent) rest := by
  refine single_step safe (fun _ => by simp) rfl (fun _ => Iff.rfl) (by simp) (fun _ => rfl)
    ?_ (fun want wants _ => (safe.truthful _ (.head _) want wants).symm)
  intro field ne _ _ agrees
  cases field with
  | urgency => exact absurd rfl ne
  | rest | focus | timestamp | layout => exact agrees

lemma lookup_put (keyed : Table.KeyedBy st Window.id) : AList.lookup id (put st win) =
      if id = win.id then some win else (st.lookup id).map fun other =>
        { other with isFocused := other.isFocused && !win.isFocused } := by
  unfold put
  by_cases same : id = win.id
  · subst same
    rw [if_pos rfl]
    split
    · rw [Table.lookup_mapValues, AList.lookup_insert, Option.map_some]
      rw [if_neg (by simp)]
    · exact AList.lookup_insert _
  · split
    next focused =>
      rw [Table.lookup_mapValues, AList.lookup_insert_ne same, focused]
      apply Option.map_congr
      intro _ got
      rw [if_pos (by rw [keyed _ _ got]; exact same), Bool.not_true, Bool.and_false]
    next unfocused =>
    rw [AList.lookup_insert_ne same, (Bool.not_eq_true _).mp unfocused]
    simp

lemma keyedBy_put (keyed : Table.KeyedBy st Window.id) : Table.KeyedBy (put st win) Window.id := by
  intro id _ got
  rw [lookup_put keyed] at got
  split at got
  next same =>
    cases got
    exact same.symm
  · obtain ⟨old, has, rfl⟩ := map_eq_some_iff.mp got
    exact keyed id old has

lemma opened_step (coherent : Coherent dest)
    (safe : Safe dest st (.windowOpenedOrChanged win :: rest)) :
    CorrectsOnce applied (Safe dest) (Right dest) Fixes st (.windowOpenedOrChanged win) rest := by
  have truth := safe.truthful _ (.head _)
  refine ⟨put st win, rfl, safe.next (fun _ => by simp) (keyedBy_put safe.keyed) ?_, ?_⟩
  · intro id has
    rw [lookup_put safe.keyed]
    split
    · rfl
    · rw [isSome_map]
      exact has
  · rintro ⟨id, field⟩ pre
    by_cases same : id = win.id
    · subst same
      unfold Right
      rw [lookup_put safe.keyed, truth, if_pos rfl]
      refine ⟨fun _ => rfl, ?_⟩
      rintro known ⟨⟩
      cases field <;> rfl
    · refine .map ((lookup_put safe.keyed).trans (if_neg same)) ?_ ?_ pre
      · intro want wants _ _ agrees
        cases field with
        | rest | timestamp | urgency | layout => exact agrees.resolve_right (by simp [Fixes, same])
        | focus =>
          unfold WindowField.Agrees at agrees ⊢
          cases focused : win.isFocused with
          | false =>
            rw [Bool.not_false, Bool.and_true]
            exact agrees.resolve_right (by simp [Fixes, same, focused])
          | true =>
            rw [Bool.not_true, Bool.and_false, eq_comm, ← Bool.not_eq_true]
            intro both
            exact same (coherent.focused id win.id want wants win truth both focused)
      · rintro (named | ⟨focus, _⟩) whole
        · exact same named
        · cases whole.symm.trans focus

lemma closed_step (safe : Safe dest st (.windowClosed id :: rest)) :
    CorrectsOnce applied (Safe dest) (Right dest) Fixes st (.windowClosed id) rest := by
  have truth : dest id = none := safe.truthful _ (.head _)
  have listed : closings (.windowClosed id :: rest) = id :: closings rest := rfl
  have once := safe.closedOnce
  rw [listed, nodup_cons] at once
  obtain ⟨_, got⟩ := isSome_iff_exists.mp (safe.closable id (listed ▸ (.head _)))
  refine ⟨AList.erase id st, ?_, ?_, ?_⟩
  · dsimp only [applied, WindowsState.apply]
    rw [got]
    rfl
  · refine ⟨safe.keyed.erase, fun other mem => safe.truthful other
      (.tail _ mem), once.2, ?_, ?_⟩
    · intro other mem
      have ne : other ≠ id := by
        rintro rfl
        exact once.1 mem
      rw [AList.lookup_erase_ne ne]
      exact safe.closable other (listed ▸ .tail _ mem)
    · intro changes mem change new
      obtain ⟨want, has⟩ := safe.movable changes (.tail _ mem) change new
      refine ⟨want, ?_⟩
      rw [AList.lookup_erase_ne]
      · exact has
      · intro same
        rw [same, truth] at want
        cases want
  · rintro ⟨other, _⟩ pre
    unfold Right at pre ⊢
    by_cases same : other = id
    · subst same
      rw [truth]
      intro _
      exact AList.lookup_erase _ _
    · rw [AList.lookup_erase_ne same]
      exact pre.resolve_right same

lemma relayout_run (has : ∀ change ∈ changes, (st.lookup change.1).isSome = true) :
    ∃ next : WindowsState Place Time, changes.foldlM relayout st = some next ∧
      ∀ id, (id ∉ changes.map Prod.fst → next.lookup id = st.lookup id) ∧
        (id ∈ changes.map Prod.fst → ∃ change ∈ changes, change.1 = id ∧ next.lookup id =
            (st.lookup id).map fun win => { win with layout := change.2 }) := by
  induction changes generalizing st with
  | nil => exact ⟨st, rfl, fun id => ⟨fun _ => rfl, nofun⟩⟩
  | cons change changes ih =>
    obtain ⟨win, got⟩ := isSome_iff_exists.mp (has change (.head _))
    have moved : relayout st change =
        some (AList.insert change.1 { win with layout := change.2 } st) := by
      unfold relayout
      rw [got]
      rfl
    have still : ∀ other ∈ changes, (AList.lookup other.1
        (AList.insert change.1 { win with layout := change.2 } st)).isSome = true := by
      intro other mem
      by_cases same : other.1 = change.1
      · rw [same, AList.lookup_insert]
        rfl
      · rw [AList.lookup_insert_ne same]
        exact has other (.tail _ mem)
    obtain ⟨next, run, known⟩ := ih still
    refine ⟨next, ?_, ?_⟩
    · rw [foldlM_cons, moved]
      exact run
    · intro id
      obtain ⟨kept, new⟩ := known id
      constructor
      · intro unnamed
        rw [map_cons, mem_cons, not_or] at unnamed
        rw [kept unnamed.2, AList.lookup_insert_ne unnamed.1]
      · intro named
        by_cases later : id ∈ changes.map Prod.fst
        · obtain ⟨last, mem, rfl, post⟩ := new later
          refine ⟨last, .tail _ mem, rfl, ?_⟩
          rw [post]
          by_cases same : last.1 = change.1
          · rw [same, AList.lookup_insert, got]
            rfl
          · rw [AList.lookup_insert_ne same]
        · rw [map_cons, mem_cons] at named
          obtain rfl := named.resolve_right later
          refine ⟨change, .head _, rfl, ?_⟩
          rw [kept later, AList.lookup_insert, got]
          rfl

lemma layouts_step (safe : Safe dest st (.windowLayoutsChanged changes :: rest)) :
    CorrectsOnce applied (Safe dest) (Right dest) Fixes st
      (.windowLayoutsChanged changes) rest := by
  have movable := safe.movable changes (.head _)
  obtain ⟨next, run, known⟩ := relayout_run (fun change mem => (movable change mem).2)
  have changedOrNot : ∀ id, ∃ layout : Place → Place, next.lookup id =
      (st.lookup id).map fun win => { win with layout := layout win.layout } := by
    intro id
    obtain ⟨kept, new⟩ := known id
    by_cases named : id ∈ changes.map Prod.fst
    · obtain ⟨change, _, _, post⟩ := new named
      exact ⟨fun _ => change.2, post⟩
    · refine ⟨fun layout => layout, ?_⟩
      rw [kept named]
      simp
  refine ⟨next, ?_, safe.next (fun _ => by simp) ?_ ?_, ?_⟩
  · dsimp only [applied, WindowsState.apply]
    rw [run]
    rfl
  · intro id _ got
    obtain ⟨layout, post⟩ := changedOrNot id
    rw [post] at got
    obtain ⟨old, has, rfl⟩ := map_eq_some_iff.mp got
    exact safe.keyed id old has
  · intro id has
    obtain ⟨layout, post⟩ := changedOrNot id
    rw [post, isSome_map]
    exact has
  · rintro ⟨id, field⟩ pre
    obtain ⟨kept, new⟩ := known id
    by_cases named : id ∈ changes.map Prod.fst
    · obtain ⟨change, mem, rfl, moved⟩ := new named
      refine .map moved ?_ ?_ pre
      · intro want wants _ _ agrees
        have truth := safe.truthful _ (.head _) change mem want wants
        cases field with
        | layout => exact truth.symm
        | rest | focus | timestamp | urgency => exact agrees.resolve_right (by simp [Fixes])
      · rintro ⟨_, fixed⟩ whole
        cases whole.symm.trans fixed
    · unfold Right at pre ⊢
      rw [kept named]
      exact pre.resolve_right fun fixes => named fixes.1

lemma Safe.congr (safe : Safe dest st events)
    (same : ∀ id, other.lookup id = st.lookup id) : Safe dest other events := by
  refine ⟨?_, safe.truthful, safe.closedOnce, ?_, ?_⟩
  · intro id win got
    exact safe.keyed id win (same id ▸ got)
  · intro id mem
    rw [same]
    exact safe.closable id mem
  · intro changes mem change new
    rw [same]
    exact safe.movable changes mem change new

lemma Right.congr (right : Right dest st facet)
    (same : ∀ id, other.lookup id = st.lookup id) : Right dest other facet := by
  unfold Right at right ⊢
  rw [same]
  exact right

lemma corrects (coherent : Coherent dest) :
    Corrects (applied : WindowsState Place Time → _ → _) (Safe dest) (Right dest) Fixes := by
  refine ⟨?_⟩
  intro _ event _ safe
  have truth := safe.truthful _ (.head _)
  cases event with
  | windowOpenedOrChanged => exact opened_step coherent safe
  | windowClosed => exact closed_step safe
  | windowFocusChanged => exact focus_step safe
  | windowFocusTimestampChanged => exact timestamp_step safe
  | windowUrgencyChanged => exact urgency_step safe
  | windowLayoutsChanged => exact layouts_step safe
  | _ => exact truth.elim

end WindowsState

namespace Layout

open WindowsState

variable {creds : Nat → Option Int} {layout old : Layout Place Time}
  {laid other : LaidOut Place Time} {id : Nat}
  {st : WindowsState Place Time} {known : Window Place Time}
  {event : Event Place Time}

lemma windowOf_of_mem (mem : laid ∈ layout.windows) :
    layout.windowOf creds laid.mapped.id = some (makeIpcWindow creds laid) :=
  windowOf_eq_some.mpr ⟨laid, mem, rfl, rfl⟩

lemma coherent_windowOf : WindowsState.Coherent (layout.windowOf creds) := by
  constructor
  · intro id want wants
    obtain ⟨_, _, rfl, rfl⟩ := windowOf_eq_some.mp wants
    rfl
  · intro _ _ _ wants _ otherWants focused otherFocused
    obtain ⟨one, mem, rfl, rfl⟩ := windowOf_eq_some.mp wants
    obtain ⟨two, otherIn, rfl, rfl⟩ := windowOf_eq_some.mp otherWants
    rw [layout.oneFocused one mem two otherIn focused otherFocused]

/-- A window that need not be sent whole is known but for what single events tell. -/
lemma alike_of_needsAll (got : (old.windowOf creds) laid.mapped.id = some known)
    (place : laid.needsAll known = false) : known.Alike (makeIpcWindow creds laid) := by
  obtain ⟨pre, _, rfl, named⟩ := windowOf_eq_some.mp got
  have same : laid.workspaceId = pre.workspaceId ∧ laid.mapped.isFloating = pre.mapped.isFloating ∧
      laid.mapped.isMinimized = pre.mapped.isMinimized ∧
      laid.mapped.isMaximized = pre.mapped.isMaximized ∧
      laid.mapped.isFullscreen = pre.mapped.isFullscreen ∧
      laid.mapped.isActivated = pre.mapped.isActivated ∧
      laid.mapped.tiledEdges = pre.mapped.tiledEdges ∧
      laid.mapped.title = pre.mapped.title ∧ laid.mapped.appId = pre.mapped.appId := by
    unfold LaidOut.needsAll makeIpcWindow at place
    simp only [ne_eq, decide_not, Bool.or_eq_false_iff, Bool.not_eq_eq_eq_not, Bool.not_false,
      decide_eq_true_eq] at place
    obtain ⟨⟨⟨⟨⟨⟨⟨⟨workspace, floating⟩, minimized⟩, maximized⟩, fullscreen⟩, activated⟩,
      edges⟩, title⟩, appId⟩ := place
    exact ⟨workspace.symm, floating.symm, minimized.symm, maximized.symm, fullscreen.symm,
      activated.symm, edges.symm, title.symm, appId.symm⟩
  obtain ⟨workspace, floating, minimized, maximized, fullscreen, activated, edges, title,
    appId⟩ := same
  unfold Window.Alike makeIpcWindow
  rw [named, workspace, floating, minimized, maximized, fullscreen, activated, edges, title, appId]

variable [DecidableEq Place]

lemma mem_layoutChanges {change : Nat × Place} :
    change ∈ layout.layoutChanges st ↔ ∃ laid ∈ layout.windows, ∃ known,
      st.lookup laid.mapped.id = some known ∧ laid.needsAll known = false ∧
        known.layout ≠ laid.layout ∧ change = (laid.mapped.id, laid.layout) := by
  unfold layoutChanges LaidOut.layoutChange
  rw [mem_filterMap]
  refine exists_congr fun laid => and_congr_right fun _ => ?_
  rw [Option.bind_eq_some_iff]
  refine exists_congr fun known => and_congr_right fun _ => ?_
  rw [Option.ite_none_right_eq_some, and_assoc, Option.some.injEq]
  exact ⟨fun ⟨whole, moved, same⟩ => ⟨whole, moved, same.symm⟩,
    fun ⟨whole, moved, same⟩ => ⟨whole, moved, same.symm⟩⟩

variable [DecidableEq Time]

lemma events_mem_refreshWindows (mem : laid ∈ layout.windows)
    (sent : event ∈ laid.events creds (st.lookup laid.mapped.id)) :
    event ∈ layout.refreshWindows creds st :=
  mem_append_left _ (mem_append_left _ (mem_append_left _ (mem_flatMap.mpr ⟨laid, mem, sent⟩)))

lemma opened_of_whole (mem : laid ∈ layout.windows)
    (whole : ∀ known ∈ st.lookup laid.mapped.id, laid.needsAll known = true) :
    .windowOpenedOrChanged (makeIpcWindow creds laid) ∈ layout.refreshWindows creds st := by
  apply events_mem_refreshWindows mem
  unfold LaidOut.events
  cases got : st.lookup laid.mapped.id with
  | none => exact .head _
  | some known =>
    dsimp only
    rw [if_pos (whole known got)]
    exact .head _

/-- Every event of a refresh, with what caused it. -/
inductive Cause (credentials : Nat → Option Int) (layout : Layout Place Time)
    (state : WindowsState Place Time) : Event Place Time → Prop
  | opened {laidOut : LaidOut Place Time} (member : laidOut ∈ layout.windows) :
      Cause credentials layout state
        (.windowOpenedOrChanged (makeIpcWindow credentials laidOut))
  | focused {laidOut : LaidOut Place Time} (member : laidOut ∈ layout.windows)
      (focused : laidOut.mapped.isFocused = true) :
      Cause credentials layout state (.windowFocusChanged (some laidOut.mapped.id))
  | timestamp {laidOut : LaidOut Place Time} (member : laidOut ∈ layout.windows) :
      Cause credentials layout state (.windowFocusTimestampChanged laidOut.mapped.id
        laidOut.mapped.focusTimestamp)
  | urgency {laidOut : LaidOut Place Time} (member : laidOut ∈ layout.windows) :
      Cause credentials layout state
        (.windowUrgencyChanged laidOut.mapped.id laidOut.mapped.isUrgent)
  | moved : Cause credentials layout state (.windowLayoutsChanged (layout.layoutChanges state))
  | closed {id : Nat} (member : id ∈ layout.closedWindows state) :
      Cause credentials layout state (.windowClosed id)
  | unfocused (nowhere : ∀ laidOut ∈ layout.windows, laidOut.mapped.isFocused = false) :
      Cause credentials layout state (.windowFocusChanged none)

lemma cause_of_mem (sent : event ∈ layout.refreshWindows creds st) :
    layout.Cause creds st event := by
  unfold refreshWindows at sent
  rw [mem_append, mem_append, mem_append] at sent
  rcases sent with ((sent | sent) | sent) | sent
  · obtain ⟨laid, mem, sent⟩ := mem_flatMap.mp sent
    unfold LaidOut.events at sent
    split at sent
    · rw [mem_singleton.mp sent]
      exact .opened mem
    · split at sent
      · rw [mem_singleton.mp sent]
        exact .opened mem
      · rw [mem_append, mem_append] at sent
        rcases sent with (sent | sent) | sent
        · split at sent
          next focused =>
            rw [mem_singleton.mp sent]
            exact .focused mem focused.1
          · cases sent
        · split at sent
          · rw [mem_singleton.mp sent]
            exact .timestamp mem
          · cases sent
        · split at sent
          · rw [mem_singleton.mp sent]
            exact .urgency mem
          · cases sent
  · split at sent
    · cases sent
    · rw [mem_singleton.mp sent]
      exact .moved
  · obtain ⟨_, mem, rfl⟩ := mem_map.mp sent
    exact .closed mem
  · split at sent
    next nowhere =>
      rw [mem_singleton.mp sent]
      refine .unfocused ?_
      rw [Bool.and_eq_true, all_eq_true] at nowhere
      intro laid mem
      exact Bool.not_eq_eq_eq_not.mp (nowhere.1 laid mem)
    · cases sent

omit [DecidableEq Time] in
lemma Cause.truthful (cause : layout.Cause creds st event) :
    Truthful (layout.windowOf creds) event := by
  cases cause with
  | opened mem => exact windowOf_of_mem mem
  | @focused laid mem focused =>
    intro id want wants
    obtain ⟨other, otherIn, rfl, rfl⟩ := windowOf_eq_some.mp wants
    constructor
    · intro otherFocused
      rw [layout.oneFocused other otherIn laid mem otherFocused focused]
    · intro same
      rw [inj_on_of_nodup_map layout.windowsDistinct otherIn mem (Option.some.inj same)]
      exact focused
  | timestamp mem | urgency mem =>
    intro want wants
    cases (windowOf_of_mem mem).symm.trans wants
    rfl
  | moved =>
    intro _ new want wants
    obtain ⟨_, mem, _, _, _, _, rfl⟩ := mem_layoutChanges.mp new
    cases (windowOf_of_mem mem).symm.trans wants
    rfl
  | closed mem =>
    rw [closedWindows, mem_filter] at mem
    exact windowOf_eq_none_iff.mpr (of_decide_eq_true mem.2)
  | unfocused nowhere =>
    intro _ _ wants
    obtain ⟨other, otherIn, rfl, rfl⟩ := windowOf_eq_some.mp wants
    constructor
    · intro focused
      cases (nowhere other otherIn).symm.trans focused
    · intro wrong
      cases wrong

lemma closings_refreshWindows :
    closings (layout.refreshWindows creds st) = layout.closedWindows st := by
  have none_closes : ∀ events : List (Event Place Time),
      (∀ event ∈ events, ∀ id, event ≠ .windowClosed id) → closings events = [] := by
    intro _ stays
    apply filterMap_eq_nil_iff.mpr
    intro event mem
    cases event with
    | windowClosed id => exact absurd rfl (stays _ mem id)
    | _ => rfl
  have closes : ∀ ids : List Nat,
      closings (ids.map (.windowClosed : Nat → Event Place Time)) = ids := by
    intro _
    unfold closings
    rw [filterMap_map]
    exact filterMap_some
  unfold refreshWindows
  unfold closings at none_closes closes ⊢
  rw [filterMap_append, filterMap_append, filterMap_append, closes,
    none_closes, none_closes, none_closes, nil_append, nil_append, append_nil]
  · split <;> simp
  · split <;> simp
  · intro _ sent _
    obtain ⟨_, _, sent⟩ := mem_flatMap.mp sent
    rintro rfl
    unfold LaidOut.events at sent
    split at sent
    · simp at sent
    · split at sent
      · simp at sent
      · rw [mem_append, mem_append] at sent
        rcases sent with (sent | sent) | sent
        all_goals split at sent <;> simp at sent

section Coverage

variable (synced : ∀ id, st.lookup id = old.windowOf creds id)

include synced

lemma focus_covered (mem : laid ∈ layout.windows) (got : st.lookup laid.mapped.id = some known)
    (place : laid.needsAll known = false) : known.isFocused = laid.mapped.isFocused ∨
      ∃ event ∈ layout.refreshWindows creds st, Fixes event (laid.mapped.id, .focus) := by
  have tells : ∀ {other known}, other ∈ layout.windows →
      other.mapped.isFocused = true → st.lookup other.mapped.id = some known →
      other.needsAll known = false → known.isFocused = false →
      .windowFocusChanged (some other.mapped.id) ∈ layout.refreshWindows creds st := by
    intro other known otherIn focused got place was
    apply events_mem_refreshWindows otherIn
    unfold LaidOut.events
    rw [got]
    dsimp only
    rw [if_neg (by rw [place]; exact Bool.false_ne_true), if_pos ⟨focused, was⟩]
    exact mem_append_left _ (mem_append_left _ (.head _))
  cases was : known.isFocused with
  | false =>
    cases focused : laid.mapped.isFocused with
    | false => exact .inl rfl
    | true => exact .inr ⟨_, tells mem focused got place was, rfl⟩
  | true =>
    cases unfocused : laid.mapped.isFocused with
    | true => exact .inl rfl
    | false =>
      right
      by_cases nowhere : ∀ other ∈ layout.windows, other.mapped.isFocused = false
      · -- the focus went nowhere
        refine ⟨.windowFocusChanged none, mem_append_right _ ?_, rfl⟩
        have unseen : (layout.windows.all fun laid => !laid.mapped.isFocused) =
            true := by
          rw [all_eq_true]
          intro other otherIn
          rw [nowhere other otherIn]
          rfl
        have held := any_eq_true.mpr ⟨known, Table.mem_values.mpr ⟨_, got⟩, was⟩
        rw [unseen, held]
        exact .head _
      · push Not at nowhere
        obtain ⟨other, otherIn, focused⟩ := nowhere
        rw [Bool.ne_false_iff] at focused
        by_cases whole : ∀ known ∈ st.lookup other.mapped.id, other.needsAll known = true
        · exact ⟨_, opened_of_whole otherIn whole, .inr ⟨rfl, focused⟩⟩
        · push Not at whole
          obtain ⟨otherKnown, otherFound, otherPlace⟩ := whole
          rw [ne_eq, Bool.not_eq_true] at otherPlace
          cases otherWas : otherKnown.isFocused with
          | false => exact ⟨_, tells otherIn focused otherFound otherPlace otherWas, rfl⟩
          | true =>
            rw [synced] at got
            have same := coherent_windowOf.focused _ _ _ got _ (synced _ ▸ otherFound) was otherWas
            rw [inj_on_of_nodup_map layout.windowsDistinct mem otherIn
              same, focused] at unfocused
            cases unfocused

lemma windows_covered (facet : Nat × WindowField) : Right (layout.windowOf creds) st facet ∨
      ∃ event ∈ layout.refreshWindows creds st, Fixes event facet := by
  obtain ⟨id, field⟩ := facet
  cases dest : layout.windowOf creds id with
  | none =>
    cases got : st.lookup id with
    | none =>
      left
      unfold Right
      rw [dest]
      exact fun _ => got
    | some =>
      have closed : id ∈ layout.closedWindows st := by
        unfold closedWindows
        rw [mem_filter]
        exact ⟨AList.lookup_isSome.mp (got ▸ rfl), decide_eq_true (windowOf_eq_none_iff.mp dest)⟩
      exact .inr ⟨.windowClosed id, mem_append_left _ (mem_append_right _
        (mem_map_of_mem closed)), rfl⟩
  | some =>
    obtain ⟨laid, mem, rfl, rfl⟩ := windowOf_eq_some.mp dest
    by_cases whole : ∀ known ∈ st.lookup laid.mapped.id, laid.needsAll known = true
    · exact .inr ⟨_, opened_of_whole mem whole, .inl rfl⟩
    · push Not at whole
      obtain ⟨known, got, place⟩ := whole
      rw [ne_eq, Bool.not_eq_true] at place
      have right : ∀ {field : WindowField}, field.Agrees known (makeIpcWindow creds laid) →
          Right (layout.windowOf creds) st (laid.mapped.id, field) := by
        intro field agrees
        unfold Right
        rw [dest, show st.lookup laid.mapped.id = some known from got]
        refine ⟨fun _ => rfl, ?_⟩
        rintro _ ⟨⟩
        exact agrees
      have sends : ∀ event, event ∈ laid.events creds (some known) →
          event ∈ layout.refreshWindows creds st := by
        intro _ sent
        apply events_mem_refreshWindows mem
        rw [show st.lookup laid.mapped.id = some known from got]
        exact sent
      have narrow : ¬ laid.needsAll known = true := by
        rw [place]
        exact Bool.false_ne_true
      cases field with
      | rest => exact .inl (right (alike_of_needsAll (synced _ ▸ got) place))
      | focus =>
        rcases focus_covered synced mem got place with same | fixed
        · exact .inl (right same)
        · exact .inr fixed
      | timestamp =>
        by_cases same : laid.mapped.focusTimestamp = known.focusTimestamp
        · exact .inl (right same.symm)
        · refine .inr ⟨_, sends (.windowFocusTimestampChanged laid.mapped.id
            laid.mapped.focusTimestamp) ?_, rfl, rfl⟩
          dsimp only [LaidOut.events]
          rw [if_neg narrow, if_pos same]
          exact mem_append_left _ (mem_append_right _ (.head _))
      | urgency =>
        by_cases same : laid.mapped.isUrgent = known.isUrgent
        · exact .inl (right same.symm)
        · refine .inr ⟨_, sends (.windowUrgencyChanged laid.mapped.id
            laid.mapped.isUrgent) ?_, rfl, rfl⟩
          dsimp only [LaidOut.events]
          rw [if_neg narrow]
          apply mem_append_right _
          rw [if_pos same]
          exact .head _
      | layout =>
        by_cases same : known.layout = laid.layout
        · exact .inl (right same)
        · have moved := mem_layoutChanges.mpr ⟨laid, mem, known, got, place, same, rfl⟩
          refine .inr ⟨.windowLayoutsChanged (layout.layoutChanges st),
            mem_append_left _ (mem_append_left _ (mem_append_right _ ?_)),
            mem_map_of_mem moved, rfl⟩
          rw [if_neg]
          · exact .head _
          · intro empty
            rw [isEmpty_iff.mp empty] at moved
            cases moved

lemma safe_refreshWindows : Safe (layout.windowOf creds) st (layout.refreshWindows creds st) := by
  refine ⟨?_, fun _ sent => (cause_of_mem sent).truthful, ?_, ?_, ?_⟩
  · intro id win got
    exact coherent_windowOf.keyed id win (synced id ▸ got)
  · rw [closings_refreshWindows]
    exact st.keys_nodup.filter _
  · intro _ mem
    rw [closings_refreshWindows] at mem
    exact AList.lookup_isSome.mpr (mem_of_mem_filter mem)
  · intro _ sent _ new
    have caused := cause_of_mem sent
    cases caused
    obtain ⟨_, mem, _, got, _, _, rfl⟩ := mem_layoutChanges.mp new
    constructor
    · rw [windowOf_of_mem mem]
      rfl
    · rw [got]
      rfl

end Coverage

/-- A client that knows the old windows knows the new ones after the events of a refresh. -/
lemma follow_refreshWindows {srv client : WindowsState Place Time}
    (serverKnows : ∀ id, srv.lookup id = old.windowOf creds id)
    (clientKnows : ∀ id, client.lookup id = old.windowOf creds id) :
    ∃ post, (layout.refreshWindows creds srv).foldlM WindowsState.applied client =
        some post ∧ ∀ id, post.lookup id = layout.windowOf creds id := by
  have same : ∀ id, client.lookup id = srv.lookup id :=
    fun id => (clientKnows id).trans (serverKnows id).symm
  obtain ⟨post, run, _, right⟩ := (WindowsState.corrects coherent_windowOf).run
    ((safe_refreshWindows serverKnows).congr same)
    (fun facet => (windows_covered serverKnows facet).imp_left fun right => right.congr same)
  refine ⟨post, run, ?_⟩
  intro id
  have facets := fun field => right (id, field)
  dsimp only [Right] at facets
  cases dest : layout.windowOf creds id with
  | none =>
    rw [dest] at facets
    exact facets .rest rfl
  | some =>
    rw [dest] at facets
    obtain ⟨known, got⟩ := isSome_iff_exists.mp ((facets .rest).1 rfl)
    rw [got, Window.eq_of_agrees (fun field => (facets field).2 known got)]

end Layout

end Synoik.Ipc
