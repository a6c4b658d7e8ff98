import Synoik.Ipc.Refresh
import Synoik.Support.Corrections

/-!
# The workspaces of the stream

Every event the server sends about workspaces moves what a client knows towards the new layout.
An event about the active workspace also speaks of the others on its output, and one about the
focus speaks of all of them.
-/

namespace Synoik.Ipc

open List MonitorSet

variable {Place Time : Type}

variable {loc other : Located} {layout : Layout Place Time} {st : WorkspacesState}
  {known : Workspace}

namespace MonitorSet

variable {monitorSet : MonitorSet} {mon : Monitor}

lemma mem_workspaces_normal {mons : List Monitor} {active : Fin mons.length} :
    loc ∈ (normal mons active).workspaces ↔ ∃ mon ∈ mons, loc.monitor = some mon ∧
        mon.workspaces[loc.position]? = some loc.workspace := by
  simp only [workspaces, mem_flatMap, mem_map, Prod.exists]
  constructor
  · rintro ⟨mon, has, workspace, pos, mem, rfl⟩
    exact ⟨mon, has, rfl, mem_zipIdx_iff_getElem?.mp mem⟩
  · rintro ⟨mon, has, shown, got⟩
    refine ⟨mon, has, loc.workspace, loc.position, mem_zipIdx_iff_getElem?.mpr got, ?_⟩
    rw [← shown]

lemma mem_workspaces_noOutputs {listed : List LayoutWorkspace} :
    loc ∈ (noOutputs listed).workspaces → loc.monitor = none := by
  simp only [workspaces, mem_map]
  rintro ⟨_, _, rfl⟩
  rfl

def shown (monitor : Monitor) : Located where
  monitor := some monitor
  position := monitor.activeWorkspaceIdx
  workspace := monitor.workspaces.get ⟨monitor.activeWorkspaceIdx, monitor.inRange⟩

lemma shown_isActive : (shown mon).isActive = true := by
  simp [shown, Located.isActive]

lemma shown_mem (has : mon ∈ monitorSet.monitors) : shown mon ∈ monitorSet.workspaces := by
  cases monitorSet with
  | normal =>
    exact mem_workspaces_normal.mpr ⟨mon, has, rfl, getElem?_eq_getElem mon.inRange⟩
  | noOutputs => cases has

lemma monitor_mem (mem : loc ∈ monitorSet.workspaces)
    (on : loc.monitor = some mon) : mon ∈ monitorSet.monitors := by
  cases monitorSet with
  | normal =>
    obtain ⟨_, has, same, _⟩ := mem_workspaces_normal.mp mem
    rw [on] at same
    cases same
    exact has
  | noOutputs =>
    rw [mem_workspaces_noOutputs mem] at on
    cases on

lemma eq_shown (mem : loc ∈ monitorSet.workspaces) (active : loc.isActive = true) :
    ∃ mon, loc.monitor = some mon ∧ loc = shown mon := by
  cases monitorSet with
  | normal =>
    obtain ⟨mon, _, on, got⟩ := mem_workspaces_normal.mp mem
    refine ⟨mon, on, ?_⟩
    obtain ⟨_, pos, _⟩ := loc
    subst on
    have pos : mon.activeWorkspaceIdx = pos := by
      simpa [Located.isActive] using active
    subst pos
    rw [getElem?_eq_getElem mon.inRange] at got
    cases got
    rfl
  | noOutputs =>
    unfold Located.isActive at active
    rw [mem_workspaces_noOutputs mem] at active
    cases active

end MonitorSet

lemma Located.isFocused_ipc {loc : Located} {focused : Option Nat} :
    (loc.ipc focused).isFocused = true ↔ some loc.id = focused := by
  exact decide_eq_true_iff

namespace Layout

lemma located_ext (one : loc ∈ layout.monitorSet.workspaces)
    (two : other ∈ layout.monitorSet.workspaces) (same : loc.id = other.id) : loc = other :=
  inj_on_of_nodup_map layout.workspacesDistinct one two same

lemma monitor_ext {one two : Monitor} (first : one ∈ layout.monitorSet.monitors)
    (last : two ∈ layout.monitorSet.monitors) (same : one.outputName = two.outputName) :
    one = two :=
  inj_on_of_nodup_map layout.outputsDistinct first last same

lemma active_ext (one : loc ∈ layout.monitorSet.workspaces)
    (two : other ∈ layout.monitorSet.workspaces) (active : loc.isActive = true)
    (otherActive : other.isActive = true) (same : loc.outputName = other.outputName) :
    loc = other := by
  obtain ⟨_, on, rfl⟩ := eq_shown one active
  obtain ⟨_, onSecond, rfl⟩ := eq_shown two otherActive
  rw [monitor_ext (monitor_mem one on) (monitor_mem two onSecond)
    (Option.some.inj same)]

lemma focused_isActive (mem : loc ∈ layout.monitorSet.workspaces)
    (focused : some loc.id = layout.focusedWorkspace) : loc.isActive = true := by
  unfold focusedWorkspace at focused
  cases set : layout.monitorSet with
  | normal mons active =>
    rw [set] at focused
    have has : mons.get active ∈ layout.monitorSet.monitors := by
      rw [set]
      exact get_mem mons active
    have same := located_ext mem (shown_mem has) (Option.some.inj focused)
    rw [same]
    exact shown_isActive
  | noOutputs =>
    rw [set] at focused
    cases focused

lemma exists_focused (has : layout.monitorSet.monitors ≠ []) :
    ∃ loc ∈ layout.monitorSet.workspaces, some loc.id = layout.focusedWorkspace := by
  unfold focusedWorkspace
  cases set : layout.monitorSet with
  | normal mons active =>
    exact ⟨MonitorSet.shown (mons.get active), shown_mem (get_mem mons active), rfl⟩
  | noOutputs =>
    rw [set] at has
    exact absurd rfl has

def workspaceOf (layout : Layout Place Time) (id : Nat) : Option Workspace :=
  layout.ipcWorkspaces.find? fun workspace => workspace.id == id

lemma ipcWorkspaces_distinct : (layout.ipcWorkspaces.map Workspace.id).Nodup := by
  unfold ipcWorkspaces
  rw [map_map]
  exact layout.workspacesDistinct

lemma workspaceOf_eq_some {id : Nat} {workspace : Workspace} :
    layout.workspaceOf id = some workspace ↔ ∃ loc ∈ layout.monitorSet.workspaces,
        loc.ipc layout.focusedWorkspace = workspace ∧ loc.id = id := by
  unfold workspaceOf
  rw [Keyed.find?_eq_some_iff ipcWorkspaces_distinct]
  unfold ipcWorkspaces
  rw [mem_map]
  constructor
  · rintro ⟨⟨loc, mem, rfl⟩, rfl⟩
    exact ⟨loc, mem, rfl, rfl⟩
  · rintro ⟨loc, mem, rfl, rfl⟩
    exact ⟨⟨loc, mem, rfl⟩, rfl⟩

end Layout

inductive WorkspaceField where
  | activeWindow
  | urgent
  | active
  | focused

def WorkspaceField.Agrees (known target : Workspace) : WorkspaceField → Prop
  | activeWindow => known.activeWindowId = target.activeWindowId
  | urgent => known.isUrgent = target.isUrgent
  | active => known.isActive = target.isActive
  | focused => known.isFocused = target.isFocused

/-- What only an event with all workspaces tells. -/
structure SamePlace (known target : Workspace) : Prop where
  id : known.id = target.id
  idx : known.idx = target.idx
  name : known.name = target.name
  output : known.output = target.output

lemma SamePlace.eq_of_agrees {known dest : Workspace} (place : SamePlace known dest)
    (agrees : ∀ field : WorkspaceField, field.Agrees known dest) : known = dest := by
  obtain ⟨_, _, _, _, urgent, active, focused, win⟩ := known
  obtain ⟨rfl, rfl, rfl, rfl⟩ := place
  obtain rfl : urgent = _ := agrees .urgent
  obtain rfl : active = _ := agrees .active
  obtain rfl : focused = _ := agrees .focused
  obtain rfl : win = _ := agrees .activeWindow
  rfl

namespace WorkspacesState

/-- One field of one workspace is as it should be. -/
def Right (target : Nat → Option Workspace) (state : WorkspacesState)
    (facet : Nat × WorkspaceField) : Prop :=
  ∀ wanted ∈ target facet.1, ∀ known ∈ state.lookup facet.1, facet.2.Agrees known wanted

def Truthful (target : Nat → Option Workspace) : Event Place Time → Prop
  | .workspaceUrgencyChanged id urgent => ∃ wanted ∈ target id, wanted.isUrgent = urgent
  | .workspaceActivated id focused => ∃ wanted ∈ target id, wanted.isActive = true ∧
      (focused = true → wanted.isFocused = true)
  | .workspaceActiveWindowChanged id activeWindowId =>
    ∃ wanted ∈ target id, wanted.activeWindowId = activeWindowId
  | _ => False

def Fixes (target : Nat → Option Workspace) : Event Place Time → Nat × WorkspaceField → Prop
  | .workspaceUrgencyChanged id _, (other, .urgent) => id = other
  | .workspaceActivated id _, (other, .active) =>
    ∃ wanted ∈ target id, ∃ otherWanted ∈ target other, wanted.output = otherWanted.output
  | .workspaceActivated _ true, (_, .focused) => True
  | .workspaceActiveWindowChanged id _, (other, .activeWindow) => id = other
  | _, _ => False

/-- The workspaces are the wanted ones, each in its place, and what comes is the truth. -/
structure Safe (target : Nat → Option Workspace) (state : WorkspacesState)
    (events : List (Event Place Time)) : Prop where
  absent : ∀ id, target id = none → state.lookup id = none
  present : ∀ id, ∀ wanted ∈ target id,
    ∃ known, state.lookup id = some known ∧ SamePlace known wanted
  truthful : ∀ event ∈ events, Truthful target event

structure Coherent (target : Nat → Option Workspace) : Prop where
  keyed : ∀ id, ∀ wanted ∈ target id, wanted.id = id
  active : ∀ id other, ∀ wanted ∈ target id, ∀ otherWanted ∈ target other,
    wanted.isActive = true → otherWanted.isActive = true →
    wanted.output = otherWanted.output → id = other
  focused : ∀ id other, ∀ wanted ∈ target id, ∀ otherWanted ∈ target other,
    wanted.isFocused = true → otherWanted.isFocused = true → id = other

variable {dest : Nat → Option Workspace} {event : Event Place Time}
  {rest : List (Event Place Time)}

lemma Safe.mapValues {change : Workspace → Workspace} (safe : Safe dest st (event :: rest))
    (kept : ∀ known, SamePlace (change known) known) :
    Safe dest (Table.mapValues st change) rest := by
  refine ⟨?_, ?_, fun other mem => safe.truthful other (.tail _ mem)⟩
  · intro id missing
    rw [Table.lookup_mapValues, safe.absent id missing]
    rfl
  · intro id want wants
    obtain ⟨known, got, place⟩ := safe.present id want wants
    have same := kept known
    refine ⟨change known, ?_, same.id.trans place.id, same.idx.trans place.idx,
      same.name.trans place.name, same.output.trans place.output⟩
    rw [Table.lookup_mapValues, got]
    rfl

variable {id : Nat}

lemma Safe.insert {new : Workspace} (safe : Safe dest st (event :: rest))
    (got : st.lookup id = some known) (kept : SamePlace new known) :
    Safe dest (AList.insert id new st) rest := by
  refine ⟨?_, ?_, fun other mem => safe.truthful other (.tail _ mem)⟩
  · intro other missing
    have lacking := safe.absent other missing
    have ne : other ≠ id := by
      rintro rfl
      rw [got] at lacking
      cases lacking
    rw [AList.lookup_insert_ne ne]
    exact lacking
  · intro other want wants
    obtain ⟨old, has, place⟩ := safe.present other want wants
    by_cases same : other = id
    · subst same
      cases got.symm.trans has
      exact ⟨new, AList.lookup_insert _, kept.id.trans place.id, kept.idx.trans place.idx,
        kept.name.trans place.name, kept.output.trans place.output⟩
    · exact ⟨old, (AList.lookup_insert_ne same).trans has, place⟩

lemma Safe.known_id (safe : Safe dest st (event :: rest))
    (coherent : Coherent dest) {want : Workspace} (wants : want ∈ dest id)
    (got : known ∈ st.lookup id) : known.id = id ∧ known.output = want.output := by
  obtain ⟨_, has, place⟩ := safe.present id want wants
  cases has.symm.trans got
  exact ⟨place.id.trans (coherent.keyed id want wants), place.output⟩

def applied (state : WorkspacesState) (event : Event Place Time) : Option WorkspacesState :=
  match state.apply event with
  | .applied part => some part
  | _ => none

lemma urgency_step {urgent : Bool} (coherent : Coherent dest)
    (safe : Safe dest st (.workspaceUrgencyChanged id urgent :: rest)) :
    CorrectsOnce applied (Safe dest) (Right dest) (Fixes dest) st
      (.workspaceUrgencyChanged id urgent) rest := by
  refine ⟨_, rfl, safe.mapValues ?_, ?_⟩
  · intro known
    split <;> exact ⟨rfl, rfl, rfl, rfl⟩
  · rintro ⟨_, field⟩ pre want wants known got
    rw [Table.lookup_mapValues] at got
    obtain ⟨old, has, rfl⟩ := Option.map_eq_some_iff.mp got
    obtain ⟨named, _⟩ := safe.known_id coherent wants has
    obtain ⟨_, tells, rfl⟩ := safe.truthful _ (.head _)
    by_cases same : old.id = id
    · rw [if_pos same]
      rw [← same, named] at tells
      cases wants.symm.trans tells
      cases field with
      | urgent => rfl
      | activeWindow | active | focused =>
        exact pre.resolve_right (fun fixes => fixes) want wants old has
    · rw [if_neg same]
      refine pre.resolve_right ?_ want wants old has
      intro fixes
      cases field with
      | urgent => exact same (named.trans fixes.symm)
      | activeWindow | active | focused => exact fixes

lemma activeWindow_step {activeWindowId : Option Nat}
    (safe : Safe dest st (.workspaceActiveWindowChanged id activeWindowId :: rest)) :
    CorrectsOnce applied (Safe dest) (Right dest) (Fixes dest) st
      (.workspaceActiveWindowChanged id activeWindowId) rest := by
  obtain ⟨told, tells, rfl⟩ := safe.truthful _ (.head _)
  obtain ⟨known, got, _⟩ := safe.present id told tells
  refine ⟨AList.insert id { known with activeWindowId := told.activeWindowId } st, ?_,
    safe.insert got ⟨rfl, rfl, rfl, rfl⟩, ?_⟩
  · dsimp only [applied, WorkspacesState.apply]
    rw [got]
    rfl
  · rintro ⟨other, field⟩ pre want wants post has
    by_cases same : other = id
    · subst same
      rw [AList.lookup_insert] at has
      cases has
      cases wants.symm.trans tells
      cases field with
      | activeWindow => rfl
      | urgent | active | focused =>
        exact pre.resolve_right (fun fixes => fixes) _ wants known got
    · rw [AList.lookup_insert_ne same] at has
      refine pre.resolve_right ?_ want wants post has
      intro fixes
      cases field with
      | activeWindow => exact same fixes.symm
      | urgent | active | focused => exact fixes

lemma activated_step {focused : Bool} (coherent : Coherent dest)
    (safe : Safe dest st (.workspaceActivated id focused :: rest)) :
    CorrectsOnce applied (Safe dest) (Right dest) (Fixes dest) st
      (.workspaceActivated id focused) rest := by
  obtain ⟨told, tells, active, focus⟩ := safe.truthful _ (.head _)
  obtain ⟨shown, got, place⟩ := safe.present id told tells
  refine ⟨Table.mapValues st (activate shown.output id focused), ?_,
    safe.mapValues (fun _ => ⟨rfl, rfl, rfl, rfl⟩), ?_⟩
  · dsimp only [applied, WorkspacesState.apply]
    rw [got]
    rfl
  · rintro ⟨other, field⟩ pre want wants _ has
    rw [Table.lookup_mapValues] at has
    obtain ⟨old, was, rfl⟩ := Option.map_eq_some_iff.mp has
    obtain ⟨named, out⟩ := safe.known_id coherent wants was
    cases field with
    | urgent | activeWindow => exact pre.resolve_right (fun fixes => fixes) want wants old was
    | active =>
      dsimp only [WorkspaceField.Agrees, activate]
      split
      next onOutput =>
        rw [out, place.output] at onOutput
        rw [named, Bool.eq_iff_iff, decide_eq_true_iff]
        constructor
        · rintro rfl
          cases wants.symm.trans tells
          exact active
        · intro isActive
          exact coherent.active other id want wants told tells isActive active onOutput
      next elsewhere =>
      refine pre.resolve_right ?_ want wants old was
      rintro ⟨_, ones, _, twos, same⟩
      cases ones.symm.trans tells
      cases twos.symm.trans wants
      rw [out, place.output] at elsewhere
      exact elsewhere same.symm
    | focused =>
      dsimp only [WorkspaceField.Agrees, activate]
      cases focused with
      | true =>
        rw [if_pos rfl, named, Bool.eq_iff_iff, decide_eq_true_iff]
        constructor
        · rintro rfl
          cases wants.symm.trans tells
          exact focus rfl
        · intro isFocused
          exact coherent.focused other id want wants told tells isFocused (focus rfl)
      | false =>
        exact pre.resolve_right (fun fixes => fixes) want wants old was

lemma corrects (coherent : Coherent dest) :
    Corrects (applied : WorkspacesState → Event Place Time → _) (Safe dest)
      (Right dest) (Fixes dest) := by
  refine ⟨?_⟩
  intro _ event _ safe
  have truth := safe.truthful _ (.head _)
  cases event with
  | workspaceUrgencyChanged => exact urgency_step coherent safe
  | workspaceActivated => exact activated_step coherent safe
  | workspaceActiveWindowChanged => exact activeWindow_step safe
  | _ => exact truth.elim

end WorkspacesState

namespace Layout

variable {old : Layout Place Time}

lemma coherent_workspaceOf : WorkspacesState.Coherent layout.workspaceOf := by
  refine ⟨?_, ?_, ?_⟩
  · intro id want wants
    obtain ⟨_, _, rfl, rfl⟩ := workspaceOf_eq_some.mp wants
    rfl
  · intro id other want wants otherWanted otherWants active otherActive same
    obtain ⟨_, mem, rfl, rfl⟩ := workspaceOf_eq_some.mp wants
    obtain ⟨_, otherIn, rfl, rfl⟩ := workspaceOf_eq_some.mp otherWants
    rw [active_ext mem otherIn active otherActive same]
  · intro _ _ _ wants _ otherWants focused otherFocused
    obtain ⟨_, _, rfl, rfl⟩ := workspaceOf_eq_some.mp wants
    obtain ⟨_, _, rfl, rfl⟩ := workspaceOf_eq_some.mp otherWants
    rw [Located.isFocused_ipc] at focused otherFocused
    exact Option.some.inj (focused.trans otherFocused.symm)

/-- What a scan that goes through has seen of each workspace. -/
lemma scan_spec {focused : Option Nat} {seen : List Located}
    {evs : List (Event Place Time)} (scanned : st.scan focused seen = some evs) :
    (∀ loc ∈ seen, ∃ known, st.lookup loc.id = some known ∧
      loc.needsAll known = false ∧ ∀ event ∈ loc.events focused known, event ∈ evs) ∧
      ∀ event ∈ evs, ∃ loc ∈ seen, ∃ known, event ∈ loc.events focused known := by
  induction seen generalizing evs with
  | nil =>
    cases scanned
    constructor
    · intro loc mem
      cases mem
    · intro event mem
      cases mem
  | cons one _ ih =>
    unfold WorkspacesState.scan at scanned
    split at scanned
    · cases scanned
    next known got =>
    obtain ⟨place, more⟩ := Option.ite_none_left_eq_some.mp scanned
    obtain ⟨_, run, rfl⟩ := Option.map_eq_some_iff.mp more
    obtain ⟨covered, caused⟩ := ih run
    constructor
    · intro loc mem
      rcases mem_cons.mp mem with rfl | mem
      · exact ⟨known, got, (Bool.not_eq_true _).mp place, fun event sent => mem_append_left _ sent⟩
      · obtain ⟨other, has, placed, sends⟩ := covered loc mem
        exact ⟨other, has, placed, fun event sent => mem_append_right _ (sends event sent)⟩
    · intro event mem
      rcases mem_append.mp mem with sent | sent
      · exact ⟨one, .head _, known, sent⟩
      · obtain ⟨loc, mem, known, sent⟩ := caused event sent
        exact ⟨loc, .tail _ mem, known, sent⟩

lemma events_truthful {event : Event Place Time} (mem : loc ∈ layout.monitorSet.workspaces)
    (sent : event ∈ loc.events layout.focusedWorkspace known) :
    WorkspacesState.Truthful layout.workspaceOf event := by
  have wants := workspaceOf_eq_some.mpr ⟨loc, mem, rfl, rfl⟩
  unfold Located.events at sent
  rw [mem_append, mem_append] at sent
  rcases sent with (sent | sent) | sent
  · split at sent
    · rw [mem_singleton.mp sent]
      exact ⟨_, wants, rfl⟩
    · cases sent
  · split at sent
    · rw [mem_singleton.mp sent]
      exact ⟨_, wants, rfl⟩
    · cases sent
  · split at sent
    next focused =>
      rw [mem_singleton.mp sent]
      exact ⟨_, wants, focused_isActive mem focused.1, fun _ => Located.isFocused_ipc.mpr focused.1⟩
    · split at sent
      next active =>
        rw [mem_singleton.mp sent]
        exact ⟨_, wants, active.1, nofun⟩
      · cases sent

lemma needsAll_eq_false : loc.needsAll known = false ↔ known.idx = ipcIdx loc.position ∧
      known.name = loc.workspace.name ∧ known.output = loc.outputName := by
  unfold Located.needsAll
  simp [and_assoc]

section Narrow

variable {evs : List (Event Place Time)}

lemma activated_of_changed (active : loc.isActive = true) (was : known.isActive = false)
    (sends : ∀ event ∈ loc.events layout.focusedWorkspace known, event ∈ evs) :
    ∃ focused, Event.workspaceActivated loc.id focused ∈ evs := by
  by_cases newly : some loc.id = layout.focusedWorkspace ∧ known.isFocused = false
  · refine ⟨true, sends _ (mem_append_right _ ?_)⟩
    rw [if_pos newly]
    exact .head _
  · refine ⟨false, sends _ (mem_append_right _ ?_)⟩
    rw [if_neg newly, if_pos ⟨active, was⟩]
    exact .head _

lemma activated_of_focused (focused : some loc.id = layout.focusedWorkspace)
    (was : known.isFocused = false)
    (sends : ∀ event ∈ loc.events layout.focusedWorkspace known, event ∈ evs) :
    Event.workspaceActivated loc.id true ∈ evs := by
  refine sends _ (mem_append_right _ ?_)
  rw [if_pos ⟨focused, was⟩]
  exact .head _

variable (synced : ∀ id, st.lookup id = old.workspaceOf id)
  (covered : ∀ loc ∈ layout.monitorSet.workspaces, ∃ known, st.lookup loc.id = some known ∧
    loc.needsAll known = false ∧ ∀ event ∈ loc.events layout.focusedWorkspace known, event ∈ evs)

include synced covered

section

variable (mem : loc ∈ layout.monitorSet.workspaces)
include mem

/-- The activity of a workspace is right, or an event about its output is to come. -/
lemma active_covered (got : st.lookup loc.id = some known) (place : loc.needsAll known = false)
    (sends : ∀ event ∈ loc.events layout.focusedWorkspace known, event ∈ evs) :
    known.isActive = loc.isActive ∨
      ∃ other ∈ layout.monitorSet.workspaces, other.outputName = loc.outputName ∧
        ∃ focused, Event.workspaceActivated other.id focused ∈ evs := by
  cases isActive : loc.isActive with
  | true =>
    cases was : known.isActive with
    | true => exact .inl rfl
    | false => exact .inr ⟨loc, mem, rfl, activated_of_changed isActive was sends⟩
  | false =>
    cases was : known.isActive with
    | false => exact .inl rfl
    | true =>
      -- it was active, so it is on an output, where another one is now shown
      rw [synced] at got
      obtain ⟨pre, beforeIn, rfl, _⟩ := workspaceOf_eq_some.mp got
      obtain ⟨_, beforeOn, _⟩ := eq_shown beforeIn was
      have out : pre.outputName = loc.outputName := (needsAll_eq_false.mp place).2.2
      obtain ⟨mon, on⟩ : ∃ mon, loc.monitor = some mon := by
        unfold Located.outputName at out
        rw [beforeOn] at out
        obtain ⟨mon, on, _⟩ := Option.map_eq_some_iff.mp out.symm
        exact ⟨mon, on⟩
      have shownIn := shown_mem (monitor_mem mem on)
      obtain ⟨shownKnown, shownFound, shownPlace, shownSends⟩ := covered _ shownIn
      have shownOutput : (MonitorSet.shown mon).outputName = loc.outputName := by
        unfold Located.outputName
        rw [on]
        rfl
      cases shownWas : shownKnown.isActive with
      | false =>
        exact .inr ⟨_, shownIn, shownOutput,
          activated_of_changed shown_isActive shownWas shownSends⟩
      | true =>
        rw [synced] at shownFound
        have same := coherent_workspaceOf.active _ _ _ got _ shownFound was shownWas
            (out.trans (shownOutput.symm.trans (needsAll_eq_false.mp shownPlace).2.2.symm))
        rw [located_ext mem shownIn same, shown_isActive] at isActive
        cases isActive

/-- Whether a workspace is focused is right, or an event about the focus is to come. -/
lemma focused_covered (got : st.lookup loc.id = some known) (place : loc.needsAll known = false)
    (sends : ∀ event ∈ loc.events layout.focusedWorkspace known, event ∈ evs) :
    known.isFocused = (loc.ipc layout.focusedWorkspace).isFocused ∨
      ∃ id, Event.workspaceActivated id true ∈ evs := by
  by_cases isFocused : some loc.id = layout.focusedWorkspace
  · cases was : known.isFocused with
    | true => exact .inl (Located.isFocused_ipc.mpr isFocused).symm
    | false => exact .inr ⟨_, activated_of_focused isFocused was sends⟩
  · have unfocused : (loc.ipc layout.focusedWorkspace).isFocused = false := by
      rw [← Bool.not_eq_true, Located.isFocused_ipc]
      exact isFocused
    rw [unfocused]
    cases was : known.isFocused with
    | false => exact .inl rfl
    | true =>
      -- the focus was on an output, so there is one, and a focused workspace on it
      rw [synced] at got
      obtain ⟨pre, beforeIn, rfl, _⟩ := workspaceOf_eq_some.mp got
      have beforeActive := focused_isActive beforeIn (Located.isFocused_ipc.mp was)
      obtain ⟨_, beforeOn, _⟩ := eq_shown beforeIn beforeActive
      have out : pre.outputName = loc.outputName := (needsAll_eq_false.mp place).2.2
      have has : layout.monitorSet.monitors ≠ [] := by
        unfold Located.outputName at out
        rw [beforeOn] at out
        obtain ⟨_, on, _⟩ := Option.map_eq_some_iff.mp out.symm
        exact ne_nil_of_mem (monitor_mem mem on)
      obtain ⟨focused, focusedIn, isFocus⟩ := exists_focused has
      obtain ⟨focusedKnown, focusedFound, _, focusedSends⟩ := covered focused focusedIn
      cases focusedWas : focusedKnown.isFocused with
      | false => exact .inr ⟨_, activated_of_focused isFocus focusedWas focusedSends⟩
      | true =>
        rw [synced] at focusedFound
        have same : loc.id = focused.id :=
          coherent_workspaceOf.focused _ _ _ got _ focusedFound was focusedWas
        exact absurd (same ▸ isFocus) isFocused

end

lemma facets_covered (facet : Nat × WorkspaceField) :
    WorkspacesState.Right layout.workspaceOf st facet ∨
      ∃ event ∈ evs, WorkspacesState.Fixes layout.workspaceOf event facet := by
  obtain ⟨id, field⟩ := facet
  cases dest : layout.workspaceOf id with
  | none =>
    left
    intro want wants
    rw [show layout.workspaceOf (id, field).1 = none from dest] at wants
    cases wants
  | some want =>
    obtain ⟨loc, mem, rfl, rfl⟩ := workspaceOf_eq_some.mp dest
    obtain ⟨known, got, place, sends⟩ := covered loc mem
    have right : ∀ {field : WorkspaceField}, field.Agrees known (loc.ipc layout.focusedWorkspace) →
        WorkspacesState.Right layout.workspaceOf st (loc.id, field) := by
      intro field agrees _ wants other has
      cases dest.symm.trans wants
      cases got.symm.trans has
      exact agrees
    cases field with
    | activeWindow =>
      by_cases same : known.activeWindowId = loc.workspace.activeWindow
      · exact .inl (right same)
      · refine .inr ⟨_, sends (.workspaceActiveWindowChanged loc.id
          loc.workspace.activeWindow) ?_, rfl⟩
        unfold Located.events
        rw [if_pos same]
        exact mem_append_left _ (mem_append_left _ (.head _))
    | urgent =>
      by_cases same : loc.workspace.isUrgent = known.isUrgent
      · exact .inl (right same.symm)
      · refine .inr ⟨_, sends (.workspaceUrgencyChanged loc.id
          loc.workspace.isUrgent) ?_, rfl⟩
        unfold Located.events
        rw [if_pos same]
        exact mem_append_left _ (mem_append_right _ (.head _))
    | active =>
      rcases active_covered synced covered mem got place sends with
        same | ⟨other, otherIn, out, focused, sent⟩
      · exact .inl (right same)
      · exact .inr ⟨_, sent, _, workspaceOf_eq_some.mpr ⟨other, otherIn, rfl, rfl⟩, _, dest, out⟩
    | focused =>
      rcases focused_covered synced covered mem got place sends with
        same | ⟨_, sent⟩
      · exact .inl (right same)
      · exact .inr ⟨_, sent, trivial⟩

end Narrow

lemma lookup_of_kept {id : Nat} (kept : ¬ layout.lostWorkspace st = true)
    (missing : layout.workspaceOf id = none) : st.lookup id = none := by
  rw [AList.lookup_eq_none]
  intro has
  refine kept (any_eq_true.mpr ⟨id, has, decide_eq_true ?_⟩)
  rintro listed
  obtain ⟨loc, mem, rfl⟩ := mem_map.mp listed
  rw [workspaceOf_eq_some.mpr ⟨loc, mem, rfl, rfl⟩] at missing
  cases missing

/-- A client that knows the old workspaces knows the new ones after the events of a refresh. -/
lemma follow_refreshWorkspaces {srv client : WorkspacesState}
    (serverKnows : ∀ id, srv.lookup id = old.workspaceOf id)
    (clientKnows : ∀ id, client.lookup id = old.workspaceOf id) :
    ∃ post, (layout.refreshWorkspaces srv : List (Event Place Time)).foldlM
        WorkspacesState.applied client = some post ∧
      ∀ id, post.lookup id = layout.workspaceOf id := by
  have everything : ∃ post, ([.workspacesChanged layout.ipcWorkspaces] :
        List (Event Place Time)).foldlM WorkspacesState.applied client =
          some post ∧ ∀ id, post.lookup id = layout.workspaceOf id :=
    ⟨_, rfl, fun id => Table.lookup_collect ipcWorkspaces_distinct⟩
  unfold refreshWorkspaces
  split
  · exact everything
  next evs scanned =>
  split
  · exact everything
  next kept =>
  obtain ⟨covered, caused⟩ := scan_spec scanned
  have clientCovered : ∀ loc ∈ layout.monitorSet.workspaces, ∃ known,
      client.lookup loc.id = some known ∧ loc.needsAll known = false ∧
        ∀ event ∈ loc.events layout.focusedWorkspace known, event ∈ evs := by
    intro loc mem
    rw [clientKnows, ← serverKnows]
    exact covered loc mem
  have safe : WorkspacesState.Safe layout.workspaceOf client evs := by
    refine ⟨?_, ?_, ?_⟩
    · intro id missing
      rw [clientKnows, ← serverKnows]
      exact lookup_of_kept kept missing
    · intro id want wants
      obtain ⟨loc, mem, rfl, rfl⟩ := workspaceOf_eq_some.mp wants
      obtain ⟨known, got, place, _⟩ := clientCovered loc mem
      obtain ⟨idx, name, out⟩ := needsAll_eq_false.mp place
      refine ⟨known, got, ?_, idx, name, out⟩
      rw [clientKnows] at got
      exact coherent_workspaceOf.keyed _ _ got
    · intro event sent
      obtain ⟨_, mem, known, sent⟩ := caused event sent
      exact events_truthful mem sent
  obtain ⟨post, run, settled, right⟩ := (WorkspacesState.corrects coherent_workspaceOf).run safe
      (facets_covered clientKnows clientCovered)
  refine ⟨post, run, ?_⟩
  intro id
  cases dest : layout.workspaceOf id with
  | none => exact settled.absent id dest
  | some want =>
    obtain ⟨known, got, place⟩ := settled.present id want dest
    rw [got, place.eq_of_agrees (fun field => right (id, field) want dest known got)]

end Layout

end Synoik.Ipc
