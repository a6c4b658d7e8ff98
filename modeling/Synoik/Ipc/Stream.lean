import Synoik.Ipc.Windows
import Synoik.Ipc.Workspaces

/-!
# Following the stream

A client that follows the events of every refresh knows the layout, and it makes no difference
when it joined.
-/

namespace Synoik.Ipc

open List

variable {Place Time : Type} {Part : Type}

variable {st : EventStreamState Place Time} {event : Event Place Time}
  {events : List (Event Place Time)}

lemma Applied.ofOption_map {α : Type} {got : Option α} {change : α → Part} {next : Part}
    (done : ofOption (got.map change) = .applied next) :
    ∃ item, got = some item ∧ change item = next := by
  cases got with
  | none => cases done
  | some item =>
    cases done
    exact ⟨item, rfl, rfl⟩

namespace EventStreamState

variable {one two : EventStreamState Place Time}

/-- A part of the state that takes every event alone is followed alone. -/
lemma follow_part {Part : Type} (put : Part → EventStreamState Place Time)
    {done : Part → Event Place Time → Option Part} {part post : Part}
    (applies : ∀ {part event next}, done part event = some next →
      (put part).apply event = some (put next)) (run : events.foldlM done part = some post) :
    (put part).follow events = some (put post) := by
  induction events generalizing part with
  | nil =>
    cases run
    rfl
  | cons _ _ ih =>
    obtain ⟨_, taken, run⟩ := Option.bind_eq_some_iff.mp run
    unfold follow
    rw [foldlM_cons, applies taken]
    exact ih run

lemma follow_workspaces {post : WorkspacesState}
    (run : events.foldlM WorkspacesState.applied st.workspaces = some post) :
    st.follow events = some { st with workspaces := post } := by
  refine follow_part (fun workspaces => { st with workspaces }) (fun taken => ?_) run
  unfold WorkspacesState.applied at taken
  unfold EventStreamState.apply
  split at taken
  next got =>
    cases taken
    rw [got]
  · cases taken

lemma workspaces_ignore {windows : WindowsState Place Time}
    (takes : windows.apply event ≠ .ignored) (workspaces : WorkspacesState) :
    workspaces.apply event = .ignored := by
  cases event with
  | workspacesChanged | workspaceUrgencyChanged | workspaceActivated
  | workspaceActiveWindowChanged => exact absurd rfl takes
  | _ => rfl

lemma follow_windows {post : WindowsState Place Time}
    (run : events.foldlM WindowsState.applied st.windows = some post) :
    st.follow events = some { st with windows := post } := by
  refine follow_part (fun windows => { st with windows }) (fun taken => ?_) run
  unfold WindowsState.applied at taken
  unfold EventStreamState.apply
  split at taken
  next got =>
    cases taken
    rw [workspaces_ignore (by rw [got]; simp) st.workspaces]
    rw [got]
  · cases taken

/-- The same entries and the same of everything else. -/
structure Agrees (one two : EventStreamState Place Time) : Prop where
  workspaces : ∀ id, one.workspaces.lookup id = two.workspaces.lookup id
  windows : ∀ id, one.windows.lookup id = two.windows.lookup id
  keyboardLayouts : one.keyboardLayouts = two.keyboardLayouts
  overviewIsOpen : one.overviewIsOpen = two.overviewIsOpen
  configFailed : one.configFailed = two.configFailed
  casts : ∀ id, one.casts.lookup id = two.casts.lookup id

/-- What is kept under an id has that id. -/
structure Keyed (state : EventStreamState Place Time) : Prop where
  workspaces : Table.KeyedBy state.workspaces Workspace.id
  windows : Table.KeyedBy state.windows Window.id
  casts : Table.KeyedBy state.casts Cast.streamId

end EventStreamState

/-- Two parts do the same with an event. -/
inductive Applied.Alike {Part : Type} (same : Part → Part → Prop) :
    Applied Part → Applied Part → Prop
  | ignored : Alike same .ignored .ignored
  | applied {one two : Part} (alike : same one two) : Alike same (.applied one) (.applied two)
  | panicked : Alike same .panicked .panicked

lemma Applied.Alike.ofOption {same : Part → Part → Prop} {one two : Option Part}
    (alike : Option.Rel same one two) : Alike same (.ofOption one) (.ofOption two) := by
  cases alike with
  | some alike => exact .applied alike
  | none => exact .panicked

namespace WorkspacesState

variable {one two next : WorkspacesState}

lemma apply_alike (same : Table.SameEntries one two) :
    Applied.Alike Table.SameEntries (one.apply event) (two.apply event) := by
  cases event with
  | workspacesChanged => exact .applied fun _ => rfl
  | workspaceUrgencyChanged => exact .applied (same.mapValues _)
  | workspaceActivated id =>
    refine .ofOption ?_
    rw [same id]
    cases two.lookup id with
    | none => exact .none
    | some => exact .some (same.mapValues _)
  | workspaceActiveWindowChanged id =>
    refine .ofOption ?_
    rw [same id]
    cases two.lookup id with
    | none => exact .none
    | some => exact .some (same.insert _)
  | _ => exact .ignored

lemma apply_keyed (keyed : Table.KeyedBy one Workspace.id)
    (done : one.apply event = .applied next) : Table.KeyedBy next Workspace.id := by
  cases event with
  | workspacesChanged =>
    cases done
    exact Table.keyedBy_collect
  | workspaceUrgencyChanged =>
    cases done
    apply keyed.mapValues
    intro workspace
    split <;> rfl
  | workspaceActivated id =>
    obtain ⟨_, _, rfl⟩ := Applied.ofOption_map done
    exact keyed.mapValues fun _ => rfl
  | workspaceActiveWindowChanged id =>
    obtain ⟨workspace, got, rfl⟩ := Applied.ofOption_map done
    exact keyed.insert (keyed id workspace got)
  | _ => cases done

end WorkspacesState

namespace WindowsState

variable {one two next : WindowsState Place Time}

section

variable (same : Table.SameEntries one two)
include same

lemma relayout_alike (change : Nat × Place) :
    Option.Rel Table.SameEntries (relayout one change) (relayout two change) := by
  unfold relayout
  rw [same change.1]
  cases two.lookup change.1 with
  | none => exact .none
  | some => exact .some (same.insert _)

lemma relayouts_alike (changes : List (Nat × Place)) :
    Option.Rel Table.SameEntries (changes.foldlM relayout one) (changes.foldlM relayout two) := by
  induction changes generalizing one two with
  | nil => exact .some same
  | cons change _ ih =>
    rw [foldlM_cons, foldlM_cons]
    have first := relayout_alike same change
    generalize relayout one change = left at first
    generalize relayout two change = right at first
    cases first with
    | none => exact .none
    | some alike => exact ih alike

lemma put_alike (win : Window Place Time) : Table.SameEntries (put one win) (put two win) := by
  unfold put
  split
  · exact (same.insert win).mapValues _
  · exact same.insert win

lemma apply_alike : Applied.Alike Table.SameEntries (one.apply event) (two.apply event) := by
  cases event with
  | windowsChanged => exact .applied fun _ => rfl
  | windowOpenedOrChanged win => exact .applied (put_alike same win)
  | windowClosed id =>
    refine .ofOption ?_
    rw [same id]
    cases two.lookup id with
    | none => exact .none
    | some => exact .some same.erase
  | windowFocusChanged | windowFocusTimestampChanged | windowUrgencyChanged =>
    exact .applied (same.mapValues _)
  | windowLayoutsChanged changes => exact .ofOption (relayouts_alike same changes)
  | _ => exact .ignored

end

lemma relayouts_keyed {changes : List (Nat × Place)}
    (keyed : Table.KeyedBy one Window.id) (moved : changes.foldlM relayout one = some next) :
    Table.KeyedBy next Window.id := by
  induction changes generalizing one with
  | nil =>
    cases moved
    exact keyed
  | cons _ _ ih =>
    obtain ⟨_, first, moved⟩ := Option.bind_eq_some_iff.mp moved
    obtain ⟨win, got, rfl⟩ := Option.map_eq_some_iff.mp first
    refine ih ?_ moved
    exact keyed.insert (keyed _ win got)

lemma apply_keyed (keyed : Table.KeyedBy one Window.id)
    (done : one.apply event = .applied next) : Table.KeyedBy next Window.id := by
  cases event with
  | windowsChanged =>
    cases done
    exact Table.keyedBy_collect
  | windowOpenedOrChanged =>
    cases done
    exact keyedBy_put keyed
  | windowClosed id =>
    obtain ⟨_, _, rfl⟩ := Applied.ofOption_map done
    exact keyed.erase
  | windowFocusChanged =>
    cases done
    exact keyed.mapValues fun _ => rfl
  | windowFocusTimestampChanged | windowUrgencyChanged =>
    cases done
    apply keyed.mapValues
    intro _
    split <;> rfl
  | windowLayoutsChanged changes =>
    dsimp only [WindowsState.apply] at done
    cases moved : changes.foldlM relayout one with
    | none =>
      rw [moved] at done
      cases done
    | some =>
      rw [moved] at done
      cases done
      exact relayouts_keyed keyed moved
  | _ => cases done

end WindowsState

namespace CastsState

variable {one two next : CastsState}

lemma apply_alike (same : Table.SameEntries one two) :
    Applied.Alike Table.SameEntries (one.apply event) (two.apply event) := by
  cases event with
  | castsChanged => exact .applied fun _ => rfl
  | castStartedOrChanged => exact .applied (same.insert _)
  | castStopped streamId =>
    refine .ofOption ?_
    rw [same streamId]
    cases two.lookup streamId with
    | none => exact .none
    | some => exact .some same.erase
  | _ => exact .ignored

lemma apply_keyed (keyed : Table.KeyedBy one Cast.streamId)
    (done : one.apply event = .applied next) : Table.KeyedBy next Cast.streamId := by
  cases event with
  | castsChanged =>
    cases done
    exact Table.keyedBy_collect
  | castStartedOrChanged =>
    cases done
    exact keyed.insert rfl
  | castStopped streamId =>
    obtain ⟨_, _, rfl⟩ := Applied.ofOption_map done
    exact keyed.erase
  | _ => cases done

end CastsState

namespace EventStreamState

variable {one two next : EventStreamState Place Time}

lemma Agrees.apply (agrees : Agrees one two) (done : one.apply event = some next) :
    ∃ other, two.apply event = some other ∧ Agrees next other := by
  have workspaces : Applied.Alike Table.SameEntries (one.workspaces.apply event)
      (two.workspaces.apply event) := WorkspacesState.apply_alike agrees.workspaces
  have windows : Applied.Alike Table.SameEntries (one.windows.apply event)
      (two.windows.apply event) := WindowsState.apply_alike agrees.windows
  have casts : Applied.Alike Table.SameEntries (CastsState.apply one.casts event)
      (CastsState.apply two.casts event) := CastsState.apply_alike agrees.casts
  have keyboard : KeyboardLayoutsState.apply two.keyboardLayouts event =
      KeyboardLayoutsState.apply one.keyboardLayouts event := by
    rw [agrees.keyboardLayouts]
  unfold EventStreamState.apply at done ⊢
  rw [keyboard]
  generalize one.workspaces.apply event = oneWorkspaces at workspaces done
  generalize two.workspaces.apply event = twoWorkspaces at workspaces ⊢
  generalize one.windows.apply event = oneWindows at windows done
  generalize two.windows.apply event = twoWindows at windows ⊢
  generalize CastsState.apply one.casts event = oneCasts at casts done
  generalize CastsState.apply two.casts event = twoCasts at casts ⊢
  cases workspaces with
  | panicked => cases done
  | applied alike =>
    cases done
    exact ⟨_, rfl, { agrees with workspaces := alike }⟩
  | ignored =>
  cases windows with
  | panicked => cases done
  | applied alike =>
    cases done
    exact ⟨_, rfl, { agrees with windows := alike }⟩
  | ignored =>
  cases keyboardLayouts : KeyboardLayoutsState.apply one.keyboardLayouts event with
  | panicked =>
    rw [keyboardLayouts] at done
    cases done
  | applied =>
    rw [keyboardLayouts] at done
    cases done
    exact ⟨_, rfl, { agrees with keyboardLayouts := rfl }⟩
  | ignored =>
  rw [keyboardLayouts] at done
  cases overview : OverviewState.apply event with
  | panicked =>
    rw [overview] at done
    cases done
  | applied =>
    rw [overview] at done
    cases done
    exact ⟨_, rfl, { agrees with overviewIsOpen := rfl }⟩
  | ignored =>
  rw [overview] at done
  cases config : ConfigState.apply event with
  | panicked =>
    rw [config] at done
    cases done
  | applied =>
    rw [config] at done
    cases done
    exact ⟨_, rfl, { agrees with configFailed := rfl }⟩
  | ignored =>
  rw [config] at done
  cases casts with
  | panicked => cases done
  | applied alike =>
    cases done
    exact ⟨_, rfl, { agrees with casts := alike }⟩
  | ignored =>
    cases done
    exact ⟨_, rfl, agrees⟩

lemma Agrees.follow (agrees : Agrees one two) (followed : one.follow events = some next) :
    ∃ other, two.follow events = some other ∧ Agrees next other := by
  induction events generalizing one two with
  | nil =>
    cases followed
    exact ⟨two, rfl, agrees⟩
  | cons _ _ ih =>
    unfold EventStreamState.follow at followed ⊢
    rw [foldlM_cons] at followed ⊢
    obtain ⟨_, done, later⟩ := Option.bind_eq_some_iff.mp followed
    obtain ⟨_, otherApplied, alike⟩ := agrees.apply done
    obtain ⟨final, run, same⟩ := ih alike later
    refine ⟨final, ?_, same⟩
    rw [otherApplied]
    exact run

lemma Keyed.apply (keyed : st.Keyed) (done : st.apply event = some next) : next.Keyed := by
  unfold EventStreamState.apply at done
  split at done
  · cases done
  next taken =>
    cases done
    exact { keyed with workspaces := WorkspacesState.apply_keyed keyed.workspaces taken }
  split at done
  · cases done
  next taken =>
    cases done
    exact { keyed with windows := WindowsState.apply_keyed keyed.windows taken }
  split at done
  · cases done
  · cases done
    exact { keyed with }
  split at done
  · cases done
  · cases done
    exact { keyed with }
  split at done
  · cases done
  · cases done
    exact { keyed with }
  split at done
  · cases done
  next taken =>
    cases done
    exact { keyed with casts := CastsState.apply_keyed keyed.casts taken }
  · cases done
    exact keyed

lemma Keyed.follow (keyed : st.Keyed) (followed : st.follow events = some next) : next.Keyed := by
  induction events generalizing st with
  | nil =>
    cases followed
    exact keyed
  | cons _ _ ih =>
    unfold EventStreamState.follow at followed
    obtain ⟨_, done, later⟩ := Option.bind_eq_some_iff.mp followed
    exact ih (keyed.apply done) later

def initial : EventStreamState Place Time := {}

lemma keyed_initial : (initial : EventStreamState Place Time).Keyed := by
  exact ⟨Table.keyedBy_empty, Table.keyedBy_empty, Table.keyedBy_empty⟩

lemma Keyed.replicate (keyed : st.Keyed) :
    ∃ replica, initial.follow st.replicate = some replica ∧ Agrees st replica := by
  refine ⟨{ workspaces := Table.collect Workspace.id st.workspaces.values
            windows := Table.collect Window.id st.windows.values
            keyboardLayouts := st.keyboardLayouts
            overviewIsOpen := st.overviewIsOpen
            configFailed := st.configFailed
            casts := Table.collect Cast.streamId st.casts.values }, ?_, ?_⟩
  · unfold EventStreamState.replicate KeyboardLayoutsState.replicate
    cases st.keyboardLayouts <;> rfl
  · exact ⟨fun _ => keyed.workspaces.lookup_collect_values.symm,
      fun _ => keyed.windows.lookup_collect_values.symm, rfl, rfl, rfl,
      fun _ => keyed.casts.lookup_collect_values.symm⟩

/-- The workspaces and the windows are those of a layout. -/
structure Synchronized (credentials : Nat → Option Int)
    (state : EventStreamState Place Time)
    (layout : Layout Place Time) : Prop where
  workspaces : ∀ id, state.workspaces.lookup id = layout.workspaceOf id
  windows : ∀ id, state.windows.lookup id = layout.windowOf credentials id

end EventStreamState

open EventStreamState

variable [DecidableEq Place] [DecidableEq Time]

/-- The events by which the server brings the stream up to a layout. -/
def Layout.refresh (credentials : Nat → Option Int)
    (server : EventStreamState Place Time)
    (layout : Layout Place Time) : List (Event Place Time) :=
  layout.refreshWorkspaces server.workspaces ++ layout.refreshWindows credentials server.windows

/-- A client that knows one layout and follows a refresh to another knows that one, without a
panic; and a client that joins between any two events is in the same state from then on as one
that was there from the start. -/
theorem stream_refines_layout (credentials : Nat → Option Int) :
    (∀ (server client : EventStreamState Place Time) (old new : Layout Place Time),
      server.Synchronized credentials old → client.Synchronized credentials old →
      ∃ after, client.follow (new.refresh credentials server) = some after ∧
        after.Synchronized credentials new) ∧ (∀ (before after : List (Event Place Time))
        (joining followed : EventStreamState Place Time),
      initial.follow before = some joining → joining.follow after = some followed →
      ∃ joined, initial.follow (joining.replicate ++ after) = some joined ∧
        Agrees followed joined) := by
  constructor
  · intro server client _ new serverKnows clientKnows
    obtain ⟨workspaces, workspacesRun, workspacesKnown⟩ :
        ∃ workspaces, (new.refreshWorkspaces server.workspaces).foldlM
            WorkspacesState.applied client.workspaces = some workspaces ∧
          ∀ id, workspaces.lookup id = new.workspaceOf id :=
      Layout.follow_refreshWorkspaces serverKnows.workspaces clientKnows.workspaces
    obtain ⟨windows, windowsRun, windowsKnown⟩ :
        ∃ windows, (new.refreshWindows credentials server.windows).foldlM
            WindowsState.applied client.windows = some windows ∧
          ∀ id, windows.lookup id = new.windowOf credentials id :=
      Layout.follow_refreshWindows serverKnows.windows clientKnows.windows
    refine ⟨{ client with workspaces := workspaces, windows := windows }, ?_,
      workspacesKnown, windowsKnown⟩
    unfold Layout.refresh EventStreamState.follow
    rw [foldlM_append]
    have first := follow_workspaces workspacesRun
    unfold EventStreamState.follow at first
    rw [first]
    exact follow_windows windowsRun
  · intro _ _ _ _ reached went
    obtain ⟨_, replicated, alike⟩ := (keyed_initial.follow reached).replicate
    obtain ⟨joined, run, same⟩ := alike.follow went
    refine ⟨joined, ?_, same⟩
    unfold EventStreamState.follow at replicated ⊢
    rw [foldlM_append, replicated]
    exact run

/-- No output and no window. -/
def nothingShown : Layout Nat Nat where
  monitorSet := .noOutputs []
  windows := []
  outputsDistinct := by decide
  workspacesDistinct := by decide
  windowsDistinct := by decide
  oneFocused := by simp

/-- One output with two workspaces and a focused window. -/
def oneShown : Layout Nat Nat where
  monitorSet := .normal
    [{ outputName := "DP-1"
       workspaces := [⟨1, none, some 7, false⟩, ⟨2, some "mail", none, false⟩]
       activeWorkspaceIdx := 0
       inRange := by decide }] 0
  windows := [⟨⟨7, some "shell", none, true, false, false, false, false, false, true,
    ⟨false, false, false, false⟩, some 3⟩, some 1, 0⟩]
  outputsDistinct := by decide
  workspacesDistinct := by decide
  windowsDistinct := by decide
  oneFocused := by simp

lemma synchronized_initial :
    (initial : EventStreamState Nat Nat).Synchronized (fun _ => none) nothingShown :=
  ⟨fun _ => rfl, fun _ => rfl⟩

theorem stream_refines_layout_oneShown :
    (initial : EventStreamState Nat Nat).Synchronized (fun _ => none) nothingShown ∧
      ∃ after, initial.follow (oneShown.refresh (fun _ => none) initial) = some after ∧
        after.Synchronized (fun _ => none) oneShown ∧
        ∃ joined, initial.follow after.replicate = some joined ∧ Agrees after joined := by
  obtain ⟨after, run, knows⟩ := (stream_refines_layout (fun _ => none)).1 initial initial
    nothingShown oneShown synchronized_initial synchronized_initial
  obtain ⟨joined, joining, same⟩ :=
    (stream_refines_layout (fun _ => none)).2 _ [] after after run rfl
  rw [append_nil] at joining
  exact ⟨synchronized_initial, after, run, knows, joined, joining, same⟩

end Synoik.Ipc
