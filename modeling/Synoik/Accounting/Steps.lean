import Synoik.Accounting.Plugging
import Synoik.Support.Runs

/-!
# The books of a step

Every operation of the layout, sorted by what it can do: most of them only move
windows and spaces about, which `Handles` describes; displays and names
have their own descriptions. Everything that holds along runs is derived from
this one case split.
-/

namespace Synoik

open FreshM

/-- The windows an operation maps. -/
def Op.gained : Op → List WindowId
  | .addWindow window _ _ _ => [window.id]
  | _ => []

/-- The operations that can leave a workspace away from its display's monitor, or
make another monitor the primary one. -/
def Op.Reassigns : Op → Prop
  | .setPrimaryOutput _ => True
  | .insertRestoreWorkspace _ _ _ => True
  | .carryDraggedWorkspace _ _ _ => True
  | .cancelThumbDrags _ => True
  | .toggleOverview _ => True
  | _ => False

namespace Layout

variable {layout layout' : Layout} {next next' : Nat}

/-- What an operation did. -/
inductive Effect (layout : Layout) (next : Nat) (layout' : Layout) (next' : Nat) : Op → Prop where
  | arrived {output : Output} {windowingMode : WindowingMode}
      (run : (layout.addOutput output windowingMode).run next = some (layout', next')) :
      Effect layout next layout' next' (.addOutput output windowingMode)
  | left {output : Output}
      (run : (layout.removeOutput output).run next = some (layout', next')) :
      Effect layout next layout' next' (.removeOutput output)
  | named {name : String} {reference : Option WorkspaceReference}
      (run : (layout.setWorkspaceName name reference).run next = some (layout', next')) :
      Effect layout next layout' next' (.setWorkspaceName name reference)
  | configured {name : String} {openOnOutput : Option String}
      (run : (layout.ensureNamedWorkspace name openOnOutput).run next = some (layout', next')) :
      Effect layout next layout' next' (.ensureNamedWorkspace name openOnOutput)
  | unmapped {window : WindowId} {landed : Output → Nat} {lost : List WindowId}
      (handles : Handles layout next layout' next' [] lost)
      (outcome : (lost = [] ∧ window ∉ layout.heldWindows) ∨ lost = [window]) :
      Effect layout next layout' next' (.removeWindow window landed)
  | shuffled {op : Op} (reassigns : op.Reassigns)
      (shuffles : Shuffles layout next layout' next' []) :
      Effect layout next layout' next' op
  | handled {op : Op} (mapped : ∀ window landed, op ≠ .removeWindow window landed)
      (handles : Handles layout next layout' next' op.gained []) :
      Effect layout next layout' next' op

variable {op : Op}

lemma Effect.ofRetains (mapped : ∀ win landed, op ≠ .removeWindow win landed)
    (retains : Retains layout next layout' next' op.gained) : Effect layout next layout' next' op :=
  .handled mapped retains.handles

lemma setPrimaryOutput_shuffles (out : Output) :
    Shuffles layout next (layout.setPrimaryOutput out) next [] := by
  unfold setPrimaryOutput
  split
  next _ _ _ _ shape loc =>
    obtain ⟨pre, beforeAll⟩ := parts_normal shape
    refine ⟨?_, rfl, rfl, ?_, ?_, ?_⟩
    · rw [beforeAll, parts_normal rfl |>.2]
      exact .refl _ _
    · rw [beforeAll, parts_normal rfl |>.2]
      exact .refl _
    · unfold Sound
      rw [pre]
      exact fun inv => inv
    · intro _ _ first
      cases first
      have lt := (List.findIdx?_eq_some_iff_getElem.mp loc).1
      rwa [pre] at lt
  · exact .refl _ _

lemma apply_effect (run : (layout.apply op).run next = some (layout', next')) :
    Effect layout next layout' next' op := by
  cases op with
  | addOutput => exact .arrived run
  | removeOutput => exact .left run
  | setWorkspaceName => exact .named run
  | ensureNamedWorkspace => exact .configured run
  | removeWindow =>
    obtain ⟨⟨_, _⟩, _, removing, ret⟩ := of_bind run
    cases ret
    obtain ⟨_, handles, _, outcome⟩ := removeWindow_handles removing
    refine .unmapped handles ?_
    rcases outcome with ⟨none, _, lack⟩ | ⟨one, _⟩
    · exact .inl ⟨none, lack⟩
    · exact .inr one
  | interactiveMoveUpdate => exact .handled nofun (interactiveMoveUpdate_handles run)
  | interactiveMoveEnd => exact .handled nofun (interactiveMoveEnd_handles run)
  | setPrimaryOutput out =>
    cases run
    exact .shuffled trivial (setPrimaryOutput_shuffles out)
  | setDisplayOrder | setPendingNamedWorkspaces =>
    cases run
    exact .ofRetains nofun (.ofSameWorkspaces rfl rfl rfl rfl rfl)
  | focusOutput =>
    cases run
    exact .ofRetains nofun (focusOutput_retains _)
  | insertRestoreWorkspace =>
    obtain ⟨⟨_, _⟩, _, puts, ret⟩ := of_bind run
    cases ret
    exact .shuffled trivial (insertRestoreWorkspace_shuffles puts)
  | ensureRestoreWorkspace => exact .ofRetains nofun (ensureRestoreWorkspace_retains run)
  | unsetWorkspaceName => exact .ofRetains nofun (unsetWorkspaceName_retains run)
  | onActiveMonitor op =>
    exact .ofRetains nofun (onActiveMonitor_retains
      (fun _ _ _ _ done => (op.apply_shifts done).retains) run)
  | closeWorkspace => exact .ofRetains nofun (closeWorkspace_retains run)
  | moveWorkspaceToIdx => exact .ofRetains nofun (moveWorkspaceToIdx_retains run)
  | moveWorkspaceToOutput => exact .ofRetains nofun (moveWorkspaceToOutput_retains run)
  | moveWorkspaceToOutputById => exact .ofRetains nofun (moveWorkspaceToOutputById_retains run)
  | addWindow => exact .ofRetains nofun (addWindow_retains run)
  | minimizeWindow => exact .ofRetains nofun (minimizeWindow_retains run)
  | unminimizeWindow => exact .ofRetains nofun (unminimizeWindow_retains run)
  | setWindowSticky => exact .ofRetains nofun (setWindowSticky_retains run)
  | activateWindow => exact .ofRetains nofun (activateWindow_retains run)
  | activateWindowWithoutRaising =>
    exact .ofRetains nofun (activateWindowWithoutRaising_retains run)
  | toggleWindowFloating => exact .ofRetains nofun (toggleWindowFloating_retains run)
  | setWindowFloating => exact .ofRetains nofun (setWindowFloating_retains run)
  | moveToWorkspace => exact .ofRetains nofun (moveToWorkspace_retains run)
  | moveToOutput => exact .ofRetains nofun (moveToOutput_retains run)
  | moveColumnToOutput => exact .ofRetains nofun (moveColumnToOutput_retains run)
  | interactiveMoveBegin => exact .ofRetains nofun (interactiveMoveBegin_retains run)
  | workspaceSwitchGestureBegin =>
    refine .ofRetains nofun (onEveryMonitor_retains ?_ run)
    intro mon _ _ _ begun
    dsimp only at begun
    split at begun
    · cases begun
      exact (Monitor.switching_shifts _).retains
    · exact (Monitor.workspaceSwitchGestureEnd_shifts begun).retains
  | workspaceSwitchGestureUpdate =>
    refine .ofRetains nofun (onFirstMonitor_retains ?_ run)
    intro mon _ _ _ _ ran
    cases ran
    exact (Monitor.workspaceSwitchGestureUpdate_shifts _ _).retains
  | workspaceSwitchGestureEnd =>
    refine .ofRetains nofun (onFirstMonitor_retains ?_ run)
    intro _ _ _ _ _ ended
    obtain ⟨_, _, ending, ret⟩ := of_bind ended
    cases ret
    exact (Monitor.workspaceSwitchGestureEnd_shifts ending).retains
  | dndScrollGestureScroll =>
    exact .ofRetains nofun (onOutput_retains (fun _ _ _ _ scrolled =>
    (Monitor.dndScrollGestureScroll_shifts scrolled).retains) run)
  | advanceAnimations =>
    exact .ofRetains nofun (onEveryMonitor_retains
      (fun _ _ _ _ advanced => (Monitor.advanceAnimations_shifts advanced).retains) run)
  | beginThumbDrag => exact .ofRetains nofun (beginThumbDrag_retains run)
  | carryDraggedWorkspace => exact .shuffled trivial (carryDraggedWorkspace_shuffles run)
  | updateThumbDrag =>
    exact .ofRetains nofun (onOutput_retains (fun _ _ _ _ ran =>
    Monitor.updateThumbDrag_retains ran) run)
  | finishThumbDragOn => exact .ofRetains nofun (finishThumbDragOn_retains run)
  | cancelThumbDrags => exact .shuffled trivial (cancelThumbDrags_shuffles run)
  | toggleOverview => exact .shuffled trivial (toggleOverview_shuffles run)

/-- The windows an operation unmaps, where it finds them. -/
def Unmaps (layout : Layout) (op : Op) (lost : List WindowId) : Prop :=
  match op with
  | .removeWindow window _ => (lost = [] ∧ window ∉ layout.heldWindows) ∨ lost = [window]
  | _ => lost = []

lemma Effect.books (effect : Effect layout next layout' next' op) :
    ∃ lost, layout.Unmaps op lost ∧ Books layout next layout' next' op.gained lost := by
  cases effect with
  | arrived run => exact ⟨[], rfl, addOutput_books run⟩
  | left run => exact ⟨[], rfl, (removeOutput_keeps run).books⟩
  | named run => exact ⟨[], rfl, setWorkspaceName_books run⟩
  | configured run => exact ⟨[], rfl, ensureNamedWorkspace_books run⟩
  | @unmapped _ _ lost handles outcome => exact ⟨lost, outcome, handles.books⟩
  | shuffled reassigns shuffles =>
    refine ⟨[], ?_, ?_⟩
    · cases op <;> first | rfl | exact reassigns.elim
    · cases op <;> first | exact shuffles.books | exact reassigns.elim
  | handled mapped handles =>
    refine ⟨[], ?_, handles.books⟩
    unfold Unmaps
    split
    next win landed => exact (mapped win landed rfl).elim
    · rfl

def step (state : Layout × Nat) (op : Op) : Option (Layout × Nat) := (state.1.apply op).run state.2

def start (windowingMode : WindowingMode) : Layout × Nat :=
  (withOptions windowingMode, firstWorkspaceId)

lemma runs_iff_applyAll {ops : List Op} {st st' : Layout × Nat} :
    Runs step (fun _ _ => True) st ops st' ↔ (applyAll ops st.1).run st.2 = some st' := by
  induction ops generalizing st with
  | nil =>
    constructor
    · rintro ⟨⟩
      rfl
    · intro run
      cases run
      exact .nil _
  | cons _ _ ih =>
    constructor
    · rintro (_ | ⟨_, ran, rest⟩)
      exact run_bind_some.mpr ⟨_, _, ran, ih.mp rest⟩
    · intro run
      obtain ⟨_, _, ran, rest⟩ := of_bind run
      exact .cons trivial ran (ih.mpr rest)

end Layout

end Synoik
