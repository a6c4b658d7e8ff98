import Synoik.Accounting.Restore
import Synoik.Layout.Step

/-!
# Books of the whole layout

What an operation does to the layout, summed over its monitors, the loose
workspaces and the parked ones.  `Retains` is what every operation does that
neither maps nor unmaps a window, names a workspace or plugs a display; the
lemmas lift the books of one monitor or one workspace to the layout.
-/

namespace Synoik

open List

open FreshM

variable {idx next next' next'' : Nat} {monitors monitors' : List Monitor} {gained : List WindowId}
  {mon mon' : Monitor} {layout layout' layout'' : Layout}

/-- The windows on a list of workspaces, laid out or minimized. -/
def windowsOf (workspaces : List Workspace) : List WindowId :=
  (workspaces.flatMap Workspace.keys).map TileKey.id

@[simp] lemma windowsOf_append (left right : List Workspace) :
    windowsOf (left ++ right) = windowsOf left ++ windowsOf right := by
  simp [windowsOf]

lemma windowsOf_set {workspaces : List Workspace} {ws new : Workspace}
    (got : workspaces[idx]? = some ws)
    (grown : (new.keys.map TileKey.id).Perm (gained ++ ws.keys.map TileKey.id)) :
    (windowsOf (workspaces.set idx new)).Perm (gained ++ windowsOf workspaces) := by
  simp only [windowsOf, map_flatMap]
  exact flatMap_set_gains got grown

lemma Preserves.windows {pre post : List Workspace}
    (preserves : Preserves pre next post next') : (windowsOf post).Perm (windowsOf pre) :=
  preserves.keys.map _

/-- Everything the layout's books need to know about a change of one monitor. -/
structure Monitor.Retains (mon : Monitor) (next : Nat) (mon' : Monitor)
    (next' : Nat) (gained : List WindowId) : Prop where
  stays : mon.StaysHome mon'
  covers : Covers mon.workspaces next mon'.workspaces next'
  windows : (windowsOf mon'.workspaces).Perm
    (gained ++ windowsOf mon.workspaces)
  sound : mon.Sound → mon'.Sound

namespace Monitor

variable {mon'' : Monitor}

lemma Receives.retains {gained : List TileKey} (receives : Receives mon next mon' next' gained) :
    Retains mon next mon' next' (gained.map TileKey.id) := by
  refine ⟨receives.stays, receives.covers, ?_, receives.sound⟩
  have windows := receives.keys.map TileKey.id
  rwa [map_append] at windows

lemma Rehouses.retains (rehouses : Rehouses mon next mon' next' [])
    (inv : mon.Sound → mon'.Sound) : Retains mon next mon' next' [] := by
  refine ⟨⟨rehouses.output, ?_⟩, rehouses.preserves.covers, rehouses.preserves.windows, inv⟩
  intro home mem
  rcases rehouses.homes home mem with old | new
  · exact old
  · cases new

/-- Whatever the operation returns keeps the windows of its monitor. -/
def Retaining (change : Monitor → FreshM Monitor) : Prop :=
  ∀ mon next mon' next', (change mon).run next = some (mon', next') → Retains mon next mon' next' []

lemma Retains.ofSameStrip (out : mon'.output = mon.output)
    (same : mon'.workspaces = mon.workspaces) (inv : mon.Sound → mon'.Sound) :
    Retains mon next mon' next [] := by
  refine ⟨.ofHomes out ?_, ?_, ?_, inv⟩
  · rw [homes, homes, same]
  · rw [same]
    exact .refl _ _
  · rw [same]
    exact .refl _

lemma Retains.refl (mon : Monitor) (next : Nat) : Retains mon next mon next [] :=
  .ofSameStrip rfl rfl id

lemma Retains.trans {first last : List WindowId} (one : Retains mon next mon' next' first)
    (two : Retains mon' next' mon'' next'' last) :
    Retains mon next mon'' next'' (last ++ first) := by
  refine ⟨one.stays.trans two.stays, one.covers.trans two.covers, ?_, two.sound ∘ one.sound⟩
  rw [append_assoc]
  exact two.windows.trans (one.windows.append_left _)

end Monitor

namespace Layout

/-- Every workspace there is, the parked ones included. -/
def allWorkspaces (layout : Layout) : List Workspace := layout.workspaces ++ layout.parkedWorkspaces

/-- The window an interactive move holds, as a list. -/
def movingWindows (layout : Layout) : List WindowId := (layout.movingTile.map Tile.id).toList

/-- Every monitor has a sound strip. -/
def Sound (layout : Layout) : Prop := ∀ mon ∈ layout.monitors, mon.Sound

/-- The position of the primary monitor. -/
def primaryIdx? (layout : Layout) : Option Nat :=
  match layout.monitorSet with
  | .normal _ primaryIdx _ => some primaryIdx
  | .noOutputs _ => none

/-- The primary monitor is one of the list. -/
def PrimaryInside (layout : Layout) : Prop :=
  ∀ idx ∈ layout.primaryIdx?, idx < layout.monitors.length

/-- Workspaces and windows are moved about, and windows are gained. -/
structure Shuffles (layout : Layout) (next : Nat) (layout' : Layout)
    (next' : Nat) (gained : List WindowId) : Prop where
  covers : Covers layout.workspaces next layout'.workspaces next'
  parked : layout'.parkedWorkspaces = layout.parkedWorkspaces
  move : layout'.movingWindows = layout.movingWindows
  windows : (windowsOf layout'.workspaces).Perm
    (gained ++ windowsOf layout.workspaces)
  sound : layout.Sound → layout'.Sound
  inside : layout.PrimaryInside → layout'.PrimaryInside

lemma Shuffles.refl (layout : Layout) (next : Nat) : Shuffles layout next layout next [] :=
  ⟨.refl _ _, rfl, rfl, .refl _, id, id⟩

lemma Shuffles.trans {first last : List WindowId} (one : Shuffles layout next layout' next' first)
    (two : Shuffles layout' next' layout'' next'' last) :
    Shuffles layout next layout'' next'' (last ++ first) := by
  refine ⟨one.covers.trans two.covers, two.parked.trans one.parked,
    two.move.trans one.move, ?_, two.sound ∘ one.sound, two.inside ∘ one.inside⟩
  rw [append_assoc]
  exact two.windows.trans (one.windows.append_left _)

/-- The same displays in the same places, each without new foreign homes. -/
structure StaysHome (layout layout' : Layout) : Prop where
  primary : layout'.primaryIdx? = layout.primaryIdx?
  monitors : List.Forall₂ Monitor.StaysHome layout.monitors layout'.monitors

lemma StaysHome.refl (layout : Layout) : StaysHome layout layout :=
  ⟨rfl, forall₂_same.mpr fun mon _ => .refl mon⟩

lemma StaysHome.trans (one : StaysHome layout layout')
    (two : StaysHome layout' layout'') : StaysHome layout layout'' :=
  ⟨two.primary.trans one.primary,
    Vec.forall₂_trans Monitor.StaysHome.trans one.monitors two.monitors⟩

lemma StaysHome.inside (stays : StaysHome layout layout')
    (inside : layout.PrimaryInside) : layout'.PrimaryInside := by
  intro idx first
  rw [stays.primary] at first
  rw [← stays.monitors.length_eq]
  exact inside idx first

/-- As `Shuffles`, and every workspace stays where it is at home. -/
structure Retains (layout : Layout) (next : Nat) (layout' : Layout)
    (next' : Nat) (gained : List WindowId) : Prop
    extends Shuffles layout next layout' next' gained where
  stays : layout.StaysHome layout'

/-- Every outcome of the change retains. -/
def Retained (layout : Layout) (change : FreshM Layout) : Prop :=
  ∀ ⦃next layout' next'⦄, change.run next = some (layout', next') →
    Retains layout next layout' next' []

namespace Retains

lemma refl (layout : Layout) (next : Nat) : Retains layout next layout next [] :=
  ⟨.refl _ _, .refl _⟩

lemma trans {first last : List WindowId} (one : Retains layout next layout' next' first)
    (two : Retains layout' next' layout'' next'' last) :
    Retains layout next layout'' next'' (last ++ first) :=
  ⟨one.toShuffles.trans two.toShuffles, one.stays.trans two.stays⟩

lemma ofSameWorkspaces (monitors : layout'.monitors = layout.monitors)
    (loose : layout'.looseWorkspaces = layout.looseWorkspaces)
    (primary : layout'.primaryIdx? = layout.primaryIdx?)
    (parked : layout'.parkedWorkspaces = layout.parkedWorkspaces)
    (move : layout'.movingWindows = layout.movingWindows) :
    Retains layout next layout' next [] := by
  have same : layout'.workspaces = layout.workspaces := by
    rw [workspaces, workspaces, monitors, loose]
  have stays : StaysHome layout layout' := by
    refine ⟨primary, ?_⟩
    rw [monitors]
    exact (StaysHome.refl layout).monitors
  refine ⟨⟨?_, parked, move, ?_, ?_, stays.inside⟩, stays⟩
  · rw [same]
    exact .refl _ _
  · rw [same]
    exact .refl _
  · intro inv mon mem
    rw [monitors] at mem
    exact inv mon mem

end Retains

lemma Retained.pure : Retained layout (pure layout) := by
  rintro _ _ _ ⟨⟩
  exact .refl _ _

lemma parts_normal {monitors : List Monitor} {primaryIdx active : Nat}
    (shape : layout.monitorSet = .normal monitors primaryIdx active) :
    layout.monitors = monitors ∧ layout.workspaces = monitors.flatMap Monitor.workspaces := by
  unfold workspaces Layout.monitors looseWorkspaces
  rw [shape]
  exact ⟨rfl, append_nil _⟩

lemma parts_noOutputs {loose : List Workspace} (shape : layout.monitorSet = .noOutputs loose) :
    layout.monitors = [] ∧ layout.workspaces = loose := by
  unfold workspaces Layout.monitors looseWorkspaces
  rw [shape]
  exact ⟨rfl, nil_append _⟩

end Layout

lemma Covers.flatMap_set (got : monitors[idx]? = some mon)
    (covers : Covers mon.workspaces next mon'.workspaces next') :
    Covers (monitors.flatMap Monitor.workspaces) next
      ((monitors.set idx mon').flatMap Monitor.workspaces) next' := by
  have lt := Vec.lt_length got
  rw [set_eq_take_append_cons_drop, if_pos lt]
  conv in monitors.flatMap _ => rw [Vec.eq_append_of_getElem? got]
  simp only [flatMap_append, flatMap_cons]
  exact (covers.append_right _).append_left _

/-- The same books for a list of monitors. -/
structure ShuffleAll (monitors : List Monitor) (next : Nat)
    (monitors' : List Monitor) (next' : Nat) (gained : List WindowId) : Prop where
  count : monitors'.length = monitors.length
  covers : Covers (monitors.flatMap Monitor.workspaces) next
    (monitors'.flatMap Monitor.workspaces) next'
  windows : (windowsOf (monitors'.flatMap Monitor.workspaces)).Perm
    (gained ++ windowsOf (monitors.flatMap Monitor.workspaces))
  sound : (∀ mon ∈ monitors, mon.Sound) → ∀ mon ∈ monitors', mon.Sound

structure RetainAll (monitors : List Monitor) (next : Nat)
    (monitors' : List Monitor) (next' : Nat) (gained : List WindowId) : Prop
    extends ShuffleAll monitors next monitors' next' gained where
  stays : List.Forall₂ Monitor.StaysHome monitors monitors'

lemma ShuffleAll.refl (monitors : List Monitor) (next : Nat) :
    ShuffleAll monitors next monitors next [] :=
  ⟨rfl, .refl _ _, .refl _, id⟩

lemma ShuffleAll.trans {monitors' monitors'' : List Monitor} {next'' : Nat}
    (one : ShuffleAll monitors next monitors' next' [])
    (two : ShuffleAll monitors' next' monitors'' next'' []) :
    ShuffleAll monitors next monitors'' next'' [] :=
  ⟨two.count.trans one.count, one.covers.trans two.covers,
    two.windows.trans one.windows, two.sound ∘ one.sound⟩

lemma ShuffleAll.set (got : monitors[idx]? = some mon)
    (covers : Covers mon.workspaces next mon'.workspaces next')
    (windows : (windowsOf mon'.workspaces).Perm (gained ++ windowsOf mon.workspaces))
    (inv : mon.Sound → mon'.Sound) :
    ShuffleAll monitors next (monitors.set idx mon') next' gained := by
  refine ⟨length_set, covers.flatMap_set got, ?_, ?_⟩
  · simp only [windowsOf, map_flatMap, flatMap_assoc] at windows ⊢
    exact flatMap_set_gains got windows
  · intro all other here
    rcases mem_or_eq_of_mem_set here with old | rfl
    · exact all other old
    · exact inv (all mon (mem_of_getElem? got))

namespace RetainAll

lemma refl (monitors : List Monitor) (next : Nat) : RetainAll monitors next monitors next [] :=
  ⟨.refl _ _, forall₂_same.mpr fun mon _ => .refl mon⟩

lemma cons (head : mon.Retains next mon' next' [])
    (tail : RetainAll monitors next' monitors' next'' []) :
    RetainAll (mon :: monitors) next (mon' :: monitors') next'' [] := by
  refine ⟨⟨?_, ?_, ?_, ?_⟩, .cons head.stays tail.stays⟩
  · simp [tail.count]
  · simpa using head.covers.append tail.covers
  · simpa using head.windows.append tail.windows
  · intro inv other mem
    rcases mem_cons.mp mem with rfl | rest
    · exact head.sound (inv mon (.head _))
    · exact tail.sound (fun other here => inv other (.tail _ here)) other rest

lemma set {idx : Nat} {gained : List WindowId} (got : monitors[idx]? = some mon)
    (retains : mon.Retains next mon' next' gained) :
    RetainAll monitors next (monitors.set idx mon') next' gained :=
  ⟨.set got retains.covers retains.windows retains.sound, Vec.forall₂_set .refl got retains.stays⟩

end RetainAll

namespace Layout

variable {primaryIdx active activeIdx' : Nat}

section

variable (shape : layout.monitorSet = .normal monitors primaryIdx active)
include shape

section

variable (shape' : layout'.monitorSet = .normal monitors' primaryIdx activeIdx')
include shape'

lemma shuffles_of_normal (parked : layout'.parkedWorkspaces = layout.parkedWorkspaces)
    (move : layout'.movingWindows = layout.movingWindows)
    (shuffles : ShuffleAll monitors next monitors' next' gained) :
    Shuffles layout next layout' next' gained := by
  obtain ⟨pre, beforeAll⟩ := parts_normal shape
  obtain ⟨post, afterAll⟩ := parts_normal shape'
  refine ⟨?_, parked, move, ?_, ?_, ?_⟩
  · rw [beforeAll, afterAll]
    exact shuffles.covers
  · rw [beforeAll, afterAll]
    exact shuffles.windows
  · unfold Sound
    rw [pre, post]
    exact shuffles.sound
  · unfold PrimaryInside primaryIdx?
    rw [pre, post, shape, shape', shuffles.count]
    exact id

lemma staysHome_of_normal
    (stays : Forall₂ Monitor.StaysHome monitors monitors') : layout.StaysHome layout' := by
  constructor
  · unfold primaryIdx?
    rw [shape, shape']
  · rw [(parts_normal shape).1, (parts_normal shape').1]
    exact stays

end

end

variable {loose : List Workspace}

lemma staysHome_of_noOutputs {loose' : List Workspace}
    (shape : layout.monitorSet = .noOutputs loose)
    (shape' : layout'.monitorSet = .noOutputs loose') : layout.StaysHome layout' := by
  constructor
  · unfold primaryIdx?
    rw [shape, shape']
  · rw [(parts_noOutputs shape).1, (parts_noOutputs shape').1]
    exact .nil

lemma retains_of_normal (shape : layout.monitorSet = .normal monitors primaryIdx active)
    (shape' : layout'.monitorSet = .normal monitors' primaryIdx activeIdx')
    (parked : layout'.parkedWorkspaces = layout.parkedWorkspaces)
    (move : layout'.movingWindows = layout.movingWindows)
    (retains : RetainAll monitors next monitors' next' gained) :
    Retains layout next layout' next' gained :=
  ⟨shuffles_of_normal shape shape' parked move retains.toShuffleAll,
    staysHome_of_normal shape shape' retains.stays⟩

variable {change : Monitor → FreshM Monitor}

lemma updateMonitor_normal (shape : layout.monitorSet = .normal monitors primaryIdx active)
    (ran : (layout.updateMonitor idx change).run next = some (layout', next')) :
    ∃ mon mon', monitors[idx]? = some mon ∧ (change mon).run next = some (mon', next') ∧
      layout' = { layout with
        monitorSet := .normal (monitors.set idx mon') primaryIdx active } := by
  unfold updateMonitor at ran
  rw [shape] at ran
  obtain ⟨mon, got, ran⟩ := of_unwrap ran
  obtain ⟨mon', _, new, ret⟩ := of_bind ran
  cases ret
  exact ⟨mon, mon', got, new, rfl⟩

lemma updateMonitor_cases
    (ran : (layout.updateMonitor idx change).run next = some (layout', next')) :
    (∃ loose, layout.monitorSet = .noOutputs loose ∧ layout' = layout ∧ next = next') ∨
    ∃ monitors primaryIdx active mon mon',
      layout.monitorSet = .normal monitors primaryIdx active ∧ monitors[idx]? = some mon ∧
      (change mon).run next = some (mon', next') ∧ layout' = { layout with
        monitorSet := .normal (monitors.set idx mon') primaryIdx active } := by
  cases shape : layout.monitorSet with
  | noOutputs loose =>
    unfold updateMonitor at ran
    rw [shape] at ran
    cases ran
    exact .inl ⟨loose, rfl, rfl, rfl⟩
  | normal monitors primaryIdx active =>
    obtain ⟨mon, mon', got, new, rfl⟩ := updateMonitor_normal shape ran
    exact .inr ⟨monitors, primaryIdx, active, mon, mon', rfl, got, new, rfl⟩

section Lifting

variable {change : Monitor → FreshM Monitor}

section

variable (retaining : Monitor.Retaining change)
include retaining

lemma updateMonitor_retains {idx : Nat} : Retained layout (layout.updateMonitor idx change) := by
  intro _ _ _ ran
  rcases updateMonitor_cases ran with ⟨_, _, rfl, rfl⟩ |
    ⟨monitors, _, _, mon, mon', shape, got, new, rfl⟩
  · exact .refl _ _
  · exact retains_of_normal shape rfl rfl rfl (.set got (retaining _ _ _ _ new))

lemma onActiveMonitor_retains : Retained layout (layout.onActiveMonitor change) := by
  unfold onActiveMonitor
  split
  · exact .pure
  · exact updateMonitor_retains retaining

lemma onOutput_retains {out : Output} : Retained layout (layout.onOutput out change) := by
  unfold onOutput
  split
  · exact .pure
  · exact updateMonitor_retains retaining

lemma changeEach_retains {monitors monitors' : List Monitor}
    (ran : (changeEach change monitors).run next = some (monitors', next')) :
    RetainAll monitors next monitors' next' [] := by
  induction monitors generalizing next monitors' with
  | nil =>
    cases ran
    exact .refl _ _
  | cons _ _ ih =>
    obtain ⟨_, _, one, ran⟩ := of_bind ran
    obtain ⟨_, _, rest, ret⟩ := of_bind ran
    cases ret
    exact .cons (retaining _ _ _ _ one) (ih rest)

lemma onEveryMonitor_retains : Retained layout (layout.onEveryMonitor change) := by
  unfold onEveryMonitor
  split
  · exact .pure
  next shape =>
  intro _ _ _ ran
  obtain ⟨_, _, new, ret⟩ := of_bind ran
  cases ret
  exact retains_of_normal shape rfl rfl rfl (changeEach_retains retaining new)

end

end Lifting

section FirstMonitor

variable {change : Monitor → FreshM (Bool × Monitor)}

/-- Whatever the operation returns keeps the windows of its monitor, whether it
applied or not. -/
def AnswersRetaining (change : Monitor → FreshM (Bool × Monitor)) : Prop :=
  ∀ mon next answer mon' next',
    (change mon).run next = some ((answer, mon'), next') → mon.Retains next mon' next' []

lemma changeFirst_retains {monitors monitors' : List Monitor}
    (retaining : AnswersRetaining change)
    (ran : (changeFirst change monitors).run next = some (monitors', next')) :
    RetainAll monitors next monitors' next' [] := by
  induction monitors generalizing next monitors' with
  | nil =>
    cases ran
    exact .refl _ _
  | cons _ _ ih =>
    obtain ⟨⟨_, _⟩, _, one, ran⟩ := of_bind ran
    dsimp only at ran
    split at ran
    · cases ran
      exact .cons (retaining _ _ _ _ _ one) (.refl _ _)
    · obtain ⟨_, _, rest, ret⟩ := of_bind ran
      cases ret
      exact .cons (retaining _ _ _ _ _ one) (ih rest)

lemma onFirstMonitor_retains (retaining : AnswersRetaining change) :
    Retained layout (layout.onFirstMonitor change) := by
  unfold onFirstMonitor
  split
  · exact .pure
  next shape =>
  intro _ _ _ ran
  obtain ⟨_, _, new, ret⟩ := of_bind ran
  cases ret
  exact retains_of_normal shape rfl rfl rfl (changeFirst_retains retaining new)

end FirstMonitor

lemma retains_of_loose {ws new : Workspace}
    (shape : layout.monitorSet = .noOutputs loose) (got : loose[idx]? = some ws)
    (label : new.label = ws.label) (grown : (new.keys.map TileKey.id).Perm
      (gained ++ ws.keys.map TileKey.id)) : Retains layout next
      { layout with monitorSet := .noOutputs (loose.set idx new) } next gained := by
  obtain ⟨_, pre⟩ := parts_noOutputs shape
  have post : workspaces { layout with
      monitorSet := .noOutputs (loose.set idx new) } = loose.set idx new :=
    nil_append _
  have stays : layout.StaysHome { layout with
      monitorSet := .noOutputs (loose.set idx new) } :=
    staysHome_of_noOutputs shape rfl
  refine ⟨⟨?_, rfl, rfl, ?_, ?_, stays.inside⟩, stays⟩
  · rw [pre, post]
    exact .ofSet got (congrArg WorkspaceLabel.id label)
      (.inl (congrArg WorkspaceLabel.name label))
  · rw [pre, post]
    exact windowsOf_set got grown
  · intro _ _ mem
    cases mem

lemma updateFirst_retains {want : Workspace → Bool}
    {change : WindowingMode → Workspace → Option Workspace}
    (same : ∀ mode ws new, change mode ws = some new → ws.SameWindows new) :
    Retained layout (layout.updateFirst want change) := by
  unfold updateFirst
  split
  · split
    · exact .pure
    · intro _ _ _ ran
      refine updateMonitor_retains (fun mon _ _ _ rewritten => ?_) ran
      exact (Monitor.updateWorkspace_shifts (same mon.windowingMode) rewritten).retains
  next _ shape =>
  split
  · exact .pure
  · intro _ _ _ ran
    obtain ⟨_, computed, ret⟩ := of_unwrap ran
    obtain ⟨_, _, got, made, rfl⟩ := Vec.updateAt_eq_some.mp computed
    cases ret
    have kept := same _ _ _ made
    exact retains_of_loose shape got kept.label (kept.keys.map _)

end Layout

end Synoik
