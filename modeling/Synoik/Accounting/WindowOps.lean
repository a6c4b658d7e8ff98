import Synoik.Accounting.Layouts

/-!
# Operations on windows

For every operation that touches windows: which workspaces and windows the
layout has afterwards. A window being moved interactively is held by the
layout itself, so the begin and the end of a move are accounted for separately.
-/

namespace Synoik

open List Workspace Monitor

open FreshM

variable {mon mon' : Monitor} {next next' : Nat}

namespace Monitor

lemma set_retains {idx : Nat} {ws new : Workspace} (got : mon.workspaces[idx]? = some ws)
    (label : new.label = ws.label) (same : new.keys.map TileKey.id = ws.keys.map TileKey.id) :
    Retains mon next { mon with workspaces := mon.workspaces.set idx new } next [] := by
  refine ⟨.ofHomes rfl (Vec.map_set_of_eq got (congrArg WorkspaceLabel.originalOutput label)),
    .ofSet got (congrArg WorkspaceLabel.id label) (.inl (congrArg WorkspaceLabel.name label)),
    windowsOf_set got (.of_eq same), fun inv => inv.set got ?_⟩
  rw [hasWindowsOrName_iff, hasWindowsOrName_iff,
    show new.name = ws.name from congrArg WorkspaceLabel.name label]
  refine .imp_left fun windows empty => windows ?_
  rw [empty, map_nil, map_eq_nil_iff] at same
  exact same

lemma setWindowSticky_retains {win : WindowId} {sticky new : Bool}
    (run : (mon.setWindowSticky win sticky).run next = some ((new, mon'), next')) :
    Retains mon next mon' next' [] := by
  unfold setWindowSticky at run
  split at run
  · cases run
    exact .refl _ _
  next wsIdx _ =>
  obtain ⟨ws, got, run⟩ := of_unwrap run
  have marked : Retains mon next { mon with
      workspaces := mon.workspaces.set wsIdx (ws.setSticky win sticky).2 }
      next [] := set_retains got Workspace.setSticky_ids.1 Workspace.setSticky_ids.2
  dsimp only at run
  split at run
  · cases run
    exact marked
  · split at run
    · cases run
      exact marked
    · split at run
      · cases run
        exact marked
      · obtain ⟨_, _, carrying, ret⟩ := of_bind run
        cases ret
        exact marked.trans (carryAll_shifts carrying).retains

end Monitor

namespace Layout

variable {layout layout' : Layout} {win : WindowId} {activate : ActivateWindow} {idx : Nat}
  {lost gained : List WindowId} {mons : List Monitor} {output : Output} {loose : List Workspace}
  {tile : Tile} {isFloating : Bool} {landed : Output → Nat}

lemma minimizeWindow_retains : Retained layout (layout.minimizeWindow win) := by
  unfold minimizeWindow
  split
  · exact .pure
  · exact updateFirst_retains (fun _ _ _ => minimize_sameWindows)

lemma unminimizeWindow_retains : Retained layout (layout.unminimizeWindow win activate) :=
  updateFirst_retains (fun _ _ _ => unminimize_sameWindows)

lemma setWindowSticky_retains {sticky : Bool} :
    Retained layout (layout.setWindowSticky win sticky) :=
  onFirstMonitor_retains (fun _ _ _ _ _ ran => Monitor.setWindowSticky_retains ran)

lemma activeMonitor_retains {primary active : Nat}
    (shape : layout.monitorSet = .normal mons primary active) : Retains layout next
      { layout with monitorSet := .normal mons primary idx } next [] := by
  refine .ofSameWorkspaces ?_ ?_ ?_ rfl rfl
  · exact (parts_normal shape).1.symm
  · unfold looseWorkspaces
    rw [shape]
  · unfold primaryIdx?
    rw [shape]

lemma setActiveMonitor_retains (idx : Nat) :
    Retains layout next (layout.setActiveMonitor idx) next [] := by
  unfold setActiveMonitor
  split
  next shape => exact activeMonitor_retains shape
  · exact .refl _ _

lemma showActivated_shifts {wsIdx : Nat} : mon.Shifting (showActivated mon wsIdx) := by
  unfold showActivated
  split
  · split
    · exact .pure
    · exact activateWorkspace_shifts
  · exact activateWorkspace_shifts

lemma activateWith_retains {activate : WindowingMode → Workspace → Option Workspace}
    (same : ∀ mode ws new, activate mode ws = some new → ws.SameWindows new) :
    Retained layout (layout.activateWith win activate) := by
  unfold activateWith
  split
  · exact .pure
  · split
    · exact .pure
    · intro _ _ _ run
      obtain ⟨_, _, ran, ret⟩ := of_bind run
      cases ret
      refine .trans (updateMonitor_retains ?_ ran) (setActiveMonitor_retains _)
      intro _ _ _ _ new
      obtain ⟨_, _, rewriting, shown⟩ := of_bind new
      exact ((updateWorkspace_shifts (same _) rewriting).trans
        (showActivated_shifts shown)).retains

lemma activateWindow_retains : Retained layout (layout.activateWindow win) := by
  intro _ _ _ run
  refine activateWith_retains ?_ run
  intro _ _ _ made
  obtain ⟨⟨_, _⟩, ran, rfl⟩ := Option.map_eq_some_iff.mp made
  exact activateWindow_sameWindows ran

lemma activateWindowWithoutRaising_retains :
    Retained layout (layout.activateWindowWithoutRaising win) := by
  intro _ _ _ run
  refine activateWith_retains ?_ run
  intro _ _ _ made
  obtain ⟨⟨_, _⟩, ran, rfl⟩ := Option.map_eq_some_iff.mp made
  exact activateWindowWithoutRaising_sameWindows ran

lemma onWindowWorkspace_retains {win : Option WindowId}
    {change : WindowingMode → Workspace → Option Workspace}
    (same : ∀ mode ws new, change mode ws = some new → ws.SameWindows new) :
    Retained layout (layout.onWindowWorkspace win change) := by
  intro _ _ _ run
  unfold onWindowWorkspace at run
  split at run
  · split at run
    · exact updateFirst_retains same run
    · cases run
  · refine onActiveMonitor_retains (fun _ _ _ _ new => ?_) run
    exact (updateWorkspace_shifts (same _) new).retains

lemma toggleMovingFloating_retains : Retains layout next layout.toggleMovingFloating next [] := by
  unfold toggleMovingFloating
  split
  next _ moving =>
    refine .ofSameWorkspaces rfl rfl rfl rfl ?_
    unfold movingWindows movingTile
    rw [moving]
    dsimp only
    split <;> rfl
  · exact .refl _ _

lemma toggleWindowFloating_retains {win : Option WindowId} :
    Retained layout (layout.toggleWindowFloating win) := by
  intro _ _ _ run
  unfold toggleWindowFloating at run
  split at run
  · cases run
    exact toggleMovingFloating_retains
  · exact onWindowWorkspace_retains
      (fun _ _ _ ran => (toggleWindowFloating_gains ran).sameWindows) run

lemma setWindowFloating_retains {win : Option WindowId} {floating : Bool} :
    Retained layout (layout.setWindowFloating win floating) := by
  unfold setWindowFloating
  split
  · split
    · split
      · exact .pure
      · rintro _ _ _ ⟨⟩
        exact toggleMovingFloating_retains
    · exact .pure
  · exact onWindowWorkspace_retains
      (fun _ _ _ ran => (setWindowFloating_gains ran).sameWindows)

lemma moveToWorkspace_retains {win : Option WindowId} :
    Retained layout (layout.moveToWorkspace win idx activate) := by
  have moves : ∀ win, Monitor.Retaining (Monitor.moveToWorkspace · win idx activate) :=
    fun win _ _ _ _ moved => (moveToWorkspace_shifts moved).retains
  unfold moveToWorkspace
  split
  · exact .pure
  · split
    · exact .pure
    · intro _ _ _ run
      obtain ⟨⟨_, _⟩, _, ran⟩ := of_unwrap run
      exact updateMonitor_retains (moves _) ran
    · exact onActiveMonitor_retains (moves _)

/-- The workspaces give up these windows. -/
structure Loses (layout : Layout) (next : Nat) (layout' : Layout) (next' : Nat)
    (lost : List WindowId) : Prop where
  covers : Covers layout.workspaces next layout'.workspaces next'
  parked : layout'.parkedWorkspaces = layout.parkedWorkspaces
  move : layout'.movingWindows = layout.movingWindows
  windows : (windowsOf layout.workspaces).Perm
    (lost ++ windowsOf layout'.workspaces)
  sound : layout.Sound → layout'.Sound
  stays : layout.StaysHome layout'

lemma Retains.loses (retains : Retains layout next layout' next' []) :
    Loses layout next layout' next' [] :=
  ⟨retains.covers, retains.parked, retains.move, retains.windows.symm, retains.sound, retains.stays⟩

variable {layout'' mid : Layout} {next'' primary active later : Nat} {ws : Workspace}
  {targetWsIdx : Option Nat} {gone : Option RemovedTile} {data : InteractiveMoveData}
  {insertWs : InsertWorkspace} {drop : DropPoint}

lemma Retains.thenLoses (one : Retains layout next layout' next' [])
    (last : Loses layout' next' layout'' next'' lost) : Loses layout next layout'' next'' lost :=
  ⟨one.covers.trans last.covers, last.parked.trans one.parked,
    last.move.trans one.move, one.windows.symm.trans last.windows,
    last.sound ∘ one.sound, one.stays.trans last.stays⟩

lemma Loses.thenRetains (one : Loses layout next layout' next' lost)
    (last : Retains layout' next' layout'' next'' lost) : Retains layout next layout'' next'' [] :=
  ⟨⟨one.covers.trans last.covers, last.parked.trans one.parked,
    last.move.trans one.move, last.windows.trans one.windows.symm,
    last.sound ∘ one.sound, last.inside ∘ one.stays.inside⟩, one.stays.trans last.stays⟩

section

variable (shape : layout.monitorSet = .normal mons primary active)
include shape

lemma loses_of_givesUp {src left : Monitor} {lost : List TileKey}
    (got : mons[idx]? = some src) (out : src.GivesUp left lost) : Loses layout next { layout with
      monitorSet := .normal (mons.set idx left) primary active } next (lost.map TileKey.id) := by
  obtain ⟨pre, beforeAll⟩ := parts_normal shape
  have afterAll : workspaces { layout with
      monitorSet := .normal (mons.set idx left) primary active } =
      (mons.set idx left).flatMap Monitor.workspaces := append_nil _
  have shrunk : (windowsOf src.workspaces).Perm
      (lost.map TileKey.id ++ windowsOf left.workspaces) := by
    have windows := out.keys.map TileKey.id
    rwa [map_append] at windows
  refine ⟨?_, rfl, rfl, ?_, ?_, staysHome_of_normal shape rfl
    (Vec.forall₂_set .refl got (out.alters next).stays)⟩
  · rw [beforeAll, afterAll]
    exact (out.alters next).covers.flatMap_set got
  · rw [beforeAll, afterAll]
    simp only [windowsOf, map_flatMap, flatMap_assoc] at shrunk ⊢
    exact flatMap_set_loses got shrunk
  · intro inv mon mem
    rcases mem_or_eq_of_mem_set mem with old | rfl
    · exact inv mon (pre ▸ old)
    · exact out.sound (inv src (pre ▸ mem_of_getElem? got))

lemma updateMonitor_gains {change : Monitor → FreshM Monitor}
    (gains : ∀ mon mon', (change mon).run next = some (mon', next') →
        mon.Retains next mon' next' gained)
    (ran : (layout.updateMonitor idx change).run next = some (layout', next')) :
    Retains layout next layout' next' gained := by
  obtain ⟨_, _, got, new, rfl⟩ := updateMonitor_normal shape ran
  exact retains_of_normal shape rfl rfl rfl (.set got (gains _ _ new))

end

lemma takeTile_eq {win : Option WindowId} {outcome : Option (RemovedTile × Workspace)}
    (taking : (takeTile ws win).run next = some (outcome, next')) :
    next = next' ∧ outcome = Monitor.takenFrom ws win := by
  cases win with
  | some =>
    obtain ⟨_, out, ret⟩ := of_unwrap taking
    cases ret
    exact ⟨rfl, out.symm⟩
  | none =>
    cases taking
    exact ⟨rfl, rfl⟩

lemma moveToOutput_retains {win : Option WindowId} :
    Retained layout (layout.moveToOutput win output targetWsIdx activate) := by
  unfold moveToOutput
  split
  · exact .pure
  · split
    · exact .pure
    next _ _ _ shape =>
    intro _ _ _ run
    obtain ⟨_, _, run⟩ := of_unwrap run
    obtain ⟨⟨_, wsIdx⟩, _, run⟩ := of_unwrap run
    obtain ⟨_, _, run⟩ := of_unwrap run
    dsimp only at run
    split at run
    · cases run
      exact .refl _ _
    · obtain ⟨_, _, run⟩ := of_unwrap run
      obtain ⟨src, sourceFound, run⟩ := of_unwrap run
      obtain ⟨_, wsFound, run⟩ := of_unwrap run
      obtain ⟨_, _, taking, run⟩ := of_bind run
      obtain ⟨rfl, taken⟩ := takeTile_eq taking
      split at run
      · cases run
        exact .refl _ _
      next gone left =>
      obtain ⟨label, loses⟩ := takenFrom_keys taken.symm
      obtain ⟨_, _, placing, clean⟩ := of_bind run
      have came := updateMonitor_gains rfl (fun _ _ added =>
      (addTile_receives added).retains) placing
      have out : src.GivesUp { src with workspaces := src.workspaces.set wsIdx left }
          [gone.tile.key] := set_givesUp wsFound label loses
      apply (loses_of_givesUp shape sourceFound out).thenRetains
      have cleans := updateMonitor_retains (fun _ _ _ _ clean =>
        (cleanUpIfIdle_shifts clean).retains) clean
      refine .trans ?_ cleans
      split
      · exact .trans came (setActiveMonitor_retains _)
      · exact came

lemma moveColumnToOutput_retains {activate : Bool} :
    Retained layout (layout.moveColumnToOutput output targetWsIdx activate) := by
  unfold moveColumnToOutput
  split
  · exact .pure
  next _ _ _ shape =>
  intro _ _ _ run
  obtain ⟨_, _, run⟩ := of_unwrap run
  obtain ⟨_, currentFound, run⟩ := of_unwrap run
  obtain ⟨_, wsFound, run⟩ := of_unwrap run
  split at run
  · exact moveToOutput_retains run
  · split at run
    · cases run
      exact .refl _ _
    next _ _ taken =>
    have loses := removeActiveColumn_loses taken
    obtain ⟨_, _, placing, ret⟩ := of_bind run
    have came := updateMonitor_gains rfl (fun _ _ added =>
    (addColumn_receives added).retains) placing
    refine (loses_of_givesUp shape currentFound (set_givesUp
      wsFound loses.label.symm loses.keys)).thenRetains ?_
    split at ret
    · cases ret
      exact .trans came (setActiveMonitor_retains _)
    · cases ret
      exact came

lemma looseWithRoom_covers {loose' : List Workspace}
    (made : (looseWithRoom loose).run next = some (loose', next')) :
    Covers loose next loose' next' ∧ windowsOf loose' = windowsOf loose := by
  unfold looseWithRoom at made
  split at made
  next empty =>
    cases made
    rw [isEmpty_iff.mp empty]
    exact ⟨.ofNew rfl rfl (.refl _), rfl⟩
  · cases made
    exact ⟨.refl _ _, rfl⟩

lemma addLoose_retains {dest : WorkspaceAddWindowTarget}
    (run : (layout.addLoose loose idx tile dest activate isFloating).run next =
      some (layout', next')) :
    Retains { layout with monitorSet := .noOutputs loose } next layout' next' [tile.id] := by
  obtain ⟨_, computed, ret⟩ := of_unwrap run
  obtain ⟨_, _, got, made, rfl⟩ := Vec.updateAt_eq_some.mp computed
  cases ret
  have gains := addTile_gains made
  have grown := gains.keys.map TileKey.id
  exact retains_of_loose rfl got gains.label grown

lemma addLooseWithRoom_retains (shape : layout.monitorSet = .noOutputs loose) (run : (do
      let workspaces ← looseWithRoom loose
      layout.addLoose workspaces 0 tile .auto activate isFloating).run next =
        some (layout', next')) : Retains layout next layout' next' [tile.id] := by
  obtain ⟨workspaces, _, made, added⟩ := of_bind run
  obtain ⟨covers, windows⟩ := looseWithRoom_covers made
  have retains := addLoose_retains added
  obtain ⟨_, pre⟩ := parts_noOutputs shape
  have mid : Layout.workspaces { layout with monitorSet := .noOutputs workspaces } =
      workspaces := nil_append _
  have stays : layout.StaysHome { layout with monitorSet := .noOutputs workspaces } :=
    staysHome_of_noOutputs shape rfl
  refine ⟨⟨?_, retains.parked, retains.move, ?_, ?_, retains.inside ∘ stays.inside⟩,
    stays.trans retains.stays⟩
  · rw [pre]
    exact covers.trans (mid ▸ retains.covers)
  · have grown := retains.windows
    rwa [mid, windows, ← pre] at grown
  · intro _
    exact retains.sound fun _ mem => nomatch mem

lemma addWindow_retains {win : Window} {dest : AddWindowTarget}
    (run : (layout.addWindow win dest isFloating activate).run next = some (layout', next')) :
    Retains layout next layout' next' [win.id] := by
  unfold addWindow at run
  split at run
  next _ _ _ shape =>
    obtain ⟨⟨_, _⟩, _, run⟩ := of_unwrap run
    obtain ⟨_, _, placing, ret⟩ := of_bind run
    have came := updateMonitor_gains shape (fun _ _ added =>
        (addTile_receives added).retains) placing
    split at ret
    · cases ret
      exact .trans came (setActiveMonitor_retains _)
    · cases ret
      exact came
  next loose shape =>
  have sameShape : { layout with monitorSet := .noOutputs loose } = layout := by rw [← shape]
  split at run
  · exact addLooseWithRoom_retains shape run
  · cases run
  · obtain ⟨_, _, run⟩ := of_unwrap run
    exact sameShape ▸ addLoose_retains run
  · split at run
    · exact addLooseWithRoom_retains shape run
    · obtain ⟨_, _, run⟩ := of_unwrap run
      exact sameShape ▸ addLoose_retains run

lemma mem_windowsOf {workspaces : List Workspace} :
    win ∈ windowsOf workspaces ↔ ∃ ws ∈ workspaces, ws.holdsWindow win = true := by
  simp only [windowsOf, map_flatMap, mem_flatMap, holdsWindow_iff]

lemma locateIn_eq_none {want : Workspace → Bool} {start : Nat}
    (missing : locateIn want mons start = none) :
    ∀ ws ∈ mons.flatMap Monitor.workspaces, want ws = false := by
  induction mons generalizing start with
  | nil => simp
  | cons _ _ ih =>
    unfold locateIn at missing
    split at missing
    · cases missing
    next lack =>
    intro ws mem
    rw [flatMap_cons, mem_append] at mem
    rcases mem with here | later
    · simpa using findIdx?_eq_none_iff.mp lack ws here
    · exact ih missing ws later

lemma loses_of_loose {left : Workspace} (shape : layout.monitorSet = .noOutputs loose)
    (got : loose[idx]? = some ws) (label : left.label = ws.label)
    (shrunk : (ws.keys.map TileKey.id).Perm (lost ++ left.keys.map TileKey.id)) :
    Loses layout next { layout with
      monitorSet := .noOutputs (if left.hasWindowsOrName then loose.set idx left
        else loose.eraseIdx idx) } next lost := by
  obtain ⟨_, pre⟩ := parts_noOutputs shape
  have post : workspaces { layout with
      monitorSet := .noOutputs (if left.hasWindowsOrName then loose.set idx left
        else loose.eraseIdx idx) } = if left.hasWindowsOrName then loose.set idx left
        else loose.eraseIdx idx := nil_append _
  refine ⟨?_, rfl, rfl, ?_, fun _ _ mem => (nomatch mem), staysHome_of_noOutputs shape rfl⟩
  · rw [pre, post]
    split
    · exact .ofSet got (congrArg WorkspaceLabel.id label)
        (.inl (congrArg WorkspaceLabel.name label))
    · exact .ofSubperm (eraseIdx_sublist _ _).subperm
  · rw [pre, post]
    simp only [windowsOf, map_flatMap]
    split
    · exact flatMap_set_loses got shrunk
    next idle =>
    have bare : left.keys = [] := keys_of_unused (Bool.eq_false_iff.mpr idle)
    rw [bare, map_nil, append_nil] at shrunk
    have erased := Vec.removeAt_perm (Vec.removeAt_eq_some.mpr ⟨got, rfl⟩)
    apply (erased.flatMap_right _).trans
    exact shrunk.append_right _

lemma takeWindow_loses (run : (layout.takeWindow win).run next =
      some ((gone, layout'), next')) : ∃ lost, Loses layout next layout' next' lost ∧
      ((lost = [] ∧ gone = none ∧ win ∉ windowsOf layout.workspaces) ∨
        (lost = [win] ∧ ∃ tile, gone = some tile ∧ tile.tile.id = win)) := by
  unfold takeWindow at run
  split at run
  next _ _ _ shape =>
    split at run
    next missing =>
      cases run
      refine ⟨[], (Retains.refl _ _).loses, .inl ⟨rfl, rfl, ?_⟩⟩
      rw [(parts_normal shape).2, mem_windowsOf]
      rintro ⟨ws, mem, holds⟩
      rw [locateIn_eq_none missing ws mem] at holds
      cases holds
    · obtain ⟨mon, monitorFound, run⟩ := of_unwrap run
      obtain ⟨ws, wsFound, run⟩ := of_unwrap run
      obtain ⟨⟨tile, left⟩, out, ret⟩ := of_unwrap run
      cases ret
      obtain ⟨label, loses, named⟩ := Workspace.removeTile_keys out
      have leaves : mon.GivesUp { mon with
          workspaces := mon.workspaces.set _ left } [tile.tile.key] :=
        set_givesUp wsFound label loses
      exact ⟨[tile.tile.id], loses_of_givesUp shape monitorFound leaves,
        .inr ⟨by rw [named], tile, rfl, named⟩⟩
  next _ shape =>
  split at run
  next missing =>
    cases run
    refine ⟨[], (Retains.refl _ _).loses, .inl ⟨rfl, rfl, ?_⟩⟩
    rw [(parts_noOutputs shape).2, mem_windowsOf]
    rintro ⟨ws, mem, holds⟩
    have lack := findIdx?_eq_none_iff.mp missing ws mem
    simp [holds] at lack
  · obtain ⟨_, wsFound, run⟩ := of_unwrap run
    obtain ⟨⟨tile, _⟩, out, ret⟩ := of_unwrap run
    cases ret
    obtain ⟨label, loses, named⟩ := Workspace.removeTile_keys out
    exact ⟨[tile.tile.id], loses_of_loose shape wsFound label
      (loses.map TileKey.id), .inr ⟨by rw [named], tile, rfl, named⟩⟩

lemma endDndScroll_retains : Retained layout (layout.endDndScroll landed) :=
  onEveryMonitor_retains
    (fun _ _ _ _ ended => (dndScrollGestureEnd_shifts ended).retains)

lemma forgetMove_retains (idle : layout.movingWindows = []) :
    Retains layout next { layout with interactiveMove := none } next [] :=
  .ofSameWorkspaces rfl rfl rfl rfl idle.symm

lemma movingWindows_starting (starting : layout.interactiveMove = some (.starting win)) :
    layout.movingWindows = [] := by
  unfold movingWindows movingTile
  rw [starting]
  rfl

lemma movingWindows_moving (moving : layout.interactiveMove = some (.moving data)) :
    layout.movingWindows = [data.tile.id] := by
  unfold movingWindows movingTile
  rw [moving]
  rfl

lemma movingWindows_none (none : layout.interactiveMove = none) : layout.movingWindows = [] := by
  unfold movingWindows movingTile
  rw [none]
  rfl

lemma cancelStartingMove_retains (idle : layout.movingWindows = []) :
    Retained layout (layout.cancelStartingMove win landed) := by
  intro _ _ _ run
  obtain ⟨_, _, ending, updated⟩ := of_bind run
  refine .trans (Retains.trans (forgetMove_retains idle)
    (endDndScroll_retains ending)) (updateFirst_retains ?_ updated)
  intro _ _ _ made
  obtain ⟨⟨_, _⟩, ran, rfl⟩ := Option.map_eq_some_iff.mp made
  exact activateWindow_sameWindows ran

/-- The windows on workspaces and the one in the air. -/
def heldWindows (layout : Layout) : List WindowId :=
  windowsOf layout.workspaces ++ layout.movingWindows

/-- The layout as a whole gains and loses these windows. -/
structure Handles (layout : Layout) (next : Nat) (layout' : Layout) (next' : Nat)
    (gained lost : List WindowId) : Prop where
  covers : Covers layout.workspaces next layout'.workspaces next'
  parked : layout'.parkedWorkspaces = layout.parkedWorkspaces
  held : (lost ++ layout'.heldWindows).Perm (gained ++ layout.heldWindows)
  sound : layout.Sound → layout'.Sound
  stays : layout.StaysHome layout'

lemma Shuffles.held (shuffles : Shuffles layout next layout' next' gained) :
    layout'.heldWindows.Perm (gained ++ layout.heldWindows) := by
  rw [heldWindows, heldWindows, shuffles.move, ← append_assoc]
  exact shuffles.windows.append_right _

lemma Retains.handles (retains : Retains layout next layout' next' gained) :
    Handles layout next layout' next' gained [] :=
  ⟨retains.covers, retains.parked, retains.held, retains.sound, retains.stays⟩

lemma Loses.handles (loses : Loses layout next layout' next' lost) :
    Handles layout next layout' next' [] lost := by
  refine ⟨loses.covers, loses.parked, ?_, loses.sound, loses.stays⟩
  rw [heldWindows, heldWindows, loses.move, nil_append, ← append_assoc]
  exact (loses.windows.append_right _).symm

lemma removeWindow_handles (run : (layout.removeWindow win landed).run next =
      some ((gone, layout'), next')) : ∃ lost, Handles layout next layout' next' [] lost ∧
      (layout.movingWindows = [] → layout'.movingWindows = []) ∧
      ((lost = [] ∧ gone = none ∧ win ∉ layout.heldWindows) ∨
        (lost = [win] ∧ ∃ tile, gone = some tile ∧ tile.tile.id = win)) := by
  -- Without the window in the air it is on a workspace or nowhere.
  have onWorkspaces : ∀ {mid : Layout} {later : Nat},
      Retains layout next mid later [] → win ∉ layout.movingWindows →
      (mid.takeWindow win).run later = some ((gone, layout'), next') →
      ∃ lost, Handles layout next layout' next' [] lost ∧
        (layout.movingWindows = [] → layout'.movingWindows = []) ∧
        ((lost = [] ∧ gone = none ∧ win ∉ layout.heldWindows) ∨ (lost = [win] ∧
            ∃ tile, gone = some tile ∧ tile.tile.id = win)) := by
    intro _ _ pre notMoving taken
    obtain ⟨lost, loses, outcome⟩ := takeWindow_loses taken
    refine ⟨lost, (pre.thenLoses loses).handles,
      fun idle => (loses.move.trans pre.move).trans idle, ?_⟩
    rcases outcome with ⟨rfl, rfl, lack⟩ | got
    · refine .inl ⟨rfl, rfl, fun mem => ?_⟩
      rcases mem_append.mp mem with onWorkspace | moving
      · exact lack (pre.windows.mem_iff.mpr onWorkspace)
      · exact notMoving moving
    · exact .inr got
  unfold removeWindow at run
  split at run
  next _ moving =>
    split at run
    next same =>
      obtain ⟨_, _, ending, ret⟩ := of_bind run
      cases ret
      have ends := endDndScroll_retains ending
      refine ⟨[win], ⟨ends.covers, ends.parked, ?_, ends.sound,
        ends.stays.primary, ends.stays.monitors⟩, fun _ => ends.move, .inr ⟨rfl, _, rfl, same⟩⟩
      rw [heldWindows, heldWindows, ends.move, movingWindows_moving moving, same]
      apply (perm_append_comm).trans
      rw [nil_append, append_assoc]
      exact (ends.windows.append_right _).trans (.refl _)
    next other =>
    refine onWorkspaces (.refl _ _) ?_ run
    rw [movingWindows_moving moving, mem_singleton]
    exact fun same => other same.symm
  next id starting =>
    have idle := movingWindows_starting starting
    split at run
    · obtain ⟨_, _, cancelling, taken⟩ := of_bind run
      exact onWorkspaces (cancelStartingMove_retains idle cancelling) (by simp [idle]) taken
    · exact onWorkspaces (.refl _ _) (by simp [idle]) run
  next none =>
  exact onWorkspaces (.refl _ _) (by simp [movingWindows_none none]) run

lemma interactiveMoveBegin_retains {renderIdx : Output → ℚ} :
    Retained layout (layout.interactiveMoveBegin win output renderIdx) := by
  intro next _ _ run
  unfold interactiveMoveBegin at run
  split at run
  · cases run
    exact .refl _ _
  next idle =>
  have noMove : layout.interactiveMove = none := by simpa using idle
  split at run
  · cases run
    exact .refl _ _
  · split at run
    · have begins : Retains layout next
          { layout with interactiveMove := some (.starting win) } next [] :=
        .ofSameWorkspaces rfl rfl rfl rfl (movingWindows_none noMove).symm
      refine .trans begins (onEveryMonitor_retains ?_ run)
      intro _ _ _ _ begun
      cases begun
      exact (dndScrollGestureBegin_shifts _).retains
    · cases run
      exact .refl _ _

lemma focusOutput_retains (output : Output) :
    Retains layout next (layout.focusOutput output) next [] := by
  unfold focusOutput
  split
  next shape _ => exact activeMonitor_retains shape
  · exact .refl _ _

lemma unsetSizing_retains (unfullscreened : (layout.updateFirst (fun ws => ws.hasWindow win)
      fun mode ws => ws.unsetFullscreen mode win).run next = some (mid, later))
    (unmaximized : (mid.updateFirst (fun ws => ws.hasWindow win)
      fun mode ws => ws.unsetMaximized mode win).run later = some (layout', next')) :
    Retains layout next layout' next' [] :=
  Retains.trans (updateFirst_retains
      (fun _ _ _ ran => (unsetFullscreen_gains ran).sameWindows) unfullscreened)
    (updateFirst_retains
      (fun _ _ _ ran => (unsetMaximized_gains ran).sameWindows) unmaximized)

lemma pickUp_handles (pre : Retains layout next mid later [])
    (idle : layout.movingWindows = []) (run : (do
      let (gone, layout) ← mid.removeWindow win landed
      let gone ← unwrap gone
      return { layout with
        interactiveMove := some (.moving
          { tile := gone.tile, output, isFloating := gone.isFloating }) }).run
        later = some (layout', next')) : Handles layout next layout' next' [] [] := by
  obtain ⟨⟨_, _⟩, _, removing, run⟩ := of_bind run
  obtain ⟨_, got, ret⟩ := of_unwrap run
  cases ret
  obtain ⟨_, drops, stillIdle, outcome⟩ := removeWindow_handles removing
  have noMove := stillIdle (pre.move.trans idle)
  rcases outcome with ⟨_, missing, _⟩ | ⟨rfl, _, here, named⟩
  · cases missing.symm.trans got
  · cases here.symm.trans got
    have stays := pre.stays.trans drops.stays
    refine ⟨pre.covers.trans drops.covers, drops.parked.trans pre.parked, ?_,
      drops.sound ∘ pre.sound, stays.primary, stays.monitors⟩
    have held := drops.held.trans (pre.handles.held)
    rw [heldWindows, noMove, append_nil, singleton_append] at held
    refine .trans ?_ held
    rw [nil_append, ← named]
    exact perm_append_comm

lemma interactiveMoveUpdate_handles {pastThreshold : Bool}
    (run : (layout.interactiveMoveUpdate win output pastThreshold landed).run
      next = some (layout', next')) : Handles layout next layout' next' [] [] := by
  unfold interactiveMoveUpdate at run
  split at run
  · cases run
    exact (Retains.refl _ _).handles
  next _ starting =>
    have idle := movingWindows_starting starting
    have forgets : Retains layout next { layout with interactiveMove := none } next [] :=
      forgetMove_retains idle
    dsimp only at run
    split at run
    · cases run
      exact (Retains.refl _ _).handles
    · split at run
      · cases run
      · split at run
        · cases run
          exact (Retains.refl _ _).handles
        · split at run
          · exact pickUp_handles forgets idle run
          · obtain ⟨_, _, unfullscreened, run⟩ := of_bind run
            obtain ⟨_, _, unmaximized, run⟩ := of_bind run
            exact pickUp_handles
              (Retains.trans forgets (unsetSizing_retains unfullscreened unmaximized)) idle run
  next data moving =>
  split at run
  · cases run
    exact (Retains.refl _ _).handles
  · split at run
    · cases run
      exact (Retains.refl _ _).handles
    · cases run
      have follows : Retains layout next
          { layout with interactiveMove := some (.moving { data with output }) } next [] := by
        refine .ofSameWorkspaces rfl rfl rfl rfl ?_
        rw [movingWindows_moving moving]
        rfl
      exact (Retains.trans follows (focusOutput_retains output)).handles

lemma dropWorkspace_shifts (run : (dropWorkspace mon insertWs).run next =
      some ((idx, mon'), next')) : mon.Shifts next mon' next' := by
  unfold dropWorkspace at run
  split at run
  · obtain ⟨_, _, ret⟩ := of_unwrap run
    cases ret
    exact .refl _ _
  · split at run
    · cases run
      exact .refl _ _
    · obtain ⟨_, _, growing, ret⟩ := of_bind run
      cases ret
      exact addWorkspaceAt_shifts growing

lemma dropTile_receives {pos : InsertPosition} {allow : Bool}
    (run : (dropTile mon tile insertWs pos allow).run next = some (mon', next')) :
    mon.Receives next mon' next' [tile.key] := by
  obtain ⟨⟨_, _⟩, _, growing, run⟩ := of_bind run
  obtain ⟨_, _, run⟩ := of_unwrap run
  apply (dropWorkspace_shifts growing).receives
  split at run
  · exact addTile_receives run
  · exact addTileToColumn_receives run
  · exact addTile_receives run
  · obtain ⟨_, _, adding, run⟩ := of_bind run
    obtain ⟨_, _, ran⟩ := of_unwrap run
    refine (addTile_receives adding).shift (updateWorkspace_shifts ?_ ran)
    intro _ _ made
    cases made
    apply Workspace.Gains.sameWindows
    refine .ofFloating rfl rfl rfl ?_
    split
    · exact .of_eq FloatingSpace.toggleTiled_keys
    · exact FloatingSpace.setMaximized_keys

lemma dropMoving_retains (run : (layout.dropMoving data drop).run next = some (layout', next')) :
    Retains layout next layout' next' [data.tile.id] := by
  unfold dropMoving at run
  split at run
  next shape =>
    split at run
    · exact updateMonitor_gains shape (fun _ _ dropped => (dropTile_receives dropped).retains) run
    · refine updateMonitor_gains shape (fun _ _ dropped => ?_) run
      obtain ⟨_, _, dropped⟩ := of_unwrap dropped
      exact (dropTile_receives dropped).retains
  next shape => exact addLooseWithRoom_retains shape run

lemma interactiveMoveEnd_handles
    (run : (layout.interactiveMoveEnd win drop landed).run next = some (layout', next')) :
    Handles layout next layout' next' [] [] := by
  unfold interactiveMoveEnd at run
  split at run
  · cases run
    exact (Retains.refl _ _).handles
  next _ starting =>
    split at run
    · exact (cancelStartingMove_retains (movingWindows_starting starting) run).handles
    · cases run
      exact (Retains.refl _ _).handles
  next _ moving =>
  split at run
  · obtain ⟨_, _, ending, dropped⟩ := of_bind run
    have lands := Retains.trans (endDndScroll_retains ending) (dropMoving_retains dropped)
    refine ⟨lands.covers, lands.parked, ?_, lands.sound, lands.stays.primary, lands.stays.monitors⟩
    have noMove : layout'.movingWindows = [] := lands.move
    rw [nil_append, nil_append, heldWindows, heldWindows, noMove,
      movingWindows_moving moving, append_nil]
    exact lands.windows.trans perm_append_comm
  · cases run
    exact (Retains.refl _ _).handles

end Layout

end Synoik
