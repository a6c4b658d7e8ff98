import Synoik.Accounting.WindowOps

/-!
# Operations on spaces

Workspaces that move along a strip or to another display, by command or by
dragging their thumbnail, and the operations on the active monitor alone.
-/

namespace Synoik

open List Monitor Workspace

open FreshM

variable {mon mon' : Monitor} {ws : Workspace} {idx next next' : Nat} {geometry : StripGeometry}
  {pos : ℚ}

/-- A workspace leaves one of the monitors. -/
structure ReleaseFrom (monitors : List Monitor) (next : Nat) (ws : Workspace)
    (monitors' : List Monitor) (next' : Nat) : Prop where
  count : monitors'.length = monitors.length
  covers : Covers (monitors.flatMap Monitor.workspaces) next
    (ws :: monitors'.flatMap Monitor.workspaces) next'
  windows : (windowsOf (monitors.flatMap Monitor.workspaces)).Perm
    (windowsOf (ws :: monitors'.flatMap Monitor.workspaces))
  sound : (∀ mon ∈ monitors, mon.Sound) → ∀ mon ∈ monitors', mon.Sound

/-- A workspace arrives at one of the monitors. -/
structure AdoptInto (monitors : List Monitor) (next : Nat) (ws : Workspace)
    (monitors' : List Monitor) (next' : Nat) : Prop where
  count : monitors'.length = monitors.length
  covers : Covers (ws :: monitors.flatMap Monitor.workspaces) next
    (monitors'.flatMap Monitor.workspaces) next'
  windows : (windowsOf (monitors'.flatMap Monitor.workspaces)).Perm
    (windowsOf (ws :: monitors.flatMap Monitor.workspaces))
  sound : (∀ mon ∈ monitors, mon.Sound) → ∀ mon ∈ monitors', mon.Sound

section Transfer

variable {mons monitors' : List Monitor} {next'' : Nat}

lemma windowsOf_perm {left right : List Workspace} (perm : left.Perm right) :
    (windowsOf left).Perm (windowsOf right) :=
  (perm.flatMap_right _).map _

lemma windowsOf_cons (ws : Workspace) (spaces : List Workspace) :
    windowsOf (ws :: spaces) = ws.keys.map TileKey.id ++ windowsOf spaces := by
  simp [windowsOf]

lemma flatMap_workspaces_set (got : mons[idx]? = some mon) (new : Monitor) :
    mons.flatMap Monitor.workspaces =
        (mons.take idx).flatMap Monitor.workspaces ++ (mon.workspaces ++
          (mons.drop (idx + 1)).flatMap Monitor.workspaces) ∧
      (mons.set idx new).flatMap Monitor.workspaces =
        (mons.take idx).flatMap Monitor.workspaces ++ (new.workspaces ++
          (mons.drop (idx + 1)).flatMap Monitor.workspaces) := by
  have lt := Vec.lt_length got
  constructor
  · conv_lhs => rw [Vec.eq_append_of_getElem? got]
    simp
  · rw [set_eq_take_append_cons_drop, if_pos lt]
    simp

lemma set_sound (got : mons[idx]? = some mon) (inv : mon.Sound → mon'.Sound) :
    (∀ mon ∈ mons, mon.Sound) → ∀ mon ∈ mons.set idx mon', mon.Sound := by
  intro all other mem
  rcases mem_or_eq_of_mem_set mem with old | rfl
  · exact all other old
  · exact inv (all mon (mem_of_getElem? got))

/-- The books of the monitor that lets the workspace go may be kept on a copy
that differs in what is in progress. -/
lemma Monitor.Releases.releaseFrom {held : Monitor} (releases : mon.Releases next ws mon' next')
    (got : mons[idx]? = some held) (strip : mon.workspaces = held.workspaces)
    (active : mon.activeWorkspaceIdx = held.activeWorkspaceIdx) :
    ReleaseFrom mons next ws (mons.set idx mon') next' := by
  obtain ⟨pre, post⟩ := flatMap_workspaces_set got mon'
  have mid : ((mons.take idx).flatMap Monitor.workspaces ++ ((ws :: mon'.workspaces) ++
        (mons.drop (idx + 1)).flatMap Monitor.workspaces)).Perm
      (ws :: (mons.set idx mon').flatMap Monitor.workspaces) := by
    rw [post]
    exact perm_middle
  have inside : held.Sound → mon.Inside := by
    intro inv
    unfold Monitor.Inside
    rw [strip, active]
    exact inv.active
  refine ⟨length_set, ?_, ?_, set_sound got fun inv => releases.sound (inside inv)⟩
  · rw [pre, ← strip]
    exact ((releases.covers.append_right _).append_left _).trans (.ofPerm mid.symm)
  · rw [pre, ← strip]
    refine .trans ?_ (windowsOf_perm mid)
    have windows : (windowsOf mon.workspaces).Perm (windowsOf (ws :: mon'.workspaces)) := by
      rw [windowsOf_cons]
      have keys := releases.keys.map TileKey.id
      rwa [map_append] at keys
    simp only [windowsOf_append]
    exact (windows.append_right _).append_left _

/-- A monitor took a workspace in. -/
structure Monitor.Houses (mon : Monitor) (next : Nat) (ws : Workspace)
    (mon' : Monitor) (next' : Nat) : Prop where
  covers : Covers (ws :: mon.workspaces) next mon'.workspaces next'
  windows : (windowsOf mon'.workspaces).Perm (windowsOf (ws :: mon.workspaces))
  sound : mon.Sound → mon'.Sound

lemma Monitor.Adopts.houses (adopts : mon.Adopts next ws mon' next') :
    mon.Houses next ws mon' next' := by
  refine ⟨adopts.covers, ?_, fun inv => adopts.sound inv.active⟩
  rw [windowsOf_cons]
  have keys := adopts.keys.map TileKey.id
  rwa [map_append] at keys

lemma Monitor.Houses.thenRetains {mon'' : Monitor} (houses : mon.Houses next ws mon' next')
    (retains : mon'.Retains next' mon'' next'' []) : mon.Houses next ws mon'' next'' :=
  ⟨houses.covers.trans retains.covers, retains.windows.trans houses.windows,
    retains.sound ∘ houses.sound⟩

lemma Monitor.Houses.adoptInto (got : mons[idx]? = some mon)
    (houses : mon.Houses next ws mon' next') :
    AdoptInto mons next ws (mons.set idx mon') next' := by
  obtain ⟨pre, post⟩ := flatMap_workspaces_set got mon'
  have mid : (ws :: mons.flatMap Monitor.workspaces).Perm
      ((mons.take idx).flatMap Monitor.workspaces ++ ((ws :: mon.workspaces) ++
          (mons.drop (idx + 1)).flatMap Monitor.workspaces)) := by
    rw [pre]
    exact perm_middle.symm
  refine ⟨length_set, ?_, ?_, set_sound got houses.sound⟩
  · rw [post]
    exact (Covers.ofPerm mid.symm).trans ((houses.covers.append_right _).append_left _)
  · rw [post]
    refine .trans ?_ (windowsOf_perm mid).symm
    simp only [windowsOf_append]
    exact (houses.windows.append_right _).append_left _

/-- A workspace that left arrives again, on the way perhaps given a new home. -/
lemma ReleaseFrom.adopt {monitors'' : List Monitor} {arriving : Workspace}
    (out : ReleaseFrom mons next ws monitors' next')
    (back : AdoptInto monitors' next' arriving monitors'' next'')
    (contents : arriving.contents = ws.contents) : ShuffleAll mons next monitors'' next'' [] := by
  have renamed : Preserves (ws :: monitors'.flatMap Monitor.workspaces) next'
      (arriving :: monitors'.flatMap Monitor.workspaces) next' := .ofMap (by simp [contents])
  refine ⟨back.count.trans out.count,
    (out.covers.trans renamed.covers).trans back.covers, ?_, back.sound ∘ out.sound⟩
  exact back.windows.trans (renamed.windows.trans out.windows.symm)

end Transfer

namespace Monitor

variable {mon'' : Monitor}

lemma Retains.ofContents (stays : mon.StaysHome mon')
    (contents : mon'.workspaces.map contents = mon.workspaces.map contents)
    (active : mon'.activeWorkspaceIdx = mon.activeWorkspaceIdx)
    (switch : mon'.workspaceSwitch = mon.workspaceSwitch) : Retains mon next mon' next [] := by
  have preserves : Preserves mon.workspaces next mon'.workspaces next := .ofMap contents
  have length : mon'.workspaces.length = mon.workspaces.length := by
    simpa using congrArg length contents
  have used : mon'.workspaces.map hasWindowsOrName =
      mon.workspaces.map hasWindowsOrName := by
    have through := congrArg (map fun contents : WorkspaceContents =>
      !contents.tiles.isEmpty || contents.name.isSome) contents
    simp only [map_map] at through
    exact through
  refine ⟨stays, preserves.covers, preserves.windows, fun inv => ⟨?_, ?_, ?_⟩⟩
  · rw [length]
    exact inv.enough
  · unfold Inside
    rw [length, active]
    exact inv.active
  · intro idle
    rw [lacksTrailingEmpty_eq, used, ← lacksTrailingEmpty_eq]
    exact inv.trailing (switch ▸ idle)

lemma Retains.ofSameList (out : mon'.output = mon.output)
    (same : mon'.workspaces = mon.workspaces)
    (active : mon'.activeWorkspaceIdx = mon.activeWorkspaceIdx)
    (switch : mon'.workspaceSwitch = mon.workspaceSwitch) : Retains mon next mon' next [] :=
  .ofContents (.ofHomes out (by rw [homes, homes, same])) (by rw [same]) active switch

lemma setHomeHere_stays (mon : Monitor) (idx : Nat) :
    mon.StaysHome (Layout.setHomeHere mon idx) := by
  refine ⟨rfl, ?_⟩
  intro _ mem
  obtain ⟨_, here, rfl⟩ := mem_map.mp mem
  obtain ⟨_, got⟩ := mem_iff_getElem?.mp here
  rw [Layout.setHomeHere, getElem?_modify] at got
  obtain ⟨original, has, rfl⟩ := Option.map_eq_some_iff.mp got
  split
  · exact .inl (OutputIdentity.fromOutput_matchesOutput _)
  · exact .inr (mem_map.mpr ⟨original, mem_of_getElem? has, rfl⟩)

lemma setHomeHere_retains (mon : Monitor) (idx next : Nat) :
    Retains mon next (Layout.setHomeHere mon idx) next [] :=
  .ofContents (setHomeHere_stays mon idx) (Vec.map_modify fun _ => rfl) rfl rfl

lemma rehomeWorkspace_retains (mon : Monitor) (idx next : Nat) :
    Retains mon next (mon.rehomeWorkspace idx) next [] := by
  have stamped : (Layout.setHomeHere mon idx).StaysHome (mon.rehomeWorkspace idx) :=
    .ofHomes rfl (stampedWorkspaces_map ignoresOrdinal_originalOutput _ _)
  refine .ofContents ((setHomeHere_stays mon idx).trans stamped) ?_ rfl rfl
  unfold rehomeWorkspace stampHomeOrdinals
  rw [stampedWorkspaces_map ignoresOrdinal_contents]
  exact Vec.map_modify fun _ => rfl

lemma beginThumbDragAt_retains (geometry : StripGeometry) (idx : Nat) (pos frac : ℚ) :
    Retains mon next (mon.beginThumbDragAt geometry idx pos frac).2 next [] := by
  unfold beginThumbDragAt
  split
  · exact .refl _ _
  · exact .ofSameList rfl rfl rfl rfl

lemma beginThumbDrag_retains (geometry : StripGeometry) (idx : Nat) (pos : ℚ) :
    Retains mon next (mon.beginThumbDrag geometry idx pos).2 next [] := by
  unfold beginThumbDrag
  split
  · exact .refl _ _
  · exact beginThumbDragAt_retains _ _ _ _

lemma updateThumbDrag_retains
    (ran : (mon.updateThumbDrag geometry pos).run next = some (mon', next')) :
    Retains mon next mon' next' [] := by
  unfold updateThumbDrag at ran
  split at ran
  · cases ran
    exact .refl _ _
  · split at ran
    · cases ran
      exact .ofSameList rfl rfl rfl rfl
    · obtain ⟨_, _, ran⟩ := of_unwrap ran
      obtain ⟨_, _, ret⟩ := of_unwrap ran
      cases ret
      exact .ofSameList rfl rfl rfl rfl

lemma finishThumbDrag_retains {landed : Option Nat}
    (ended : (mon.finishThumbDrag geometry).run next = some ((landed, mon'), next')) :
    Retains mon next mon' next' [] := by
  unfold finishThumbDrag at ended
  split at ended
  · cases ended
    exact .refl _ _
  · have dropped : Retains mon next { mon with thumbDrag := none } next [] :=
      .ofSameList rfl rfl rfl rfl
    dsimp only at ended
    split at ended
    · cases ended
      exact dropped
    · obtain ⟨_, _, ended⟩ := of_unwrap ended
      split at ended
      · cases ended
        exact dropped
      · obtain ⟨_, _, moving, ret⟩ := of_bind ended
        cases ret
        exact dropped.trans (moveWorkspaceToIdx_shifts moving).retains

lemma lastFiller_eq_some {spaces : List Workspace} (got : lastFiller spaces = some idx) :
    idx + 1 < spaces.length ∧ ∃ ws, spaces[idx]? = some ws ∧ ws.hasWindowsOrName = false := by
  have mem := mem_of_getLast? got
  obtain ⟨inside, idle⟩ := mem_filter.mp mem
  obtain ⟨ws, here, idle⟩ := (Option.any_eq_true _ _).mp idle
  exact ⟨by have := mem_range.mp inside; omega, ws, here, by simpa using idle⟩

lemma removeFiller_retains {taken : Workspace} (notLast : idx + 1 < mon.workspaces.length)
    (got : mon.workspaces[idx]? = some ws) (idle : ws.hasWindowsOrName = false)
    (gone : (mon.removeWorkspaceByIdx idx).run next = some ((taken, mon'), next')) :
    Retains mon next mon' next' [] := by
  have releases := removeWorkspaceByIdx_releases gone
  obtain ⟨_, present, rfl, _⟩ := removeWorkspaceByIdx_eq gone
  have here : (mon.withSuccessor idx next).1 = mon := by
    unfold withSuccessor
    rw [if_neg (by omega)]
  rw [here, got] at present
  cases present
  have bare : ws.keys = [] := keys_of_unused idle
  refine ⟨⟨releases.output, releases.homes⟩, releases.covers.trans
    (.ofSubperm (sublist_cons_self _ _).subperm), ?_, fun inv => releases.sound inv.active⟩
  have keys := releases.keys
  rw [setOutput_keys, bare, nil_append] at keys
  exact (keys.map TileKey.id).symm

lemma shedRounds_retains {n rounds : Nat}
    (shed : (shedRounds n rounds mon).run next = some (mon', next')) :
    Retains mon next mon' next' [] := by
  induction rounds generalizing mon next with
  | zero =>
    cases shed
    exact .refl _ _
  | succ _ ih =>
    unfold shedRounds at shed
    split at shed
    · split at shed
      · cases shed
        exact .refl _ _
      next _ got =>
      obtain ⟨⟨_, _⟩, _, gone, shed⟩ := of_bind shed
      obtain ⟨notLast, _, here, idle⟩ := lastFiller_eq_some got
      exact (removeFiller_retains notLast here idle gone).trans (ih shed)
    · cases shed
      exact .refl _ _

variable {frac : ℚ}

lemma takeOverDraggedWorkspace_houses {shedTo : Option Nat}
    (taken : (mon.takeOverDraggedWorkspace geometry ws idx frac pos shedTo).run
      next = some (mon', next')) : Houses mon next ws mon' next' := by
  obtain ⟨_, _, inserting, taken⟩ := of_bind taken
  have houses := (insertWorkspace_adopts inserting).houses
  cases shedTo with
  | none =>
    dsimp only [FreshM.pure_bind] at taken
    split at taken
    · cases taken
      exact houses
    · cases taken
      exact houses.thenRetains (beginThumbDragAt_retains _ _ _ _)
  | some =>
    obtain ⟨_, _, shedding, taken⟩ := of_bind taken
    have settled := houses.thenRetains (shedRounds_retains shedding)
    dsimp only at taken
    split at taken
    · cases taken
      exact settled
    · cases taken
      exact settled.thenRetains (beginThumbDragAt_retains _ _ _ _)

lemma takeDraggedWorkspace_none
    (taken : (mon.takeDraggedWorkspace geometry).run next = some (none, next')) : next = next' := by
  unfold takeDraggedWorkspace at taken
  split at taken
  · cases taken
    rfl
  · obtain ⟨_, _, _, ret⟩ := of_bind taken
    cases ret

lemma takeDraggedWorkspace_releases {wasAt : Nat}
    (taken : (mon.takeDraggedWorkspace geometry).run next =
      some (some (ws, wasAt, frac, mon'), next')) :
    Releases { mon with thumbDrag := none } next ws mon' next' := by
  unfold takeDraggedWorkspace at taken
  split at taken
  · cases taken
  · obtain ⟨⟨_, _⟩, _, gone, ret⟩ := of_bind taken
    cases ret
    exact removeWorkspaceByIdx_releases gone

end Monitor

lemma MonitorOp.apply_shifts {mon : Monitor} (op : MonitorOp) : mon.Shifting (op.apply mon) := by
  intro _ _ _ done
  cases op with
  | switchWorkspaceUp | switchWorkspaceDown | switchWorkspace =>
    exact activateWorkspace_shifts done
  | switchWorkspaceAutoBackAndForth => exact switchWorkspaceAutoBackAndForth_shifts done
  | switchWorkspacePrevious => exact switchWorkspacePrevious_shifts done
  | moveToWorkspaceUp | moveToWorkspaceDown => exact moveToNeighbour_shifts done
  | moveColumnToWorkspaceUp | moveColumnToWorkspaceDown =>
    exact moveColumnWith_shifts moveToNeighbour_shifts done
  | moveColumnToWorkspace =>
    exact moveColumnWith_shifts moveToWorkspace_shifts done
  | moveWorkspaceUp | moveWorkspaceDown => exact moveActiveTo_shifts done

namespace Layout

variable {layout layout' : Layout}

lemma moveWorkspaceToIdx_retains {reference : Option (Option Output × Nat)} {newIdx : Nat} :
    Retained layout (layout.moveWorkspaceToIdx reference newIdx) := by
  have moves : ∀ idx, Monitor.Retaining (Monitor.moveWorkspaceToIdx · idx newIdx) :=
    fun _ _ _ _ _ moved => (moveWorkspaceToIdx_shifts moved).retains
  unfold moveWorkspaceToIdx
  split
  · exact onOutput_retains (moves _)
  · exact onActiveMonitor_retains (moves _)
  · exact onActiveMonitor_retains fun mon => moves mon.activeWorkspaceIdx mon

lemma closeWorkspace_retains {id : WorkspaceId} :
    Retained layout (layout.closeWorkspace id) := fun _ _ _ closed =>
  onFirstMonitor_retains (fun _ _ _ _ _ closed => (closeWorkspace_shifts closed).retains) closed

lemma moveWorkspaceToOutputById_retains {oldIdx : Nat}
    {oldOutput : Option Output} {newOutput : Output} :
    Retained layout (layout.moveWorkspaceToOutputById oldIdx oldOutput newOutput) := by
  intro next _ _ moved
  unfold moveWorkspaceToOutputById at moved
  split at moved
  · cases moved
    exact .refl _ _
  next mons primary active shape =>
  obtain ⟨currentIdx, _, moved⟩ := of_unwrap moved
  obtain ⟨targetIdx, targetFound, moved⟩ := of_unwrap moved
  obtain ⟨_, got, moved⟩ := of_unwrap moved
  split at moved
  · cases moved
    exact .refl _ _
  · split at moved
    · refine updateMonitor_retains (fun _ _ _ _ rehomed => ?_) moved
      cases rehomed
      exact setHomeHere_retains _ _ _
    next ne =>
    obtain ⟨⟨_, less⟩, _, removing, moved⟩ := of_bind moved
    obtain ⟨_, last, inserting, ret⟩ := of_bind moved
    have releases := removeWorkspaceByIdx_releases removing
    obtain ⟨dest, grown, has, added, rfl⟩ := updateMonitor_normal rfl inserting
    have adopts := insertWorkspace_adopts added
    have shuffles := (releases.releaseFrom got rfl rfl).adopt
      (adopts.houses.adoptInto has) rfl
    have here : dest.output = newOutput := by
      obtain ⟨lt, same, _⟩ := findIdx?_eq_some_iff_getElem.mp targetFound
      rw [getElem?_set_ne ne, getElem?_eq_getElem lt] at has
      cases has
      simpa using same
    have left : Forall₂ Monitor.StaysHome mons (mons.set currentIdx less) :=
      Vec.forall₂_set .refl got ⟨releases.output, releases.homes⟩
    have joined : Forall₂ Monitor.StaysHome (mons.set currentIdx less)
        ((mons.set currentIdx less).set targetIdx grown) := by
      refine Vec.forall₂_set .refl has ⟨adopts.output, ?_⟩
      intro home mem
      rcases adopts.homes home mem with old | rfl
      · exact old
      · left
        rw [here]
        exact OutputIdentity.fromOutput_matchesOutput newOutput
    have stored : Retains layout next { layout with
        monitorSet := .normal
          ((mons.set currentIdx less).set targetIdx grown) primary active } last [] :=
      retains_of_normal shape rfl rfl rfl
        ⟨shuffles, Vec.forall₂_trans Monitor.StaysHome.trans left joined⟩
    split at ret
    · cases ret
      exact stored.trans (setActiveMonitor_retains _)
    · cases ret
      exact stored

variable {out : Output}

lemma moveWorkspaceToOutput_retains : Retained layout (layout.moveWorkspaceToOutput out) := by
  unfold moveWorkspaceToOutput
  split
  · exact .pure
  · intro _ _ _ moved
    obtain ⟨_, _, moved⟩ := of_unwrap moved
    exact moveWorkspaceToOutputById_retains moved

lemma beginThumbDrag_retains {idx : Nat} :
    Retained layout (layout.beginThumbDrag geometry out idx pos) := by
  intro _ _ _ begun
  refine onOutput_retains (fun _ _ _ _ begun => ?_) begun
  cases begun
  exact Monitor.beginThumbDrag_retains _ _ _

lemma carryDraggedWorkspace_shuffles {destination : Output}
    (held : (layout.carryDraggedWorkspace geometry destination pos).run next =
      some (layout', next')) : Shuffles layout next layout' next' [] := by
  unfold carryDraggedWorkspace at held
  split at held
  · cases held
    exact .refl _ _
  next mons _ _ shape =>
  split at held
  next fromIdx toIdx _ _ =>
    split at held
    · cases held
      exact .refl _ _
    next ne =>
    obtain ⟨_, got, held⟩ := of_unwrap held
    obtain ⟨_, _, taking, held⟩ := of_bind held
    split at held
    · cases held
      cases takeDraggedWorkspace_none taking
      exact .refl _ _
    next _ _ _ left =>
    obtain ⟨dest, has, held⟩ := of_unwrap held
    obtain ⟨_, _, taken, ret⟩ := of_bind held
    cases ret
    have released := (takeDraggedWorkspace_releases taking).releaseFrom got rfl rfl
    have still : (mons.set fromIdx left)[toIdx]? = some dest := by
      rw [getElem?_set_ne ne, has]
    have adopted := (takeOverDraggedWorkspace_houses taken).adoptInto still
    exact shuffles_of_normal shape rfl rfl rfl (released.adopt adopted rfl)
  · cases held
    exact .refl _ _

lemma finishThumbDragOn_retains : Retained layout (layout.finishThumbDragOn geometry out) := by
  intro next _ next' ended
  unfold finishThumbDragOn at ended
  split at ended
  next mons primary active idx shape _ =>
    obtain ⟨_, got, ended⟩ := of_unwrap ended
    obtain ⟨⟨_, dropped⟩, _, dropping, ended⟩ := of_bind ended
    have kept := finishThumbDrag_retains dropping
    dsimp only at ended
    split at ended
    · cases ended
      exact retains_of_normal shape rfl rfl rfl (.set got kept)
    · cases ended
      exact retains_of_normal shape rfl rfl rfl (.set got kept)
    next pos _ _ =>
    split at ended
    · cases ended
      exact retains_of_normal shape rfl rfl rfl (.set got kept)
    · cases ended
      have rehomed := kept.trans (rehomeWorkspace_retains dropped pos next')
      have stored : Retains layout next { layout with
          thumbCarry := none
          monitorSet := .normal
            (mons.set idx (dropped.rehomeWorkspace pos)) primary active } next' [] :=
        retains_of_normal shape rfl rfl rfl (.set got rehomed)
      exact stored.trans (focusOutput_retains _)
  · cases ended
    exact .refl _ _

lemma returnCarried_shuffles {mons monitors' : List Monitor} {carry : ThumbCarry}
    (ret : (returnCarried mons geometry carry).run next = some (monitors', next')) :
    ShuffleAll mons next monitors' next' [] := by
  unfold returnCarried at ret
  split at ret
  next holderIdx homeIdx _ _ =>
    split at ret
    · cases ret
      exact .refl _ _
    next ne =>
    obtain ⟨_, got, ret⟩ := of_unwrap ret
    obtain ⟨_, _, taking, ret⟩ := of_bind ret
    split at ret
    · cases ret
      cases takeDraggedWorkspace_none taking
      exact .refl _ _
    next _ _ _ left =>
    obtain ⟨home, has, ret⟩ := of_unwrap ret
    obtain ⟨_, _, inserting, ret⟩ := of_bind ret
    have released := (takeDraggedWorkspace_releases taking).releaseFrom got rfl rfl
    have still : (mons.set holderIdx left)[homeIdx]? = some home := by
      rw [getElem?_set_ne ne, has]
    have houses := (insertWorkspace_adopts inserting).houses
    split at ret
    · obtain ⟨_, _, shedding, ret⟩ := of_bind ret
      cases ret
      exact released.adopt ((houses.thenRetains
        (shedRounds_retains shedding)).adoptInto still) rfl
    · cases ret
      exact released.adopt (houses.adoptInto still) rfl
  · cases ret
    exact .refl _ _

lemma cancelThumbDrag_retainAll (mons : List Monitor) (next : Nat) :
    RetainAll mons next (mons.map Monitor.cancelThumbDrag) next [] := by
  induction mons with
  | nil => exact .refl _ _
  | cons _ _ ih => exact .cons (.ofSameList rfl rfl rfl rfl) ih

lemma cancelThumbDrags_shuffles (cancelled : (layout.cancelThumbDrags geometry).run next =
      some (layout', next')) : Shuffles layout next layout' next' [] := by
  unfold cancelThumbDrags at cancelled
  split at cancelled
  · cases cancelled
    have forgets : Retains layout next { layout with thumbCarry := none } next [] :=
      .ofSameWorkspaces rfl rfl rfl rfl rfl
    exact forgets.toShuffles
  next _ _ _ shape =>
  split at cancelled
  · obtain ⟨_, _, returning, done⟩ := of_bind cancelled
    cases done
    exact shuffles_of_normal shape rfl rfl rfl ((returnCarried_shuffles returning).trans
        (cancelThumbDrag_retainAll _ _).toShuffleAll)
  · cases cancelled
    exact shuffles_of_normal shape rfl rfl rfl (cancelThumbDrag_retainAll _ _).toShuffleAll

lemma cancelThumbDrags_stays (nothing : layout.thumbCarry = none)
    (cancelled : (layout.cancelThumbDrags geometry).run next = some (layout', next')) :
    layout.StaysHome layout' := by
  unfold cancelThumbDrags at cancelled
  rw [nothing] at cancelled
  split at cancelled
  next shape =>
    cases cancelled
    exact staysHome_of_noOutputs shape shape
  next shape =>
  cases cancelled
  exact staysHome_of_normal shape rfl (cancelThumbDrag_retainAll _ next).stays

section

variable (toggled : (layout.toggleOverview geometry).run next = some (layout', next'))
include toggled

lemma toggleOverview_cases :
    ∃ opened later, Retains layout next opened later [] ∧ opened.thumbCarry = layout.thumbCarry ∧
      ((layout' = opened ∧ later = next') ∨
        (opened.cancelThumbDrags geometry).run later = some (layout', next')) := by
  obtain ⟨opened, later, opens, toggled⟩ := of_bind toggled
  have marked : Retains layout next { layout with overviewOpen := !layout.overviewOpen } next [] :=
    .ofSameWorkspaces rfl rfl rfl rfl rfl
  have shown := onEveryMonitor_retains (fun _ _ _ _ new => by
    cases new
    exact .ofSameList rfl rfl rfl rfl) opens
  have carry : opened.thumbCarry = layout.thumbCarry := by
    unfold onEveryMonitor at opens
    split at opens
    · cases opens
      rfl
    · obtain ⟨_, _, _, ret⟩ := of_bind opens
      cases ret
      rfl
  refine ⟨opened, later, marked.trans shown, carry, ?_⟩
  split at toggled
  · cases toggled
    exact .inl ⟨rfl, rfl⟩
  · exact .inr toggled

lemma toggleOverview_shuffles : Shuffles layout next layout' next' [] := by
  obtain ⟨_, _, shown, _, ⟨rfl, rfl⟩ | cancelled⟩ := toggleOverview_cases toggled
  · exact shown.toShuffles
  · exact shown.toShuffles.trans (cancelThumbDrags_shuffles cancelled)

end

end Layout

end Synoik
