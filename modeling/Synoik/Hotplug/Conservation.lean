import Synoik.Hotplug.Progress

/-!
# Hotplug loses nothing

However displays come and go, the windows are the same, every workspace with
windows or a name is still there with the same windows and name, and what is
parked is unused and has a home. Names are gained only from the workspaces of
an earlier session that wait for a display.
-/

namespace Synoik

open List Monitor

open FreshM

variable {ws : Workspace}

/-- Where every used workspace is still there, an unused one is none of them. -/
lemma id_not_used {pre post : List Workspace}
    (kept : usedContents pre ⊆ usedContents post) (nodup : (post.map Workspace.id).Nodup)
    (mem : ws ∈ post) (idle : ws.hasWindowsOrName = false) :
    ws.id ∉ (usedContents pre).map WorkspaceContents.id := by
  intro used
  obtain ⟨_, listed, same⟩ := mem_map.mp used
  obtain ⟨_, here, rfl⟩ := mem_map.mp (kept listed)
  obtain ⟨has, inUse⟩ := mem_filter.mp here
  cases inj_on_of_nodup_map nodup has mem same
  rw [idle] at inUse
  cases inUse

lemma mem_usedContents {workspaces : List Workspace} (mem : ws ∈ workspaces)
    (used : ws.hasWindowsOrName = true) : ws.contents ∈ usedContents workspaces :=
  mem_map.mpr ⟨ws, mem_filter.mpr ⟨mem, used⟩, rfl⟩

namespace Layout

variable {layout layout' pre : Layout} {next next' : Nat}

/-- The id at the end of a display's strip. -/
def lastId? (layout : Layout) (output : Output) : Option WorkspaceId := do
  let idx ← layout.monitorIdx output
  let mon ← layout.monitors[idx]?
  mon.ids.getLast?

/-- Since `before` only names from a list were given, to workspaces that nobody
used then; neither was the one now at the end of the display's strip. -/
structure Grants (before : Layout) (output : Output) (names : List String)
    (layout : Layout) : Prop where
  windows : (windowsOf layout.allWorkspaces).Perm (windowsOf before.allWorkspaces)
  kept : usedContents before.allWorkspaces ⊆ usedContents layout.allWorkspaces
  named : layout.allWorkspaces.filterMap Workspace.name ⊆
    before.allWorkspaces.filterMap Workspace.name ++ names
  last : ∀ id ∈ layout.lastId? output,
    id ∉ (usedContents before.allWorkspaces).map WorkspaceContents.id

variable {output : Output} {id : WorkspaceId} {names : List String}
  {mode : WindowingMode} {mon : Monitor} {name : String}
  {entry : NamedWorkspace} {ops : List Op}

lemma lastId?_set {mons : List Monitor} {primary active idx : Nat}
    {mon' : Monitor} (shape : layout.monitorSet = .normal mons primary active)
    (loc : layout.monitorIdx output = some idx)
    (got : mons[idx]? = some mon) (same : mon'.output = mon.output) : lastId? { layout with
      monitorSet := .normal (mons.set idx mon') primary active } output = mon'.ids.getLast? := by
  unfold lastId?
  rw [monitorIdx_set shape got same, loc, parts_normal rfl |>.1]
  simp [getElem?_set_self (Vec.lt_length got)]

lemma nameWorkspace_lastId?
    (run : (layout.nameWorkspace id name).run next = some (layout', next')) :
    layout'.lastId? output = layout.lastId? output := by
  obtain ⟨rfl, ⟨rfl, _⟩ | ⟨_, _, _, idx, mon, wsIdx, ws,
    shape, got, present, rfl, rfl⟩ | ⟨_, wsIdx, ws, shape, present, rfl, rfl⟩⟩ :=
      nameWorkspace_cases run
  · rfl
  · have has := (parts_normal shape).1
    have sameIds : { mon with
        workspaces := mon.workspaces.set wsIdx (named ws name) }.ids =
          mon.ids := Vec.map_set_of_eq present rfl
    have sameOutput : { mon with
        workspaces := mon.workspaces.set wsIdx (named ws name) }.output = mon.output := rfl
    generalize { mon with
      workspaces := mon.workspaces.set wsIdx (named ws name) } = renamed
        at sameIds sameOutput ⊢
    unfold lastId?
    rw [monitorIdx_set shape got sameOutput, parts_normal rfl |>.1, has]
    cases layout.monitorIdx output with
    | none => rfl
    | some pos =>
      by_cases here : idx = pos
      · subst here
        simp [getElem?_set_self (Vec.lt_length got), got, sameIds]
      · simp [getElem?_set_ne here]
  · unfold lastId? monitorIdx
    rw [(parts_noOutputs shape).1, parts_noOutputs rfl |>.1]

lemma insertRestoreWorkspace_grants {home : OutputIdentity} {ordinal second : Nat}
    {restored : Layout} (uniq : Distinct layout.allIds next)
    (grants : Grants pre output names layout)
    (puts : (layout.insertRestoreWorkspace output home ordinal).run next =
      some ((some id, restored), second)) : Grants pre output names restored ∧
      id ∉ (usedContents pre.allWorkspaces).map WorkspaceContents.id := by
  have keeps := insertRestoreWorkspace_keeps puts
  have distinct' := keeps.preserves.ids.distinct uniq
  have kept : usedContents pre.allWorkspaces ⊆ usedContents restored.allWorkspaces :=
    fun contents mem => keeps.preserves.contents.mem_iff.mpr (grants.kept mem)
  have partly : (∀ id ∈ restored.lastId? output,
      id ∉ (usedContents pre.allWorkspaces).map WorkspaceContents.id) →
        Grants pre output names restored := fun last =>
    ⟨keeps.preserves.windows.trans grants.windows, kept,
      fun name mem => grants.named (keeps.preserves.names.mem_iff.mp mem), last⟩
  rcases insertRestoreWorkspace_cases puts with ⟨impossible, _⟩ |
    ⟨mons, primary, active, idx, mon, mon', _, shape, loc, got, same, added, rfl⟩
  · cases impossible
  · cases same
    have sameOutput := (insertRestoreWorkspace_spec added).1.output
    have listed : ∀ ws ∈ mon.workspaces, ws ∈ layout.allWorkspaces := by
      intro ws mem
      unfold allWorkspaces
      rw [(parts_normal shape).2]
      exact mem_append_left _ (mem_flatMap.mpr ⟨mon, mem_of_getElem? got, mem⟩)
    rcases insertRestoreWorkspace_claims added with
      ⟨_, last, atEnd, rfl, rfl, claimed⟩ | ⟨_, origin, idle, inv⟩
    · -- The full strip ends where it did.
      have ended : layout.lastId? output = some last.id := by
        unfold lastId? ids
        simp [loc, (parts_normal shape).1, got, atEnd]
      have free := grants.last last.id ended
      have sameIds : mon'.ids = mon.ids := by
        rw [getLast?_eq_getElem?] at atEnd
        rw [claimed]
        exact Vec.map_set_of_eq atEnd rfl
      refine ⟨partly ?_, free⟩
      intro id mem
      rw [lastId?_set shape loc got sameOutput, sameIds] at mem
      simp only [ids, getLast?_map, atEnd, Option.map_some,
        Option.mem_def, Option.some.injEq] at mem
      rwa [← mem]
    · refine ⟨partly ?_, ?_⟩
      · intro _ mem
        rw [lastId?_set shape loc got sameOutput] at mem
        obtain ⟨_, atEnd, unused⟩ := Monitor.lacksTrailingEmpty_eq_false.mp (inv.trailing idle)
        rw [← getLast?_eq_getElem?] at atEnd
        simp only [ids, getLast?_map, atEnd, Option.map_some,
          Option.mem_def, Option.some.injEq] at mem
        rw [← mem]
        refine id_not_used kept distinct'.nodup ?_ unused
        unfold allWorkspaces
        rw [parts_normal rfl |>.2]
        refine mem_append_left _ (mem_flatMap.mpr ⟨mon', ?_, mem_of_getLast? atEnd⟩)
        exact mem_set (Vec.lt_length got) _
      · rcases origin with rfl | ⟨ws, mem, rfl, unneeded⟩
        · intro used
          obtain ⟨_, has, same⟩ := mem_map.mp used
          obtain ⟨other, here, rfl⟩ := mem_map.mp (grants.kept has)
          have lt := uniq.below other.id
            (mem_map.mpr ⟨other, (mem_filter.mp here).1, rfl⟩)
          exact Nat.lt_irrefl _ (same ▸ lt)
        · apply id_not_used grants.kept uniq.nodup (listed ws mem)
          simp only [Workspace.isSubstantial, Bool.or_eq_false_iff] at unneeded
          exact unneeded.1

lemma nameWorkspace_grants (grants : Grants pre output names layout) (listed : name ∈ names)
    (free : id ∉ (usedContents pre.allWorkspaces).map WorkspaceContents.id)
    (run : (layout.nameWorkspace id name).run next = some (layout', next')) :
    Grants pre output names layout' := by
  obtain ⟨rfl, ⟨rfl, _⟩ | renames⟩ := nameWorkspace_renames run
  · exact grants
  · obtain ⟨_, _, whole, rewritten, rfl, _⟩ := renames.exchange
    refine ⟨renames.windows.trans grants.windows, ?_, ?_, ?_⟩
    · intro _ used
      obtain ⟨other, here, rfl⟩ := mem_map.mp (grants.kept used)
      obtain ⟨has, inUse⟩ := mem_filter.mp here
      rcases mem_cons.mp (whole.mem_iff.mp has) with rfl | stays
      · exact (free (mem_map.mpr ⟨_, used, rfl⟩)).elim
      · exact mem_usedContents (rewritten.mem_iff.mpr (.tail _ stays)) inUse
    · intro _ mem
      obtain ⟨other, here, carries⟩ := mem_filterMap.mp mem
      rcases mem_cons.mp (rewritten.mem_iff.mp here) with rfl | stays
      · cases carries
        exact mem_append_right _ listed
      · refine grants.named (mem_filterMap.mpr ⟨other, ?_, carries⟩)
        exact whole.mem_iff.mpr (.tail _ stays)
    · rw [nameWorkspace_lastId? run]
      exact grants.last

lemma Serves.grants (serves : Serves output layout next entry layout' next')
    (listed : entry.name ∈ names) (uniq : Distinct layout.allIds next)
    (grants : Grants pre output names layout) : Grants pre output names layout' := by
  cases serves with
  | skipped | unplaced => exact grants
  | placed _ puts naming =>
    obtain ⟨restores, idle⟩ := insertRestoreWorkspace_grants uniq grants puts
    exact nameWorkspace_grants restores listed idle naming

lemma cleanUpIfIdle_keeps (run : (layout.onOutput output cleanUpIfIdle).run next =
      some (layout', next')) : Keeps layout next layout' next' := by
  unfold onOutput at run
  split at run
  · cases run
    exact .refl _ _
  · rcases updateMonitor_cases run with ⟨_, _, rfl, rfl⟩ |
      ⟨_, _, _, mon, clean, shape, got, cleans, rfl⟩
    · exact .refl _ _
    · refine .ofMonitor shape got ?_
      unfold cleanUpIfIdle at cleans
      split at cleans
      · exact (cleanUpWorkspaces_grew cleans).2.1.preserves
      · cases cleans
        exact .refl _ _

lemma Serves.pending (serves : Serves output layout next entry layout' next') :
    layout'.pendingNamed = layout.pendingNamed := by
  cases serves with
  | skipped | unplaced => rfl
  | placed _ puts naming =>
    rcases insertRestoreWorkspace_cases puts with ⟨impossible, _⟩ |
      ⟨_, _, _, _, _, _, _, _, _, _, _, _, rfl⟩
    · cases impossible
    · obtain ⟨_, ⟨rfl, _⟩ | ⟨_, _, _, _, _, _, _, _, _, _, _, rfl⟩ |
        ⟨_, _, _, _, _, _, rfl⟩⟩ := nameWorkspace_cases naming <;> rfl

/-- Nothing that anybody uses got lost between the two layouts, and the new names
are pending ones. -/
structure Conserves (layout layout' : Layout) : Prop where
  windows : (windowsOf layout'.allWorkspaces).Perm (windowsOf layout.allWorkspaces)
  kept : usedContents layout.allWorkspaces ⊆ usedContents layout'.allWorkspaces
  named : layout'.allWorkspaces.filterMap Workspace.name ⊆
    layout.allWorkspaces.filterMap Workspace.name ++ layout.pendingNamed.map NamedWorkspace.name
  pending : layout'.pendingNamed ⊆ layout.pendingNamed

lemma Conserves.refl (layout : Layout) : Conserves layout layout :=
  ⟨.refl _, fun _ mem => mem, fun _ mem => mem_append_left _ mem, fun _ mem => mem⟩

lemma Conserves.trans {layout'' : Layout} (one : Conserves layout layout')
    (two : Conserves layout' layout'') : Conserves layout layout'' := by
  refine ⟨two.windows.trans one.windows, fun _ mem => two.kept (one.kept mem), ?_,
    fun _ mem => one.pending (two.pending mem)⟩
  intro _ mem
  rcases mem_append.mp (two.named mem) with old | waits
  · exact one.named old
  · obtain ⟨entry, listed, rfl⟩ := mem_map.mp waits
    exact mem_append_right _ (mem_map.mpr ⟨entry, one.pending listed, rfl⟩)

lemma Keeps.conserves (keeps : Keeps layout next layout' next')
    (pending : layout'.pendingNamed ⊆ layout.pendingNamed) : Conserves layout layout' where
  windows := keeps.preserves.windows
  kept := fun _ mem => keeps.preserves.contents.mem_iff.mpr mem
  named := fun _ mem =>
    mem_append_left _ (keeps.preserves.names.mem_iff.mp mem)
  pending := pending

lemma materializePendingNamed_conserves (uniq : Distinct layout.allIds next)
    (last : ∀ id ∈ layout.lastId? output,
      id ∉ (usedContents layout.allWorkspaces).map WorkspaceContents.id)
    (run : (layout.materializePendingNamed output).run next =
      some (layout', next')) : Conserves layout layout' := by
  rcases materializePendingNamed_cases run with ⟨_, rfl, _⟩ | ⟨mid, later, served, clean⟩
  · exact .refl _
  · have one : Grants layout output (layout.pendingNamed.map NamedWorkspace.name)
        { layout with pendingNamed := [] } :=
      ⟨.refl _, fun _ mem => mem, fun _ mem => mem_append_left _ mem, last⟩
    have granted := materializeEntries_invariant (fun served later => Distinct served.allIds later ∧
        Grants layout output (layout.pendingNamed.map NamedWorkspace.name) served ∧
        served.pendingNamed = []) (fun entry mem _ _ _ _ serves kept =>
        ⟨serves.books.ids.distinct kept.1, serves.grants (mem_map.mpr ⟨entry,
            (perm_insertionSort _ _).mem_iff.mp mem, rfl⟩) kept.1 kept.2.1,
          serves.pending.trans kept.2.2⟩)
      served ⟨uniq, one, rfl⟩
    have keeps := cleanUpIfIdle_keeps clean
    have settled : Conserves layout mid :=
      ⟨granted.2.1.windows, granted.2.1.kept, granted.2.1.named, by simp [granted.2.2]⟩
    refine settled.trans (keeps.conserves ?_)
    unfold onOutput at clean
    split at clean
    · cases clean
      exact fun _ mem => mem
    · rcases updateMonitor_cases clean with ⟨_, _, rfl, _⟩ |
        ⟨_, _, _, _, _, _, _, _, rfl⟩ <;> exact fun _ mem => mem

lemma attachOutput_arrives (run : (layout.attachOutput output mode).run next =
      some (layout', next')) : ∃ rest mon workspaces later, layout'.monitors = rest ++ [mon] ∧
      rest.map Monitor.output = layout.outputs ∧
      Connects layout output mode workspaces later mon next' := by
  unfold attachOutput at run
  split at run
  next mons _ _ shape =>
    obtain ⟨_, _, later, mon, got, reclaims, links, rfl⟩ := addOutputNormal_spec run
    refine ⟨_, mon, _, later, parts_normal rfl |>.1, ?_, links⟩
    unfold outputs
    rw [(parts_normal shape).1]
    exact Vec.map_set_of_eq got reclaims.grew.alters.output
  next _ shape =>
  obtain ⟨mon, links, rfl⟩ := addOutputFirst_spec run
  refine ⟨[], mon, _, next, parts_normal rfl |>.1, ?_, links⟩
  unfold outputs
  rw [(parts_noOutputs shape).1]

lemma Connects.idle {workspaces : List Workspace}
    (links : Connects layout output mode workspaces next mon next') : mon.workspaceSwitch = none :=
  congrArg Monitor.workspaceSwitch links.starts.frame

lemma attachOutput_lastId? (lack : layout.monitorIdx output = none)
    (run : (layout.attachOutput output mode).run next = some (layout', next')) :
    ∃ last ∈ layout'.allWorkspaces, layout'.lastId? output = some last.id ∧
      last.hasWindowsOrName = false := by
  obtain ⟨rest, mon, _, _, whole, sameOutputs, links⟩ := attachOutput_arrives run
  obtain ⟨last, atEnd, idle⟩ := Monitor.lacksTrailingEmpty_eq_false.mp
    (links.sound.trailing links.idle)
  rw [← getLast?_eq_getElem?] at atEnd
  have pos : layout'.monitorIdx output = some rest.length := by
    rw [monitorIdx_eq, ← sameOutputs, findIdx?_map] at lack
    unfold monitorIdx
    rw [whole, findIdx?_append]
    have nowhere : (rest.findIdx? fun mon => mon.output == output) = none := lack
    rw [nowhere]
    simp [links.output_eq]
  refine ⟨last, ?_, ?_, idle⟩
  · unfold allWorkspaces Layout.workspaces
    rw [whole]
    simp [mem_of_getLast? atEnd]
  · unfold lastId?
    simp [pos, whole, ids, atEnd]

lemma attachOutput_pending (run : (layout.attachOutput output mode).run next =
      some (layout', next')) : layout'.pendingNamed = layout.pendingNamed := by
  unfold attachOutput at run
  split at run
  · obtain ⟨_, _, _, _, _, _, _, rfl⟩ := addOutputNormal_spec run
    rfl
  · obtain ⟨_, _, rfl⟩ := addOutputFirst_spec run
    rfl

lemma addOutput_conserves (uniq : Distinct layout.allIds next)
    (lack : layout.monitorIdx output = none)
    (run : (layout.addOutput output mode).run next = some (layout', next')) :
    Conserves layout layout' := by
  obtain ⟨_, _, ran, materialized⟩ := of_bind run
  have keeps := attachOutput_keeps ran
  have pending := attachOutput_pending ran
  have nodup := keeps.preserves.ids.distinct uniq
  obtain ⟨_, listed, ended, idle⟩ := attachOutput_lastId? lack ran
  refine (keeps.conserves (by rw [pending]; exact fun _ mem => mem)).trans
    (materializePendingNamed_conserves nodup ?_ materialized)
  intro _ mem
  rw [ended] at mem
  cases mem
  exact id_not_used (fun _ used => used) nodup.nodup listed idle

lemma removeOutput_conserves
    (run : (layout.removeOutput output).run next = some (layout', next')) :
    Conserves layout layout' := by
  have leaves := removeOutput_leaves run
  apply leaves.keeps.conserves
  cases leaves <;> exact fun _ mem => mem

/-- A display that is not there comes, without taking the whole primary strip, or
one that is there goes. -/
def Plugs (layout : Layout) : Op → Prop
  | .addOutput output _ =>
    layout.monitorIdx output = none ∧ ¬ layout.TakesPrimary output
  | .removeOutput output => (layout.monitorIdx output).isSome = true
  | _ => False

instance : ∀ op, Decidable (layout.Plugs op) := by
  rintro ⟨⟩ <;> dsimp only [Plugs] <;> infer_instance

/-- What the layout needs for an event to return. -/
structure Ready (layout : Layout) (next : Nat) : Prop where
  distinct : Distinct layout.allIds next
  fronts : layout.FrontsInside
  inside : layout.PrimaryInside

lemma Plugs.progress {op : Op} (plugs : layout.Plugs op) (ready : layout.Ready next) :
    ∃ layout' next', (layout.apply op).run next = some (layout', next') ∧
      layout'.Ready next' ∧ Conserves layout layout' := by
  cases op with
  | addOutput output mode =>
    obtain ⟨layout', next', run⟩ : Completes (layout.addOutput output mode) next :=
      addOutput_completes ready.fronts ready.inside plugs.2
    obtain ⟨_, _, books⟩ := (Effect.arrived run).books
    exact ⟨layout', next', run, ⟨books.ids.distinct ready.distinct,
        addOutput_fronts ready.fronts plugs.2 run, addOutput_inside ready.inside run⟩,
      addOutput_conserves ready.distinct plugs.1 run⟩
  | removeOutput output =>
    obtain ⟨layout', next', run⟩ : Completes (layout.removeOutput output) next :=
      removeOutput_completes ready.fronts ready.inside plugs
    obtain ⟨_, _, books⟩ := (Effect.left run).books
    exact ⟨layout', next', run, ⟨books.ids.distinct ready.distinct,
        removeOutput_fronts ready.fronts run, removeOutput_inside run⟩,
      removeOutput_conserves run⟩
  | _ => exact plugs.elim

/-- What no operation breaks. -/
structure Apart (layout : Layout) (next : Nat) : Prop where
  ids : Distinct layout.allIds next
  names : NamesApart layout.allWorkspaces
  inside : layout.PrimaryInside
  parked : layout.ParkedUnused

lemma runs_apart (run : Runs step (fun _ _ => True) (start mode) ops (layout, next)) :
    layout.Apart next := by
  refine run.invariant (fun state => state.1.Apart state.2) (fun _ ran apart => ?_)
    ⟨(start_wellKept mode).distinct, by exact .nil, fun _ one => (nomatch one),
      fun _ mem => (nomatch mem)⟩
  have effect := apply_effect ran
  obtain ⟨_, _, books⟩ := effect.books
  exact ⟨books.ids.distinct apart.ids, books.names apart.parked apart.names,
    effect.inside apart.inside, books.parked apart.parked⟩

/-- Whatever is done, ids and names tell the workspaces apart, the primary display is one of
those plugged in, and nothing in use is parked. -/
theorem apart_of_runs (run : Runs step (fun _ _ => True) (start mode) ops (layout, next)) :
    Distinct layout.allIds next ∧ NamesApart layout.allWorkspaces ∧ layout.PrimaryInside ∧
      layout.ParkedUnused := by
  have apart := runs_apart run
  exact ⟨apart.ids, apart.names, apart.inside, apart.parked⟩

theorem apart_of_runs_replugged : ∃ layout next, Runs step (fun _ _ => True) (start .scrolling)
        [.addOutput displayA .scrolling, .setWorkspaceName "mail" (some (.index 1)),
          .removeOutput displayA, .addOutput displayA .scrolling] (layout, next) ∧
      NamesApart layout.allWorkspaces := by
  exact ⟨_, _, runs_get_pair (by decide +kernel), (apart_of_runs (runs_get_pair _)).2.1⟩

/-- From every layout reached whose monitors all show one of their workspaces, every sequence
of plugging and unplugging returns and conserves windows, used workspaces and names, and what
is parked is unused and has a home. -/
theorem hotplug_conserves {windowingMode : WindowingMode} {ops events : List Op}
    (reached : Runs step (fun _ _ => True) (start windowingMode) ops (layout, next))
    (showing : ∀ mon ∈ layout.monitors, mon.activeWorkspaceIdx < mon.workspaces.length)
    (permitted : Permitted step (fun state op => state.1.Plugs op) events (layout, next)) :
    ∃ layout' next', (applyAll events layout).run next = some (layout', next') ∧
      Conserves layout layout' ∧ layout'.ParkedUnused := by
  have apart := runs_apart reached
  have ready : layout.Ready next := ⟨apart.ids, showing, apart.inside⟩
  obtain ⟨⟨layout', next'⟩, run⟩ := permitted.runs (fun state => state.1.Ready state.2)
    (fun ready plugs => by
      obtain ⟨layout', next', stepped, kept, _⟩ := plugs.progress ready
      exact ⟨(layout', next'), stepped, kept⟩) ready
  have held := run.invariant
    (fun state => state.1.Ready state.2 ∧ Conserves layout state.1 ∧ state.1.ParkedUnused)
    (fun plugs stepped so => by
      obtain ⟨_, _, returned, kept, conserves⟩ := plugs.progress so.1
      have same := returned.symm.trans stepped
      cases same
      obtain ⟨_, _, books⟩ := (apply_effect stepped).books
      exact ⟨kept, so.2.1.trans conserves, books.parked so.2.2⟩)
    ⟨ready, .refl _, apart.parked⟩
  exact ⟨layout', next', runs_iff_applyAll.mp (run.mono fun _ => trivial), held.2⟩

/-- A named workspace and a window go through a time without any display. -/
theorem hotplug_conserves_through_none :
    ∃ layout next, Runs step (fun _ _ => True) (start .scrolling)
        [.addOutput displayA .scrolling, .addOutput displayB .scrolling,
          .setWorkspaceName "mail" (some (.index 1)),
          .addWindow { id := 7 } (.output displayB) false .no] (layout, next) ∧
      (layout.monitors.length = 2 ∧ windowsOf layout.allWorkspaces = [7]) ∧ ∃ layout' next',
        (applyAll [.removeOutput displayA, .removeOutput displayB,
          .addOutput displayB .scrolling] layout).run next = some (layout', next') ∧
        Conserves layout layout' ∧ layout'.ParkedUnused := by
  exact ⟨_, _, runs_get_pair (by decide +kernel), by decide +kernel,
    hotplug_conserves (runs_get_pair _) (by decide +kernel)
      (runs_get (by decide +kernel)).permitted⟩

/-- A display that arrives brings a pending name; and one that takes the whole
primary strip leaves a monitor whose removal panics. -/
theorem hotplug_not_conserved :
    (((applyAll [.setPendingNamedWorkspaces [⟨"mail", displayA.identity, 0⟩]]
        (withOptions .scrolling)).run firstWorkspaceId).any fun state =>
          state.1.allWorkspaces.isEmpty &&
            ((state.1.apply (.addOutput displayA .scrolling)).run state.2).any fun after =>
              after.1.allWorkspaces.any fun ws => ws.name == some "mail") = true ∧
    ((applyAll [.addOutput displayA .scrolling,
        .insertRestoreWorkspace displayA displayB.identity 0,
        .insertRestoreWorkspace displayA displayB.identity 1]
        (withOptions .scrolling)).run firstWorkspaceId).any (fun state =>
          ((applyAll [.addOutput displayB .scrolling, .removeOutput displayA]
            state.1).run state.2).isNone) = true := by
  constructor <;> decide +kernel

end Layout

end Synoik
