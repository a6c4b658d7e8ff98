import Synoik.Accounting.Progress
import Synoik.Invariants.Ownership

/-!
# Displays come and go without a panic

While every monitor shows one of its workspaces every event returns, as long as the display
that leaves is a connected one and the one that comes does not take the whole primary strip.
The primary monitor is always one of the list.
-/

namespace Synoik.Layout

open List

open FreshM

variable {layout layout' : Layout} {next next' : Nat} {out : Output}
  {mode : WindowingMode}

lemma onOutput_completes {change : Monitor → FreshM Monitor}
    (each : ∀ mon ∈ layout.monitors, Completes (change mon) next) :
    Completes (layout.onOutput out change) next := by
  unfold onOutput
  split
  · exact completes_pure _
  next _ loc =>
  unfold updateMonitor
  split
  · exact completes_pure _
  next mons _ _ shape =>
  have has := (parts_normal shape).1
  have lt := (findIdx?_eq_some_iff_getElem.mp loc).1
  rw [has] at lt
  refine completes_unwrap (getElem?_eq_getElem lt) ?_
  exact completes_map (each _ (has ▸ getElem_mem lt))

lemma insertRestoreWorkspace_completes {home : OutputIdentity} {ordinal : Nat}
    (inside : ∀ mon ∈ layout.monitors, mon.Inside) :
    Completes (layout.insertRestoreWorkspace out home ordinal) next := by
  unfold insertRestoreWorkspace
  split
  next mons _ _ _ shape loc =>
    have has := (parts_normal shape).1
    have lt := (findIdx?_eq_some_iff_getElem.mp loc).1
    rw [has] at lt
    refine completes_unwrap (getElem?_eq_getElem lt) ?_
    exact completes_map (Monitor.insertRestoreWorkspace_completes
      (inside _ (has ▸ getElem_mem lt)))
  · exact completes_pure _

variable {name : String}

lemma nameWorkspace_completes {id : WorkspaceId} :
    Completes (layout.nameWorkspace id name) next := by
  unfold nameWorkspace updateFirst
  split
  next _ _ _ shape =>
    split
    · exact completes_pure _
    next _ wsIdx loc =>
    obtain ⟨_, _, ws, rfl, got, here, _⟩ := locateIn_eq_some loc
    rw [Nat.zero_add]
    unfold updateMonitor
    rw [shape]
    refine completes_unwrap got (completes_map ?_)
    exact completes_unwrap (Vec.updateAt_eq_some.mpr
      ⟨ws, _, here, rfl, rfl⟩) (completes_pure _)
  next _ shape =>
  split
  · exact completes_pure _
  next wsIdx loc =>
  have lt := (findIdx?_eq_some_iff_getElem.mp loc).1
  exact completes_unwrap (Vec.updateAt_eq_some.mpr
    ⟨_, _, getElem?_eq_getElem lt, rfl, rfl⟩) (completes_pure _)

/-- Every monitor shows one of its workspaces. -/
def FrontsInside (layout : Layout) : Prop := ∀ mon ∈ layout.monitors, mon.Inside

lemma FrontsInside.set {mons : List Monitor} {primary active idx : Nat} {mon : Monitor}
    (fronts : layout.FrontsInside) (shape : layout.monitorSet = .normal mons primary active)
    (inside : mon.Inside) : FrontsInside { layout with
      monitorSet := .normal (mons.set idx mon) primary active } := by
  intro other mem
  rcases mem_or_eq_of_mem_set mem with old | rfl
  · apply fronts other
    rw [(parts_normal shape).1]
    exact old
  · exact inside

lemma FrontsInside.of_get {mons : List Monitor} {primary active idx : Nat} {mon : Monitor}
    (fronts : layout.FrontsInside) (shape : layout.monitorSet = .normal mons primary active)
    (got : mons[idx]? = some mon) : mon.Inside := by
  apply fronts mon
  rw [(parts_normal shape).1]
  exact mem_of_getElem? got

lemma insertRestoreWorkspace_fronts {home : OutputIdentity} {ordinal : Nat}
    {id : Option WorkspaceId} (fronts : layout.FrontsInside)
    (puts : (layout.insertRestoreWorkspace out home ordinal).run next =
      some ((id, layout'), next')) : layout'.FrontsInside := by
  rcases insertRestoreWorkspace_cases puts with ⟨_, rfl, _, _⟩ |
    ⟨_, _, _, _, _, _, _, shape, _, got, _, added, rfl⟩
  · exact fronts
  · have kept := Monitor.insertRestoreWorkspace_inside (fronts.of_get shape got) added
    exact fronts.set shape kept.1

lemma nameWorkspace_fronts {id : WorkspaceId} (fronts : layout.FrontsInside)
    (run : (layout.nameWorkspace id name).run next = some (layout', next')) :
    layout'.FrontsInside := by
  obtain ⟨rfl, ⟨rfl, _⟩ | ⟨_, _, _, _, _, _, _, shape, got, _, rfl, rfl⟩ |
    ⟨_, _, _, _, _, rfl, rfl⟩⟩ := nameWorkspace_cases run
  · exact fronts
  · exact fronts.set shape (fronts.of_get shape got).set
  · exact fun _ mem => nomatch mem

lemma Serves.fronts {entry : NamedWorkspace}
    (serves : Serves out layout next entry layout' next') (fronts : layout.FrontsInside) :
    layout'.FrontsInside := by
  cases serves with
  | skipped | unplaced => exact fronts
  | placed _ puts naming =>
    exact nameWorkspace_fronts (insertRestoreWorkspace_fronts fronts puts) naming

lemma materializePendingNamed_fronts (fronts : layout.FrontsInside)
    (run : (layout.materializePendingNamed out).run next = some (layout', next')) :
    layout'.FrontsInside := by
  rcases materializePendingNamed_cases run with ⟨_, rfl, _⟩ | ⟨_, _, served, clean⟩
  · exact fronts
  · have kept := materializeEntries_invariant (fun served _ => served.FrontsInside)
      (fun _ _ _ _ _ _ serves => serves.fronts) served fronts
    unfold onOutput at clean
    split at clean
    · cases clean
      exact kept
    · rcases updateMonitor_cases clean with ⟨_, _, rfl, _⟩ |
        ⟨_, _, _, _, _, shape, got, cleans, rfl⟩
      · exact kept
      · exact kept.set shape ((Monitor.cleanUpIfIdle_shifts cleans).inside (kept.of_get shape got))

lemma attachOutput_fronts (fronts : layout.FrontsInside) (spared : ¬ layout.TakesPrimary out)
    (run : (layout.attachOutput out mode).run next = some (layout', next')) :
    layout'.FrontsInside :=
  attachOutput_all fronts Monitor.Sound.active
    (fun reclaims some inside => reclaims.inside inside some) spared run

lemma removeOutput_fronts (fronts : layout.FrontsInside)
    (run : (layout.removeOutput out).run next = some (layout', next')) : layout'.FrontsInside := by
  cases removeOutput_leaves run with
  | last => exact fun _ mem => nomatch mem
  | handed shape _ _ _ _ _ settling =>
    intro other mem
    rcases mem_or_eq_of_mem_set mem with old | rfl
    · apply fronts other
      rw [(parts_normal shape).1]
      exact mem_of_mem_eraseIdx old
    · exact (Monitor.reblock_spec settling).2.active

lemma materializeEntries_completes {entries : List NamedWorkspace}
    (fronts : layout.FrontsInside) : Completes (materializeEntries out entries layout) next := by
  induction entries generalizing layout next with
  | nil => exact completes_pure _
  | cons entry _ ih =>
    unfold materializeEntries
    split
    · exact ih fronts
    · apply completes_bind (insertRestoreWorkspace_completes fronts)
      rintro ⟨_, _⟩ _ puts
      have kept := insertRestoreWorkspace_fronts fronts puts
      dsimp only
      split
      · exact ih kept
      · exact completes_bind nameWorkspace_completes fun _ _ naming =>
          ih (nameWorkspace_fronts kept naming)

lemma materializePendingNamed_completes (fronts : layout.FrontsInside) :
    Completes (layout.materializePendingNamed out) next := by
  unfold materializePendingNamed
  split
  · exact completes_pure _
  · refine completes_bind (materializeEntries_completes fronts) fun _ _ _ => ?_
    exact onOutput_completes fun _ _ => Monitor.cleanUpIfIdle_completes

lemma connect_completes {spaces : List Workspace} :
    Completes (layout.connect out mode spaces) next :=
  completes_map (Monitor.new_spec out mode spaces _).completes

lemma reclaimFor_idle {primary : Monitor} (taken : (primary.reclaimFor out).1 ≠ []) :
    (primary.reclaimFor out).2.workspaceSwitch = none := by
  obtain ⟨_, mem⟩ := exists_mem_of_ne_nil _ taken
  obtain ⟨here, theirs⟩ := mem_filter.mp mem
  obtain ⟨idx, got⟩ := mem_iff_getElem?.mp here
  dsimp only [Monitor.reclaimFor]
  rw [if_neg]
  intro none
  have nowhere := filter_eq_nil_iff.mp (isEmpty_iff.mp none) idx
    (mem_range.mpr (Vec.lt_length got))
  rw [got] at nowhere
  exact nowhere theirs

lemma attachOutput_completes (inside : layout.PrimaryInside) :
    Completes (layout.attachOutput out mode) next := by
  unfold attachOutput
  split
  next mons primary _ shape =>
    have lt : primary < mons.length := by
      have first := inside primary (by
        unfold primaryIdx?
        rw [shape]
        rfl)
      rwa [(parts_normal shape).1] at first
    refine completes_unwrap (getElem?_eq_getElem lt) ?_
    dsimp only
    refine completes_ite_bind ?_ fun _ _ _ =>
      completes_bind connect_completes fun _ _ _ => completes_pure _
    split
    · exact completes_pure _
    next some =>
    refine Monitor.cleanUpWorkspaces_completes (reclaimFor_idle ?_)
    simpa using some
  · exact completes_bind connect_completes fun _ _ _ => completes_pure _

lemma addOutput_completes (fronts : layout.FrontsInside) (inside : layout.PrimaryInside)
    (spared : ¬ layout.TakesPrimary out) : Completes (layout.addOutput out mode) next := by
  refine completes_bind (attachOutput_completes inside) fun _ _ ran => ?_
  exact materializePendingNamed_completes (attachOutput_fronts fronts spared ran)

lemma addOutput_fronts (fronts : layout.FrontsInside) (spared : ¬ layout.TakesPrimary out)
    (run : (layout.addOutput out mode).run next = some (layout', next')) :
    layout'.FrontsInside := by
  obtain ⟨_, _, ran, materialized⟩ := of_bind run
  exact materializePendingNamed_fronts (attachOutput_fronts fronts spared ran) materialized

lemma closeUp_lt {idx pos count : Nat} (inside : pos < count)
    (lt : idx < count) (several : 1 < count) : closeUp idx pos < count - 1 := by
  unfold closeUp
  split <;> omega

lemma removeOutput_completes (fronts : layout.FrontsInside) (inside : layout.PrimaryInside)
    (linked : (layout.monitorIdx out).isSome = true) :
    Completes (layout.removeOutput out) next := by
  obtain ⟨idx, loc⟩ := Option.isSome_iff_exists.mp linked
  unfold removeOutput
  split
  next shape =>
    unfold monitorIdx at loc
    rw [(parts_noOutputs shape).1] at loc
    cases loc
  next mons primary _ shape =>
  have has := (parts_normal shape).1
  unfold monitorIdx at loc
  rw [has] at loc
  unfold FrontsInside at fronts
  rw [has] at fronts
  have lt := (findIdx?_eq_some_iff_getElem.mp loc).1
  have first : primary < mons.length := by
    have old := inside primary (by
      unfold primaryIdx?
      rw [shape]
      rfl)
    rwa [has] at old
  obtain ⟨_, shown⟩ := Monitor.activeWorkspace_of_inside (fronts _ (getElem_mem lt))
  apply completes_unwrap loc
  refine completes_unwrap (Vec.removeAt_eq_some.mpr ⟨getElem?_eq_getElem lt, rfl⟩) ?_
  apply completes_unwrap shown
  split
  · exact completes_pure _
  next rest =>
  have several : 1 < mons.length := by
    have some := length_pos_of_ne_nil fun none =>
      rest (isEmpty_iff.mpr none)
    rw [length_eraseIdx_of_lt lt] at some
    omega
  have host : closeUp idx primary < (mons.eraseIdx idx).length := by
    rw [length_eraseIdx_of_lt lt]
    exact closeUp_lt first lt several
  have hosting := fronts _ (mem_of_mem_eraseIdx (getElem_mem host))
  refine completes_unwrap (getElem?_eq_getElem host) ?_
  refine completes_bind (Monitor.appendWorkspaces_completes ?_) fun _ _ appending => ?_
  · unfold Monitor.Inside at hosting
    omega
  · obtain ⟨_, _, _, _, settled⟩ := Monitor.appendWorkspaces_spec appending
    exact completes_map (Monitor.reblock_completes (settled hosting))

lemma inside_of_normal {mons : List Monitor} {primary active : Nat}
    (shape : layout.monitorSet = .normal mons primary active) :
    layout.PrimaryInside ↔ primary < mons.length := by
  unfold PrimaryInside
  rw [primaryIdx?_normal shape, (parts_normal shape).1]
  simp

lemma Serves.inside {entry : NamedWorkspace} (serves : Serves out layout next entry layout' next')
    (inside : layout.PrimaryInside) : layout'.PrimaryInside := by
  cases serves with
  | skipped | unplaced => exact inside
  | placed _ puts naming =>
    exact (nameWorkspace_stays naming).inside
      ((insertRestoreWorkspace_shuffles puts).inside inside)

lemma materializePendingNamed_inside (inside : layout.PrimaryInside)
    (run : (layout.materializePendingNamed out).run next = some (layout', next')) :
    layout'.PrimaryInside := by
  rcases materializePendingNamed_cases run with ⟨_, rfl, _⟩ | ⟨_, _, served, clean⟩
  · exact inside
  · have kept := materializeEntries_invariant (fun served _ => served.PrimaryInside)
      (fun _ _ _ _ _ _ serves => serves.inside) served inside
    exact (onOutput_retains (fun _ _ _ _ clean =>
      (Monitor.cleanUpIfIdle_shifts clean).retains) clean).inside kept

lemma addOutput_inside (inside : layout.PrimaryInside)
    (run : (layout.addOutput out mode).run next = some (layout', next')) :
    layout'.PrimaryInside := by
  obtain ⟨_, _, ran, materialized⟩ := of_bind run
  refine materializePendingNamed_inside ?_ materialized
  unfold attachOutput at ran
  split at ran
  next _ _ _ shape =>
    obtain ⟨_, _, _, _, _, _, _, rfl⟩ := addOutputNormal_spec ran
    have pre := (inside_of_normal shape).mp inside
    apply (inside_of_normal rfl).mpr
    simp
    omega
  · obtain ⟨_, _, rfl⟩ := addOutputFirst_spec ran
    exact (inside_of_normal rfl).mpr Nat.one_pos

lemma removeOutput_inside (run : (layout.removeOutput out).run next = some (layout', next')) :
    layout'.PrimaryInside := by
  cases removeOutput_leaves run with
  | last => exact fun _ first => (nomatch first)
  | handed _ _ _ _ host =>
    apply (inside_of_normal rfl).mpr
    rw [length_set]
    exact Vec.lt_length host

lemma ensureNamedWorkspace_inside {openOnOutput : Option String} (inside : layout.PrimaryInside)
    (run : (layout.ensureNamedWorkspace name openOnOutput).run next = some (layout', next')) :
    layout'.PrimaryInside := by
  unfold ensureNamedWorkspace at run
  split at run
  · cases run
    exact inside
  · split at run
    · rcases updateMonitor_cases run with ⟨_, _, rfl, _⟩ | ⟨_, _, _, _, _, shape, _, _, rfl⟩
      · exact inside
      · have pre := (inside_of_normal shape).mp inside
        exact (inside_of_normal rfl).mpr (by simpa using pre)
    · cases run
      exact fun _ first => (nomatch first)

lemma Effect.inside {op : Op} (effect : Effect layout next layout' next' op)
    (inside : layout.PrimaryInside) : layout'.PrimaryInside := by
  cases effect with
  | arrived run => exact addOutput_inside inside run
  | left run => exact removeOutput_inside run
  | named run => exact (setWorkspaceName_stays run).inside inside
  | configured run => exact ensureNamedWorkspace_inside inside run
  | unmapped handles | handled _ handles => exact handles.stays.inside inside
  | shuffled _ shuffles => exact shuffles.inside inside

end Synoik.Layout
