import Synoik.Invariants.Strip

/-!
# Workspaces and their displays

A workspace whose home is connected sits on that display's monitor, and only
the primary monitor has guests. The layout asserts this in its own checks.
Making another monitor the primary one breaks it while the old one has guests.
-/

namespace Synoik.Layout

open List

open FreshM

variable {layout layout' : Layout} {next next' : Nat}

/-- The connected displays, in the order of their monitors. -/
def outputs (layout : Layout) : List Output := layout.monitors.map Monitor.output

/-- No two connected displays share a connector. -/
def ConnectorsApart (layout : Layout) : Prop :=
  (layout.outputs.map fun output => lowercase output.name).Nodup

/-- The display at this position may show a workspace with this home: the home is
the display's own, or it is not connected and the display is the primary one. -/
abbrev MayHost (layout : Layout) (idx : Nat) (output : Output) (home : OutputIdentity) : Prop :=
  home.matchesOutput output = true ∨
    (layout.primaryIdx? = some idx ∧
      ∀ connected ∈ layout.outputs, home.matchesOutput connected = false)

/-- What the layout asserts about homes, together with the distinct connectors
it relies on. -/
structure Owned (layout : Layout) : Prop where
  connectors : layout.ConnectorsApart
  homes : ∀ idx mon, layout.monitors[idx]? = some mon →
    ∀ home ∈ mon.homes, layout.MayHost idx mon.output home

variable {home : OutputIdentity} {idx primaryIdx active : Nat}
  {mon primary : Monitor} {output : Output} {monitors : List Monitor} {name : String}
  {mode : WindowingMode}

lemma lowercase_name_of_matches {one other : Output} (first : home.matchesOutput one = true)
    (last : home.matchesOutput other = true) : lowercase one.name = lowercase other.name := by
  have left := OutputIdentity.lowercase_connector_of_matches first
  have right := OutputIdentity.lowercase_connector_of_matches last
  exact left.symm.trans right

variable {other : Nat} {primary' : Monitor} {geometry : StripGeometry}

/-- Of the connected displays at most one is the home of a workspace. -/
lemma ConnectorsApart.unique {one : Nat} {left right : Output}
    (apart : layout.ConnectorsApart) (leftFound : layout.outputs[one]? = some left)
    (rightFound : layout.outputs[other]? = some right)
    (leftMatches : home.matchesOutput left = true)
    (rightMatches : home.matchesOutput right = true) : one = other := by
  have same := lowercase_name_of_matches leftMatches rightMatches
  have inside : one < (layout.outputs.map fun output => lowercase output.name).length := by
    rw [length_map]
    exact Vec.lt_length leftFound
  refine (getElem?_inj inside apart).mp ?_
  rw [getElem?_map, getElem?_map, leftFound, rightFound]
  simp [same]

lemma outputs_getElem? (got : layout.monitors[idx]? = some mon) :
    layout.outputs[idx]? = some mon.output := by
  unfold outputs
  rw [getElem?_map, got]
  rfl

lemma MayHost.congr (hosts : layout.MayHost idx output home)
    (sameOutputs : layout'.outputs = layout.outputs)
    (samePrimary : layout'.primaryIdx? = layout.primaryIdx?) : layout'.MayHost idx output home := by
  unfold MayHost
  rw [sameOutputs, samePrimary]
  exact hosts

lemma Owned.of_homes (owned : layout.Owned) (sameOutputs : layout'.outputs = layout.outputs)
    (samePrimary : layout'.primaryIdx? = layout.primaryIdx?)
    (homes : ∀ idx mon, layout'.monitors[idx]? = some mon →
      ∀ home ∈ mon.homes, layout.MayHost idx mon.output home) : layout'.Owned := by
  constructor
  · unfold ConnectorsApart
    rw [sameOutputs]
    exact owned.connectors
  · intro idx mon got home mem
    exact (homes idx mon got home mem).congr sameOutputs samePrimary

lemma primaryIdx?_normal (shape : layout.monitorSet = .normal monitors primaryIdx active) :
    layout.primaryIdx? = some primaryIdx := by
  unfold primaryIdx?
  rw [shape]

lemma Owned.set {mon' : Monitor} (owned : layout.Owned)
    (shape : layout.monitorSet = .normal monitors primaryIdx active)
    (got : monitors[idx]? = some mon) (sameOutput : mon'.output = mon.output)
    (homes : ∀ home ∈ mon'.homes, mon.KnownHome home ∨
      layout.MayHost idx mon.output home) : Owned { layout with
      monitorSet := .normal (monitors.set idx mon') primaryIdx active } ∧ outputs { layout with
      monitorSet := .normal (monitors.set idx mon') primaryIdx active } = layout.outputs := by
  have has := (parts_normal shape).1
  have sameOutputs : outputs { layout with
      monitorSet := .normal (monitors.set idx mon') primaryIdx active } = layout.outputs := by
    unfold outputs
    rw [has]
    exact Vec.map_set_of_eq got sameOutput
  refine ⟨owned.of_homes sameOutputs (primaryIdx?_normal shape).symm ?_, sameOutputs⟩
  intro pos other here home mem
  rw [parts_normal rfl |>.1, getElem?_set] at here
  split at here
  next same =>
    subst same
    split at here
    · cases here
      rw [sameOutput]
      rcases homes home mem with (own | old) | new
      · exact .inl own
      · exact owned.homes idx mon (has ▸ got) home old
      · exact new
    · cases here
  · exact owned.homes pos other (has ▸ here) home mem

namespace StaysHome

section

variable (stays : layout.StaysHome layout')
include stays

lemma outputs : layout'.outputs = layout.outputs := by
  have related := stays.monitors
  unfold Layout.outputs
  generalize layout.monitors = pre at related ⊢
  generalize layout'.monitors = post at related ⊢
  induction related with
  | nil => rfl
  | cons head _ ih => rw [map_cons, map_cons, head.output, ih]

lemma getElem? {idx : Nat} {mon' : Monitor} (got : layout'.monitors[idx]? = some mon') :
    ∃ mon, layout.monitors[idx]? = some mon ∧ mon.StaysHome mon' := by
  have lengths := stays.monitors.length_eq
  obtain ⟨inside, rfl⟩ := List.getElem?_eq_some_iff.mp got
  have lt : idx < layout.monitors.length := by omega
  exact ⟨layout.monitors[idx], getElem?_eq_getElem lt, stays.monitors.get lt inside⟩

lemma owned (owned : layout.Owned) : layout'.Owned := by
  apply owned.of_homes stays.outputs stays.primary
  intro idx _ got home mem
  obtain ⟨mon, here, homes⟩ := stays.getElem? got
  rw [homes.output]
  rcases homes.homes home mem with own | old
  · exact .inl own
  · exact owned.homes idx mon here home old

end

end StaysHome

lemma nameWorkspace_stays {id : WorkspaceId}
    (run : (layout.nameWorkspace id name).run next = some (layout', next')) :
    layout.StaysHome layout' := by
  obtain ⟨rfl, ⟨rfl, _⟩ | ⟨_, _, _, _, _, wsIdx, ws,
    shape, got, here, rfl, rfl⟩ | ⟨_, wsIdx, ws, shape, here, rfl, rfl⟩⟩ := nameWorkspace_cases run
  · exact .refl _
  · refine staysHome_of_normal shape rfl (Vec.forall₂_set .refl got ?_)
    exact .ofHomes rfl (Vec.map_set_of_eq here rfl)
  · exact staysHome_of_noOutputs shape rfl

lemma setWorkspaceName_stays {reference : Option WorkspaceReference}
    (run : (layout.setWorkspaceName name reference).run next = some (layout', next')) :
    layout.StaysHome layout' := by
  rcases setWorkspaceName_cases run with ⟨rfl, _⟩ | ⟨_, _, _, _, _, naming, grown⟩
  · exact .refl _
  · have grows := onActiveMonitor_retains (fun _ _ _ _ grew =>
      (Monitor.addBottomIf_shifts grew).retains) grown
    exact (nameWorkspace_stays naming).trans grows.stays

/-- A restored workspace may go to this display, if it is connected. -/
abbrev Welcomes (layout : Layout) (output : Output) (home : OutputIdentity) : Prop :=
  ∀ idx ∈ layout.monitorIdx output, layout.MayHost idx output home

lemma monitorIdx_eq (layout : Layout) (output : Output) :
    layout.monitorIdx output = layout.outputs.findIdx? (· == output) := by
  unfold monitorIdx outputs
  rw [findIdx?_map]
  rfl

lemma Welcomes.congr (welcomes : layout.Welcomes output home)
    (sameOutputs : layout'.outputs = layout.outputs)
    (samePrimary : layout'.primaryIdx? = layout.primaryIdx?) : layout'.Welcomes output home := by
  intro idx loc
  rw [monitorIdx_eq, sameOutputs, ← monitorIdx_eq] at loc
  exact (welcomes idx loc).congr sameOutputs samePrimary

lemma output_of_monitorIdx (loc : layout.monitorIdx output = some idx)
    (got : layout.monitors[idx]? = some mon) : mon.output = output := by
  obtain ⟨lt, same, _⟩ := findIdx?_eq_some_iff_getElem.mp loc
  rw [getElem?_eq_getElem lt] at got
  cases got
  simpa using same

lemma insertRestoreWorkspace_owned {ordinal : Nat} {id : Option WorkspaceId}
    (owned : layout.Owned) (welcomes : layout.Welcomes output home)
    (run : (layout.insertRestoreWorkspace output home ordinal).run next =
      some ((id, layout'), next')) : layout'.Owned ∧ layout'.outputs = layout.outputs ∧
      layout'.primaryIdx? = layout.primaryIdx? := by
  rcases insertRestoreWorkspace_cases run with ⟨_, rfl, _, _⟩ |
    ⟨monitors, primaryIdx, active, idx, mon, restored, _, shape, loc, got, _, added, rfl⟩
  · exact ⟨owned, rfl, rfl⟩
  · have rehouses := (Monitor.insertRestoreWorkspace_spec added).1
    have here : mon.output = output := output_of_monitorIdx loc ((parts_normal shape).1 ▸ got)
    have hosted : ∀ known ∈ restored.homes, mon.KnownHome known ∨
        layout.MayHost idx mon.output known := by
      intro known mem
      rcases rehouses.homes known mem with old | new
      · exact .inl old
      · cases mem_singleton.mp new
        right
        rw [here]
        exact welcomes idx loc
    obtain ⟨kept, sameOutputs⟩ := owned.set shape got rehouses.output hosted
    exact ⟨kept, sameOutputs, (primaryIdx?_normal shape).symm⟩

lemma Serves.owned {entry : NamedWorkspace}
    (serves : Serves output layout next entry layout' next') (owned : layout.Owned)
    (welcomes : layout.Welcomes output entry.home) :
    layout'.Owned ∧ layout'.outputs = layout.outputs ∧
      layout'.primaryIdx? = layout.primaryIdx? := by
  cases serves with
  | skipped | unplaced => exact ⟨owned, rfl, rfl⟩
  | placed _ puts naming =>
    obtain ⟨kept, sameOutputs, samePrimary⟩ := insertRestoreWorkspace_owned owned welcomes puts
    have stays := nameWorkspace_stays naming
    exact ⟨stays.owned kept, stays.outputs.trans sameOutputs, stays.primary.trans samePrimary⟩

lemma materializeEntries_owned {entries : List NamedWorkspace} (owned : layout.Owned)
    (welcomes : ∀ entry ∈ entries, layout.Welcomes output entry.home)
    (run : (materializeEntries output entries layout).run next = some (layout', next')) :
    layout'.Owned := by
  refine (materializeEntries_invariant (fun served _ => served.Owned ∧
    served.outputs = layout.outputs ∧ served.primaryIdx? = layout.primaryIdx?) ?_ run
    ⟨owned, rfl, rfl⟩).1
  intro entry mem pre next post next' serves ⟨kept, sameOutputs, samePrimary⟩
  obtain ⟨still, outputs, primary⟩ := serves.owned kept
    ((welcomes entry mem).congr sameOutputs samePrimary)
  exact ⟨still, outputs.trans sameOutputs, primary.trans samePrimary⟩

lemma materializePendingNamed_owned (owned : layout.Owned)
    (welcomes : ∀ entry ∈ layout.pendingNamed, layout.Welcomes output entry.home)
    (run : (layout.materializePendingNamed output).run next = some (layout', next')) :
    layout'.Owned := by
  rcases materializePendingNamed_cases run with ⟨_, rfl, _⟩ | ⟨_, _, served, clean⟩
  · exact owned
  · have forgotten : Owned { layout with pendingNamed := [] } := ⟨owned.connectors, owned.homes⟩
    have kept := materializeEntries_owned forgotten (fun entry mem =>
      welcomes entry ((perm_insertionSort _ _).mem_iff.mp mem)) served
    exact (onOutput_retains (fun _ _ _ _ clean =>
      (Monitor.cleanUpIfIdle_shifts clean).retains) clean).stays.owned kept

/-- The display that a configured name means may host a workspace with this name as its home's
connector. -/
abbrev WelcomesNamed (layout : Layout) (target : String) : Prop :=
  ∀ idx ∈ layout.monitors.findIdx? fun mon => mon.output.matchesName target,
    ∀ mon ∈ layout.monitors[idx]?, layout.MayHost idx mon.output (.fromConnector target)

lemma WelcomesNamed.hosts {target : String} (welcomes : layout.WelcomesNamed target)
    (shape : layout.monitorSet = .normal monitors primaryIdx active)
    (got : monitors[(monitors.findIdx? fun mon => mon.output.matchesName target).getD
      primaryIdx]? = some mon) :
    layout.MayHost ((monitors.findIdx? fun mon => mon.output.matchesName target).getD primaryIdx)
      mon.output (.fromConnector target) := by
  have has := (parts_normal shape).1
  unfold WelcomesNamed at welcomes
  rw [has] at welcomes
  cases loc : monitors.findIdx? fun mon => mon.output.matchesName target with
  | some idx =>
    rw [loc] at got
    exact welcomes idx loc mon got
  | none =>
    -- A display with the name as its connector would have been found.
    right
    refine ⟨primaryIdx?_normal shape, ?_⟩
    intro _ mem
    unfold outputs at mem
    rw [has] at mem
    obtain ⟨other, here, rfl⟩ := mem_map.mp mem
    rw [OutputIdentity.fromConnector_matchesOutput]
    by_contra same
    have found := Output.matchesName_of_name (Bool.eq_true_of_not_eq_false same)
    rw [findIdx?_eq_none_iff.mp loc other here] at found
    cases found

/-- A workspace from the configuration goes to the display that its name means, or to the
primary one while there is none. -/
lemma ensureNamedWorkspace_owned {openOnOutput : Option String} (owned : layout.Owned)
    (welcomes : layout.nameTaken name = true ∨ ∀ target ∈ openOnOutput, layout.WelcomesNamed target)
    (run : (layout.ensureNamedWorkspace name openOnOutput).run next = some (layout', next')) :
    layout'.Owned := by
  unfold ensureNamedWorkspace at run
  split at run
  · cases run
    exact owned
  next free =>
  have welcomes := welcomes.resolve_left free
  split at run
  next _ _ _ shape =>
    obtain ⟨_, _, got, added, rfl⟩ := updateMonitor_normal shape run
    have adopts := Monitor.insertWorkspace_adopts added
    refine (owned.set shape got adopts.output ?_).1
    intro home mem
    rcases adopts.homes home mem with old | rfl
    · exact .inl old
    · right
      cases openOnOutput with
      | none => exact .inl (OutputIdentity.fromOutput_matchesOutput _)
      | some target => exact (welcomes target rfl).hosts shape got
  next _ shape =>
    cases run
    exact (staysHome_of_noOutputs shape rfl).owned owned

/-- The primary monitor has no workspaces but those of its own display. -/
abbrev GuestFree (layout : Layout) : Prop :=
  ∀ primary ∈ layout.primary?, ∀ home ∈ primary.homes, home.matchesOutput primary.output = true

lemma Reclaims.homes (reclaims : Reclaims primary output next primary' next') :
    ∀ home ∈ primary'.homes, home.matchesOutput primary.output = true ∨
      (home ∈ primary.homes ∧ home.matchesOutput output = false) := by
  intro home mem
  rcases (Monitor.Rehouses.ofGrewBottom reclaims.grew).homes home mem with
    (own | stayed) | new
  · exact .inl own
  · obtain ⟨ws, kept, rfl⟩ := mem_map.mp stayed
    obtain ⟨here, other⟩ := mem_filter.mp kept
    exact .inr ⟨mem_map.mpr ⟨ws, here, rfl⟩, by simpa using other⟩
  · cases new

lemma Connects.homes {spaces : List Workspace}
    (links : Connects layout output mode spaces next mon next') :
    ∀ home ∈ mon.homes, home.matchesOutput output = true ∨
      home ∈ spaces.map Workspace.originalOutput := by
  intro home mem
  rcases links.starts.homes home mem with own | came
  · exact .inl own
  · exact Monitor.homes_map_setOutput came

lemma awaiting_homes {ws : Workspace} (mem : ws ∈ layout.awaiting primary output) :
    ws.originalOutput.matchesOutput output = true := by
  have waits := (mem_filter.mp ((sortIntoBlocks_perm layout.displayOrder _).mem_iff.mp mem)).1
  rcases mem_append.mp waits with taken | parked
  · exact (mem_filter.mp taken).2
  · exact (mem_filter.mp parked).2

lemma mayHost_alone (first : layout.primaryIdx? = some idx) (single : layout.outputs = [output])
    (home : OutputIdentity) : layout.MayHost idx output home := by
  unfold MayHost
  rw [single]
  by_cases own : home.matchesOutput output = true
  · exact .inl own
  · exact .inr ⟨first, by simpa using own⟩

section

variable (owned : layout.Owned)
include owned

lemma attachOutput_owned
    (ne : ∀ linked ∈ layout.outputs, lowercase linked.name ≠ lowercase output.name)
    (run : (layout.attachOutput output mode).run next = some (layout', next')) :
    layout'.Owned ∧ layout'.outputs = layout.outputs ++ [output] ∧
      layout'.pendingNamed = layout.pendingNamed ∧
      (layout.outputs = [] → layout'.primaryIdx? = some 0) := by
  unfold attachOutput at run
  split at run
  next monitors primaryIdx active shape =>
    obtain ⟨primary, primary', _, mon, got, reclaims, links, rfl⟩ := addOutputNormal_spec run
    have has := (parts_normal shape).1
    have came : mon.output = output := links.output_eq
    have grown : outputs { layout with
        lastActiveWorkspaceId := layout.othersShown output
        parkedWorkspaces := (layout.takeParkedFor output).2.parkedWorkspaces
        monitorSet := .normal (monitors.set primaryIdx primary' ++ [mon])
          primaryIdx active } = layout.outputs ++ [output] := by
      have same := reclaims.grew.alters.output
      unfold outputs
      rw [has, parts_normal rfl |>.1, map_append, Vec.map_set_of_eq got same, map_singleton, came]
    have rest : layout.outputs ≠ [] :=
      ne_nil_of_mem (mem_of_getElem? (outputs_getElem? (has ▸ got)))
    refine ⟨⟨?_, ?_⟩, grown, rfl, fun alone => (rest alone).elim⟩
    · unfold ConnectorsApart
      rw [grown, map_append, map_singleton]
      apply Nodup.append owned.connectors (nodup_singleton _)
      intro _ mem single
      obtain ⟨linked, here, rfl⟩ := mem_map.mp mem
      exact ne linked here (mem_singleton.mp single)
    · intro idx other here home mem
      unfold MayHost
      rw [grown]
      rw [parts_normal rfl |>.1, getElem?_append] at here
      split at here
      · rw [getElem?_set] at here
        split at here
        next same =>
          -- What stayed on the primary monitor is not the arriving display's.
          subst same
          split at here
          · cases here
            rw [reclaims.grew.alters.output]
            rcases reclaims.homes home mem with own | ⟨old, foreign⟩
            · exact .inl own
            · rcases owned.homes _ primary (has ▸ got) home old with
                own | ⟨_, lack⟩
              · exact .inl own
              · exact .inr ⟨rfl, forall_mem_append.mpr ⟨lack, by
                  simpa using foreign⟩⟩
          · cases here
        next elsewhere =>
        rcases owned.homes idx other (has ▸ here) home mem with
          own | ⟨first, _⟩
        · exact .inl own
        · rw [primaryIdx?_normal shape] at first
          exact (elsewhere (Option.some.inj first)).elim
      · cases mem_singleton.mp (mem_of_getElem? here)
        left
        rw [came]
        rcases links.homes home mem with own | waits
        · exact own
        · obtain ⟨_, awaited, rfl⟩ := mem_map.mp waits
          exact awaiting_homes awaited
  next loose shape =>
  obtain ⟨mon, links, rfl⟩ := addOutputFirst_spec run
  have came : mon.output = output := links.output_eq
  have none : layout.outputs = [] := by
    unfold outputs
    rw [(parts_noOutputs shape).1]
    rfl
  have single : outputs { layout with
      lastActiveWorkspaceId := layout.othersShown output
      parkedWorkspaces := (layout.takeParkedFor output).2.parkedWorkspaces
      monitorSet := .normal [mon] 0 0 } = [output] := by
    unfold outputs
    rw [parts_normal rfl |>.1, map_singleton, came]
  refine ⟨⟨?_, ?_⟩, by rw [single, none, nil_append], rfl, fun _ => rfl⟩
  · unfold ConnectorsApart
    exact nodup_singleton _
  · intro _ _ here home _
    rw [parts_normal rfl |>.1] at here
    rw [getElem?_singleton] at here
    split at here
    next start =>
      cases here
      subst start
      exact mayHost_alone rfl (by rw [single, came]) home
    · cases here

/-- The arriving display gets only names of its own, unless it is the first. -/
lemma addOutput_owned
    (ne : ∀ linked ∈ layout.outputs, lowercase linked.name ≠ lowercase output.name)
    (pending : layout.outputs = [] ∨
      ∀ entry ∈ layout.pendingNamed, entry.home.matchesOutput output = true)
    (run : (layout.addOutput output mode).run next = some (layout', next')) : layout'.Owned := by
  obtain ⟨_, _, ran, materialized⟩ := of_bind run
  obtain ⟨kept, grown, waits, first⟩ := attachOutput_owned owned ne ran
  refine materializePendingNamed_owned kept ?_ materialized
  intro entry mem idx loc
  rcases pending with none | own
  · rw [none, nil_append] at grown
    have only : idx = 0 := by
      rw [monitorIdx_eq, grown] at loc
      obtain ⟨lt, _⟩ := findIdx?_eq_some_iff_getElem.mp loc
      simpa using lt
    exact mayHost_alone (only ▸ first none) grown entry.home
  · exact .inl (own entry (waits ▸ mem))

lemma setPrimaryOutput_owned
    (spared : layout.monitorIdx output = layout.primaryIdx? ∨ layout.GuestFree) :
    (layout.setPrimaryOutput output).Owned := by
  unfold setPrimaryOutput
  split
  next _ primaryIdx _ _ shape loc =>
    have has := (parts_normal shape).1
    rcases spared with same | own
    · rw [loc, primaryIdx?_normal shape] at same
      refine owned.of_homes ?_ ?_ ?_
      · unfold outputs
        rw [has]
        rfl
      · rw [primaryIdx?_normal shape, ← same]
        rfl
      · intro pos mon got
        exact owned.homes pos mon (has ▸ got)
    · constructor
      · have connectors := owned.connectors
        unfold ConnectorsApart outputs at *
        rwa [has] at connectors
      · intro pos mon got home mem
        left
        rcases owned.homes pos mon (has ▸ got) home mem with
          mine | ⟨first, _⟩
        · exact mine
        · rw [primaryIdx?_normal shape] at first
          cases first
          refine own mon ?_ home mem
          unfold primary?
          rw [shape]
          exact got
  · exact owned

end

lemma getElem?_eraseIdx_closeUp {α : Type} {xs : List α} {pos : Nat} {item : α}
    (got : (xs.eraseIdx idx)[pos]? = some item) :
    ∃ pre, xs[pre]? = some item ∧ pre ≠ idx ∧ pos = closeUp idx pre := by
  rw [getElem?_eraseIdx] at got
  unfold closeUp
  split at got
  · exact ⟨pos, got, by omega, by rw [if_neg (by omega)]⟩
  · exact ⟨pos + 1, got, by omega, by rw [if_pos (by omega)]; omega⟩

/-- Once a display has left, none of the homes on its monitor is connected. -/
lemma Owned.forgotten (owned : layout.Owned) (got : layout.monitors[idx]? = some mon) :
    ∀ home ∈ mon.homes, ∀ linked ∈ layout.outputs.eraseIdx idx,
      home.matchesOutput linked = false := by
  intro home mem linked stays
  rcases owned.homes idx mon got home mem with own | ⟨_, lack⟩
  · obtain ⟨_, here⟩ := mem_iff_getElem?.mp stays
    obtain ⟨_, stood, ne, _⟩ := getElem?_eraseIdx_closeUp here
    by_contra matching
    exact ne (owned.connectors.unique stood (outputs_getElem? got)
      (by simpa using matching) own)
  · exact lack linked (mem_of_mem_eraseIdx stays)

lemma handed_homes {appended : Monitor} {later : Nat} {inv : List OutputIdentity}
    (appending : (primary.appendWorkspaces (evacuated mon)).run next = some (appended, later))
    (settling : (appended.reblock inv).run later = some (primary', next')) :
    primary'.output = primary.output ∧
      ∀ home ∈ primary'.homes, primary.KnownHome home ∨ home ∈ mon.homes := by
  obtain ⟨sameOutput, _, _, homes, _⟩ := Monitor.appendWorkspaces_spec appending
  have rehouses := (Monitor.reblock_spec settling).1
  refine ⟨rehouses.output.trans sameOutput, ?_⟩
  intro home mem
  rcases rehouses.homes home mem with (own | here) | new
  · left
    left
    rw [← sameOutput]
    exact own
  · rcases homes home here with old | moved
    · exact .inl old
    · right
      rw [← mon.intoWorkspaces_homes]
      exact (filter_sublist.map _).subset moved
  · cases new

lemma removeOutput_owned (owned : layout.Owned)
    (run : (layout.removeOutput output).run next = some (layout', next')) : layout'.Owned := by
  cases removeOutput_leaves run with
  | last => exact ⟨nodup_nil, fun _ _ got => (nomatch got)⟩
  | @handed monitors primaryIdx active idx later _ mon primary appended primary'
      showing shape loc got shown host appending settling =>
    have has := (parts_normal shape).1
    obtain ⟨sameOutput, homes⟩ := handed_homes appending settling
    have fewer : outputs { layout.parting mon showing with
        monitorSet := .normal
          ((monitors.eraseIdx idx).set (closeUp idx primaryIdx) primary')
          (closeUp idx primaryIdx) (closeUp idx active) } =
        layout.outputs.eraseIdx idx := by
      unfold outputs
      rw [has, parts_normal rfl |>.1, Vec.map_set_of_eq host sameOutput, eraseIdx_map]
    constructor
    · unfold ConnectorsApart
      rw [fewer]
      exact ((eraseIdx_sublist _ _).map _).nodup owned.connectors
    · intro _ other here home mem
      unfold MayHost
      rw [fewer]
      rw [parts_normal rfl |>.1, getElem?_set] at here
      split at here
      next same =>
        subst same
        split at here
        · cases here
          rw [sameOutput]
          rcases homes home mem with (own | old) | moved
          · exact .inl own
          · obtain ⟨pre, stood, _, _⟩ := getElem?_eraseIdx_closeUp host
            rcases owned.homes pre primary (has ▸ stood) home old with
              own | ⟨_, lack⟩
            · exact .inl own
            · exact .inr ⟨rfl, fun linked stays =>
                lack linked (mem_of_mem_eraseIdx stays)⟩
          · exact .inr ⟨rfl, owned.forgotten (has ▸ got) home moved⟩
        · cases here
      next elsewhere =>
      obtain ⟨pre, stood, _, rfl⟩ := getElem?_eraseIdx_closeUp here
      rcases owned.homes pre other (has ▸ stood) home mem with
        own | ⟨first, _⟩
      · exact .inl own
      · rw [primaryIdx?_normal shape] at first
        cases first
        exact (elsewhere rfl).elim

/-- Carrying the dragged workspace there takes it to another display. -/
abbrev Crosses (layout : Layout) (destination : Output) : Prop :=
  ∃ fromIdx ∈ draggingIdx layout.monitors, ∃ toIdx ∈ layout.monitorIdx destination, fromIdx ≠ toIdx

lemma carryDraggedWorkspace_eq_self {destination : Output} {pos : ℚ}
    (stays : ¬ layout.Crosses destination)
    (run : (layout.carryDraggedWorkspace geometry destination pos).run next =
      some (layout', next')) : layout' = layout := by
  unfold carryDraggedWorkspace at run
  split at run
  · cases run
    rfl
  next _ _ _ shape =>
  have has := (parts_normal shape).1
  split at run
  next fromIdx toIdx dragging loc =>
    by_cases same : fromIdx = toIdx
    · rw [if_pos same] at run
      cases run
      rfl
    · refine (stays ⟨fromIdx, ?_, toIdx, ?_, same⟩).elim
      · rw [has]
        exact dragging
      · unfold monitorIdx
        rw [has]
        exact loc
  · cases run
    rfl

lemma toggleOverview_stays (nothing : layout.thumbCarry = none)
    (run : (layout.toggleOverview geometry).run next = some (layout', next')) :
    layout.StaysHome layout' := by
  obtain ⟨_, _, shown, carry, ⟨rfl, rfl⟩ | cancelled⟩ := toggleOverview_cases run
  · exact shown.stays
  · exact shown.stays.trans (cancelThumbDrags_stays (carry.trans nothing) cancelled)

/-- The step makes no other monitor the primary one while it has guests, restores
and names workspaces only where they may be, plugs in no second display of one connector,
and carries no workspace to another display in mid-drag. -/
def SparesOwners (layout : Layout) : Op → Prop
  | .setPrimaryOutput output =>
    layout.monitorIdx output = layout.primaryIdx? ∨ layout.GuestFree
  | .insertRestoreWorkspace output home _ => layout.Welcomes output home
  | .ensureNamedWorkspace name openOnOutput =>
    layout.nameTaken name = true ∨ ∀ target ∈ openOnOutput, layout.WelcomesNamed target
  | .addOutput output _ =>
    (∀ connected ∈ layout.outputs, lowercase connected.name ≠ lowercase output.name) ∧
    (layout.outputs = [] ∨ ∀ entry ∈ layout.pendingNamed, entry.home.matchesOutput output = true)
  | .carryDraggedWorkspace _ destination _ => ¬ layout.Crosses destination
  | .cancelThumbDrags _ => layout.thumbCarry = none
  | .toggleOverview _ => layout.thumbCarry = none
  | _ => True

instance : ∀ op, Decidable (layout.SparesOwners op) := by
  rintro ⟨⟩ <;> dsimp only [SparesOwners] <;> infer_instance

lemma apply_owned {op : Op} (owned : layout.Owned) (spares : layout.SparesOwners op)
    (run : (layout.apply op).run next = some (layout', next')) : layout'.Owned := by
  cases apply_effect run with
  | arrived run => exact addOutput_owned owned spares.1 spares.2 run
  | left run => exact removeOutput_owned owned run
  | named run => exact (setWorkspaceName_stays run).owned owned
  | configured run => exact ensureNamedWorkspace_owned owned spares run
  | unmapped handles | handled _ handles => exact handles.stays.owned owned
  | shuffled reassigns =>
    cases op with
    | setPrimaryOutput =>
      cases run
      exact setPrimaryOutput_owned owned spares
    | insertRestoreWorkspace =>
      obtain ⟨⟨_, _⟩, _, puts, ret⟩ := of_bind run
      cases ret
      exact (insertRestoreWorkspace_owned owned spares puts).1
    | carryDraggedWorkspace =>
      rw [carryDraggedWorkspace_eq_self spares run]
      exact owned
    | cancelThumbDrags => exact (cancelThumbDrags_stays spares run).owned owned
    | toggleOverview => exact (toggleOverview_stays spares run).owned owned
    | _ => exact reassigns.elim

lemma runs_owned {ops : List Op}
    (run : Runs step (fun st op => st.1.SparesOwners op) (start mode) ops (layout, next)) :
    layout.Owned :=
  run.invariant (fun st => st.1.Owned)
    (fun spares ran owned => apply_owned owned spares ran)
    ⟨nodup_nil, fun _ _ got => (nomatch got)⟩

/-- Display ownership, as the layout's own checks assert it: a workspace whose home
is connected sits on that display's monitor, and a monitor that is not the primary
one has no other display's workspaces. -/
structure DisplaysOwned (layout : Layout) : Prop where
  home : ∀ (idx : Nat) (mon : Monitor), layout.monitors[idx]? = some mon →
    ∀ ws ∈ mon.workspaces, ∀ (other : Nat) (owner : Monitor), layout.monitors[other]? = some owner →
      ws.originalOutput.matchesOutput owner.output = true → other = idx
  guests : ∀ (idx : Nat) (mon : Monitor), layout.monitors[idx]? = some mon →
    layout.primaryIdx? ≠ some idx →
    ∀ ws ∈ mon.workspaces, ws.originalOutput.matchesOutput mon.output = true

lemma Owned.displaysOwned (owned : layout.Owned) : layout.DisplaysOwned where
  home := by
    intro idx mon got ws mem other _ has linked
    have old : ws.originalOutput ∈ mon.homes := mem_map.mpr ⟨ws, mem, rfl⟩
    rcases owned.homes idx mon got _ old with own | ⟨_, lack⟩
    · exact owned.connectors.unique (outputs_getElem? has) (outputs_getElem? got) linked own
    · have missing := lack _ (mem_of_getElem? (outputs_getElem? has))
      rw [linked] at missing
      cases missing
  guests := by
    intro idx mon got other ws mem
    have old : ws.originalOutput ∈ mon.homes := mem_map.mpr ⟨ws, mem, rfl⟩
    rcases owned.homes idx mon got _ old with own | ⟨first, _⟩
    · exact own
    · exact (other first).elim

/-- Every run that spares the owners keeps every workspace with its display. -/
theorem displays_owned_of_runs {windowingMode : WindowingMode} {ops : List Op}
    (run : Runs step (fun state op => state.1.SparesOwners op) (start windowingMode) ops
      (layout, next)) : layout.DisplaysOwned :=
  (runs_owned run).displaysOwned

theorem displays_owned_of_replug :
    ∃ layout next, Runs step (fun state op => state.1.SparesOwners op) (start .scrolling)
        [.setPendingNamedWorkspaces [⟨"mail", displayB.identity, 0⟩],
          .addOutput displayA .scrolling, .addOutput displayB .scrolling,
          .setPrimaryOutput displayB, .removeOutput displayB,
          .insertRestoreWorkspace displayA displayC.identity 0,
          .addOutput displayB .scrolling] (layout, next) ∧
      layout.monitors.length = 2 ∧ layout.DisplaysOwned := by
  exact ⟨_, _, runs_get_pair (by decide +kernel), by decide +kernel,
    displays_owned_of_runs (runs_get_pair _)⟩

/-- A workspace away from its connected display is seen on the two monitors. -/
lemma not_displaysOwned (astray : (layout.monitors[idx]?.any fun mon =>
      layout.monitors[other]?.any fun owner => mon.workspaces.any fun ws =>
        ws.originalOutput.matchesOutput owner.output) = true) (ne : other ≠ idx) :
    ¬ layout.DisplaysOwned := by
  intro owned
  obtain ⟨mon, got, astray⟩ := (Option.any_eq_true _ _).mp astray
  obtain ⟨owner, has, astray⟩ := (Option.any_eq_true _ _).mp astray
  obtain ⟨ws, mem, linked⟩ := any_eq_true.mp astray
  exact ne (owned.home idx mon got ws mem other owner has linked)

/-- The primary monitor keeps a workspace of the unplugged second display and then
stops being the primary one; when the second display comes back, its workspace
stays where it is. -/
theorem displays_not_owned : ∃ layout next,
      (applyAll [.addOutput displayA .scrolling, .addOutput displayB .scrolling,
        .addOutput displayC .scrolling, .setWorkspaceName "mail" (some (.id 3)),
        .removeOutput displayB, .setPrimaryOutput displayC,
        .addOutput displayB .scrolling] (withOptions .scrolling)).run
          firstWorkspaceId = some (layout, next) ∧ ¬ layout.DisplaysOwned := by
  have ran : ((applyAll [.addOutput displayA .scrolling, .addOutput displayB .scrolling,
      .addOutput displayC .scrolling, .setWorkspaceName "mail" (some (.id 3)),
      .removeOutput displayB, .setPrimaryOutput displayC,
      .addOutput displayB .scrolling] (withOptions .scrolling)).run
        firstWorkspaceId).any (fun state => state.1.monitors[0]?.any fun mon =>
          state.1.monitors[2]?.any fun owner => mon.workspaces.any fun ws =>
            ws.originalOutput.matchesOutput owner.output) = true := by
    decide +kernel
  obtain ⟨⟨layout, next⟩, finished, astray⟩ := (Option.any_eq_true _ _).mp ran
  exact ⟨layout, next, finished, not_displaysOwned astray (by decide)⟩

end Synoik.Layout
