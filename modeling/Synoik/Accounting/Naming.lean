import Synoik.Accounting.Books

/-!
# Naming and restoring spaces

A name is given to one workspace, and only if nobody has it. The names of an
earlier session are given to restore slots when a display arrives.
-/

namespace Synoik.Layout

open List Workspace

open FreshM

variable {layout layout' : Layout} {next next' : Nat} {monitors : List Monitor}
  {loose : List Workspace} {openOnOutput : Option String} {entry : NamedWorkspace}

lemma locateIn_eq_some {want : Workspace → Bool} {start monitorIdx wsIdx : Nat}
    (loc : locateIn want monitors start = some (monitorIdx, wsIdx)) :
    ∃ idx mon ws, monitorIdx = start + idx ∧ monitors[idx]? = some mon ∧
      mon.workspaces[wsIdx]? = some ws ∧ want ws = true := by
  induction monitors generalizing start with
  | nil => cases loc
  | cons mon _ ih =>
    unfold locateIn at loc
    split at loc
    next _ got =>
      cases loc
      obtain ⟨lt, wants, _⟩ := findIdx?_eq_some_iff_getElem.mp got
      exact ⟨0, mon, _, rfl, rfl, getElem?_eq_getElem lt, wants⟩
    · obtain ⟨idx, other, ws, rfl, got, here, wants⟩ := ih loc
      exact ⟨idx + 1, other, ws, by omega, got, here, wants⟩

def named (ws : Workspace) (name : String) : Workspace :=
  { ws with name := some name }

variable {id : WorkspaceId} {name : String} {idx ordinal : Nat} {ws : Workspace}
  {reference : Option WorkspaceReference} {out : Output} {home : OutputIdentity}
  {entries : List NamedWorkspace}

lemma nameWorkspace_cases
    (run : (layout.nameWorkspace id name).run next = some (layout', next')) : next = next' ∧
      ((layout' = layout ∧ ∀ ws ∈ layout.workspaces, ws.id ≠ id) ∨
      (∃ monitors primary active idx mon wsIdx ws,
        layout.monitorSet = .normal monitors primary active ∧
        monitors[idx]? = some mon ∧ mon.workspaces[wsIdx]? = some ws ∧ ws.id = id ∧
        layout' = { layout with
          monitorSet := .normal (monitors.set idx { mon with
            workspaces := mon.workspaces.set wsIdx (named ws name) }) primary active }) ∨
      (∃ loose wsIdx ws, layout.monitorSet = .noOutputs loose ∧
        loose[wsIdx]? = some ws ∧ ws.id = id ∧ layout' = { layout with
          monitorSet := .noOutputs (loose.set wsIdx (named ws name)) })) := by
  unfold nameWorkspace updateFirst at run
  split at run
  next monitors primary active shape =>
    split at run
    next missing =>
      cases run
      refine ⟨rfl, .inl ⟨rfl, fun ws mem => ?_⟩⟩
      rw [(parts_normal shape).2] at mem
      simpa using locateIn_eq_none missing ws mem
    next _ wsIdx loc =>
    obtain ⟨idx, mon, ws, rfl, got, here, wants⟩ := locateIn_eq_some loc
    rw [Nat.zero_add] at run
    obtain ⟨_, _, has, ran, rfl⟩ := updateMonitor_normal shape run
    rw [got] at has
    cases has
    obtain ⟨_, _, wsFound, made, rfl, rfl⟩ := Monitor.updateWorkspace_eq ran
    rw [here] at wsFound
    cases wsFound
    cases made
    exact ⟨rfl, .inr (.inl ⟨monitors, primary, active, idx, mon,
      wsIdx, ws, shape, got, here, by simpa using wants, rfl⟩)⟩
  next loose shape =>
  split at run
  next missing =>
    cases run
    refine ⟨rfl, .inl ⟨rfl, fun ws mem => ?_⟩⟩
    rw [(parts_noOutputs shape).2] at mem
    simpa using findIdx?_eq_none_iff.mp missing ws mem
  next wsIdx got =>
  obtain ⟨_, computed, ret⟩ := of_unwrap run
  obtain ⟨_, _, here, made, rfl⟩ := Vec.updateAt_eq_some.mp computed
  cases ret
  cases made
  obtain ⟨lt, wants, _⟩ := findIdx?_eq_some_iff_getElem.mp got
  rw [getElem?_eq_getElem lt] at here
  cases here
  exact ⟨rfl, .inr (.inr ⟨loose, wsIdx, _, shape,
    getElem?_eq_getElem lt, by simpa using wants, rfl⟩)⟩

/-- One workspace of the layout got a name. -/
structure Renames (layout layout' : Layout) (id : WorkspaceId) (name : String) : Prop where
  split : ∃ front ws back, layout.workspaces = front ++ ws :: back ∧
    layout'.workspaces = front ++ named ws name :: back ∧ ws.id = id
  parked : layout'.parkedWorkspaces = layout.parkedWorkspaces
  move : layout'.movingWindows = layout.movingWindows

lemma set_split {spaces : List Workspace} (got : spaces[idx]? = some ws)
    (new : Workspace) : spaces = spaces.take idx ++ ws :: spaces.drop (idx + 1) ∧
      spaces.set idx new = spaces.take idx ++ new :: spaces.drop (idx + 1) := by
  refine ⟨Vec.eq_append_of_getElem? got, ?_⟩
  rw [set_eq_take_append_cons_drop, if_pos (Vec.lt_length got)]

lemma nameWorkspace_renames
    (run : (layout.nameWorkspace id name).run next = some (layout', next')) : next = next' ∧
      ((layout' = layout ∧ ∀ ws ∈ layout.workspaces, ws.id ≠ id) ∨
        Renames layout layout' id name) := by
  obtain ⟨rfl, missing | ⟨monitors, _, _, idx, mon, wsIdx, ws,
    shape, got, here, rfl, rfl⟩ | ⟨_, wsIdx, ws, shape, here, rfl, rfl⟩⟩ := nameWorkspace_cases run
  · exact ⟨rfl, .inl missing⟩
  · refine ⟨rfl, .inr ⟨?_, rfl, rfl⟩⟩
    obtain ⟨pre, post⟩ := flatMap_workspaces_set got { mon with
      workspaces := mon.workspaces.set wsIdx (named ws name) }
    obtain ⟨whole, rewritten⟩ := set_split here (named ws name)
    rw [(parts_normal shape).2, parts_normal rfl |>.2, pre, post]
    refine ⟨(monitors.take idx).flatMap Monitor.workspaces ++
      mon.workspaces.take wsIdx, ws, mon.workspaces.drop (wsIdx + 1) ++
      (monitors.drop (idx + 1)).flatMap Monitor.workspaces, ?_, ?_, rfl⟩
    · conv_lhs => rw [whole]
      simp
    · rw [rewritten]
      simp
  · refine ⟨rfl, .inr ⟨?_, rfl, rfl⟩⟩
    obtain ⟨whole, rewritten⟩ := set_split here (named ws name)
    rw [(parts_noOutputs shape).2, parts_noOutputs rfl |>.2]
    exact ⟨_, ws, _, whole, rewritten, rfl⟩

lemma nameTaken_eq_false : layout.nameTaken name = false ↔ ∀ ws ∈ layout.workspaces,
      ∀ taken ∈ ws.name, eqIgnoreAsciiCase taken name = false := by
  unfold nameTaken
  rw [any_eq_false]
  refine forall₂_congr fun ws _ => ?_
  cases ws.name with
  | none => simp
  | some =>
    simp only [Option.any_some, Bool.not_eq_true, Option.mem_def, Option.some.injEq, forall_eq']

section

variable (renames : Renames layout layout' id name)
include renames

lemma Renames.exchange :
    ∃ ws rest, layout.allWorkspaces.Perm (ws :: (rest ++ layout.parkedWorkspaces)) ∧
      layout'.allWorkspaces.Perm (named ws name :: (rest ++ layout.parkedWorkspaces)) ∧
      ws.id = id ∧ ∀ other ∈ rest, other ∈ layout.workspaces := by
  obtain ⟨front, ws, back, pre, post, same⟩ := renames.split
  refine ⟨ws, front ++ back, ?_, ?_, same, ?_⟩
  · unfold allWorkspaces
    rw [pre]
    simp
  · unfold allWorkspaces
    rw [post, renames.parked]
    simp
  · intro _ mem
    rw [pre]
    rcases mem_append.mp mem with early | late
    · exact mem_append_left _ early
    · exact mem_append_right _ (.tail _ late)

lemma Renames.windows :
    (windowsOf layout'.allWorkspaces).Perm (windowsOf layout.allWorkspaces) := by
  obtain ⟨_, _, whole, rewritten, _⟩ := renames.exchange
  exact (windowsOf_perm rewritten).trans (windowsOf_perm whole).symm

lemma Renames.books
    (free : layout.nameTaken name = false) : Books layout next layout' next [] [] := by
  obtain ⟨_, _, whole, rewritten, _, reachable⟩ := renames.exchange
  refine ⟨?_, ?_, ?_, fun idle ne => ?_⟩
  · have ids := whole.map Workspace.id
    exact .of_perm ((rewritten.map Workspace.id).trans ids.symm)
  · unfold holdings
    rw [renames.move]
    exact renames.windows.append_right _
  · unfold ParkedUnused
    rw [renames.parked]
    exact fun idle => idle
  · have rest := ne.of_subperm (((sublist_cons_self _ _).filterMap _).subperm.trans
        (whole.symm.filterMap _).subperm)
    refine (NamesApart.cons ?_ rest).of_subperm (rewritten.filterMap _).subperm
    intro _ gives other mem taken otherNamed
    cases gives
    rcases mem_append.mp mem with listed | parked
    · exact nameTaken_eq_false.mp free other (reachable other listed) taken otherNamed
    · have unnamed := (idle other parked).1
      simp [hasWindowsOrName, Option.mem_def.mp otherNamed] at unnamed

end

lemma nameWorkspace_books (free : layout.nameTaken name = false)
    (run : (layout.nameWorkspace id name).run next = some (layout', next')) :
    Books layout next layout' next' [] [] := by
  obtain ⟨rfl, ⟨rfl, _⟩ | renames⟩ := nameWorkspace_renames run
  · exact .refl _ _
  · exact renames.books free

section

variable (run : (layout.setWorkspaceName name reference).run next = some (layout', next'))
include run

lemma setWorkspaceName_cases : (layout' = layout ∧ next = next') ∨
      ∃ id mid later, layout.nameTaken name = false ∧ layout.resolveTarget reference = some id ∧
        (layout.nameWorkspace id name).run next = some (mid, later) ∧
        (mid.onActiveMonitor fun mon =>
          if mon.workspaces.getLast?.any fun last => last.id == id then mon.addWorkspaceBottom else
            pure mon).run later = some (layout', next') := by
  unfold setWorkspaceName at run
  split at run
  · cases run
    exact .inl ⟨rfl, rfl⟩
  next free =>
  split at run
  · cases run
    exact .inl ⟨rfl, rfl⟩
  next id resolved =>
  obtain ⟨mid, later, naming, grown⟩ := of_bind run
  exact .inr ⟨id, mid, later, by simpa using free, resolved, naming, grown⟩

lemma setWorkspaceName_books : Books layout next layout' next' [] [] := by
  rcases setWorkspaceName_cases run with ⟨rfl, rfl⟩ | ⟨_, _, _, free, _, naming, grown⟩
  · exact .refl _ _
  · have grows := onActiveMonitor_retains (fun _ _ _ _ grew =>
      (Monitor.addBottomIf_shifts grew).retains) grown
    exact (nameWorkspace_books free naming).trans grows.books

end

lemma retains_of_unname (shape : layout.monitorSet = .noOutputs loose)
    (lt : idx < loose.length) : Retains layout next { layout with
      monitorSet := .noOutputs (if (loose[idx]?).any hasWindows then loose.modify idx unname
        else (loose.modify idx unname).eraseIdx idx) } next [] := by
  have got := getElem?_eq_getElem lt
  generalize loose[idx] = ws at got
  have rewritten : loose.modify idx unname = loose.set idx ws.unname := by
    rw [modify_eq_set_getElem?, got]
    rfl
  have renamed : Covers loose next (loose.set idx ws.unname) next := .ofSet got rfl (.inr rfl)
  have kept : (windowsOf (loose.set idx ws.unname)).Perm ([] ++ windowsOf loose) :=
    windowsOf_set got (.refl _)
  have still : (loose.set idx ws.unname)[idx]? = some ws.unname := getElem?_set_self lt
  rw [rewritten, got]
  have stays : layout.StaysHome { layout with
      monitorSet := .noOutputs (if (some ws).any hasWindows
        then loose.set idx ws.unname
        else (loose.set idx ws.unname).eraseIdx idx) } :=
    staysHome_of_noOutputs shape rfl
  refine ⟨⟨?_, rfl, rfl, ?_, fun _ _ mem => (nomatch mem), stays.inside⟩, stays⟩
  · rw [(parts_noOutputs shape).2, parts_noOutputs rfl |>.2]
    split
    · exact renamed
    · exact renamed.trans (.ofSubperm (eraseIdx_sublist _ _).subperm)
  · rw [(parts_noOutputs shape).2, parts_noOutputs rfl |>.2]
    split
    · exact kept
    next bare =>
    have none : ws.unname.keys = [] := keys_of_windowless (Bool.not_eq_true _ ▸ bare)
    have erased := windowsOf_perm (Vec.removeAt_perm (Vec.removeAt_eq_some.mpr ⟨still, rfl⟩))
    rw [windowsOf_cons, none] at erased
    exact erased.symm.trans kept

lemma unnameWorkspaceById_retains : Retained layout (layout.unnameWorkspaceById id) := by
  intro _ _ _ run
  unfold unnameWorkspaceById at run
  split at run
  · exact onFirstMonitor_retains (fun _ _ _ _ _ unnamed =>
      (Monitor.unnameWorkspace_shifts unnamed).retains) run
  next _ shape =>
  split at run
  · cases run
    exact .refl _ _
  next _ got =>
  cases run
  exact retains_of_unname shape (findIdx?_eq_some_iff_getElem.mp got).1

lemma unsetWorkspaceName_retains : Retained layout (layout.unsetWorkspaceName reference) := by
  unfold unsetWorkspaceName
  split
  · exact .pure
  · exact unnameWorkspaceById_retains

/-- The workspace the configuration asks for joins the reachable ones. -/
structure Joins (layout : Layout) (next : Nat) (ws : Workspace) (layout' : Layout)
    (next' : Nat) : Prop where
  covers : Covers (ws :: layout.workspaces) next layout'.workspaces next'
  windows : (windowsOf layout'.workspaces).Perm (windowsOf (ws :: layout.workspaces))
  parked : layout'.parkedWorkspaces = layout.parkedWorkspaces
  move : layout'.movingWindows = layout.movingWindows
  sound : layout.Sound → layout'.Sound

lemma Joins.ofAdoptInto {monitors' : List Monitor} {primary active : Nat}
    (shape : layout.monitorSet = .normal monitors primary active)
    (adopts : AdoptInto monitors next ws monitors' next') : Joins layout next ws
      { layout with monitorSet := .normal monitors' primary active } next' := by
  refine ⟨?_, ?_, rfl, rfl, ?_⟩
  · rw [(parts_normal shape).2, parts_normal rfl |>.2]
    exact adopts.covers
  · rw [(parts_normal shape).2, parts_normal rfl |>.2]
    exact adopts.windows
  · unfold Sound
    rw [(parts_normal shape).1]
    exact adopts.sound

lemma Joins.ofLoose (shape : layout.monitorSet = .noOutputs loose) (ws : Workspace) :
    Joins layout next ws { layout with monitorSet := .noOutputs (ws :: loose) } next := by
  refine ⟨?_, ?_, rfl, rfl, fun _ _ mem => nomatch mem⟩
  · rw [(parts_noOutputs shape).2, parts_noOutputs rfl |>.2]
    exact .refl _ _
  · rw [(parts_noOutputs shape).2, parts_noOutputs rfl |>.2]

lemma Joins.books (joins : Joins layout (next + 1) ws layout' next')
    (numbered : ws.id = next) (nameless : ws.name = some name) (bare : ws.keys = [])
    (free : layout.nameTaken name = false) : Books layout next layout' next' [] [] := by
  have covers : Covers (ws :: layout.allWorkspaces) (next + 1) layout'.allWorkspaces next' := by
    unfold allWorkspaces
    rw [joins.parked]
    exact joins.covers.append_right _
  refine ⟨?_, ?_, ?_, fun idle ne => ?_⟩
  · refine .trans (.draw next ?_) covers.ids
    rw [map_cons, numbered]
    rfl
  · unfold holdings allWorkspaces
    rw [joins.move, joins.parked, windowsOf_append, windowsOf_append]
    have windows := joins.windows
    rw [windowsOf_cons, bare] at windows
    exact (windows.append_right _).append_right _
  · unfold ParkedUnused
    rw [joins.parked]
    exact id
  · refine (NamesApart.cons ?_ ne).of_subperm covers.names
    intro _ gives other mem taken otherNamed
    rw [nameless] at gives
    cases gives
    rcases mem_append.mp mem with reachable | parked
    · exact nameTaken_eq_false.mp free other reachable taken otherNamed
    · have unnamed := (idle other parked).1
      simp [hasWindowsOrName, Option.mem_def.mp otherNamed] at unnamed

section

variable (run : (layout.ensureNamedWorkspace name openOnOutput).run next = some (layout', next'))
include run

lemma ensureNamedWorkspace_cases : (layout' = layout ∧ next = next') ∨
      (layout.nameTaken name = false ∧ ∃ ws, Joins layout (next + 1) ws layout' next' ∧
        ws.id = next ∧ ws.name = some name ∧ ws.keys = []) := by
  unfold ensureNamedWorkspace at run
  split at run
  · cases run
    exact .inl ⟨rfl, rfl⟩
  next free =>
  refine .inr ⟨by simpa using free, ?_⟩
  split at run
  next _ _ _ shape =>
    obtain ⟨_, _, got, added, rfl⟩ := updateMonitor_normal shape run
    have adopted := (Monitor.insertWorkspace_adopts added).houses.adoptInto got
    exact ⟨_, .ofAdoptInto shape adopted, rfl, rfl, rfl⟩
  next _ shape =>
  cases run
  exact ⟨_, .ofLoose shape _, rfl, rfl, rfl⟩

lemma ensureNamedWorkspace_books : Books layout next layout' next' [] [] := by
  rcases ensureNamedWorkspace_cases run with ⟨rfl, rfl⟩ |
    ⟨free, ws, joins, numbered, named, bare⟩
  · exact .refl _ _
  · exact joins.books numbered named bare free

end

variable {id : Option WorkspaceId}

lemma insertRestoreWorkspace_cases
    (run : (layout.insertRestoreWorkspace out home ordinal).run next =
      some ((id, layout'), next')) : (id = none ∧ layout' = layout ∧ next = next' ∧
      layout.monitorIdx out = none) ∨ ∃ monitors primary active idx mon mon' claimedId,
      layout.monitorSet = .normal monitors primary active ∧
      layout.monitorIdx out = some idx ∧ monitors[idx]? = some mon ∧ id = some claimedId ∧
      (mon.insertRestoreWorkspace layout.displayOrder home ordinal).run
        next = some ((claimedId, mon'), next') ∧ layout' = { layout with
        monitorSet := .normal (monitors.set idx mon') primary active } := by
  unfold insertRestoreWorkspace at run
  split at run
  next monitors primary active idx shape loc =>
    obtain ⟨mon, got, run⟩ := of_unwrap run
    obtain ⟨⟨claimedId, mon'⟩, _, added, ret⟩ := of_bind run
    cases ret
    exact .inr ⟨monitors, primary, active, idx, mon, mon', claimedId,
      shape, loc, got, rfl, added, rfl⟩
  next neither =>
  cases run
  refine .inl ⟨rfl, rfl, rfl, ?_⟩
  cases loc : layout.monitorIdx out with
  | none => rfl
  | some =>
    cases shape : layout.monitorSet with
    | normal => exact (neither _ _ _ _ shape loc).elim
    | noOutputs =>
      unfold monitorIdx monitors at loc
      rw [shape] at loc
      cases loc

lemma insertRestoreWorkspace_keeps
    (run : (layout.insertRestoreWorkspace out home ordinal).run next =
      some ((id, layout'), next')) : Keeps layout next layout' next' := by
  rcases insertRestoreWorkspace_cases run with ⟨_, rfl, rfl, _⟩ |
    ⟨_, _, _, _, _, _, _, shape, _, got, _, added, rfl⟩
  · exact .refl _ _
  · exact .ofMonitor shape got (Monitor.insertRestoreWorkspace_spec added).1.preserves

lemma insertRestoreWorkspace_shuffles
    (run : (layout.insertRestoreWorkspace out home ordinal).run next =
      some ((id, layout'), next')) : Shuffles layout next layout' next' [] := by
  rcases insertRestoreWorkspace_cases run with ⟨_, rfl, rfl, _⟩ |
    ⟨_, _, _, _, _, _, _, shape, _, got, _, added, rfl⟩
  · exact .refl _ _
  · obtain ⟨rehouses, inv⟩ := Monitor.insertRestoreWorkspace_spec added
    exact shuffles_of_normal shape rfl rfl rfl (.set got rehouses.preserves.covers
      rehouses.preserves.windows inv)

lemma ensureRestoreWorkspace_retains : Retained layout (layout.ensureRestoreWorkspace out idx) := by
  intro _ _ _ run
  refine onOutput_retains (fun _ _ _ _ ensured => ?_) run
  obtain ⟨⟨_, _⟩, _, ensuring, ret⟩ := of_bind ensured
  cases ret
  obtain ⟨rehouses, inv⟩ := Monitor.ensureRestoreWorkspace_spec ensuring
  exact rehouses.retains inv

lemma Keeps.nameTaken (keeps : Keeps layout next layout' next')
    (parked : layout'.parkedWorkspaces = layout.parkedWorkspaces)
    (free : layout.nameTaken name = false) : layout'.nameTaken name = false := by
  have names := keeps.preserves.names
  unfold allWorkspaces at names
  rw [parked, filterMap_append, filterMap_append, perm_append_right_iff] at names
  rw [nameTaken_eq_false] at *
  intro ws mem taken carries
  obtain ⟨other, here, named⟩ := mem_filterMap.mp
    (names.mem_iff.mp (mem_filterMap.mpr ⟨ws, mem, carries⟩))
  exact free other here taken named

/-- One pending entry, served: somebody has its name already, its display is not
there, or the workspace claimed for it gets the name. -/
inductive Serves (output : Output) (layout : Layout) (next : Nat)
    (entry : NamedWorkspace) : Layout → Nat → Prop where
  | skipped (taken : layout.nameTaken entry.name = true) :
      Serves output layout next entry layout next
  | unplaced (missing : layout.monitorIdx output = none) :
      Serves output layout next entry layout next
  | placed {id : WorkspaceId} {restored layout' : Layout} {second next' : Nat}
      (free : layout.nameTaken entry.name = false)
      (restoring : (layout.insertRestoreWorkspace output entry.home entry.ordinal).run
        next = some ((some id, restored), second))
      (naming : (restored.nameWorkspace id entry.name).run second = some (layout', next')) :
      Serves output layout next entry layout' next'

lemma materializeEntries_cases
    (run : (materializeEntries out (entry :: entries) layout).run next =
      some (layout', next')) : ∃ mid later, Serves out layout next entry mid later ∧
      (materializeEntries out entries mid).run later = some (layout', next') := by
  unfold materializeEntries at run
  split at run
  next taken => exact ⟨layout, next, .skipped taken, run⟩
  next free =>
  obtain ⟨⟨_, restored⟩, _, puts, run⟩ := of_bind run
  dsimp only at run
  split at run
  · rcases insertRestoreWorkspace_cases puts with ⟨_, rfl, rfl, missing⟩ |
      ⟨_, _, _, _, _, _, _, _, _, _, impossible, _⟩
    · exact ⟨restored, next, .unplaced missing, run⟩
    · cases impossible
  · obtain ⟨mid, later, naming, run⟩ := of_bind run
    exact ⟨mid, later, .placed (by simpa using free) puts naming, run⟩

lemma materializeEntries_invariant (holds : Layout → Nat → Prop)
    (kept : ∀ entry ∈ entries, ∀ {layout next layout' next'},
      Serves out layout next entry layout' next' → holds layout next →
        holds layout' next') (run : (materializeEntries out entries layout).run next =
      some (layout', next')) (first : holds layout next) : holds layout' next' := by
  induction entries generalizing layout next with
  | nil =>
    cases run
    exact first
  | cons entry _ ih =>
    obtain ⟨_, _, served, rest⟩ := materializeEntries_cases run
    exact ih (fun other mem => kept other (.tail _ mem))
      rest (kept entry (.head _) served first)

lemma Serves.books (serves : Serves out layout next entry layout' next') :
    Books layout next layout' next' [] [] := by
  cases serves with
  | skipped | unplaced => exact .refl _ _
  | placed free puts naming =>
    have keeps := insertRestoreWorkspace_keeps puts
    exact keeps.books.trans (nameWorkspace_books (keeps.nameTaken
      (insertRestoreWorkspace_shuffles puts).parked free) naming)

lemma materializeEntries_books (run : (materializeEntries out entries layout).run next =
      some (layout', next')) : Books layout next layout' next' [] [] :=
  materializeEntries_invariant (fun served later => Books layout next served later [] [])
    (fun _ _ _ _ _ _ serves books => books.trans serves.books) run (.refl _ _)

section

variable (run : (layout.materializePendingNamed out).run next = some (layout', next'))
include run

lemma materializePendingNamed_cases : (layout.pendingNamed = [] ∧ layout' = layout ∧ next = next') ∨
      ∃ mid later, (materializeEntries out layout.pendingInOrder
          { layout with pendingNamed := [] }).run next = some (mid, later) ∧
        (mid.onOutput out Monitor.cleanUpIfIdle).run later = some (layout', next') := by
  unfold materializePendingNamed at run
  split at run
  next empty =>
    cases run
    exact .inl ⟨isEmpty_iff.mp empty, rfl, rfl⟩
  · obtain ⟨mid, later, served, clean⟩ := of_bind run
    exact .inr ⟨mid, later, served, clean⟩

lemma materializePendingNamed_books : Books layout next layout' next' [] [] := by
  rcases materializePendingNamed_cases run with ⟨_, rfl, rfl⟩ | ⟨_, _, served, clean⟩
  · exact .refl _ _
  · have forgotten : Retains layout next { layout with pendingNamed := [] } next [] :=
      .ofSameWorkspaces rfl rfl rfl rfl rfl
    exact (forgotten.books.trans (materializeEntries_books served)).trans
      (onOutput_retains (fun _ _ _ _ clean =>
        (Monitor.cleanUpIfIdle_shifts clean).retains) clean).books

end

end Synoik.Layout
