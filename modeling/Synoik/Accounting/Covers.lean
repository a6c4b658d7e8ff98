import Synoik.Accounting.Strips

/-!
# Books on lists of spaces

`Covers` compares two lists of spaces without regard to order: every id of
the later list is one of the earlier list or freshly drawn, and no name
appears.  `Preserves` is stricter: the spaces in use are the same, each with
its name and its tiles, and only unused ones come and go. Both compose along
runs and over the parts of a whole, so the same books serve a strip, a monitor
and the layout.
-/

namespace Synoik

open List

variable {pre mid post : List Workspace} {next next' next'' : Nat}

structure Covers (before : List Workspace) (next : Nat)
    (after : List Workspace) (next' : Nat) : Prop where
  ids : Issues (before.map Workspace.id) next (after.map Workspace.id) next'
  names : (after.filterMap Workspace.name).Subperm
    (before.filterMap Workspace.name)

namespace Covers

lemma trans (one : Covers pre next mid next')
    (last : Covers mid next' post next'') : Covers pre next post next'' :=
  ⟨one.ids.trans last.ids, last.names.trans one.names⟩

lemma ofSubperm (fewer : post.Subperm pre) : Covers pre next post next := by
  obtain ⟨_, perm, sublist⟩ := fewer
  exact ⟨.of_subperm ⟨_, perm.map _, sublist.map _⟩, ⟨_, perm.filterMap _, sublist.filterMap _⟩⟩

lemma ofPerm (same : post.Perm pre) : Covers pre next post next := ofSubperm same.subperm

lemma refl (spaces : List Workspace) (next : Nat) : Covers spaces next spaces next :=
  ofSubperm (.refl _)

lemma ofMap (ids : post.map Workspace.id = pre.map Workspace.id)
    (names : post.map Workspace.name = pre.map Workspace.name) : Covers pre next post next := by
  refine ⟨.of_perm (.of_eq ids), Perm.subperm (.of_eq ?_)⟩
  have through : ∀ list : List Workspace,
      list.filterMap Workspace.name = (list.map Workspace.name).filterMap id := by
    intro _
    rw [filterMap_map]
    rfl
  rw [through, through, names]

lemma ofCores (sameCores : post.map Workspace.core = pre.map Workspace.core) :
    Covers pre next post next :=
  ofMap (Workspace.ignoresOrdinal_id.map_eq sameCores)
    (Workspace.ignoresOrdinal_name.map_eq sameCores)

variable {ws : Workspace}

lemma ofNew (numbered : ws.id = next) (unnamed : ws.name = none)
    (grown : post.Perm (ws :: pre)) : Covers pre next post (next + 1) := by
  subst numbered
  refine ⟨.draw ws.id (grown.map _), ?_⟩
  have named := grown.filterMap Workspace.name
  rw [filterMap_cons_none unnamed] at named
  exact named.subperm

lemma ofSet {idx : Nat} {new : Workspace} (got : pre[idx]? = some ws)
    (sameId : new.id = ws.id) (fewerNames : new.name = ws.name ∨ new.name = none) :
    Covers pre next (pre.set idx new) next := by
  refine ⟨.of_perm (.of_eq (Vec.map_set_of_eq got sameId)), ?_⟩
  have swapped := (Vec.set_perm new got).filterMap Workspace.name
  simp only [filterMap_cons] at swapped
  rcases fewerNames with same | gone
  · rw [same] at swapped
    split at swapped
    · exact swapped.subperm
    · exact (swapped.cons_inv).subperm
  · rw [gone] at swapped
    split at swapped
    · exact swapped.subperm
    · exact (sublist_cons_self _ _).subperm.trans swapped.subperm

lemma ofFillers (out : Output) (ahead : next ≤ next') :
    Covers pre next (pre ++ Monitor.fillers out next next') next' := by
  refine ⟨⟨ahead, Perm.subperm (.of_eq ?_)⟩, Perm.subperm (.of_eq ?_)⟩
  · simp [Monitor.fillers, Function.comp_def, Workspace.new]
  · simp [Monitor.fillers, filterMap_map, Workspace.new]

lemma append_right (covers : Covers pre next post next') (rest : List Workspace) :
    Covers (pre ++ rest) next (post ++ rest) next' := by
  constructor
  · simpa using covers.ids.append_right (rest.map Workspace.id)
  · simpa using covers.names.append (.refl (rest.filterMap Workspace.name))

lemma append_left (covers : Covers pre next post next') (rest : List Workspace) :
    Covers (rest ++ pre) next (rest ++ post) next' := by
  constructor
  · simpa using covers.ids.append_left (rest.map Workspace.id)
  · simpa using Subperm.append (.refl (rest.filterMap Workspace.name)) covers.names

lemma append {rest others' : List Workspace} (one : Covers pre next post next')
    (last : Covers rest next' others' next'') :
    Covers (pre ++ rest) next (post ++ others') next'' :=
  (one.append_right rest).trans (last.append_left post)

end Covers

/-- What a user would miss of a workspace. -/
structure WorkspaceContents where
  id : WorkspaceId
  name : Option String
  tiles : List Tile

def Workspace.contents (ws : Workspace) : WorkspaceContents :=
  { id := ws.id, name := ws.name, tiles := ws.tiles }

/-- The workspaces in use, by what a user would miss of them. -/
def usedContents (workspaces : List Workspace) : List WorkspaceContents :=
  (workspaces.filter Workspace.hasWindowsOrName).map Workspace.contents

lemma Workspace.ignoresOrdinal_contents : IgnoresOrdinal Workspace.contents := fun _ _ => rfl

lemma usedContents_eq (spaces : List Workspace) :
    usedContents spaces = (spaces.map Workspace.contents).filter
      fun contents => !contents.tiles.isEmpty || contents.name.isSome := by
  rw [filter_map]
  rfl

@[simp] lemma usedContents_append (left right : List Workspace) :
    usedContents (left ++ right) = usedContents left ++ usedContents right := by
  simp [usedContents]

variable {spaces : List Workspace}

lemma usedContents_cons_unused {ws : Workspace} (idle : ws.hasWindowsOrName = false) :
    usedContents (ws :: spaces) = usedContents spaces := by
  simp [usedContents, idle]

lemma usedContents_eq_nil (idle : ∀ ws ∈ spaces, ws.hasWindowsOrName = false) :
    usedContents spaces = [] := by
  unfold usedContents
  rw [filter_eq_nil_iff.mpr (by simpa using idle)]
  rfl

lemma usedContents_perm {left right : List Workspace} (perm : left.Perm right) :
    (usedContents left).Perm (usedContents right) :=
  (perm.filter _).map _

lemma usedContents_filter {keep : Workspace → Bool}
    (keepsUsed : ∀ ws ∈ spaces, ws.hasWindowsOrName = true → keep ws = true) :
    usedContents (spaces.filter keep) = usedContents spaces := by
  unfold usedContents
  rw [filter_filter]
  congr 1
  refine filter_congr fun ws mem => ?_
  cases used : ws.hasWindowsOrName with
  | false => rfl
  | true => simp [keepsUsed ws mem used]

lemma names_eq_usedContents (spaces : List Workspace) :
    spaces.filterMap Workspace.name = (usedContents spaces).filterMap WorkspaceContents.name := by
  induction spaces with
  | nil => rfl
  | cons ws rest ih =>
    have split := usedContents_append [ws] rest
    rw [singleton_append] at split
    rw [split, filterMap_append, ← ih]
    cases named : ws.name with
    | none =>
      cases used : ws.hasWindowsOrName <;> simp [usedContents, Workspace.contents, used, named]
    | some => simp [usedContents, Workspace.contents, Workspace.hasWindowsOrName, named]

lemma keys_eq_usedContents (spaces : List Workspace) : spaces.flatMap Workspace.keys =
      (usedContents spaces).flatMap fun contents => tileKeys contents.tiles := by
  induction spaces with
  | nil => rfl
  | cons ws rest ih =>
    have split := usedContents_append [ws] rest
    rw [singleton_append] at split
    rw [split, flatMap_append, ← ih, flatMap_cons]
    congr 1
    cases used : ws.hasWindowsOrName with
    | true => simp [usedContents, Workspace.contents, used, Workspace.keys]
    | false => simp [usedContents, used, Workspace.keys_of_unused used]

/-- Only unused workspaces came and went. -/
structure Preserves (before : List Workspace) (next : Nat)
    (after : List Workspace) (next' : Nat) : Prop where
  ids : Issues (before.map Workspace.id) next (after.map Workspace.id) next'
  contents : (usedContents after).Perm (usedContents before)

namespace Preserves

section

variable (preserves : Preserves pre next post next')
include preserves

lemma names : (post.filterMap Workspace.name).Perm (pre.filterMap Workspace.name) := by
  rw [names_eq_usedContents, names_eq_usedContents]
  exact preserves.contents.filterMap _

lemma keys : (post.flatMap Workspace.keys).Perm (pre.flatMap Workspace.keys) := by
  rw [keys_eq_usedContents, keys_eq_usedContents]
  exact preserves.contents.flatMap_right _

lemma covers : Covers pre next post next' := ⟨preserves.ids, preserves.names.subperm⟩

end

lemma trans (one : Preserves pre next mid next')
    (last : Preserves mid next' post next'') : Preserves pre next post next'' :=
  ⟨one.ids.trans last.ids, last.contents.trans one.contents⟩

lemma ofPerm (same : post.Perm pre) : Preserves pre next post next :=
  ⟨.of_perm (same.map _), usedContents_perm same⟩

lemma refl (spaces : List Workspace) (next : Nat) : Preserves spaces next spaces next :=
  ofPerm (.refl _)

lemma ofMap (same : post.map Workspace.contents = pre.map Workspace.contents) :
    Preserves pre next post next := by
  refine ⟨.of_perm (.of_eq ?_), .of_eq ?_⟩
  · have ids := congrArg (map WorkspaceContents.id) same
    simpa [Function.comp_def, Workspace.contents] using ids
  · rw [usedContents_eq, usedContents_eq, same]

lemma ofCores (sameCores : post.map Workspace.core = pre.map Workspace.core) :
    Preserves pre next post next :=
  ofMap (Workspace.ignoresOrdinal_contents.map_eq sameCores)

lemma ofFillers (out : Output) (ahead : next ≤ next') :
    Preserves pre next (pre ++ Monitor.fillers out next next') next' := by
  have idle : usedContents (Monitor.fillers out next next') = [] := by
    apply usedContents_eq_nil
    intro _ mem
    obtain ⟨_, _, rfl⟩ := mem_map.mp mem
    rfl
  refine ⟨(Covers.ofFillers out ahead).ids, .of_eq ?_⟩
  rw [usedContents_append, idle, append_nil]

lemma ofFilter {keep : Workspace → Bool}
    (keepsUsed : ∀ ws ∈ pre, ws.hasWindowsOrName = true → keep ws = true) :
    Preserves pre next (pre.filter keep) next :=
  ⟨.of_subperm (filter_sublist.map _).subperm, .of_eq (usedContents_filter keepsUsed)⟩

section

variable (preserves : Preserves pre next post next')
include preserves

lemma append_right (rest : List Workspace) : Preserves (pre ++ rest) next (post ++ rest) next' := by
  constructor
  · simpa using preserves.ids.append_right (rest.map Workspace.id)
  · simpa using preserves.contents.append_right _

lemma append_left (rest : List Workspace) : Preserves (rest ++ pre) next (rest ++ post) next' := by
  constructor
  · simpa using preserves.ids.append_left (rest.map Workspace.id)
  · simpa using preserves.contents.append_left _

end

end Preserves

end Synoik
