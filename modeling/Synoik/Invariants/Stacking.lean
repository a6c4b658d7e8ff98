import Synoik.Accounting.Tiles
import Synoik.Layout.Stacking
import Synoik.Support.Runs
import Synoik.Support.Stack

/-!
# Children are stacked above their parents

Every step of a floating space puts one tile somewhere and brings its
descendants up to it, or parts the stack by a mark that descendants inherit.
Lowering is the one step that can carry a tile below its own parent.
-/

namespace Synoik

open List
open Option (bind_eq_bind bind_eq_some_iff bind_some)

open Stack

variable {tiles : List Tile} {lo hi idx : Nat} {space space' : FloatingSpace}

def Tile.childOf (lower upper : Tile) : Bool := lower.window.isChildOf upper.window

lemma isChildAt_eq {child parent : Tile}
    (childAt : tiles[lo]? = some child) (parentAt : tiles[hi]? = some parent) :
    isChildAt tiles lo hi = child.childOf parent := by
  simp [isChildAt, childAt, parentAt, Tile.childOf]

lemma isChildAt_iff : isChildAt tiles lo hi = true ↔
      ∃ child parent, tiles[lo]? = some child ∧ tiles[hi]? = some parent ∧
        child.childOf parent = true := by
  constructor
  · intro linked
    cases childAt : tiles[lo]? with
    | none => simp [isChildAt, childAt] at linked
    | some child =>
      cases parentAt : tiles[hi]? with
      | none => simp [isChildAt, parentAt] at linked
      | some parent =>
        rw [isChildAt_eq childAt parentAt] at linked
        exact ⟨child, parent, rfl, rfl, linked⟩
  · rintro ⟨child, parent, childAt, parentAt, linked⟩
    rwa [isChildAt_eq childAt parentAt]

lemma stacked_filterMap {inv : List Nat} (stacked : Stacked (isChildAt tiles) inv) :
    Stacked Tile.childOf (inv.filterMap fun idx => tiles[idx]?) := by
  constructor
  · apply pairwise_filterMap.mpr
    apply stacked.ordered.imp
    intro _ _ _ _ parentAt _ childAt
    rwa [← isChildAt_eq childAt parentAt]
  · intro _ mem
    obtain ⟨idx, inside, tileAt⟩ := mem_filterMap.mp mem
    rw [← isChildAt_eq tileAt tileAt]
    exact stacked.apart idx inside

namespace FloatingSpace

variable {pre rest mid : List Tile} {item tile : Tile} {id : WindowId} {target : Nat}
  {active : Option WindowId} {moved : FloatingSpace} {steps : Nat} {flag : Tile → Bool}

lemma any_isChildAt {positions : List Nat} {relatives : List Tile} {lt : Nat} {tile : Tile}
    (stand : positions.map (fun pos => tiles[pos]?) = relatives.map some)
    (tileAt : tiles[lt]? = some tile) :
    positions.any (isChildAt tiles lt) = relatives.any tile.childOf := by
  induction positions generalizing relatives with
  | nil =>
    cases relatives with
    | nil => rfl
    | cons => simp at stand
  | cons _ _ ih =>
    cases relatives with
    | nil => simp at stand
    | cons =>
      obtain ⟨one, rest⟩ := cons.inj stand
      rw [any_cons, any_cons, ih rest, isChildAt_eq tileAt one]

lemma foldr_descendants (itemAt : tiles[idx]? = some item) (shape : tiles = pre ++ rest) :
    (List.range' pre.length rest.length).foldr (fun lt descendants =>
          if isChildAt tiles lt idx || descendants.any (isChildAt tiles lt) then
            lt :: descendants else descendants)
        [] = broodPositions Tile.childOf item pre.length rest := by
  induction rest generalizing pre with
  | nil => rfl
  | cons lt rest ih =>
    have belowAt : tiles[pre.length]? = some lt := by simp [shape]
    have shape' : tiles = (pre ++ [lt]) ++ rest := by simp [shape]
    have later := ih shape'
    rw [length_append, length_singleton] at later
    have stand : (broodPositions Tile.childOf item (pre ++ [lt]).length rest).map
        (fun pos => ((pre ++ [lt]) ++ rest)[pos]?) =
        (brood Tile.childOf item rest).map some := map_broodPositions _
    rw [← shape', length_append, length_singleton] at stand
    rw [length_cons, range'_succ, foldr_cons, later,
      isChildAt_eq belowAt itemAt, any_isChildAt stand belowAt]
    rfl

lemma descendantsOf_append : descendantsOf (pre ++ item :: rest) pre.length =
      broodPositions Tile.childOf item (pre.length + 1) rest := by
  have itemAt : (pre ++ item :: rest)[pre.length]? = some item := by simp
  have shape : pre ++ item :: rest = (pre ++ [item]) ++ rest := by simp
  have walked := foldr_descendants itemAt shape
  have length : (pre ++ item :: rest).length - (pre.length + 1) = rest.length := by
    simp
    omega
  rw [length_append, length_singleton] at walked
  rw [descendantsOf, length]
  exact walked

/-- Moving a tile takes it out and puts it between the first tiles that are left
and the others. -/
lemma moveTile_eq (tileAt : space.tiles[idx]? = some tile)
    (lt : target < space.tiles.length) : space.moveTile idx target = some { space with
        tiles := (space.tiles.eraseIdx idx).take target ++
          tile :: (space.tiles.eraseIdx idx).drop target } := by
  have inside := Vec.lt_length tileAt
  have shorter := length_eraseIdx_of_lt inside
  unfold moveTile
  split
  next same =>
    subst same
    have pre : (space.tiles.eraseIdx idx).take idx = space.tiles.take idx :=
      take_eraseIdx_eq_take_of_le _ _ _ (le_refl idx)
    have back : (space.tiles.eraseIdx idx).drop idx = space.tiles.drop (idx + 1) := by
      rw [eraseIdx_eq_take_drop_succ, drop_append_of_le_length,
        drop_eq_nil_of_le, nil_append] <;> simp [Nat.le_of_lt inside]
    rw [pre, back, ← Vec.eq_append_of_getElem? tileAt]
  · have gone := Vec.removeAt_eq_some.mpr ⟨tileAt, rfl⟩
    have added : Vec.insertAt (space.tiles.eraseIdx idx) target tile =
        some ((space.tiles.eraseIdx idx).insertIdx target tile) :=
      Vec.insertAt_eq_some.mpr ⟨by omega, rfl⟩
    simp only [gone, bind_eq_bind, bind_some, added]
    rw [Vec.insertIdx_eq_append tile (by omega)]
    rfl

lemma raiseWindow_append : raiseWindow ⟨pre ++ (mid ++ tile :: rest), active⟩
        (pre.length + mid.length) pre.length = some ⟨pre ++ tile :: (mid ++ rest), active⟩ := by
  have tileAt : (pre ++ (mid ++ tile :: rest))[pre.length + mid.length]? = some tile := by simp
  have without : (pre ++ (mid ++ tile :: rest)).eraseIdx
      (pre.length + mid.length) = pre ++ (mid ++ rest) := by
    simp [eraseIdx_append_of_length_le]
  rw [raiseWindow, if_pos (by omega), moveTile_eq tileAt (by simp), without]
  simp

/-- One tile after another is raised over the ones already passed. -/
lemma raiseAll_append : raiseAll ⟨pre ++ (mid ++ rest), active⟩
        (broodPositions Tile.childOf item (pre.length + mid.length) rest) pre.length =
      some ⟨pre ++ (brood Tile.childOf item rest ++
        (mid ++ strangers Tile.childOf item rest)), active⟩ := by
  induction rest generalizing pre mid with
  | nil => simp [broodPositions, raiseAll, brood, strangers]
  | cons lt rest ih =>
    rw [broodPositions, brood, strangers]
    split
    · have raised : raiseAll ⟨(pre ++ [lt]) ++ (mid ++ rest), active⟩
          (broodPositions Tile.childOf item ((pre ++ [lt]).length + mid.length) rest)
          (pre ++ [lt]).length = _ := ih
      have base : (pre ++ [lt]).length + mid.length = pre.length + mid.length + 1 := by
        rw [length_append, length_singleton]
        omega
      rw [raiseAll, raiseWindow_append, bind_eq_bind, bind_some]
      rw [base, length_append, length_singleton] at raised
      simpa using raised
    · have passed : raiseAll ⟨pre ++ ((mid ++ [lt]) ++ rest), active⟩
          (broodPositions Tile.childOf item (pre.length + (mid ++ [lt]).length) rest)
          pre.length = _ := ih
      simpa [Nat.add_assoc] using passed

lemma bringUpDescendantsOf_append : bringUpDescendantsOf ⟨pre ++ item :: rest, active⟩ pre.length =
      some ⟨pre ++ (brood Tile.childOf item rest ++
        item :: strangers Tile.childOf item rest), active⟩ := by
  have raised : raiseAll ⟨pre ++ ([item] ++ rest), active⟩
      (broodPositions Tile.childOf item (pre.length + [item].length) rest)
      pre.length = _ := raiseAll_append
  rw [bringUpDescendantsOf, descendantsOf_append]
  simpa using raised

/-- No two windows are the same and children are above their parents. -/
structure InOrder (space : FloatingSpace) : Prop where
  distinct : (space.tiles.map Tile.id).Nodup
  stacked : Stacked Tile.childOf space.tiles

lemma InOrder.of_perm (inv : space.InOrder) (permuted : space'.tiles.Perm space.tiles)
    (stacked : Stacked Tile.childOf space'.tiles) : space'.InOrder :=
  ⟨(permuted.map Tile.id).nodup_iff.mpr inv.distinct, stacked⟩

/-- A tile put under nothing it is a child of, with its descendants brought up. -/
lemma bringUpDescendantsOf_stacked
    (brought : bringUpDescendantsOf ⟨pre ++ item :: rest, active⟩ pre.length = some space')
    (stacked : Stacked Tile.childOf (pre ++ rest))
    (free : ∀ above ∈ pre, item.childOf above = false)
    (acyclic : ¬ Descends Tile.childOf (item :: rest) item item) :
    Stacked Tile.childOf space'.tiles := by
  rw [bringUpDescendantsOf_append] at brought
  cases brought
  exact stacked.bringUp free acyclic

/-- Nothing between the two positions is the parent of the tile at the first. -/
abbrev PathClear (space : FloatingSpace) (idx target : Nat) : Prop :=
  ∀ position ≤ target, idx < position → isChildAt space.tiles idx position = false

lemma take_eraseIdx_free (stacked : Stacked Tile.childOf space.tiles)
    (tileAt : space.tiles[idx]? = some tile) (clear : space.PathClear idx target) :
    ∀ above ∈ (space.tiles.eraseIdx idx).take target, tile.childOf above = false := by
  intro _ mem
  obtain ⟨pos, standing⟩ := getElem?_of_mem mem
  rw [getElem?_take] at standing
  split at standing
  next _ =>
    rw [getElem?_eraseIdx] at standing
    split at standing
    next pre =>
      obtain ⟨idxBound, rfl⟩ := List.getElem?_eq_some_iff.mp tileAt
      obtain ⟨bound, rfl⟩ := List.getElem?_eq_some_iff.mp standing
      exact pairwise_iff_getElem.mp stacked.ordered _ _ bound idxBound pre
    · rw [← isChildAt_eq tileAt standing]
      exact clear (pos + 1) (by omega) (by omega)
  · cases standing

/-- Moving a tile past no parent of its own and bringing its descendants up. -/
lemma moved_inOrder (inv : space.InOrder) (tileAt : space.tiles[idx]? = some tile)
    (lt : target < space.tiles.length) (clear : space.PathClear idx target)
    (moves : space.moveTile idx target = some moved)
    (brought : bringUpDescendantsOf { moved with activeWindowId := active } target = some space') :
    space'.InOrder := by
  have permuted := (bringUpDescendantsOf_perm brought).1.trans (moveTile_perm moves).1
  apply inv.of_perm permuted
  rw [moveTile_eq tileAt lt] at moves
  cases moves
  have inside := Vec.lt_length tileAt
  have length : ((space.tiles.eraseIdx idx).take target).length = target := by
    rw [length_take, length_eraseIdx_of_lt inside]
    omega
  have whole : (space.tiles.eraseIdx idx).take target ++
      (space.tiles.eraseIdx idx).drop target = space.tiles.eraseIdx idx := take_append_drop _ _
  have brought : bringUpDescendantsOf ⟨(space.tiles.eraseIdx idx).take target ++
        tile :: (space.tiles.eraseIdx idx).drop target, active⟩
      ((space.tiles.eraseIdx idx).take target).length = some space' := by
    rw [length]
    exact brought
  apply bringUpDescendantsOf_stacked brought
  · rw [whole]
    exact inv.stacked.sublist (eraseIdx_sublist _ _)
  · exact take_eraseIdx_free inv.stacked tileAt clear
  · intro cycle
    apply inv.stacked.acyclic tile
    apply cycle.mono
    intro _ mem
    rcases mem_cons.mp mem with rfl | mem
    · exact mem_of_getElem? tileAt
    · exact mem_of_mem_eraseIdx (mem_of_mem_drop mem)

lemma InOrder.lt_of_isChildAt (inv : space.InOrder)
    (linked : isChildAt space.tiles lo hi = true) : lo < hi := by
  obtain ⟨_, _, childAt, parentAt, linked⟩ := isChildAt_iff.mp linked
  obtain ⟨lowerBound, rfl⟩ := List.getElem?_eq_some_iff.mp childAt
  obtain ⟨upperBound, rfl⟩ := List.getElem?_eq_some_iff.mp parentAt
  rcases Nat.lt_trichotomy lo hi with lt | rfl | above
  · exact lt
  · have ne := inv.stacked.apart _ (getElem_mem lowerBound)
    simp [ne] at linked
  · have ordered := pairwise_iff_getElem.mp inv.stacked.ordered _ _ upperBound lowerBound above
    simp [ordered] at linked

variable {left right : Nat} {mode : WindowingMode} {activate : Bool}

section

variable (distinct : (space.tiles.map Tile.id).Nodup)
include distinct

lemma idx_unique {leftTile rightTile : Tile} (leftAt : space.tiles[left]? = some leftTile)
    (rightAt : space.tiles[right]? = some rightTile) (same : leftTile.id = rightTile.id) :
    left = right := by
  have leftId : (space.tiles.map Tile.id)[left]? = some leftTile.id := by simp [leftAt]
  have rightId : (space.tiles.map Tile.id)[right]? = some rightTile.id := by simp [rightAt]
  have leftBound := Vec.lt_length leftId
  exact (getElem?_inj leftBound distinct).mp (leftId.trans (same ▸ rightId.symm))

lemma parent_unique (toLeft : isChildAt space.tiles lo left = true)
    (toRight : isChildAt space.tiles lo right = true) : left = right := by
  obtain ⟨_, _, childAt, leftAt, toLeft⟩ := isChildAt_iff.mp toLeft
  obtain ⟨_, _, otherAt, rightAt, toRight⟩ := isChildAt_iff.mp toRight
  rw [childAt] at otherAt
  cases otherAt
  have leftParent := beq_iff_eq.mp toLeft
  have rightParent := beq_iff_eq.mp toRight
  exact idx_unique distinct leftAt rightAt (Option.some.inj (leftParent.symm.trans rightParent))

end

lemma parentIdx_isChildAt (got : parentIdx tiles lo = some hi) : isChildAt tiles lo hi = true := by
  have holds := find?_some got
  simp only [Bool.and_eq_true] at holds
  exact holds.2

lemma parentIdx_eq (distinct : (space.tiles.map Tile.id).Nodup)
    (linked : isChildAt space.tiles lo hi = true) (other : hi ≠ lo) :
    parentIdx space.tiles lo = some hi := by
  obtain ⟨_, _, _, parentAt, _⟩ := isChildAt_iff.mp linked
  have lt := Vec.lt_length parentAt
  cases got : parentIdx space.tiles lo with
  | none =>
    have none := find?_eq_none.mp got hi (by simpa using lt)
    simp [linked, other] at none
  | some => rw [parent_unique distinct (parentIdx_isChildAt got) linked]

lemma chainReaches_succ (reaches : chainReaches flag tiles steps idx = true) :
    chainReaches flag tiles (steps + 1) idx = true := by
  induction steps generalizing idx with
  | zero => cases reaches
  | succ _ ih =>
    rw [chainReaches] at reaches ⊢
    split
    · rfl
    next plain =>
    rw [if_neg plain] at reaches
    cases got : parentIdx tiles idx with
    | none => simp [got] at reaches
    | some =>
      rw [got] at reaches
      exact ih reaches

lemma chainReaches_mono {more : Nat} (fewer : steps ≤ more)
    (reaches : chainReaches flag tiles steps idx = true) :
    chainReaches flag tiles more idx = true := by
  induction fewer with
  | refl => exact reaches
  | step _ ih => exact chainReaches_succ ih

lemma lt_length_of_chainReaches (reaches : chainReaches flag tiles steps idx = true) :
    idx < tiles.length := by
  cases steps with
  | zero => cases reaches
  | succ =>
    rw [chainReaches] at reaches
    cases tileAt : tiles[idx]? with
    | some => exact Vec.lt_length tileAt
    | none =>
      cases got : parentIdx tiles idx with
      | none => simp [tileAt, got] at reaches
      | some =>
        obtain ⟨_, _, childAt, _⟩ := isChildAt_iff.mp (parentIdx_isChildAt got)
        rw [tileAt] at childAt
        cases childAt

section

variable (inv : space.InOrder)
include inv

/-- A chain of links leads down the stack, so it is no longer than what lies
below. -/
lemma InOrder.chainReaches_bounded (reaches : chainReaches flag space.tiles steps idx = true) :
    chainReaches flag space.tiles (space.tiles.length - idx) idx = true := by
  induction steps generalizing idx with
  | zero => cases reaches
  | succ _ ih =>
    have inside := lt_length_of_chainReaches reaches
    rw [chainReaches] at reaches
    obtain ⟨left, shape⟩ : ∃ left, space.tiles.length - idx = left + 1 :=
      ⟨space.tiles.length - idx - 1, by omega⟩
    rw [shape, chainReaches]
    split
    · rfl
    next plain =>
    rw [if_neg plain] at reaches
    cases got : parentIdx space.tiles idx with
    | none => simp [got] at reaches
    | some =>
      rw [got] at reaches
      have lt := inv.lt_of_isChildAt (parentIdx_isChildAt got)
      exact chainReaches_mono (by omega) (ih reaches)

lemma InOrder.isInAboveBand_child (linked : isChildAt space.tiles lo hi = true)
    (inBand : space.isInAboveBand hi = true) : space.isInAboveBand lo = true := by
  have lt := inv.lt_of_isChildAt linked
  have reaches := inv.chainReaches_bounded inBand
  have inside := lt_length_of_chainReaches inBand
  obtain ⟨left, shape⟩ : ∃ left, space.tiles.length = left + 1 := ⟨space.tiles.length - 1, by omega⟩
  rw [isInAboveBand, shape, chainReaches]
  split
  · rfl
  · rw [parentIdx_eq inv.distinct linked lt.ne']
    exact chainReaches_mono (by omega) reaches

/-- Settling the band keeps the order: a tile leaves its place for the band only
together with its descendants. -/
lemma InOrder.resettleBand : space.resettleBand.InOrder := by
  apply inv.of_perm resettleBand_perm
  dsimp only [FloatingSpace.resettleBand, resettled]
  split
  · have positions : Stacked (isChildAt space.tiles) (range space.tiles.length) := by
      constructor
      · apply pairwise_lt_range.imp
        intro _ _ _
        by_contra linked
        have post := inv.lt_of_isChildAt (Bool.not_eq_false _ ▸ linked)
        omega
      · intro _ _
        by_contra linked
        exact (inv.lt_of_isChildAt (Bool.not_eq_false _ ▸ linked)).false
    exact stacked_filterMap (positions.partition fun _ _ _ _ linked inBand =>
      inv.isInAboveBand_child linked inBand)
  · exact inv.stacked

end

lemma raiseWindow_le (raised : space.raiseWindow idx target = some moved) :
    target ≤ idx ∧ space.moveTile idx target = some moved := by
  unfold raiseWindow at raised
  split at raised
  next upward => exact ⟨upward, raised⟩
  · cases raised

section

variable (inv : space.InOrder)
include inv

lemma raised_inOrder (got : space.idxOf id = some idx)
    (raised : space.raiseWindow idx target = some moved)
    (brought : bringUpDescendantsOf { moved with activeWindowId := active } target = some space') :
    space'.InOrder := by
  obtain ⟨_, tileAt, _⟩ := getElem?_of_idxOf got
  obtain ⟨_, _⟩ := List.getElem?_eq_some_iff.mp tileAt
  obtain ⟨_, moves⟩ := raiseWindow_le raised
  apply moved_inOrder inv tileAt (by omega) _ moves brought
  intro _ _ _
  omega

lemma InOrder.activateWindow (ran : space.activateWindow id = some space') : space'.InOrder := by
  unfold FloatingSpace.activateWindow at ran
  split at ran
  · cases ran
    exact inv
  next _ got =>
  obtain ⟨_, raised, brought⟩ := bind_eq_some_iff.mp ran
  exact raised_inOrder inv got raised brought

lemma InOrder.raiseWindowOnly
    (raised : space.raiseWindowOnly id = some space') : space'.InOrder := by
  unfold FloatingSpace.raiseWindowOnly at raised
  split at raised
  · cases raised
    exact inv
  next _ got =>
  obtain ⟨_, raised, brought⟩ := bind_eq_some_iff.mp raised
  exact raised_inOrder inv got raised brought

end

/-- Lowering the window takes it past no parent of its own. -/
abbrev LowersClear (space : FloatingSpace) (id : WindowId) : Prop :=
  ∀ idx ∈ space.idxOf id, space.PathClear idx (space.bottomOfBand idx)

lemma bandLen_le : space.bandLen ≤ space.tiles.length := by
  have leading : ((range space.tiles.length).takeWhile
      space.isInAboveBand).Sublist (range space.tiles.length) := takeWhile_sublist _
  simpa [bandLen] using leading.length_le

lemma bottomOfBand_lt (inside : idx < space.tiles.length) :
    space.bottomOfBand idx < space.tiles.length := by
  have lt : space.bandLen ≤ space.tiles.length := bandLen_le
  unfold bottomOfBand
  split <;> omega

section

variable (inv : space.InOrder)
include inv

lemma InOrder.lowerWindow (clear : space.LowersClear id)
    (lowered : space.lowerWindow id = some space') : space'.InOrder := by
  unfold FloatingSpace.lowerWindow at lowered
  split at lowered
  · cases lowered
    exact inv
  next idx got =>
  obtain ⟨_, moves, brought⟩ := bind_eq_some_iff.mp lowered
  obtain ⟨_, tileAt, _⟩ := getElem?_of_idxOf got
  have inside := Vec.lt_length tileAt
  exact moved_inOrder inv tileAt (bottomOfBand_lt inside) (clear idx got) moves brought

lemma InOrder.descendantsAdded
    (added : space.descendantsAdded id = some space') : space'.InOrder := by
  unfold FloatingSpace.descendantsAdded at added
  split at added
  · cases added
    exact inv
  next idx got =>
  have stays : space.raiseWindow idx idx = some space := by simp [raiseWindow, moveTile]
  exact raised_inOrder inv got stays added

lemma InOrder.of_keys (same : tileKeys space'.tiles = tileKeys space.tiles) : space'.InOrder := by
  have readsIds (tiles : List Tile) : tiles.map Tile.id = (tileKeys tiles).map TileKey.id := by
    simp [tileKeys, Function.comp_def]
  have readsKeys (tiles : List Tile) : Stacked Tile.childOf tiles ↔
      Stacked (fun lo hi : TileKey => lo.parent == some hi.id) (tileKeys tiles) := by
    rw [tileKeys, stacked_map]
    rfl
  constructor
  · rw [readsIds, same, ← readsIds]
    exact inv.distinct
  · rw [readsKeys, same, ← readsKeys]
    exact inv.stacked

lemma InOrder.updateTile {change : Tile → Tile}
    (keeps : ∀ tile, (change tile).key = tile.key) : (space.updateTile id change).InOrder :=
  inv.of_keys (updateTile_keys keeps)

lemma InOrder.setAbove {above : Bool}
    (ran : space.setAbove id above = some space') : space'.InOrder := by
  unfold FloatingSpace.setAbove at ran
  split at ran
  · cases ran
    exact inv
  next idx _ =>
  split at ran
  · cases ran
    exact inv
  · have flagged : InOrder { space with
        tiles := space.tiles.modify idx fun tile => { tile with isAbove := above } } :=
      inv.of_keys (Vec.map_modify fun _ => rfl)
    exact flagged.resettleBand.raiseWindowOnly ran

lemma InOrder.setMaximized {maximize : Bool} : (space.setMaximized id maximize).InOrder := by
  have ran {change : Tile → Tile} (keeps : ∀ tile, (change tile).key = tile.key) :
      (space.updateTile id change).InOrder := inv.updateTile keeps
  unfold FloatingSpace.setMaximized
  split
  · exact inv
  · dsimp only
    split
    · exact ran fun _ => rfl
    · split
      · split
        · exact ran restoreNormal_key
        · exact inv
      · split
        · apply InOrder.resettleBand
          exact ran fun tile => by simp
        · apply InOrder.resettleBand
          exact ran restoreNormal_key

lemma InOrder.removeTile {gone : RemovedTile}
    (taken : space.removeTile id = some (gone, space')) : space'.InOrder := by
  simp only [FloatingSpace.removeTile, removeTileByIdx, bind_eq_bind, bind_eq_some_iff] at taken
  obtain ⟨idx, _, ⟨_, _⟩, removedAt, eq⟩ := taken
  cases eq
  obtain ⟨_, rfl⟩ := Vec.removeAt_eq_some.mp removedAt
  have sublist := eraseIdx_sublist space.tiles idx
  exact ⟨inv.distinct.sublist (sublist.map Tile.id), inv.stacked.sublist sublist⟩

end

/-- A window of the space and its parent, which may be elsewhere. -/
def ParentIn (tiles : List Tile) (lower upper : WindowId) : Prop :=
  ∃ tile ∈ tiles, tile.id = lower ∧ tile.window.parent = some upper

/-- The direct and transitive parents, through windows of the space. -/
def DescendsFrom (tiles : List Tile) : WindowId → WindowId → Prop :=
  Relation.TransGen (ParentIn tiles)

/-- The new window is not in the space yet, and does not descend from itself. -/
structure Arrives (space : FloatingSpace) (tile : Tile) : Prop where
  fresh : tile.id ∉ space.tiles.map Tile.id
  acyclic : ¬ DescendsFrom (tile :: space.tiles) tile.id tile.id

lemma take_belowNoParent {win : Window} :
    ∀ above ∈ tiles.take (belowNoParent tiles idx win), win.isChildOf above.window = false := by
  intro above mem
  unfold belowNoParent at mem
  cases got : (tiles.take idx).findIdx? fun above =>
      win.isChildOf above.window with
  | none =>
    rw [got, Option.getD_none] at mem
    exact findIdx?_eq_none_iff.mp got above mem
  | some =>
    rw [got, Option.getD_some] at mem
    obtain ⟨_, _, pre⟩ := findIdx?_eq_some_iff_getElem.mp got
    obtain ⟨pos, standing⟩ := getElem?_of_mem mem
    rw [getElem?_take] at standing
    split at standing
    next early =>
      obtain ⟨_, rfl⟩ := List.getElem?_eq_some_iff.mp standing
      simpa using pre pos early
    · cases standing

lemma Descends.descendsFrom {lo hi : Tile} (descends : Descends Tile.childOf tiles lo hi) :
    DescendsFrom tiles lo.id hi.id := by
  refine .lift Tile.id ?_ lo hi descends
  rintro lo hi ⟨here, _, linked⟩
  exact ⟨lo, here, rfl, beq_iff_eq.mp linked⟩

lemma DescendsFrom.of_keys {tiles' : List Tile} {lo hi : WindowId}
    (subset : ∀ key ∈ tileKeys tiles, key ∈ tileKeys tiles')
    (descends : DescendsFrom tiles lo hi) : DescendsFrom tiles' lo hi := by
  apply Relation.TransGen.mono _ lo hi descends
  rintro lo hi ⟨tile, here, rfl, parent⟩
  obtain ⟨other, present', same⟩ := mem_map.mp (subset tile.key (mem_map_of_mem here))
  exact ⟨other, present', congrArg TileKey.id same, (congrArg TileKey.parent same).trans parent⟩

section

variable (inv : space.InOrder)
include inv

lemma InOrder.addTileAt (arrives : space.Arrives tile)
    (added : space.addTileAt mode idx tile activate = some space') : space'.InOrder := by
  have keys := addTileAt_keys added
  obtain ⟨_, inserted, brought⟩ := bind_eq_some_iff.mp added
  constructor
  · have ids := keys.map TileKey.id
    simp only [tileKeys, map_cons, map_map, Function.comp_def, Tile.key_id] at ids
    exact ids.nodup_iff.mpr (nodup_cons.mpr ⟨arrives.fresh, inv.distinct⟩)
  · obtain ⟨lt, rfl⟩ := Vec.insertAt_eq_some.mp inserted
    generalize landing : landedTile mode tile = landed at brought lt
    generalize (if (activate || space.tiles.isEmpty) = true then some landed.id
      else space.activeWindowId) = active at brought
    generalize spot : belowNoParent space.tiles idx landed.window = pos at brought lt
    rw [Vec.insertIdx_eq_append landed lt] at brought
    have length : (space.tiles.take pos).length = pos := by simpa using lt
    have brought : bringUpDescendantsOf
        ⟨space.tiles.take pos ++ landed :: space.tiles.drop pos, active⟩
        (space.tiles.take pos).length = some space' := by
      rw [length]
      exact brought
    apply bringUpDescendantsOf_stacked brought
    · rw [take_append_drop]
      exact inv.stacked
    · rw [← spot]
      exact take_belowNoParent
    · intro cycle
      have sameKey : landed.key = tile.key := by rw [← landing, landedTile_key]
      have sameId : landed.id = tile.id := congrArg TileKey.id sameKey
      apply arrives.acyclic
      rw [← sameId]
      apply DescendsFrom.of_keys _ (Descends.descendsFrom cycle)
      intro _ mem
      rw [tileKeys_cons, sameKey] at mem
      rcases mem_cons.mp mem with rfl | mem
      · exact .head _
      · obtain ⟨_, here, rfl⟩ := mem_map.mp mem
        exact .tail _ (mem_map_of_mem (mem_of_mem_drop here))

lemma InOrder.addTileAbove {above : WindowId} (arrives : space.Arrives tile)
    (added : space.addTileAbove mode above tile activate = some space') : space'.InOrder := by
  obtain ⟨_, _, added⟩ := bind_eq_some_iff.mp added
  exact inv.addTileAt arrives added

/-- No window lies below one that is its direct or transitive parent. -/
def ChildrenAbove (space : FloatingSpace) : Prop :=
  ∀ (upper lower : Nat) (above below : Tile), upper < lower →
    space.tiles[upper]? = some above → space.tiles[lower]? = some below →
    ¬ DescendsFrom space.tiles below.id above.id

lemma InOrder.lower_of_descendsFrom {lo hi : WindowId}
    (descends : DescendsFrom space.tiles lo hi) {pos : Nat} {parent : Tile}
    (parentAt : space.tiles[pos]? = some parent) (named : parent.id = hi) :
    ∃ idx child, space.tiles[idx]? = some child ∧ child.id = lo ∧ idx < pos := by
  have step {lo : WindowId} {parent : Tile} {pos : Nat}
      (parentAt : space.tiles[pos]? = some parent)
      (linked : ParentIn space.tiles lo parent.id) :
      ∃ idx child, space.tiles[idx]? = some child ∧ child.id = lo ∧ idx < pos := by
    obtain ⟨child, here, rfl, named⟩ := linked
    obtain ⟨idx, childAt⟩ := getElem?_of_mem here
    refine ⟨idx, child, childAt, rfl, inv.lt_of_isChildAt ?_⟩
    exact isChildAt_iff.mpr ⟨child, parent, childAt, parentAt, beq_iff_eq.mpr named⟩
  induction descends generalizing pos parent with
  | single linked =>
    subst named
    exact step parentAt linked
  | tail _ linked ih =>
    subst named
    obtain ⟨_, _, childAt, named, above⟩ := step parentAt linked
    obtain ⟨one, tile, tileAt, same, pre⟩ := ih childAt named
    exact ⟨one, tile, tileAt, same, pre.trans above⟩

lemma InOrder.childrenAbove : space.ChildrenAbove := by
  intro _ _ _ _ _ aboveAt belowAt descends
  obtain ⟨_, _, childAt, same, _⟩ := inv.lower_of_descendsFrom descends aboveAt rfl
  have pos := idx_unique inv.distinct childAt belowAt same
  omega

end

end FloatingSpace

namespace StackOp

variable {op : StackOp}

/-- A window is added once, and windows are not their own ancestors. -/
def Sensible (space : FloatingSpace) : StackOp → Prop
  | addTile _ tile _ => space.Arrives tile
  | addTileAbove _ _ tile _ => space.Arrives tile
  | _ => True

/-- The window a step sends to the bottom of its band. -/
def lowers? (space : FloatingSpace) : StackOp → Option WindowId
  | lowerWindow id => some id
  | raiseOrLower overlaps id =>
    match space.idxOf id with
    | none => none
    | some idx =>
      if idx = 0 then some id
      else if space.isCovered overlaps idx then none
      else some id
  | _ => none

/-- A lowered window is not taken past a parent of its own. -/
abbrev SparesParent (space : FloatingSpace) (op : StackOp) : Prop :=
  ∀ id ∈ op.lowers? space, space.LowersClear id

lemma raiseOrLower_inOrder {overlaps : WindowId → WindowId → Bool} {id : WindowId}
    (inv : space.InOrder) (spares : (raiseOrLower overlaps id).SparesParent space)
    (ran : space.raiseOrLower overlaps id = some space') : space'.InOrder := by
  unfold FloatingSpace.raiseOrLower at ran
  cases got : space.idxOf id with
  | none =>
    rw [got] at ran
    cases ran
    exact inv
  | some idx =>
    rw [got] at ran
    dsimp only at ran
    by_cases top : idx = 0
    · rw [if_pos top] at ran
      exact inv.lowerWindow (spares id (by simp [lowers?, got, top])) ran
    · rw [if_neg top] at ran
      by_cases covered : space.isCovered overlaps idx = true
      · rw [if_pos covered] at ran
        exact inv.raiseWindowOnly ran
      · rw [if_neg covered] at ran
        exact inv.lowerWindow (spares id (by simp [lowers?, got, top, covered])) ran

lemma apply_inOrder (sensible : op.Sensible space) (spares : op.SparesParent space)
    (ran : op.apply space = some space') (inv : space.InOrder) : space'.InOrder := by
  cases op with
  | addTile => exact inv.addTileAt sensible ran
  | addTileAbove => exact inv.addTileAbove sensible ran
  | removeTile =>
    obtain ⟨⟨_, _⟩, taken, rfl⟩ := Option.map_eq_some_iff.mp ran
    exact inv.removeTile taken
  | removeActiveTile =>
    obtain ⟨⟨_, _⟩, taken, rfl⟩ := Option.map_eq_some_iff.mp ran
    unfold FloatingSpace.removeActiveTile at taken
    split at taken
    · cases taken
      exact inv
    · obtain ⟨⟨_, _⟩, taken, eq⟩ := bind_eq_some_iff.mp taken
      cases eq
      exact inv.removeTile taken
  | activateWindow => exact inv.activateWindow ran
  | activateWindowWithoutRaising =>
    cases ran
    exact inv.of_keys (by simp)
  | raiseWindowOnly => exact inv.raiseWindowOnly ran
  | lowerWindow id => exact inv.lowerWindow (spares id rfl) ran
  | raiseOrLower => exact raiseOrLower_inOrder inv spares ran
  | setAbove => exact inv.setAbove ran
  | setMaximized =>
    cases ran
    exact inv.setMaximized
  | descendantsAdded => exact inv.descendantsAdded ran
  | advanceAnimations =>
    cases ran
    exact inv.resettleBand

end StackOp

/-- The steps of the floating space, in any order, from the empty one. -/
theorem childrenAbove_of_runs {ops : List StackOp} {space : FloatingSpace} (run : Runs StackOp.apply
      (fun space op => op.Sensible space ∧ op.SparesParent space) {} ops space) :
    space.ChildrenAbove := by
  apply FloatingSpace.InOrder.childrenAbove
  apply run.invariant FloatingSpace.InOrder
  · rintro _ op _ ⟨sensible, spares⟩ stepped inOrder
    exact StackOp.apply_inOrder sensible spares stepped inOrder
  · exact ⟨.nil, .nil⟩

lemma FloatingSpace.arrives_of_childless {space : FloatingSpace} {tile : Tile}
    (fresh : tile.id ∉ space.tiles.map Tile.id)
    (childless : ∀ other ∈ tile :: space.tiles, other.window.parent ≠ some tile.id) :
    space.Arrives tile := by
  refine ⟨fresh, fun cycle => ?_⟩
  cases cycle with
  | single linked | tail _ linked =>
    obtain ⟨other, here, _, parent⟩ := linked
    exact childless other here parent

/-- A pinned window is lowered over an application and its dialog, which then is
sent back itself. -/
theorem childrenAbove_of_pinned_run : FloatingSpace.ChildrenAbove
      { tiles := [⟨⟨3, none, .normal, none, .normal⟩, true, false, none, false, false⟩,
          ⟨⟨2, some 1, .normal, none, .normal⟩, false, false, none, false, false⟩,
          ⟨⟨1, none, .normal, none, .normal⟩, false, false, none, false, false⟩]
        activeWindowId := some 1 } := by
  have run : Runs StackOp.apply (fun space op => op.Sensible space ∧ op.SparesParent space) {}
      [.addTile .floating { window := { id := 1 } } true,
        .addTileAbove .floating 1 { window := { id := 2, parent := some 1 } } true,
        .addTile .floating { window := { id := 3 } } false, .setAbove 3 true, .activateWindow 1,
        .lowerWindow 3, .advanceAnimations, .raiseOrLower (fun _ _ => false) 1] _ :=
    .cons ⟨FloatingSpace.arrives_of_childless (by decide) (by decide), by decide⟩ rfl
      (.cons ⟨FloatingSpace.arrives_of_childless (by decide) (by decide), by decide⟩ rfl
        (.cons ⟨FloatingSpace.arrives_of_childless (by decide) (by decide), by decide⟩ rfl
          (.cons ⟨trivial, by decide⟩ rfl (.cons ⟨trivial, by decide⟩ rfl
              (.cons ⟨trivial, by decide⟩ rfl (.cons ⟨trivial, by decide⟩ rfl
                  (.cons ⟨trivial, by decide⟩ rfl (.nil _))))))))
  exact childrenAbove_of_runs run

/-- Lowering a dialog over its application puts it under the application. -/
theorem childrenAbove_not_kept : ¬ ∀ (ops : List StackOp) (space : FloatingSpace),
      Runs StackOp.apply (fun space op => op.Sensible space) {} ops space →
        space.ChildrenAbove := by
  intro always
  have run : Runs StackOp.apply (fun space op => op.Sensible space) {}
      [.addTile .floating { window := { id := 1 } } true,
        .addTileAbove .floating 1 { window := { id := 2, parent := some 1 } } true,
        .lowerWindow 2] _ := .cons (FloatingSpace.arrives_of_childless (by decide) (by decide)) rfl
      (.cons (FloatingSpace.arrives_of_childless (by decide) (by decide)) rfl
        (.cons trivial rfl (.nil _)))
  have above := always _ _ run
  apply above 0 1 _ _ Nat.zero_lt_one rfl rfl
  exact .single ⟨_, .tail _ (.head _), rfl, rfl⟩

end Synoik
