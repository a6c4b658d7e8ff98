import Mathlib.Data.Finset.Card
import Synoik.Invariants.Stacking

/-!
# Settling the band parts the stack

The band are the tiles that are always on top and their descendants. Settling it puts it
first and changes no order within it or without; what stands beside the tiles moves with them.
-/

namespace Synoik.FloatingSpace

open List Stack

variable {space : FloatingSpace} {tile : Tile} {flag : Tile → Bool} {steps more idx : Nat}
  {tiles : List Tile}

lemma chainReaches_stable {few : Nat}
    (stable : ∀ idx, chainReaches flag tiles (few + 1) idx → chainReaches flag tiles few idx)
    (reaches : chainReaches flag tiles steps idx) : chainReaches flag tiles few idx := by
  induction steps generalizing idx with
  | zero => cases reaches
  | succ _ ih =>
    apply stable
    rw [chainReaches] at reaches ⊢
    split
    · rfl
    next plain =>
    rw [if_neg plain] at reaches
    split at reaches
    · exact ih reaches
    · cases reaches

/-- As many steps as there are tiles are enough: a further one that reaches more has another
tile to reach it from. -/
lemma chainReaches_enough (reaches : chainReaches flag tiles steps idx) :
    chainReaches flag tiles tiles.length idx := by
  let reached (steps : Nat) : Finset Nat :=
    (Finset.range tiles.length).filter fun idx => chainReaches flag tiles steps idx
  have grows : ∀ steps, (∃ few ≤ steps, ∀ idx,
      chainReaches flag tiles (few + 1) idx → chainReaches flag tiles few idx) ∨
      steps ≤ (reached steps).card := by
    intro steps
    induction steps with
    | zero => exact .inr (Nat.zero_le _)
    | succ steps ih =>
      rcases ih with ⟨few, within, stable⟩ | many
      · exact .inl ⟨few, Nat.le_succ_of_le within, stable⟩
      by_cases stable : ∀ idx, chainReaches flag tiles (steps + 1) idx →
          chainReaches flag tiles steps idx
      · exact .inl ⟨steps, Nat.le_succ _, stable⟩
      · obtain ⟨idx, fresh⟩ := not_forall.mp stable
        obtain ⟨later, earlier⟩ := Classical.not_imp.mp fresh
        refine .inr (Nat.succ_le_of_lt (many.trans_lt (Finset.card_lt_card ⟨?_, fun all => ?_⟩)))
        · intro _ mem
          simp only [reached, Finset.mem_filter] at mem ⊢
          exact ⟨mem.1, chainReaches_succ mem.2⟩
        · have inside := lt_length_of_chainReaches later
          have mem := @all idx (by simp [reached, inside, later])
          simp [reached, earlier] at mem
  rcases grows tiles.length with ⟨_, within, stable⟩ | many
  · exact chainReaches_mono within (chainReaches_stable stable reaches)
  · have all := Finset.eq_of_subset_of_card_le (Finset.filter_subset _ _)
        ((Finset.card_range tiles.length).le.trans many)
    have mem := Finset.mem_range.mpr (lt_length_of_chainReaches reaches)
    rw [← all] at mem
    exact (Finset.mem_filter.mp mem).2

/-- The tiles that are always on top, and their descendants. -/
def Band (space : FloatingSpace) (tile : Tile) : Prop :=
  ∃ flagged ∈ space.tiles, flagged.staysAbove ∧
    (tile = flagged ∨ Descends Tile.childOf space.tiles tile flagged)

lemma Band.child {lo hi : Tile} (lowerIn : lo ∈ space.tiles)
    (upperIn : hi ∈ space.tiles) (linked : lo.childOf hi) (band : space.Band hi) :
    space.Band lo := by
  obtain ⟨flagged, here, stays, rfl | descends⟩ := band
  · exact ⟨hi, here, stays, .inr (.single ⟨lowerIn, upperIn, linked⟩)⟩
  · exact ⟨flagged, here, stays, .inr (.head ⟨lowerIn, upperIn, linked⟩ descends)⟩

lemma band_of_chainReaches (tileAt : space.tiles[idx]? = some tile)
    (reaches : chainReaches Tile.staysAbove space.tiles steps idx) : space.Band tile := by
  induction steps generalizing idx tile with
  | zero => cases reaches
  | succ _ ih =>
    rw [chainReaches, tileAt] at reaches
    split at reaches
    next stays => exact ⟨tile, mem_of_getElem? tileAt, stays, .inl rfl⟩
    split at reaches
    next parent got =>
      obtain ⟨_, _, childAt, upperAt, linked⟩ := isChildAt_iff.mp (parentIdx_isChildAt got)
      cases tileAt.symm.trans childAt
      exact (ih upperAt reaches).child (mem_of_getElem? tileAt) (mem_of_getElem? upperAt) linked
    · cases reaches

section

variable (uniq : (space.tiles.map Tile.id).Nodup)
include uniq

/-- A link is a step, or leads back to where it starts. -/
lemma chainReaches_link {hi : Nat} (linked : isChildAt space.tiles idx hi)
    (reaches : chainReaches flag space.tiles steps hi) :
    chainReaches flag space.tiles (steps + 1) idx := by
  by_cases same : hi = idx
  · exact chainReaches_succ (same ▸ reaches)
  rw [chainReaches]
  split
  · rfl
  · rwa [parentIdx_eq uniq linked same]

lemma isInAboveBand_iff
    (tileAt : space.tiles[idx]? = some tile) : space.isInAboveBand idx ↔ space.Band tile := by
  refine ⟨band_of_chainReaches tileAt, ?_⟩
  rintro ⟨flagged, here, stays, rel⟩
  obtain ⟨place, flaggedAt⟩ := getElem?_of_mem here
  have reached : chainReaches Tile.staysAbove space.tiles 1 place := by
    simp [chainReaches, flaggedAt, stays]
  suffices ∃ steps, chainReaches Tile.staysAbove space.tiles steps idx from
    chainReaches_enough this.choose_spec
  rcases rel with rfl | descends
  · rw [idx_unique uniq tileAt flaggedAt rfl]
    exact ⟨1, reached⟩
  · induction descends using Relation.TransGen.head_induction_on generalizing idx with
    | single link =>
      refine ⟨2, chainReaches_link uniq ?_ reached⟩
      rw [isChildAt_eq tileAt flaggedAt]
      exact link.2.2
    | head link _ ih =>
      obtain ⟨_, upperAt⟩ := getElem?_of_mem link.2.1
      obtain ⟨steps, reaches⟩ := ih upperAt
      refine ⟨steps + 1, chainReaches_link uniq ?_ reaches⟩
      rw [isChildAt_eq tileAt upperAt]
      exact link.2.2

end

variable {α : Type} {xs data : List α}

lemma filterMap_filter_range {marked : Nat → Bool} {holds : α → Bool}
    (same : ∀ idx item, xs[idx]? = some item → marked idx = holds item) :
    ((List.range xs.length).filter marked).filterMap (fun idx => xs[idx]?) = xs.filter holds := by
  induction xs generalizing marked with
  | nil => rfl
  | cons item _ ih =>
    have later := @ih (marked ∘ Nat.succ) fun idx => same (idx + 1)
    have one : marked 0 = holds item := same 0 item rfl
    rw [length_cons, range_succ_eq_map, filter_cons, filter_cons, ← later, one]
    split <;> simp [filter_map, filterMap_map, Function.comp_def]

/-- The positions of the band from the top down, and then the others. -/
def bandOrder (space : FloatingSpace) : List Nat :=
  (List.range space.tiles.length).filter space.isInAboveBand ++
    (List.range space.tiles.length).filter fun idx => !space.isInAboveBand idx

/-- A stack with no tile of the band right under another tile is parted already. -/
lemma resettled_eq (paired : xs.length = space.tiles.length) :
    space.resettled xs = space.bandOrder.filterMap fun idx => xs[idx]? := by
  dsimp only [resettled, bandOrder]
  rw [← insertionSort_mark]
  split
  · rfl
  next settled =>
  have sorted : (range space.tiles.length).Pairwise fun left right =>
      (!space.isInAboveBand left) ≤ (!space.isInAboveBand right) := by
    refine pairwise_lt_range.imp_of_mem fun {left right} _ rightIn pre => ?_
    have rises : space.isInAboveBand right → space.isInAboveBand left := by
      have inside := mem_range.mp rightIn
      clear rightIn
      induction pre with
      | refl | step => grind
    revert rises
    cases space.isInAboveBand left <;> cases space.isInAboveBand right <;> decide
  have whole := @filterMap_filter_range _ xs (fun _ => true) (fun _ => true) (by simp)
  rw [sorted.insertionSort_eq, ← paired]
  simpa using whole.symm

open Classical in
lemma resettleBand_tiles (uniq : (space.tiles.map Tile.id).Nodup) :
    space.resettleBand.tiles = space.tiles.filter (fun tile => space.Band tile) ++
      space.tiles.filter fun tile => ¬ space.Band tile := by
  have marks {idx : Nat} {tile : Tile} (tileAt : space.tiles[idx]? = some tile) :
      space.isInAboveBand idx = decide (space.Band tile) := by
    rw [Bool.eq_iff_iff, isInAboveBand_iff uniq tileAt, decide_eq_true_eq]
  rw [resettleBand, resettled_eq rfl, bandOrder, filterMap_append,
    filterMap_filter_range fun idx tile => marks, filterMap_filter_range fun idx tile tileAt =>
      (congrArg not (marks tileAt)).trans (decide_not).symm]

open Classical in
/-- Settling the band, from any stack of different windows: the tiles and whatever stands
beside them are read off in one order, the band first; the order in the band and among the
others stays, and so does each tile that was above its parent; and settling again changes
nothing. -/
theorem resettleBand_partitions (distinct : (space.tiles.map Tile.id).Nodup)
    (paired : data.length = space.tiles.length) :
    (space.resettleBand.tiles = space.bandOrder.filterMap (fun idx => space.tiles[idx]?) ∧
      space.resettled data = space.bandOrder.filterMap fun idx => data[idx]?) ∧
    space.resettleBand.tiles = space.tiles.filter (fun tile => space.Band tile) ++
      space.tiles.filter (fun tile => ¬ space.Band tile) ∧
    (∀ lower upper, lower.childOf upper → [lower, upper].Sublist space.tiles →
      [lower, upper].Sublist space.resettleBand.tiles) ∧
    space.resettleBand.resettleBand = space.resettleBand := by
  have parted := resettleBand_tiles distinct
  have permuted : space.resettleBand.tiles.Perm space.tiles := resettleBand_perm
  refine ⟨⟨resettled_eq rfl, resettled_eq paired⟩, parted, fun lower upper linked above => ?_, ?_⟩
  · have lowerIn := above.subset (.head _)
    have upperIn := above.subset (.tail _ (.head _))
    have inherits := Band.child lowerIn upperIn linked
    have first := above.filter fun tile => space.Band tile
    have last := above.filter fun tile => ¬ space.Band tile
    have both := first.append last
    rw [← parted] at both
    by_cases lowerBand : space.Band lower <;> by_cases upperBand : space.Band upper
    all_goals simp_all
  · have same : space.resettleBand.Band = space.Band := by
      funext tile
      simp only [Band, Descends, permuted.mem_iff]
    have again := resettleBand_tiles ((permuted.map Tile.id).nodup_iff.mpr distinct)
    have settled : space.resettleBand.resettleBand.tiles = space.resettleBand.tiles := by
      rw [again, same, parted]
      simp [filter_filter]
    exact congrArg (FloatingSpace.mk · _) settled

def pinnedBelow : FloatingSpace :=
  { tiles := [{ window := { id := 1 } }, { window := { id := 2 }, isAbove := true }] }

theorem resettleBand_partitions_two : pinnedBelow.resettleBand.tiles.map Tile.id = [2, 1] ∧
      pinnedBelow.resettled ['a', 'b'] = ['b', 'a'] := by
  have paired : ['a', 'b'].length = pinnedBelow.tiles.length := rfl
  have moved := (resettleBand_partitions (by decide) paired).1
  exact ⟨by rw [moved.1]; decide, moved.2⟩

end Synoik.FloatingSpace
