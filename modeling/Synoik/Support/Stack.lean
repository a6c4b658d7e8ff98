import Mathlib.Data.List.Sort
import Mathlib.Data.List.Basic
import Mathlib.Logic.Relation

/-!
# Stacks that keep children above their parents

A stack is a list, topmost item first, over items with a parent link. It is in
order when no item lies below a child-to-parent link the wrong way round, and
then the links can have no cycle. The two ways of editing a stack treated here
are putting one item somewhere and bringing its descendants up to it, and
parting the stack by a mark that children inherit.
-/

namespace Synoik.Stack

open List

variable {α β : Type} {child : α → α → Bool} {items items' pre rest : List α}
  {item : α}

/-- No item lies below one of its children, or is its own child. -/
structure Stacked (child : α → α → Bool) (items : List α) : Prop where
  ordered : items.Pairwise fun above below => child below above = false
  apart : ∀ item ∈ items, child item item = false

/-- A chain of one or more links from an item up to another, all of whose items
are in the stack. -/
def Descends (child : α → α → Bool) (items : List α) : α → α → Prop :=
  Relation.TransGen fun lower upper =>
    lower ∈ items ∧ upper ∈ items ∧ child lower upper = true

variable {lower : α}

lemma Descends.mono {upper : α} (subset : ∀ item ∈ items, item ∈ items')
    (descends : Descends child items lower upper) : Descends child items' lower upper :=
  Relation.TransGen.mono (fun _ _ ⟨left, right, linked⟩ => ⟨subset _ left, subset _ right, linked⟩)
    lower upper descends

lemma Stacked.nil : Stacked child ([] : List α) := ⟨.nil, by simp⟩

lemma Stacked.sublist (stacked : Stacked child items)
    (sublist : items'.Sublist items) : Stacked child items' :=
  ⟨stacked.ordered.sublist sublist, fun item mem => stacked.apart item (sublist.subset mem)⟩

/-- The order only depends on what the links are read from. -/
lemma stacked_map {view : α → β} {child' : β → β → Bool} : Stacked child' (items.map view) ↔
      Stacked (fun lower upper => child' (view lower) (view upper)) items := by
  constructor
  · rintro ⟨ordered, ne⟩
    exact ⟨pairwise_map.mp ordered, fun item mem => ne _ (mem_map_of_mem mem)⟩
  · rintro ⟨ordered, ne⟩
    refine ⟨pairwise_map.mpr ordered, ?_⟩
    intro _ mem
    obtain ⟨item, here, rfl⟩ := mem_map.mp mem
    exact ne item here

section Positions

variable [DecidableEq α]

section

variable (stacked : Stacked child items)
include stacked

variable {lower upper : α}

lemma Stacked.idxOf_lt_of_child (lowerIn : lower ∈ items) (upperIn : upper ∈ items)
    (linked : child lower upper = true) : items.idxOf lower < items.idxOf upper := by
  by_contra above
  have lowerBound := idxOf_lt_length_iff.mpr lowerIn
  have upperBound := idxOf_lt_length_iff.mpr upperIn
  rcases Nat.lt_or_eq_of_le (Nat.le_of_not_lt above) with strictly | same
  · have ordered := pairwise_iff_getElem.mp stacked.ordered _ _ upperBound lowerBound strictly
    simp [linked] at ordered
  · have equal : upper = lower := (idxOf_inj upperIn).mp same
    subst equal
    simp [stacked.apart upper upperIn] at linked

lemma Stacked.idxOf_lt
    (descends : Descends child items lower upper) : items.idxOf lower < items.idxOf upper := by
  induction descends with
  | single link => exact stacked.idxOf_lt_of_child link.1 link.2.1 link.2.2
  | tail _ link ih =>
    exact ih.trans (stacked.idxOf_lt_of_child link.1 link.2.1 link.2.2)

/-- The links of a stack in order have no cycle. -/
lemma Stacked.acyclic (item : α) : ¬ Descends child items item item :=
  fun cycle => (stacked.idxOf_lt cycle).false

end

end Positions

/-- The items that descend from one above them, found from the bottom up. -/
def brood (child : α → α → Bool) (item : α) : List α → List α
  | [] => []
  | below :: rest =>
    if child below item || (brood child item rest).any (child below) then
      below :: brood child item rest
    else
      brood child item rest

/-- The items that do not. -/
def strangers (child : α → α → Bool) (item : α) : List α → List α
  | [] => []
  | below :: rest =>
    if child below item || (brood child item rest).any (child below) then
      strangers child item rest
    else
      below :: strangers child item rest

/-- The positions of the descendants in a stack whose first item is at `base`. -/
def broodPositions (child : α → α → Bool) (item : α) : Nat → List α → List Nat
  | _, [] => []
  | base, below :: rest =>
    if child below item || (brood child item rest).any (child below) then
      base :: broodPositions child item (base + 1) rest
    else
      broodPositions child item (base + 1) rest

/-- The descendants are what stands at their positions. -/
lemma map_broodPositions (pre : List α) : (broodPositions child item pre.length rest).map
        (fun pos => (pre ++ rest)[pos]?) = (brood child item rest).map some := by
  induction rest generalizing pre with
  | nil => rfl
  | cons below _ ih =>
    have later := ih (pre ++ [below])
    rw [length_append, length_singleton, append_assoc, singleton_append] at later
    rw [broodPositions, brood]
    split
    · rw [map_cons, later, map_cons]
      congr 1
      simp
    · exact later

lemma brood_sublist : (brood child item rest).Sublist rest := by
  induction rest with
  | nil => exact .slnil
  | cons below _ ih =>
    unfold brood
    split
    · exact ih.cons_cons below
    · exact ih.cons below

lemma strangers_sublist : (strangers child item rest).Sublist rest := by
  induction rest with
  | nil => exact .slnil
  | cons below _ ih =>
    unfold strangers
    split
    · exact ih.cons below
    · exact ih.cons_cons below

lemma brood_descends (mem : lower ∈ brood child item rest) :
    Descends child (item :: rest) lower item := by
  induction rest generalizing lower with
  | nil => cases mem
  | cons below rest ih =>
    have older {lower : α} (mem : lower ∈ brood child item rest) :
        Descends child (item :: below :: rest) lower item := (ih mem).mono fun item mem => by
        rcases mem_cons.mp mem with rfl | mem
        · exact .head _
        · exact .tail _ (.tail _ mem)
    unfold brood at mem
    split at mem
    next got =>
      rcases mem_cons.mp mem with rfl | mem
      · have lowerIn : lower ∈ item :: lower :: rest := by simp
        rcases Bool.or_eq_true_iff.mp got with direct | through
        · exact .single ⟨lowerIn, .head _, direct⟩
        · obtain ⟨_, upperIn, linked⟩ := any_eq_true.mp through
          have upperRest := brood_sublist.subset upperIn
          exact .head ⟨lowerIn, by simp [upperRest], linked⟩ (older upperIn)
      · exact older mem
    · exact older mem

variable {below : α}

lemma strangers_child_item
    (mem : below ∈ strangers child item rest) : child below item = false := by
  induction rest with
  | nil => cases mem
  | cons _ _ ih =>
    unfold strangers at mem
    split at mem
    · exact ih mem
    next stranger =>
    rcases mem_cons.mp mem with rfl | mem
    · exact (Bool.or_eq_false_iff.mp (Bool.not_eq_true _ ▸ stranger)).1
    · exact ih mem

/-- The descendants of descendants are among them, if the stack was in order. -/
lemma strangers_child_brood {relative : α}
    (ordered : rest.Pairwise fun above below => child below above = false)
    (stranger : below ∈ strangers child item rest)
    (rel : relative ∈ brood child item rest) : child below relative = false := by
  induction rest with
  | nil => cases stranger
  | cons _ _ ih =>
    obtain ⟨first_above, ordered⟩ := pairwise_cons.mp ordered
    unfold strangers at stranger
    unfold brood at rel
    split at stranger
    next got =>
      rw [if_pos got] at rel
      rcases mem_cons.mp rel with rfl | rel
      · exact first_above below (strangers_sublist.subset stranger)
      · exact ih ordered stranger rel
    next unrelated =>
    rw [if_neg unrelated] at rel
    rcases mem_cons.mp stranger with rfl | stranger
    · have missed := (Bool.or_eq_false_iff.mp (Bool.not_eq_true _ ▸ unrelated)).2
      exact Bool.not_eq_true _ ▸ any_eq_false.mp missed relative rel
    · exact ih ordered stranger rel

/-- An item put into a stack in order, under nothing it is a child of, with its
descendants brought up to it. -/
lemma Stacked.bringUp (stacked : Stacked child (pre ++ rest))
    (free : ∀ above ∈ pre, child item above = false)
    (acyclic : ¬ Descends child (item :: rest) item item) :
    Stacked child (pre ++ (brood child item rest ++ item :: strangers child item rest)) := by
  obtain ⟨frontOrdered, restOrdered, across⟩ := pairwise_append.mp stacked.ordered
  have itemApart : child item item = false := by
    by_contra linked
    exact acyclic (.single ⟨by simp, by simp, Bool.not_eq_false _ ▸ linked⟩)
  have overItem : ∀ relative ∈ brood child item rest, child item relative = false := by
    intro relative mem
    by_contra linked
    have relativeIn := brood_sublist.subset mem
    exact acyclic (.head ⟨by simp, by simp [relativeIn], Bool.not_eq_false _ ▸ linked⟩
      (brood_descends mem))
  constructor
  · apply pairwise_append.mpr
    refine ⟨frontOrdered, pairwise_append.mpr ⟨restOrdered.sublist brood_sublist, pairwise_cons.mpr
        ⟨fun below mem => strangers_child_item mem, restOrdered.sublist strangers_sublist⟩, ?_⟩, ?_⟩
    · intro relative rel below mem
      rcases mem_cons.mp mem with rfl | mem
      · exact overItem relative rel
      · exact strangers_child_brood restOrdered mem rel
    · intro above inFront below mem
      rcases mem_append.mp mem with mem | mem
      · exact across above inFront below (brood_sublist.subset mem)
      · rcases mem_cons.mp mem with rfl | mem
        · exact free above inFront
        · exact across above inFront below (strangers_sublist.subset mem)
  · intro other mem
    rcases mem_append.mp mem with mem | mem
    · exact stacked.apart other (mem_append_left _ mem)
    · rcases mem_append.mp mem with mem | mem
      · exact stacked.apart other (mem_append_right _ (brood_sublist.subset mem))
      · rcases mem_cons.mp mem with rfl | mem
        · exact itemApart
        · exact stacked.apart other (mem_append_right _ (strangers_sublist.subset mem))

variable {marked : α → Bool}

lemma orderedInsert_parted {above below : List α} (marks : ∀ other ∈ above, marked other = true)
    (unmarks : ∀ other ∈ below, marked other = false) (plain : marked item = false) :
    (above ++ below).orderedInsert (fun left right => (!marked left) ≤ (!marked right))
      item = above ++ item :: below := by
  induction above with
  | nil =>
    cases below with
    | nil => rfl
    | cons first =>
      have firstPlain := unmarks first (.head _)
      simp [plain, firstPlain]
  | cons first _ ih =>
    have firstMarked := marks first (.head _)
    have added := ih fun other mem =>
    marks other (.tail _ mem)
    simp [plain, firstMarked, added]

/-- Sorting by a mark puts the marked items first and is stable. -/
lemma insertionSort_mark (marked : α → Bool) (items : List α) :
    items.insertionSort (fun left right => (!marked left) ≤ (!marked right)) =
      items.filter marked ++ items.filter fun item => !marked item := by
  induction items with
  | nil => rfl
  | cons item items ih =>
    rw [insertionSort_cons, ih]
    cases mark : marked item with
    | true =>
      rw [filter_cons_of_pos mark, filter_cons_of_neg (by simp [mark]), cons_append]
      cases items.filter marked ++ items.filter fun item => !marked item with
      | nil => rfl
      | cons => simp [mark]
    | false =>
      rw [filter_cons_of_neg (by simp [mark]), filter_cons_of_pos (by simp [mark])]
      apply orderedInsert_parted _ _ mark
      · intro other mem
        exact (mem_filter.mp mem).2
      · intro _ mem
        simpa using (mem_filter.mp mem).2

/-- A stable partition by a mark that children inherit keeps the order. -/
lemma Stacked.partition (stacked : Stacked child items)
    (inherits : ∀ lower ∈ items, ∀ upper ∈ items, child lower upper = true →
      marked upper = true → marked lower = true) : Stacked child
      (items.insertionSort fun left right => (!marked left) ≤ (!marked right)) := by
  have permuted := perm_insertionSort (fun left right => (!marked left) ≤ (!marked right)) items
  refine ⟨?_, fun item mem => stacked.apart item (permuted.subset mem)⟩
  rw [insertionSort_mark]
  apply pairwise_append.mpr
  refine ⟨stacked.ordered.sublist filter_sublist, stacked.ordered.sublist filter_sublist, ?_⟩
  intro upper upperMarked lower lowerPlain
  obtain ⟨upperIn, upperMarked⟩ := mem_filter.mp upperMarked
  obtain ⟨lowerIn, lowerPlain⟩ := mem_filter.mp lowerPlain
  by_contra linked
  have lowerMarked := inherits lower lowerIn upper upperIn
    (Bool.not_eq_false _ ▸ linked) upperMarked
  simp [lowerMarked] at lowerPlain

end Synoik.Stack
