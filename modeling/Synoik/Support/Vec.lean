import Mathlib.Data.List.InsertIdx
import Mathlib.Data.List.Induction
import Mathlib.Data.List.Perm.Basic

/-!
# Growable arrays with checked indices

Insertion and removal by position, as a list that answers `none` where the
array operation would panic. Each operation comes with what it does to the
multiset of items, which is what accounting arguments use, and with the
equations that position arguments use.
-/

namespace Synoik.Vec

open List

variable {α β : Type}

/-- Inserts an item before position `idx`, which may be the end. -/
def insertAt (items : List α) (idx : Nat) (item : α) : Option (List α) :=
  if idx ≤ items.length then some (items.insertIdx idx item) else none

def removeAt (items : List α) (idx : Nat) : Option (α × List α) :=
  (items[idx]?).map fun item => (item, items.eraseIdx idx)

def updateAt (items : List α) (idx : Nat) (change : α → Option α) : Option (List α) :=
  (items[idx]?).bind fun item => (change item).map fun item => items.set idx item

variable {xs res : List α} {idx : Nat} {item : α}

lemma lt_length (got : xs[idx]? = some item) : idx < xs.length :=
  (List.getElem?_eq_some_iff.mp got).1

lemma insertIdx_ne_nil (nonempty : xs ≠ []) : xs.insertIdx idx item ≠ [] := by
  intro empty
  have lengths := congrArg length empty
  have positive := length_pos_of_ne_nil nonempty
  rw [length_insertIdx, length_nil] at lengths
  split at lengths <;> omega

lemma eraseIdx_ne_nil (nonempty : xs ≠ []) (several : xs.length ≠ 1) : xs.eraseIdx idx ≠ [] := by
  intro empty
  have lengths := congrArg length empty
  have positive := length_pos_of_ne_nil nonempty
  rw [length_eraseIdx, length_nil] at lengths
  split at lengths <;> omega

lemma insertAt_eq_some : insertAt xs idx item = some res ↔
      idx ≤ xs.length ∧ res = xs.insertIdx idx item := by
  unfold insertAt
  split
  next lt => simp [lt, eq_comm]
  next unbounded => simp [unbounded]

variable {rest : List α}

lemma removeAt_eq_some : removeAt xs idx = some (item, rest) ↔
      xs[idx]? = some item ∧ rest = xs.eraseIdx idx := by
  unfold removeAt
  cases xs[idx]? with
  | none => simp
  | some => simp [eq_comm]

lemma updateAt_eq_some {change : α → Option α} : updateAt xs idx change = some res ↔
      ∃ item new, xs[idx]? = some item ∧ change item = some new ∧ res = xs.set idx new := by
  simp only [updateAt, Option.bind_eq_some_iff, Option.map_eq_some_iff]
  constructor
  · rintro ⟨item, got, new, computed, rfl⟩
    exact ⟨item, new, got, computed, rfl⟩
  · rintro ⟨item, new, got, computed, rfl⟩
    exact ⟨item, got, new, computed, rfl⟩

/-- Reading an array off by its positions gives the array. -/
lemma filterMap_getElem?_range (xs : List α) :
    (range xs.length).filterMap (fun idx => xs[idx]?) = xs := by
  induction xs with
  | nil => rfl
  | cons _ _ ih =>
    rw [length_cons, range_succ_eq_map, filterMap_cons]
    simpa [filterMap_map, Function.comp_def] using ih

variable {view : α → β}

lemma map_modify {change : α → α} (keeps : ∀ item, view (change item) = view item) :
    (xs.modify idx change).map view = xs.map view := by
  apply ext_getElem
  · simp
  · intro _ _ _
    simp only [getElem_map, getElem_modify]
    split
    · exact keeps _
    · rfl

lemma map_set_of_eq {new : α} (got : xs[idx]? = some item) (same : view new = view item) :
    (xs.set idx new).map view = xs.map view := by
  obtain ⟨lt, rfl⟩ := List.getElem?_eq_some_iff.mp got
  have mapped : idx < (xs.map view).length := by simpa using lt
  rw [map_set, same, ← getElem_map view]
  exact set_getElem_self mapped

lemma eq_append_of_getElem? (got : xs[idx]? = some item) :
    xs = xs.take idx ++ item :: xs.drop (idx + 1) := by
  obtain ⟨_, rfl⟩ := List.getElem?_eq_some_iff.mp got
  rw [← drop_eq_getElem_cons, take_append_drop]

lemma insertIdx_eq_append (item : α) (lt : idx ≤ xs.length) :
    xs.insertIdx idx item = xs.take idx ++ item :: xs.drop idx := by
  induction idx generalizing xs with
  | zero => rfl
  | succ _ ih =>
    cases xs with
    | nil => cases lt
    | cons =>
      rw [insertIdx_succ_cons, ih (Nat.le_of_succ_le_succ lt)]
      rfl

lemma insertAt_perm (added : insertAt xs idx item = some res) : res.Perm (item :: xs) := by
  obtain ⟨lt, rfl⟩ := insertAt_eq_some.mp added
  exact perm_insertIdx item xs lt

lemma removeAt_perm (gone : removeAt xs idx = some (item, rest)) : xs.Perm (item :: rest) := by
  obtain ⟨got, rfl⟩ := removeAt_eq_some.mp gone
  rw [eraseIdx_eq_take_drop_succ]
  conv_lhs => rw [eq_append_of_getElem? got]
  exact perm_middle

/-- Replacing one item exchanges it in the multiset of items. -/
lemma set_perm (new : α) (got : xs[idx]? = some item) :
    (item :: xs.set idx new).Perm (new :: xs) := by
  have lt := lt_length got
  rw [set_eq_take_append_cons_drop, if_pos lt]
  conv_rhs => rw [eq_append_of_getElem? got]
  exact ((perm_middle.cons _).trans (Perm.swap _ _ _)).trans (perm_middle.symm.cons _)

def positions (items : List α) (marked : α → Bool) : List Nat :=
  (List.range items.length).filter fun idx => (items[idx]?).any marked

/-- The position that follows an item while marked ones are removed from the
last to the first: it steps back for each one removed at or before it. -/
def retreat (positions : List Nat) (active : Nat) : Nat :=
  positions.foldr (fun idx active => if idx ≤ active then active - 1 else active)
    active

lemma positions_concat (xs : List α) (item : α) (marked : α → Bool) :
    positions (xs ++ [item]) marked =
      positions xs marked ++ if marked item then [xs.length] else [] := by
  unfold positions
  rw [length_append, length_singleton, range_succ, filter_append]
  congr 1
  · refine filter_congr fun _ mem => ?_
    rw [getElem?_append_left (mem_range.mp mem)]
  · cases holds : marked item <;> simp [holds]

/-- Removing marked items steps the position back by how many there were up to
it. -/
lemma retreat_positions (xs : List α) (marked : α → Bool) (active : Nat) :
    retreat (positions xs marked) active = active - (xs.take (active + 1)).countP marked := by
  induction xs using reverseRecOn generalizing active with
  | nil => simp [positions, retreat]
  | append_singleton xs item ih =>
    have unfolded : retreat (positions (xs ++ [item]) marked) active =
        retreat (positions xs marked)
          (retreat (if marked item then [xs.length] else []) active) := by
      rw [positions_concat]
      exact foldr_append
    rw [unfolded, ih]
    by_cases reaches : xs.length ≤ active
    · have all : (xs ++ [item]).take (active + 1) = xs ++ [item] :=
        take_of_length_le (by simp; omega)
      cases holds : marked item with
      | true =>
        have ran : retreat [xs.length] active = active - 1 := by simp [retreat, reaches]
        rw [if_pos rfl, ran, all, countP_append, take_of_length_le (by omega)]
        simp [holds]
        omega
      | false =>
        simp only [retreat, Bool.false_eq_true, if_false, foldr_nil]
        rw [all, countP_append, take_of_length_le (by omega)]
        simp [holds]
    · have pre : (xs ++ [item]).take (active + 1) = xs.take (active + 1) :=
        take_append_of_le_length (by omega)
      have unmoved : retreat (if marked item then [xs.length] else []) active =
          active := by
        cases marked item <;> simp [retreat, reaches]
      rw [unmoved, pre]

lemma countP_add_filter_length (xs : List α) (marked : α → Bool) :
    xs.countP marked + (xs.filter fun item => !marked item).length = xs.length := by
  rw [← countP_eq_length_filter]
  have total : xs.length = _ := length_eq_countP_add_countP marked
  simp_all

/-- Unless every item goes, the position stays inside what remains. -/
lemma retreat_lt {marked : α → Bool} {active : Nat} (inside : active < xs.length)
    (remains : xs.filter (fun item => !marked item) ≠ []) :
    retreat (positions xs marked) active < (xs.filter fun item => !marked item).length := by
  rw [retreat_positions]
  have upTo := countP_add_filter_length (xs.take (active + 1)) marked
  rw [length_take_of_le (by omega)] at upTo
  have fewer : ((xs.take (active + 1)).filter fun item => !marked item).length ≤
      (xs.filter fun item => !marked item).length := ((take_sublist _ _).filter _).length_le
  have some := length_pos_of_ne_nil remains
  omega

section Forall₂

variable {rel : α → α → Prop} {left mid right xs : List α}

lemma forall₂_trans (transitive : ∀ {one two three}, rel one two → rel two three →
      rel one three) (first : List.Forall₂ rel left mid)
    (last : Forall₂ rel mid right) : Forall₂ rel left right := by
  induction first generalizing right with
  | nil => exact last
  | cons related _ ih =>
    cases last with
    | cons next rest => exact .cons (transitive related next) (ih rest)

lemma forall₂_set {idx : Nat} {item new : α}
    (reflexive : ∀ item, rel item item) (got : xs[idx]? = some item)
    (related : rel item new) : Forall₂ rel xs (xs.set idx new) := by
  induction xs generalizing idx with
  | nil => cases got
  | cons head _ ih =>
    cases idx with
    | zero =>
      cases got
      exact .cons related (forall₂_same.mpr fun other _ => reflexive other)
    | succ => exact .cons (reflexive head) (ih got)

end Forall₂

end Synoik.Vec
