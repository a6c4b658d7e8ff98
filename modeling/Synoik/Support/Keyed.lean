import Mathlib.Data.List.Nodup
import Mathlib.Data.List.Perm.Basic

/-!
# Lists of items with distinct keys

A table kept as a list: looking up, changing and removing the first item with a key.
While the keys are distinct, the first item is the only one, and each of these is a
function of the set of items.
-/

namespace Synoik.Keyed

open List

variable {α κ : Type} [DecidableEq κ] {key : α → κ} {want : κ} {xs others : List α}
  {item : α}

def changeFirst (meets : α → Bool) (change : α → α) : List α → List α
  | [] => []
  | item :: rest =>
    if meets item then change item :: rest else item :: changeFirst meets change rest

section ChangeFirst

variable {meets : α → Bool} {change : α → α}

lemma changeFirst_cons (meets : α → Bool) (change : α → α) (item : α) (rest : List α) :
    changeFirst meets change (item :: rest) =
      if meets item then change item :: rest else item :: changeFirst meets change rest :=
  rfl

lemma changeFirst_append_of_any (got : xs.any meets = true) :
    changeFirst meets change (xs ++ others) = changeFirst meets change xs ++ others := by
  induction xs with
  | nil => simp at got
  | cons item rest ih =>
    simp only [cons_append, changeFirst]
    by_cases first : meets item
    · simp [first]
    · have later : rest.any meets = true := by simpa [first] using got
      simp [first, ih later]

lemma changeFirst_append_of_not_any (lack : xs.any meets = false) :
    changeFirst meets change (xs ++ others) = xs ++ changeFirst meets change others := by
  induction xs with
  | nil => rfl
  | cons _ _ ih =>
    rw [any_cons, Bool.or_eq_false_iff] at lack
    simp [changeFirst, lack.1, ih lack.2]

/-- What a change keeps of every item, it keeps of the list. -/
lemma map_changeFirst {β : Type} {view : α → β} (kept : ∀ item, view (change item) = view item) :
    (changeFirst meets change xs).map view = xs.map view := by
  induction xs with
  | nil => rfl
  | cons _ _ ih =>
    unfold changeFirst
    split
    · simp [kept]
    · simp [ih]

lemma length_changeFirst : (changeFirst meets change xs).length = xs.length := by
  induction xs with
  | nil => rfl
  | cons _ _ ih =>
    rw [changeFirst_cons]
    split
    · rfl
    · simp [ih]

end ChangeFirst

lemma perm_cons_eraseP {meets : α → Bool} (got : xs.find? meets = some item) :
    xs.Perm (item :: xs.eraseP meets) := by
  induction xs with
  | nil => cases got
  | cons first _ ih =>
    by_cases here : meets first
    · rw [find?_cons_of_pos here] at got
      cases got
      rw [eraseP_cons_of_pos here]
    · rw [find?_cons_of_neg here] at got
      rw [eraseP_cons_of_neg here]
      exact ((ih got).cons first).trans (.swap _ _ _)

lemma find?_eq_some_iff (uniq : (xs.map key).Nodup) :
    xs.find? (fun item => key item == want) = some item ↔ item ∈ xs ∧ key item = want := by
  constructor
  · intro got
    exact ⟨mem_of_find?_eq_some got, by simpa using find?_some got⟩
  · rintro ⟨mem, rfl⟩
    cases got : xs.find? (fun other => key other == key item) with
    | none =>
      rw [find?_eq_none] at got
      exact absurd (beq_self_eq_true _) (got item mem)
    | some other =>
      have same : key other = key item := by simpa using find?_some got
      rw [inj_on_of_nodup_map uniq (mem_of_find?_eq_some got) mem same]

lemma find?_isSome_iff :
    (xs.find? fun item => key item == want).isSome = true ↔ want ∈ xs.map key := by
  simp

lemma find?_eq_none_iff : xs.find? (fun item => key item == want) = none ↔ want ∉ xs.map key := by
  rw [← find?_isSome_iff]
  cases xs.find? (fun item => key item == want) <;> simp

section

variable (uniq : (xs.map key).Nodup)
include uniq

/-- A rearranged table answers the same. -/
lemma find?_eq_of_mem_iff (otherDistinct : (others.map key).Nodup)
    (same : ∀ item, key item = want → (item ∈ others ↔ item ∈ xs)) :
    others.find? (fun item => key item == want) = xs.find? fun item => key item == want := by
  apply Option.ext
  intro item
  rw [find?_eq_some_iff uniq, find?_eq_some_iff otherDistinct]
  constructor
  · rintro ⟨mem, key⟩
    exact ⟨(same item key).mp mem, key⟩
  · rintro ⟨mem, key⟩
    exact ⟨(same item key).mpr mem, key⟩

lemma eraseP_eq_filter : xs.eraseP (fun item => key item == want) =
      xs.filter fun item => key item != want := by
  induction xs with
  | nil => rfl
  | cons item _ ih =>
    rw [map_cons, nodup_cons] at uniq
    by_cases first : key item = want
    · subst first
      rw [eraseP_cons_of_pos (by simp), filter_cons_of_neg (by simp), filter_eq_self.mpr]
      intro _ mem
      rw [bne_iff_ne]
      intro same
      exact uniq.1 (same ▸ mem_map_of_mem mem)
    · rw [eraseP_cons_of_neg (by simpa using first),
        filter_cons_of_pos (by simpa using first), ih uniq.2]

lemma changeFirst_eq_map {change : α → α} : changeFirst (fun item => key item == want) change xs =
      xs.map fun item => if key item = want then change item else item := by
  induction xs with
  | nil => rfl
  | cons item rest ih =>
    rw [map_cons, nodup_cons] at uniq
    unfold changeFirst
    by_cases first : key item = want
    · subst first
      rw [if_pos (by simp), map_cons, if_pos rfl]
      apply congrArg _
      conv => lhs; rw [← map_id' rest]
      apply map_congr_left
      intro _ mem
      rw [if_neg]
      intro same
      exact uniq.1 (same ▸ mem_map_of_mem mem)
    · rw [if_neg (by simpa using first), map_cons, if_neg first, ih uniq.2]

end

end Synoik.Keyed
