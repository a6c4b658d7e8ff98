import Mathlib.Data.List.Nodup

/-!
# The labels of the keyboard layouts

The panel shows a short label for the active layout: its configured code, or two
letters of its full name. Labels that occur more than once are numbered.
-/

namespace Synoik.KeyboardLayout

open List

abbrev Label := List Char

/-- What the standard library knows of characters. -/
structure Letters where
  trim : Label → Label
  toLowercase : Label → Label
  isAlphabetic : Char → Bool

variable (letters : Letters)

def abbreviate (name : Label) (idx : Nat) : Label :=
  let abbr := letters.toLowercase ((name.filter letters.isAlphabetic).take 2)
  if abbr.isEmpty then 'l' :: Nat.toDigits 10 (idx + 1) else abbr

def dedup (labels : List Label) : List Label :=
  labels.mapIdx fun i label =>
    if 1 < labels.count label then
      label ++ Nat.toDigits 10 ((labels.take (i + 1)).count label)
    else label

/-- The labels before any of them is numbered. -/
def bare (codes names : List Label) : List Label :=
  if codes.length = names.length then
    codes.map fun code => letters.toLowercase (letters.trim code)
  else names.mapIdx fun i name => abbreviate letters name i

def labels (codes names : List Label) : List Label := dedup (bare letters codes names)

/-- What those of some layouts that read alike are labelled. -/
def labelled (count : Nat) (label : Label) : List Label :=
  if 1 < count then (range count).map fun earlier => label ++ Nat.toDigits 10 (earlier + 1)
  else [label]

section

variable {α : Type} (read : α → Label) (items : List α)

def alike (item : α) : Nat := items.countP fun other => read other == read item

/-- No label goes to two that read differently. -/
abbrev ToldApart : Prop :=
  ∀ item ∈ items, ∀ other ∈ items, read item ≠ read other →
    ∀ label ∈ labelled (alike read items item) (read item),
      label ∉ labelled (alike read items other) (read other)

end

/-- What `dedup` appends to the label at a position. -/
def suffix (labels : List Label) (i : Nat) (label : Label) : Label :=
  if 1 < labels.count label then Nat.toDigits 10 ((labels.take (i + 1)).count label) else []

variable {labels : List Label} {i j : Nat}

lemma getElem_dedup (inside : i < labels.length) (bound : i < (dedup labels).length) :
    (dedup labels)[i] = labels[i] ++ suffix labels i labels[i] := by
  simp only [dedup, getElem_mapIdx, suffix]
  split <;> simp

/-- The later of two equal labels has the higher number. -/
lemma suffix_ne (less : i < j) (inside : j < labels.length) (same : labels[i] = labels[j]) :
    suffix labels i labels[j] ≠ suffix labels j labels[j] := by
  have later : (labels.take (i + 1)).count labels[j] < (labels.take (j + 1)).count labels[j] := by
    rw [take_succ_eq_append_getElem inside, count_append, count_singleton_self]
    exact Nat.lt_succ_of_le ((take_sublist_take_left less).count_le _)
  have one : 0 < (labels.take (i + 1)).count labels[j] := by
    rw [take_succ_eq_append_getElem (Nat.lt_trans less inside), same, count_append,
      count_singleton_self]
    exact Nat.succ_pos _
  have all := (take_sublist (j + 1) labels).count_le labels[j]
  have repeated : 1 < labels.count labels[j] := by omega
  rw [suffix, suffix, if_pos repeated, if_pos repeated]
  intro equal
  have read := congrArg (Nat.ofDigitChars 10 · 0) equal
  simp only [Nat.ofDigitChars_ten_toDigits] at read
  omega

lemma mem_labelled_suffix (inside : i < labels.length) :
    labels[i] ++ suffix labels i labels[i] ∈ labelled (labels.count labels[i]) labels[i] := by
  have one : 0 < (labels.take (i + 1)).count labels[i] := by
    rw [take_succ_eq_append_getElem inside, count_append, count_singleton_self]
    exact Nat.succ_pos _
  have all := (take_sublist (i + 1) labels).count_le labels[i]
  unfold suffix labelled
  split
  · refine mem_map.mpr ⟨(labels.take (i + 1)).count labels[i] - 1, mem_range.mpr (by omega), ?_⟩
    rw [Nat.sub_add_cancel one]
  · simp

/-- A label that occurs so often occurs for the first time, the second and so on. -/
lemma exists_occurrence {label : Label} {earlier : Nat} (few : earlier < labels.count label) :
    ∃ i, ∃ inside : i < labels.length, labels[i] = label ∧
      (labels.take (i + 1)).count label = earlier + 1 := by
  induction labels generalizing earlier with
  | nil => cases few
  | cons head tail ih =>
    by_cases here : head = label
    · subst here
      cases earlier with
      | zero => exact ⟨0, Nat.succ_pos _, rfl, by simp⟩
      | succ earlier =>
        rw [count_cons_self, Nat.add_lt_add_iff_right] at few
        obtain ⟨i, inside, found, counted⟩ := ih few
        exact ⟨i + 1, Nat.succ_lt_succ inside, found, by simp [counted]⟩
    · rw [count_cons_of_ne here] at few
      obtain ⟨i, inside, found, counted⟩ := ih few
      exact ⟨i + 1, Nat.succ_lt_succ inside, found, by simp [counted, here]⟩

lemma exists_of_mem_labelled {label shown : Label} (mem : label ∈ labels)
    (has : shown ∈ labelled (labels.count label) label) :
    ∃ i, ∃ inside : i < labels.length, labels[i] = label ∧
      label ++ suffix labels i label = shown := by
  unfold labelled at has
  unfold suffix
  split at has
  next repeated =>
    obtain ⟨earlier, few, rfl⟩ := mem_map.mp has
    obtain ⟨i, inside, found, counted⟩ := exists_occurrence (mem_range.mp few)
    exact ⟨i, inside, found, by rw [if_pos repeated, counted]⟩
  next once =>
    obtain ⟨i, inside, found⟩ := getElem_of_mem mem
    exact ⟨i, inside, found, by rw [if_neg once, append_nil, mem_singleton.mp has]⟩

lemma nodup_dedup_iff : (dedup labels).Nodup ↔ ∀ label ∈ labels, ∀ other ∈ labels, label ≠ other →
      ∀ shown ∈ labelled (labels.count label) label,
        shown ∉ labelled (labels.count other) other := by
  have lengths : (dedup labels).length = labels.length := by simp [dedup]
  constructor
  · intro distinct label mem other among different shown first second
    obtain ⟨i, inside, rfl, one⟩ := exists_of_mem_labelled mem first
    obtain ⟨j, within, rfl, two⟩ := exists_of_mem_labelled among second
    have same : (dedup labels)[i] = (dedup labels)[j] := by
      rw [getElem_dedup inside, getElem_dedup within, one, two]
    cases (List.Nodup.getElem_inj_iff distinct).mp same
    exact different rfl
  · intro apart
    rw [List.Nodup, pairwise_iff_getElem]
    intro i j pre within less
    have inside : j < labels.length := lengths ▸ within
    have before := Nat.lt_trans less inside
    rw [getElem_dedup before, getElem_dedup inside]
    intro equal
    by_cases same : labels[i] = labels[j]
    · rw [same, append_cancel_left_eq] at equal
      exact suffix_ne less inside same equal
    · have first := mem_labelled_suffix before
      rw [equal] at first
      exact apart _ (getElem_mem before) _ (getElem_mem inside) same _ first
        (mem_labelled_suffix inside)

lemma nodup_dedup_map {α : Type} (read : α → Label) (items : List α) :
    (dedup (items.map read)).Nodup ↔ ToldApart read items := by
  rw [nodup_dedup_iff]
  simp only [forall_mem_map, ToldApart, alike, count, countP_map, Function.comp_def]

/-- The labels of the layouts are pairwise distinct if and only if no two that read differently
share a label: a number after one that several read as makes neither another one nor another
one with its number. -/
theorem labels_distinct (letters : Letters) (codes names : List Label) :
    (KeyboardLayout.labels letters codes names).Nodup ↔ if codes.length = names.length then
        ToldApart (fun code => letters.toLowercase (letters.trim code)) codes
      else ToldApart (fun entry => abbreviate letters entry.1 entry.2) names.zipIdx := by
  unfold KeyboardLayout.labels bare
  split
  · exact nodup_dedup_map _ _
  · rw [mapIdx_eq_zipIdx_map]
    exact nodup_dedup_map _ _

def ascii : Letters where
  trim := id
  toLowercase := List.map Char.toLower
  isAlphabetic := Char.isAlpha

theorem labels_distinct_us :
    (KeyboardLayout.labels ascii [['u', 's'], ['u', 's'], ['u', 's', '7']] [[], [], []]).Nodup :=
  (labels_distinct ascii _ _).mpr (by decide)

/-- Two layouts `us` and one `us1`, or a nameless layout before two called `L`, have a label
in common. -/
theorem number_taken :
    KeyboardLayout.labels ascii [['u', 's'], ['u', 's'], ['u', 's', '1']] [[], [], []] =
      [['u', 's', '1'], ['u', 's', '2'], ['u', 's', '1']] ∧
    KeyboardLayout.labels ascii [] [[], ['L'], ['L']] = [['l', '1'], ['l', '1'], ['l', '2']] := by
  decide

end Synoik.KeyboardLayout
