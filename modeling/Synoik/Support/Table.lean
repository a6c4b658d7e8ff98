import Mathlib.Data.List.AList
import Synoik.Support.Keyed

/-!
# Tables

A finite map as a list of entries with distinct keys: changing every value, listing the values
and collecting a list of values under their keys.
-/

namespace Synoik

open List

abbrev Table (κ α : Type) := AList fun _ : κ => α

namespace Table

variable {κ α : Type} [DecidableEq κ] {table : Table κ α} {key : κ} {value : α}

omit [DecidableEq κ] in
lemma keys_map (entries : List (Sigma fun _ : κ => α)) (change : α → α) :
    (entries.map fun entry => (⟨entry.1, change entry.2⟩ : Sigma fun _ : κ => α)).keys =
      entries.keys := by
  unfold keys
  rw [map_map]
  rfl

def mapValues (table : Table κ α) (change : α → α) : Table κ α where
  entries := table.entries.map fun entry => ⟨entry.1, change entry.2⟩
  nodupKeys := by
    unfold List.NodupKeys
    rw [keys_map]
    exact table.nodupKeys

lemma lookup_mapValues (change : α → α) :
    (table.mapValues change).lookup key = (table.lookup key).map change := by
  apply Option.ext
  intro _
  rw [Option.map_eq_some_iff]
  apply AList.mem_lookup_iff.trans
  simp only [mapValues, mem_map, Sigma.mk.injEq]
  constructor
  · rintro ⟨⟨_, old⟩, mem, rfl, same⟩
    exact ⟨old, AList.mem_lookup_iff.mpr mem, eq_of_heq same⟩
  · rintro ⟨old, got, rfl⟩
    exact ⟨⟨key, old⟩, AList.mem_lookup_iff.mp got, rfl, HEq.rfl⟩

def values (table : Table κ α) : List α := table.entries.map Sigma.snd

lemma mem_values : value ∈ table.values ↔ ∃ key, table.lookup key = some value := by
  unfold values
  rw [mem_map]
  constructor
  · rintro ⟨⟨key, _⟩, mem, rfl⟩
    exact ⟨key, AList.mem_lookup_iff.mpr mem⟩
  · rintro ⟨key, got⟩
    exact ⟨⟨key, value⟩, AList.mem_lookup_iff.mp got, rfl⟩

/-- A later value replaces an earlier one under the same key. -/
def collect (keyOf : α → κ) (items : List α) : Table κ α :=
  items.foldl (fun table item => table.insert (keyOf item) item) ∅

/-- Every value is kept under its own key. -/
def KeyedBy (table : Table κ α) (keyOf : α → κ) : Prop :=
  ∀ key value, table.lookup key = some value → keyOf value = key

variable {keyOf : α → κ} {xs : List α}

section

variable (uniq : (xs.map keyOf).Nodup)
include uniq

lemma lookup_foldl_insert :
    (xs.foldl (fun table item => table.insert (keyOf item) item) table).lookup key =
      (xs.find? fun item => keyOf item == key).or (table.lookup key) := by
  induction xs generalizing table with
  | nil => rfl
  | cons item _ ih =>
    rw [map_cons, nodup_cons] at uniq
    rw [foldl_cons, ih uniq.2]
    by_cases same : keyOf item = key
    · subst same
      have lack := Keyed.find?_eq_none_iff.mpr uniq.1
      rw [lack, find?_cons_of_pos (by simp)]
      exact AList.lookup_insert _
    · rw [find?_cons_of_neg (by simpa using same), AList.lookup_insert_ne (Ne.symm same)]

lemma lookup_collect : (collect keyOf xs).lookup key = xs.find? fun item => keyOf item == key := by
  unfold collect
  rw [lookup_foldl_insert uniq, AList.lookup_empty, Option.or_none]

lemma lookup_collect_eq_some :
    (collect keyOf xs).lookup key = some value ↔ value ∈ xs ∧ keyOf value = key := by
  rw [lookup_collect uniq]
  exact Keyed.find?_eq_some_iff uniq

end

section

variable (keyed : table.KeyedBy keyOf)
include keyed

lemma KeyedBy.map_values : table.values.map keyOf = table.keys := by
  unfold values AList.keys keys
  rw [map_map]
  apply map_congr_left
  rintro ⟨key, value⟩ mem
  exact keyed key value (AList.mem_lookup_iff.mpr mem)

lemma KeyedBy.lookup_collect_values :
    (collect keyOf table.values).lookup key = table.lookup key := by
  have uniq : (table.values.map keyOf).Nodup := by
    rw [keyed.map_values]
    exact table.keys_nodup
  apply Option.ext
  intro value
  rw [lookup_collect_eq_some uniq, mem_values]
  constructor
  · rintro ⟨⟨other, got⟩, rfl⟩
    rw [keyed other value got]
    exact got
  · intro got
    exact ⟨⟨key, got⟩, keyed key value got⟩

lemma KeyedBy.mapValues {change : α → α} (kept : ∀ value, keyOf (change value) = keyOf value) :
    (table.mapValues change).KeyedBy keyOf := by
  intro key _ got
  rw [lookup_mapValues] at got
  obtain ⟨old, has, rfl⟩ := Option.map_eq_some_iff.mp got
  exact (kept old).trans (keyed key old has)

lemma KeyedBy.insert (named : keyOf value = key) :
    KeyedBy (AList.insert key value table) keyOf := by
  intro other got has
  by_cases same : other = key
  · subst same
    rw [AList.lookup_insert] at has
    cases has
    exact named
  · rw [AList.lookup_insert_ne same] at has
    exact keyed other got has

end

lemma keyedBy_empty : KeyedBy (∅ : Table κ α) keyOf := by
  intro _ _ got
  cases got

lemma keyedBy_collect : (collect keyOf xs).KeyedBy keyOf := by
  have kept : ∀ {table : Table κ α}, table.KeyedBy keyOf →
      KeyedBy (xs.foldl (fun table item => table.insert (keyOf item) item) table) keyOf := by
    induction xs with
    | nil => exact fun keyed => keyed
    | cons _ _ ih => exact fun keyed => ih (keyed.insert rfl)
  exact kept keyedBy_empty

lemma KeyedBy.erase {gone : κ} (keyed : table.KeyedBy keyOf) :
    KeyedBy (AList.erase gone table) keyOf := by
  intro key other got
  by_cases same : key = gone
  · subst same
    rw [AList.lookup_erase] at got
    cases got
  · rw [AList.lookup_erase_ne same] at got
    exact keyed key other got

def SameEntries (one two : Table κ α) : Prop := ∀ key, one.lookup key = two.lookup key

namespace SameEntries

variable {one two : Table κ α}

section

variable (same : SameEntries one two)
include same

lemma mapValues (change : α → α) : SameEntries (one.mapValues change) (two.mapValues change) := by
  intro _
  rw [lookup_mapValues, lookup_mapValues, same]

lemma insert (value : α) :
    SameEntries (AList.insert key value one) (AList.insert key value two) := by
  intro other
  by_cases here : other = key
  · subst here
    rw [AList.lookup_insert, AList.lookup_insert]
  · rw [AList.lookup_insert_ne here, AList.lookup_insert_ne here, same]

lemma erase : SameEntries (AList.erase key one) (AList.erase key two) := by
  intro other
  by_cases here : other = key
  · subst here
    rw [AList.lookup_erase, AList.lookup_erase]
  · rw [AList.lookup_erase_ne here, AList.lookup_erase_ne here, same]

end

end SameEntries

end Table

end Synoik
