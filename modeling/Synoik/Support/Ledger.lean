import Mathlib.Data.List.Perm.Subperm
import Mathlib.Data.List.Range
import Mathlib.Data.List.Nodup
import Synoik.Support.Vec

/-!
# Accounting for lists

Two kinds of books are kept on lists whose order does not matter.  `Issues`
says that a list of numbers changed only by losing members and by gaining
numbers drawn from a counter, so that distinctness survives. The lemmas on
`flatMap` say what replacing one part does to the list collected from all parts.
-/

namespace Synoik

open List

variable {α β : Type} {parts : List α} {idx next later : Nat} {part : α}

lemma flatMap_set_perm (new : α) (collect : α → List β) (got : parts[idx]? = some part) :
    (collect part ++ (parts.set idx new).flatMap collect).Perm
      (collect new ++ parts.flatMap collect) := by
  have swapped := (Vec.set_perm new got).flatMap_right collect
  simpa using swapped

variable {new : α} {collect : α → List β}

/-- A part that contributes the same as before, and something extra. -/
lemma flatMap_set_gains {extra : List β}
    (got : parts[idx]? = some part) (grown : (collect new).Perm (extra ++ collect part)) :
    ((parts.set idx new).flatMap collect).Perm (extra ++ parts.flatMap collect) := by
  have swapped := flatMap_set_perm new collect got
  have ran : (collect new ++ parts.flatMap collect).Perm
      (collect part ++ (extra ++ parts.flatMap collect)) := by
    apply (grown.append_right _).trans
    rw [← append_assoc]
    exact perm_append_comm.append_right _
  exact (perm_append_left_iff (collect part)).mp (swapped.trans ran)

lemma flatMap_set_loses {lost : List β}
    (got : parts[idx]? = some part) (shrunk : (collect part).Perm (lost ++ collect new)) :
    (parts.flatMap collect).Perm (lost ++ (parts.set idx new).flatMap collect) := by
  have swapped := flatMap_set_perm new collect got
  have ran : (collect new ++ (lost ++ (parts.set idx new).flatMap collect)).Perm
      (collect new ++ parts.flatMap collect) := by
    refine .trans ?_ swapped
    rw [← append_assoc]
    exact (perm_append_comm.trans shrunk.symm).append_right _
  exact ((perm_append_left_iff (collect new)).mp ran).symm

/-- The numbers a counter handed out between two of its states. -/
def freshNumbers (next later : Nat) : List Nat := List.range' next (later - next)

@[simp] lemma freshNumbers_self (next : Nat) : freshNumbers next next = [] := by
  simp [freshNumbers]

@[simp] lemma freshNumbers_succ (next : Nat) : freshNumbers next (next + 1) = [next] := by
  simp [freshNumbers]

lemma freshNumbers_append {last : Nat} (one : next ≤ later) (second : later ≤ last) :
    freshNumbers next later ++ freshNumbers later last = freshNumbers next last := by
  have start : later = next + 1 * (later - next) := by omega
  have total : last - next = (later - next) + (last - later) := by omega
  unfold freshNumbers
  conv_lhs => rw [show range' later (last - later) =
    range' (next + 1 * (later - next)) (last - later) by rw [← start]]
  rw [range'_append, total]

lemma mem_freshNumbers {num : Nat} : num ∈ freshNumbers next later ↔ next ≤ num ∧ num < later := by
  unfold freshNumbers
  rw [mem_range'_1]
  omega

/-- Pairwise distinct, and all handed out before `next`. -/
structure Distinct (numbers : List Nat) (next : Nat) : Prop where
  nodup : numbers.Nodup
  below : ∀ number ∈ numbers, number < next

/-- From `numbers` to `numbers'` the counter went from `next` to `next'`, and
every new number was drawn from it. -/
structure Issues (numbers : List Nat) (next : Nat) (numbers' : List Nat)
    (next' : Nat) : Prop where
  le : next ≤ next'
  subperm : numbers'.Subperm (numbers ++ freshNumbers next next')

namespace Issues

variable {numbers numbers' numbers'' : List Nat} {next next' next'' : Nat}

lemma of_subperm (fewer : numbers'.Subperm numbers) : Issues numbers next numbers' next :=
  ⟨le_rfl, by simpa using fewer⟩

lemma refl (numbers : List Nat) (next : Nat) : Issues numbers next numbers next :=
  of_subperm (.refl _)

lemma of_perm (same : numbers'.Perm numbers) : Issues numbers next numbers' next :=
  of_subperm same.subperm

lemma draw (next : Nat) (gained : numbers'.Perm (next :: numbers)) :
    Issues numbers next numbers' (next + 1) := by
  refine ⟨by omega, gained.subperm.trans (Perm.subperm ?_)⟩
  rw [freshNumbers_succ]
  exact (perm_append_singleton next numbers).symm

lemma trans (one : Issues numbers next numbers' next')
    (last : Issues numbers' next' numbers'' next'') : Issues numbers next numbers'' next'' := by
  refine ⟨one.le.trans last.le, last.subperm.trans ?_⟩
  rw [← freshNumbers_append one.le last.le, ← append_assoc]
  exact one.subperm.append (.refl _)

section

variable (issues : Issues numbers next numbers' next')
include issues

lemma append_right (rest : List Nat) : Issues (numbers ++ rest) next (numbers' ++ rest) next' := by
  refine ⟨issues.le, (issues.subperm.append (.refl rest)).trans (Perm.subperm ?_)⟩
  rw [append_assoc, append_assoc]
  exact perm_append_comm.append_left _

lemma append_left (rest : List Nat) : Issues (rest ++ numbers) next (rest ++ numbers') next' := by
  refine ⟨issues.le, ?_⟩
  rw [append_assoc]
  exact (subperm_append_left rest).mpr issues.subperm

/-- Fresh numbers clash with nothing, so distinctness survives. -/
lemma distinct (uniq : Distinct numbers next) : Distinct numbers' next' := by
  have whole : (numbers ++ freshNumbers next next').Nodup := by
    refine nodup_append.mpr ⟨uniq.nodup, nodup_range', ?_⟩
    intro num mem _ otherIn _
    have low := uniq.below num mem
    have high := (mem_freshNumbers.mp otherIn).1
    omega
  obtain ⟨_, perm, sublist⟩ := issues.subperm
  refine ⟨perm.nodup_iff.mp (whole.sublist sublist), ?_⟩
  intro num mem
  have known := issues.subperm.subset mem
  rcases mem_append.mp known with old | new
  · exact (uniq.below num old).trans_le issues.le
  · exact (mem_freshNumbers.mp new).2

end

end Issues

end Synoik
