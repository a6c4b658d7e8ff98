import Mathlib.Data.List.Basic

/-!
# Byte offsets in text

A text is a list of characters, and a place in it is an offset in bytes of its UTF-8
encoding. An offset may lie inside a character; cutting a text there fails.
-/

namespace Synoik.Offsets

open List

/-- White space as Unicode has it. -/
def isWhitespace (char : Char) : Bool :=
  let code := char.toNat
  (9 ≤ code && code ≤ 13) || code = 32 || code = 133 || code = 160 || code = 5760 ||
    (8192 ≤ code && code ≤ 8202) || code = 8232 || code = 8233 || code = 8239 ||
    code = 8287 || code = 12288

/-- Drops the trailing characters that a test holds of. -/
def dropTrailing (drops : Char → Bool) (text : List Char) : List Char :=
  (text.reverse.dropWhile drops).reverse

def trim (text : List Char) : List Char := dropTrailing isWhitespace (text.dropWhile isWhitespace)

variable {text front rest part : List Char} {low high offset : Nat}

def size : List Char → Nat
  | [] => 0
  | char :: text => char.utf8Size + size text

@[simp] lemma size_nil : size [] = 0 := rfl

@[simp] lemma size_cons (char : Char) (text : List Char) :
    size (char :: text) = char.utf8Size + size text := rfl

@[simp] lemma size_append (front rest : List Char) :
    size (front ++ rest) = size front + size rest := by
  induction front with
  | nil => simp
  | cons _ _ ih => simp [ih, Nat.add_assoc]

lemma eq_nil_of_size (empty : size text = 0) : text = [] := by
  cases text with
  | nil => rfl
  | cons char =>
    have positive := Char.utf8Size_pos char
    rw [size_cons] at empty
    omega

/-- The text before an offset and the text after it; `none` inside a character and past the
end. -/
def cut : List Char → Nat → Option (List Char × List Char)
  | text, 0 => some ([], text)
  | [], _ + 1 => none
  | char :: text, offset + 1 =>
    if char.utf8Size ≤ offset + 1 then
      (cut text (offset + 1 - char.utf8Size)).map fun (front, rest) => (char :: front, rest)
    else none

/-- An offset between two characters, or at one of the ends. -/
def Boundary (text : List Char) (offset : Nat) : Prop :=
  ∃ front rest, text = front ++ rest ∧ size front = offset

lemma cut_append (front rest : List Char) :
    cut (front ++ rest) (size front) = some (front, rest) := by
  induction front with
  | nil => simp [cut]
  | cons char front ih =>
    obtain ⟨less, total⟩ : ∃ less, char.utf8Size + size front = less + 1 :=
      ⟨char.utf8Size + size front - 1, by have := Char.utf8Size_pos char; omega⟩
    rw [cons_append, size_cons, total, cut, if_pos (by omega),
      show less + 1 - char.utf8Size = size front by omega, ih]
    rfl

lemma Boundary.cut (boundary : Boundary text offset) :
    ∃ front rest, Offsets.cut text offset = some (front, rest) ∧ text = front ++ rest ∧
      size front = offset := by
  obtain ⟨front, rest, rfl, rfl⟩ := boundary
  exact ⟨front, rest, cut_append front rest, rfl, rfl⟩

lemma boundary_zero (text : List Char) : Boundary text 0 := ⟨[], text, rfl, rfl⟩

lemma boundary_size (text : List Char) : Boundary text (size text) :=
  ⟨text, [], (append_nil text).symm, rfl⟩

lemma boundary_front (front rest : List Char) : Boundary (front ++ rest) (size front) :=
  ⟨front, rest, rfl, rfl⟩

lemma Boundary.le (boundary : Boundary text offset) : offset ≤ size text := by
  obtain ⟨_, _, rfl, rfl⟩ := boundary
  rw [size_append]
  exact Nat.le_add_right _ _

lemma Boundary.append (boundary : Boundary front offset) (rest : List Char) :
    Boundary (front ++ rest) offset := by
  obtain ⟨pre, post, rfl, rfl⟩ := boundary
  exact ⟨pre, post ++ rest, append_assoc _ _ _, rfl⟩

lemma Boundary.add_left (front : List Char) (boundary : Boundary rest offset) :
    Boundary (front ++ rest) (size front + offset) := by
  obtain ⟨pre, post, rfl, rfl⟩ := boundary
  exact ⟨front ++ pre, post, (append_assoc _ _ _).symm, size_append _ _⟩

lemma Boundary.between (first : Boundary text low) (last : Boundary text high)
    (ordered : low ≤ high) : ∃ front part rest, text = front ++ part ++ rest ∧ size front = low ∧
      size (front ++ part) = high := by
  obtain ⟨front, post, rfl, rfl⟩ := first
  obtain ⟨pre, rest, same, rfl⟩ := last
  rcases append_eq_append_iff.mp same with ⟨part, rfl, rfl⟩ | ⟨part, rfl, rfl⟩
  · exact ⟨front, part, rest, (append_assoc _ _ _).symm, rfl, rfl⟩
  · have none : part = [] := eq_nil_of_size (by rw [size_append] at ordered; omega)
    subst none
    exact ⟨pre, [], post, by simp, by simp, by simp⟩

/-- The text between two offsets, low first. -/
def slice (text : List Char) (low high : Nat) : Option (List Char) := do
  let (front, _) ← cut text high
  let (_, part) ← cut front low
  some part

/-- The text without what lies between two offsets. -/
def erase (text : List Char) (low high : Nat) : Option (List Char) := do
  let (front, rest) ← cut text high
  let (before, _) ← cut front low
  some (before ++ rest)

/-- The text with another put in at an offset. -/
def insert (text : List Char) (offset : Nat) (part : List Char) : Option (List Char) := do
  let (front, rest) ← cut text offset
  some (front ++ part ++ rest)

lemma slice_append (front part rest : List Char) :
    slice (front ++ part ++ rest) (size front) (size (front ++ part)) = some part := by
  unfold slice
  rw [cut_append]
  dsimp only [bind, Option.bind]
  rw [cut_append]

lemma erase_append (front part rest : List Char) :
    erase (front ++ part ++ rest) (size front) (size (front ++ part)) = some (front ++ rest) := by
  unfold erase
  rw [cut_append]
  dsimp only [bind, Option.bind]
  rw [cut_append]

lemma insert_append (front part rest : List Char) :
    insert (front ++ rest) (size front) part = some (front ++ part ++ rest) := by
  unfold insert
  rw [cut_append]
  rfl

/-- The pieces of a text, each with the offset it starts at. -/
def indices : Nat → List (List Char) → List (Nat × List Char)
  | _, [] => []
  | offset, piece :: pieces => (offset, piece) :: indices (offset + size piece) pieces

/-- A piece starts and ends at boundaries of the whole. -/
lemma boundary_of_mem_indices {pieces : List (List Char)} {start : Nat} {piece : List Char}
    (front : List Char) (mem : (start, piece) ∈ indices (size front) pieces) :
    Boundary (front ++ pieces.flatten) start ∧
      Boundary (front ++ pieces.flatten) (start + size piece) := by
  induction pieces generalizing front with
  | nil => cases mem
  | cons first _ ih =>
    rw [flatten_cons]
    rcases mem_cons.mp mem with here | later
    · cases here
      refine ⟨boundary_front _ _, ?_⟩
      rw [← size_append, ← append_assoc]
      exact boundary_front _ _
    · rw [← size_append] at later
      rw [← append_assoc]
      exact ih (front ++ first) later

end Synoik.Offsets
