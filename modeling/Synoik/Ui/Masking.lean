import Synoik.Ui.TextSafety

/-!
# Positions in a masked field

The composition is drawn in the clear at the caret, between masked text. The caret is moved
past it, the ends of the selection are not.
-/

namespace Synoik.Ui.TextEdit

open List Offsets

variable {edit : TextEdit} {low high : Nat}

lemma front_unique {front rest pre post : List Char}
    (same : front ++ rest = pre ++ post) (sizes : size front = size pre) :
    front = pre ∧ rest = post := by
  have cut := cut_append front rest
  rw [same, sizes, cut_append] at cut
  cases cut
  exact ⟨rfl, rfl⟩

/-- The masks of a part of the text are drawn at these offsets: before the composition, or
behind it. -/
def DrawnAt (mask : Char) (front preedit rest : List Char) (low high start stop : Nat) : Prop :=
  (∃ before part after, front = before ++ part ++ after ∧
    size before = low ∧ size (before ++ part) = high ∧
    start = size (masked mask before) ∧ stop = size (masked mask before ++ masked mask part)) ∨
  ∃ before part after, rest = before ++ part ++ after ∧
    size (front ++ before) = low ∧ size (front ++ before ++ part) = high ∧
    start = size (masked mask front ++ preedit ++ masked mask before) ∧
    stop = size (masked mask front ++ preedit ++ masked mask before ++ masked mask part)

section

variable {front rest : List Char} (whole : edit.text = front ++ rest)
  (caret : size front = edit.cursor) (mask : Char)
include whole caret

lemma maskedPositions_caret (none : edit.selection = none) : edit.maskedPositions mask true =
      some (some (size (masked mask front ++ edit.preedit.getD [])), Option.none) := by
  have preedit : (edit.preedit.map size).getD 0 = size (edit.preedit.getD []) := by
    cases edit.preedit <;> rfl
  simp [maskedPositions, ← caret, maskedOffset_front whole, none, preedit]

lemma maskedPositions_selected {before part after : List Char}
    (parts : edit.text = before ++ part ++ after)
    (selected : edit.selection = some (size before, size (before ++ part))) :
    edit.maskedPositions mask true = some (some (size (masked mask front ++ edit.preedit.getD [])),
        some (size (masked mask before), size (masked mask before ++ masked mask part))) := by
  have preedit : (edit.preedit.map size).getD 0 = size (edit.preedit.getD []) := by
    cases edit.preedit <;> rfl
  have start := maskedOffset_front (append_assoc before part after ▸ parts) mask
  have stop := maskedOffset_front parts mask
  rw [← masked_append]
  simp only [maskedPositions, ← caret, maskedOffset_front whole, selected, preedit, start, stop]
  simp

end

lemma selection_back (lt : edit.anchor < edit.cursor) :
    edit.selection = some (edit.anchor, edit.cursor) := by
  simp [selection, ordered, Nat.not_le.mpr lt, Nat.ne_of_lt lt]

lemma selection_forth (lt : edit.cursor < edit.anchor) :
    edit.selection = some (edit.cursor, edit.anchor) := by
  simp [selection, ordered, Nat.le_of_lt lt, Nat.ne_of_lt lt]

/-- The caret is drawn after the masked text before it and the composition, and the selection
on the masks of the selected characters, if and only if no composition is shown or the selection
is not after the caret. -/
theorem maskedPositions_point (sound : edit.Sound) (mask : Char) :
    (∃ front rest selection, edit.text = front ++ rest ∧ size front = edit.cursor ∧
      edit.display (some mask) =
        some (masked mask front ++ edit.preedit.getD [] ++ masked mask rest) ∧
      edit.maskedPositions mask true =
        some (some (size (masked mask front ++ edit.preedit.getD [])), selection) ∧
      (edit.selection = none → selection = none) ∧
      ∀ low high, edit.selection = some (low, high) → ∃ start stop, selection = some (start, stop) ∧
        DrawnAt mask front (edit.preedit.getD []) rest low high start stop) ↔
      edit.anchor ≤ edit.cursor ∨ edit.preedit.getD [] = [] := by
  obtain ⟨front, rest, whole, caret⟩ := sound.cursor
  have shown := display_masked whole caret mask
  rcases Nat.lt_trichotomy edit.anchor edit.cursor with back | same | forth
  · -- The selection ends at the caret.
    refine iff_of_true ?_ (.inl back.le)
    obtain ⟨before, part, after, parts, starts, stops⟩ := sound.anchor.between sound.cursor back.le
    obtain ⟨rfl, rfl⟩ := front_unique (whole.symm.trans parts) (caret.trans stops.symm)
    have selected := selection_back back
    rw [← starts, ← stops] at selected
    refine ⟨_, _, _, whole, caret, shown, maskedPositions_selected whole caret mask parts selected,
      fun none => (nomatch selected.symm.trans none), ?_⟩
    intro _ _ given
    cases selected.symm.trans given
    exact ⟨_, _, rfl, .inl ⟨before, part, [], (append_nil _).symm, rfl, rfl, rfl, rfl⟩⟩
  · have none : edit.selection = none := by simp [selection, ordered, same]
    refine iff_of_true ⟨front, rest, Option.none, whole, caret, shown,
      maskedPositions_caret whole caret mask none, fun _ => rfl, ?_⟩ (.inl same.le)
    intro _ _ given
    cases none.symm.trans given
  · -- The selection starts at the caret and is drawn as if the composition were not there.
    obtain ⟨before, part, after, parts, starts, stops⟩ := sound.cursor.between sound.anchor forth.le
    rw [append_assoc] at parts
    obtain ⟨rfl, rfl⟩ := front_unique (whole.symm.trans parts) (caret.trans starts.symm)
    rw [← append_assoc] at parts
    have selected := selection_forth forth
    rw [← starts, ← stops] at selected
    have positions := maskedPositions_selected whole caret mask parts selected
    constructor
    · rintro ⟨other, _, _, otherWhole, otherCaret, -, otherPositions, -, drawn⟩
      right
      obtain ⟨rfl, rfl⟩ := front_unique (whole.symm.trans otherWhole) (caret.trans otherCaret.symm)
      cases positions.symm.trans otherPositions
      obtain ⟨_, _, same, drawn⟩ := drawn _ _ selected
      cases same
      rcases drawn with ⟨_, _, _, split, -, high, -, -⟩ | ⟨_, _, _, -, -, -, start, -⟩
      · have sizes := congrArg size split
        simp only [size_append] at sizes high stops
        omega
      · apply eq_nil_of_size
        simp only [size_append] at start
        omega
    · rintro (behind | empty)
      · omega
      · refine ⟨_, _, _, whole, caret, shown, positions,
          fun none => (nomatch selected.symm.trans none), ?_⟩
        intro _ _ given
        cases selected.symm.trans given
        refine ⟨_, _, rfl, .inr ⟨[], part, after, rfl, ?_, ?_, ?_, ?_⟩⟩ <;>
          simp [empty, masked]

/-- A character is selected before the caret, and another is composed there. -/
def composing : TextEdit :=
  { text := ['a'], cursor := 1, anchor := 0, preedit := some ['b'] }

theorem maskedPositions_point_composing : composing.Sound ∧ ∃ front rest selection,
    composing.text = front ++ rest ∧ size front = 1 ∧
    composing.display (some '*') = some (masked '*' front ++ ['b'] ++ masked '*' rest) ∧
    composing.maskedPositions '*' true = some (some (size (masked '*' front ++ ['b'])), selection) ∧
    ∃ start stop, selection = some (start, stop) ∧ DrawnAt '*' front ['b'] rest 0 1 start stop := by
  have sound : composing.Sound := ⟨⟨['a'], [], rfl, rfl⟩, [], ['a'], rfl, rfl⟩
  obtain ⟨front, rest, selection, whole, caret, shown, positions, -, drawn⟩ :=
    (maskedPositions_point sound '*').mpr (.inl (Nat.zero_le 1))
  exact ⟨sound, front, rest, selection, whole, caret, shown, positions, drawn 0 1 rfl⟩

/-- A character is selected after the caret. The selection is drawn on the one that is composed
there. -/
theorem maskedPositions_off : ∃ edit : TextEdit, edit.Sound ∧
    edit.selectedText = some (some ['a']) ∧ edit.display (some '*') = some ['b', '*'] ∧
    edit.maskedPositions '*' true = some (some 1, some (0, 1)) :=
  ⟨{ text := ['a'], cursor := 0, anchor := 1, preedit := some ['b'] },
    ⟨⟨[], ['a'], rfl, rfl⟩, ['a'], [], rfl, rfl⟩, rfl, rfl, rfl⟩

end Synoik.Ui.TextEdit
