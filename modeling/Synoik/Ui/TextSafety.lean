import Mathlib.Data.List.SplitBy
import Synoik.Ui.TextEdit

/-!
# No operation of a text field panics

The caret and the other end of the selection stay on character boundaries of the text. Every
slice an operation takes is then at boundaries, low end first, so it succeeds.
-/

namespace Synoik.Ui.TextEdit

open List

open Offsets

variable (seg : Segmentation) {edit : TextEdit} {low high offset : Nat} {α : Type}

/-- Both ends of the selection are on character boundaries. -/
structure Sound (edit : TextEdit) : Prop where
  cursor : Boundary edit.text edit.cursor
  anchor : Boundary edit.text edit.anchor

/-- An operation that comes to its end, with the field sound. -/
def Goes (result : Option (TextEdit × α)) : Prop :=
  ∃ edit answer, result = some (edit, answer) ∧ edit.Sound

lemma Sound.goes (sound : edit.Sound) (answer : α) : Goes (some (edit, answer)) :=
  ⟨edit, answer, rfl, sound⟩

lemma Goes.bind {β : Type} {res : Option (TextEdit × α)}
    {next : TextEdit × α → Option (TextEdit × β)} (goes : Goes res)
    (then_ : ∀ {edit : TextEdit} (answer : α), edit.Sound → Goes (next (edit, answer))) :
    Goes (res.bind next) := by
  obtain ⟨_, answer, rfl, sound⟩ := goes
  exact then_ answer sound

section

variable (sound : edit.Sound)
include sound

lemma Sound.debugCheck : edit.debugCheck = some edit := by
  obtain ⟨_, _, caret, _⟩ := sound.cursor.cut
  obtain ⟨_, _, bound, _⟩ := sound.anchor.cut
  unfold TextEdit.debugCheck
  rw [caret, bound]
  rfl

lemma selection_eq_some (selected : edit.selection = some (low, high)) :
    Boundary edit.text low ∧ Boundary edit.text high ∧ low ≤ high := by
  obtain ⟨_, same⟩ := Option.ite_none_right_eq_some.mp selected
  unfold ordered at same
  split at same
  next pre =>
    cases same
    exact ⟨sound.cursor, sound.anchor, pre⟩
  next post =>
  cases same
  exact ⟨sound.anchor, sound.cursor, Nat.le_of_not_le post⟩

lemma Sound.deleteRange (one : Boundary edit.text low)
    (last : Boundary edit.text high) : Goes (edit.deleteRange low high) := by
  unfold TextEdit.deleteRange
  by_cases nothing : high ≤ low
  · rw [if_pos nothing]
    exact sound.goes false
  · obtain ⟨front, _, rest, whole, rfl, rfl⟩ := one.between last (by omega)
    rw [if_neg nothing, whole, erase_append]
    have left : Sound { edit with
        text := front ++ rest, cursor := size front, anchor := size front } :=
      ⟨boundary_front front rest, boundary_front front rest⟩
    exact ⟨_, true, by simp only [bind, Option.bind, left.debugCheck], left⟩

lemma Sound.deleteSelection : Goes edit.deleteSelection := by
  unfold TextEdit.deleteSelection
  split
  next _ _ selected =>
    obtain ⟨one, last, _⟩ := selection_eq_some sound selected
    exact sound.deleteRange one last
  · exact sound.goes false

end

lemma slice_of_boundaries {text : List Char} (one : Boundary text low)
    (last : Boundary text high) (ordered : low ≤ high) :
    ∃ part, slice text low high = some part := by
  obtain ⟨front, part, rest, rfl, rfl, rfl⟩ := one.between last ordered
  exact ⟨part, slice_append front part rest⟩

lemma Sound.killRange (sound : edit.Sound) (one : Boundary edit.text low)
    (last : Boundary edit.text high) (remember : Bool) :
    Goes (edit.killRange low high remember) := by
  unfold TextEdit.killRange
  by_cases nothing : high ≤ low
  · rw [if_pos nothing]
    exact sound.goes false
  · rw [if_neg nothing]
    obtain ⟨part, sliced⟩ := slice_of_boundaries one last (by omega)
    have kept (kill : List Char) : Goes (TextEdit.deleteRange { edit with kill } low high) := by
      have same : Sound { edit with kill } := ⟨sound.cursor, sound.anchor⟩
      exact same.deleteRange one last
    cases remember with
    | false => exact kept edit.kill
    | true =>
      simp only [if_true, sliced, bind, Option.bind]
      exact kept part

lemma Sound.insertStr (sound : edit.Sound) (string : List Char) :
    ∃ added, edit.insertStr string = some added ∧ added.Sound := by
  obtain ⟨cleared, _, deleted, left⟩ := sound.deleteSelection
  obtain ⟨front, rest, whole, place⟩ := left.cursor
  have put : Sound { cleared with
      text := front ++ string ++ rest
      cursor := cleared.cursor + size string
      anchor := cleared.cursor + size string } := by
    have here : Boundary (front ++ string ++ rest) (cleared.cursor + size string) := by
      rw [← place, ← size_append]
      exact boundary_front (front ++ string) rest
    exact ⟨here, here⟩
  refine ⟨_, ?_, put⟩
  unfold TextEdit.insertStr
  rw [deleted]
  simp only [bind, Option.bind]
  rw [whole, ← place, insert_append]
  rw [← place] at put
  exact put.debugCheck

lemma Sound.moveCaret (sound : edit.Sound) (dest : Boundary edit.text offset)
    (motion : Motion) : ∃ moved, edit.moveCaret offset motion = some moved ∧ moved.Sound := by
  have moved : Sound { edit with
      cursor := offset, anchor := if motion = .move then offset else edit.anchor } := by
    refine ⟨dest, ?_⟩
    split
    · exact dest
    · exact sound.anchor
  exact ⟨_, moved.debugCheck, moved⟩

lemma prevGrapheme_boundary (here : Boundary edit.text offset) :
    ∃ start, edit.prevGrapheme seg offset = some start ∧ Boundary edit.text start := by
  obtain ⟨front, rest, whole, rfl⟩ := here
  have sliced : slice edit.text 0 (size front) = some front := by
    rw [whole]
    exact slice_append [] front rest
  refine ⟨((indices 0 (seg.graphemes front)).getLast?.map Prod.fst).getD 0, ?_, ?_⟩
  · unfold prevGrapheme
    rw [sliced]
    rfl
  · rcases Option.eq_none_or_eq_some (indices 0 (seg.graphemes front)).getLast? with
      none | ⟨⟨_, _⟩, last⟩
    · rw [none]
      exact boundary_zero _
    · have inside := (boundary_of_mem_indices [] (mem_of_getLast? last)).1
      rw [nil_append, seg.flatten_graphemes] at inside
      rw [last, whole]
      exact inside.append rest

lemma nextGrapheme_boundary (here : Boundary edit.text offset) :
    ∃ stop, edit.nextGrapheme seg offset = some stop ∧ Boundary edit.text stop := by
  obtain ⟨front, rest, whole, rfl⟩ := here
  have sliced : slice edit.text (size front) (size edit.text) = some rest := by
    have all := slice_append front rest []
    rwa [append_nil, ← whole] at all
  refine ⟨((seg.graphemes rest).head?.map fun piece => size front + size piece).getD
    (size edit.text), ?_, ?_⟩
  · unfold nextGrapheme
    rw [sliced]
    rfl
  · cases pieces : seg.graphemes rest with
    | nil => exact boundary_size _
    | cons piece =>
      have partition := seg.flatten_graphemes rest
      rw [pieces, flatten_cons] at partition
      have inside : Boundary rest (size piece) := by
        rw [← partition]
        exact boundary_front piece _
      rw [whole]
      exact inside.add_left front

lemma found_boundary {text : List Char} {pieces : List (List Char)}
    (partition : pieces.flatten = text) {entry : Nat × List Char} (mem : entry ∈ indices 0 pieces) :
    Boundary text entry.1 ∧ Boundary text (entry.1 + size entry.2) := by
  have inside := boundary_of_mem_indices [] mem
  rwa [nil_append, partition] at inside

lemma wordStartBefore_boundary : Boundary edit.text (edit.wordStartBefore seg offset) := by
  unfold wordStartBefore
  generalize searched : find? _ (indices 0 (seg.wordBounds edit.text)).reverse = got
  cases got with
  | none => exact boundary_zero _
  | some =>
    have mem := mem_reverse.mp (mem_of_find?_eq_some searched)
    exact (found_boundary (seg.flatten_wordBounds edit.text) mem).1

lemma wordEndAfter_boundary : Boundary edit.text (edit.wordEndAfter seg offset) := by
  unfold wordEndAfter
  generalize searched : find? _ (indices 0 (seg.wordBounds edit.text)) = got
  cases got with
  | none => exact boundary_size _
  | some =>
    exact (found_boundary (seg.flatten_wordBounds edit.text) (mem_of_find?_eq_some searched)).2

/-- A motion key finds its target, and the target is a boundary. -/
lemma motionTarget_boundary (sound : edit.Sound) (sym : Keysym) (mods : EditMods)
    (emacs : Bool) : ∃ dest, edit.motionTarget seg sym mods emacs = some dest ∧
      ∀ offset ∈ dest, Boundary edit.text offset := by
  have lands {offset : Nat} (has : Boundary edit.text offset) :
      ∀ dest ∈ some offset, Boundary edit.text dest := by
    rintro _ ⟨⟩
    exact has
  have landsIf {offset : Nat} (has : Boundary edit.text offset) (holds : Bool) :
      ∀ dest ∈ (if holds then some offset else none), Boundary edit.text dest := by
    cases holds with
    | true => exact lands has
    | false => exact nofun
  have guarded {motion : Option (Option Nat)} (holds : Bool) (goes : ∃ dest,
      motion = some dest ∧ ∀ offset ∈ dest, Boundary edit.text offset) :
      ∃ dest, (if holds then motion else some none) = some dest ∧
        ∀ offset ∈ dest, Boundary edit.text offset := by
    cases holds with
    | true => exact goes
    | false => exact ⟨_, rfl, nofun⟩
  obtain ⟨_, back, prev⟩ := prevGrapheme_boundary seg sound.cursor
  obtain ⟨_, forth, next⟩ := nextGrapheme_boundary seg sound.cursor
  cases sym
  case left | kpLeft =>
    apply guarded
    split
    · exact ⟨_, rfl, lands (wordStartBefore_boundary seg)⟩
    · exact ⟨_, by rw [back]; rfl, lands prev⟩
  case right | kpRight =>
    apply guarded
    split
    · exact ⟨_, rfl, lands (wordEndAfter_boundary seg)⟩
    · exact ⟨_, by rw [forth]; rfl, lands next⟩
  case lowerB | upperB => exact guarded _ ⟨_, by rw [back]; rfl, lands prev⟩
  case lowerF | upperF => exact guarded _ ⟨_, by rw [forth]; rfl, lands next⟩
  case home | kpHome | begin_ => exact ⟨_, rfl, landsIf (boundary_zero _) _⟩
  case end_ | kpEnd => exact ⟨_, rfl, landsIf (boundary_size _) _⟩
  case lowerA | upperA => exact ⟨_, rfl, landsIf (boundary_zero _) _⟩
  case lowerE | upperE => exact ⟨_, rfl, landsIf (boundary_size _) _⟩
  all_goals exact ⟨_, rfl, nofun⟩

/-- A deletion key comes to its end with the field sound. -/
def Deletes (result : Option (Option (TextEdit × Bool))) : Prop :=
  result = some none ∨ ∃ edit gone, result = some (some (edit, gone)) ∧ edit.Sound

lemma Goes.deletes {res : Option (TextEdit × Bool)} (goes : Goes res) : Deletes (res.map some) := by
  obtain ⟨edit, gone, rfl, sound⟩ := goes
  exact .inr ⟨edit, gone, rfl, sound⟩

lemma Deletes.guarded {res : Option (Option (TextEdit × Bool))} {cond : Bool}
    (deletes : Deletes res) : Deletes (if cond then res else some none) := by
  split
  · exact deletes
  · exact .inl rfl

section

variable (sound : edit.Sound)
include sound

lemma Sound.deleteSelectionOr {delete : TextEdit → Option (TextEdit × Bool)}
    (deletes : ∀ {edit : TextEdit}, edit.Sound → Goes (delete edit)) :
    Goes (edit.deleteSelectionOr delete) := by
  apply sound.deleteSelection.bind
  intro _ gone left
  cases gone with
  | true => exact left.goes true
  | false => exact deletes left

lemma Sound.deletePrevious : Goes (do
    let start ← edit.prevGrapheme seg edit.cursor
    edit.deleteRange start edit.cursor) := by
  obtain ⟨_, got, boundary⟩ := prevGrapheme_boundary seg sound.cursor
  rw [got]
  exact sound.deleteRange boundary sound.cursor

lemma Sound.deleteNext : Goes (do
    let stop ← edit.nextGrapheme seg edit.cursor
    edit.deleteRange edit.cursor stop) := by
  obtain ⟨_, got, boundary⟩ := nextGrapheme_boundary seg sound.cursor
  rw [got]
  exact sound.deleteRange sound.cursor boundary

lemma Sound.deletion (sym : Keysym) (mods : EditMods) (emacs : Bool) :
    Deletes (edit.deletion seg sym mods emacs) := by
  cases sym
  case backSpace =>
    refine .guarded (sound.deleteSelectionOr ?_).deletes
    intro edit left
    split
    · exact left.deleteRange (wordStartBefore_boundary seg) left.cursor
    · exact left.deletePrevious seg
  case delete | kpDelete =>
    refine .guarded (sound.deleteSelectionOr ?_).deletes
    intro _ left
    split
    · exact left.deleteRange left.cursor (wordEndAfter_boundary seg)
    · exact left.deleteNext seg
  case lowerK | upperK =>
    exact .guarded (sound.killRange sound.cursor (boundary_size _) emacs).deletes
  case lowerU | upperU =>
    exact .guarded (sound.killRange (boundary_zero _) sound.cursor emacs).deletes
  case lowerD | upperD =>
    exact .guarded (sound.deleteSelectionOr fun left => left.deleteNext seg).deletes
  case lowerW | upperW =>
    apply Deletes.guarded
    split
    next low high selected =>
      obtain ⟨one, last, _⟩ := selection_eq_some sound selected
      exact (sound.killRange one last true).deletes
    · exact (sound.killRange (wordStartBefore_boundary seg) sound.cursor true).deletes
  all_goals exact .inl rfl

lemma Sound.yank : Goes (if edit.kill.isEmpty then some (edit, some EditOutcome.moved) else do
      let added ← TextEdit.insertStr { edit with kill := [] } edit.kill
      some ({ added with kill := edit.kill }, some EditOutcome.changed)) := by
  split
  · exact sound.goes _
  · have taken : Sound { edit with kill := [] } := ⟨sound.cursor, sound.anchor⟩
    obtain ⟨added, put, post⟩ := taken.insertStr edit.kill
    have yanked : Sound { added with kill := edit.kill } := ⟨post.cursor, post.anchor⟩
    rw [put]
    exact yanked.goes _

lemma Sound.handleEmacsTail (sym : Keysym) (mods : EditMods)
    (emacs : Bool) : Goes (edit.handleEmacsTail sym mods emacs) := by
  unfold TextEdit.handleEmacsTail
  split
  · exact sound.goes none
  · cases sym
    case lowerY | upperY => exact sound.yank
    all_goals exact sound.goes _

end

lemma Sound.selectAll (_ : edit.Sound) : edit.selectAll.Sound := ⟨boundary_size _, boundary_zero _⟩

section

variable (sound : edit.Sound)
include sound

lemma Sound.handleSym (sym : Keysym) (mods : EditMods)
    (theme : KeyTheme) : Goes (edit.handleSym seg sym mods theme) := by
  dsimp only [TextEdit.handleSym]
  split
  · exact sound.goes _
  · split
    · exact sound.goes _
    · obtain ⟨dest, got, boundaries⟩ :=
        motionTarget_boundary seg sound sym mods (theme = .emacs)
      rw [got]
      cases dest with
      | some offset =>
        obtain ⟨_, went, post⟩ := sound.moveCaret (boundaries offset rfl) (.of mods)
        simp only [bind, Option.bind, went]
        exact post.goes _
      | none =>
        split
        · exact sound.selectAll.goes _
        · rcases sound.deletion seg sym mods (theme = .emacs) with
            nothing | ⟨_, _, deleted, post⟩
          · rw [nothing]
            exact sound.handleEmacsTail sym mods _
          · rw [deleted]
            exact post.goes _

lemma Sound.typeChar (char : Option Char) (mods : EditMods) : Goes (edit.typeChar char mods) := by
  unfold TextEdit.typeChar
  cases char with
  | none => exact sound.goes _
  | some char =>
    dsimp only
    split
    · obtain ⟨_, put, typed⟩ := sound.insertStr [char]
      rw [put]
      exact typed.goes _
    · exact sound.goes _

lemma Sound.handleKey (sym : Option Keysym) (char : Option Char)
    (mods : EditMods) (theme : KeyTheme) : Goes (edit.handleKey seg sym char mods theme) := by
  unfold TextEdit.handleKey
  split
  · exact sound.goes _
  · cases sym with
    | none => exact sound.typeChar char mods
    | some sym =>
      apply (sound.handleSym seg sym mods theme).bind
      intro _ outcome post
      cases outcome with
      | some outcome => exact post.goes outcome
      | none => exact post.typeChar char mods

lemma Sound.selectedText : ∃ selected, edit.selectedText = some selected := by
  unfold TextEdit.selectedText
  split
  next _ _ selected =>
    obtain ⟨one, last, ordered⟩ := selection_eq_some sound selected
    obtain ⟨part, sliced⟩ := slice_of_boundaries one last ordered
    exact ⟨some part, by rw [sliced]; rfl⟩
  · exact ⟨none, rfl⟩

end

lemma size_replicate (count : Nat) (mask : Char) :
    size (replicate count mask) = count * mask.utf8Size := by
  induction count with
  | zero => simp
  | succ _ ih => rw [replicate_succ, size_cons, ih, Nat.succ_mul, Nat.add_comm]

def masked (mask : Char) (text : List Char) : List Char := List.replicate text.length mask

lemma masked_append (mask : Char) (front rest : List Char) :
    masked mask (front ++ rest) = masked mask front ++ masked mask rest := by
  unfold masked
  rw [length_append, replicate_append_replicate]

variable {front rest : List Char}

lemma maskedOffset_front (whole : edit.text = front ++ rest) (mask : Char) :
    edit.maskedOffset (size front) mask = some (size (masked mask front)) := by
  unfold maskedOffset masked
  rw [whole, size_append, Nat.min_eq_left (Nat.le_add_right _ _), size_replicate,
    show slice (front ++ rest) 0 (size front) = some front from slice_append [] front rest]
  rfl

lemma Sound.maskedPositions (sound : edit.Sound) (mask : Char) (focused : Bool) :
    ∃ positions, edit.maskedPositions mask focused = some positions := by
  unfold TextEdit.maskedPositions
  split
  · exact ⟨_, rfl⟩
  · obtain ⟨_, _, whole, caret⟩ := sound.cursor
    simp only [← caret, maskedOffset_front whole, bind, Option.bind]
    split
    · exact ⟨_, rfl⟩
    next _ _ selected =>
    obtain ⟨⟨_, _, one, starts⟩, ⟨_, _, last, stops⟩, _⟩ := selection_eq_some sound selected
    rw [← starts, ← stops, maskedOffset_front one, maskedOffset_front last]
    exact ⟨_, rfl⟩

lemma splice_front (front rest : List Char) (preedit : Option (List Char)) :
    splice (front ++ rest) (size front) preedit = some (front ++ preedit.getD [] ++ rest) := by
  unfold splice
  cases preedit with
  | none => simp
  | some _ =>
    have pre := slice_append [] front rest
    have post := slice_append front rest []
    rw [append_nil] at post
    rw [Nat.min_eq_left (boundary_front front rest).le]
    simp only [show slice (front ++ rest) 0 (size front) = some front from pre, post, bind,
      Option.bind, Option.getD]

lemma display_masked (whole : edit.text = front ++ rest) (caret : size front = edit.cursor)
    (mask : Char) : edit.display (some mask) =
      some (masked mask front ++ edit.preedit.getD [] ++ masked mask rest) := by
  unfold TextEdit.display
  rw [← caret, ← splice_front, ← masked_append, ← whole]
  simp only [maskedOffset_front whole, bind, Option.bind, masked]

lemma Sound.display (sound : edit.Sound) (mask : Option Char) :
    ∃ shown, edit.display mask = some shown := by
  obtain ⟨front, rest, whole, caret⟩ := sound.cursor
  cases mask with
  | none =>
    unfold TextEdit.display
    rw [whole, ← caret]
    exact ⟨_, splice_front front rest edit.preedit⟩
  | some mask => exact ⟨_, display_masked whole caret mask⟩

lemma Sound.step (sound : edit.Sound) (op : Op) :
    ∃ post, edit.step seg op = some post ∧ post.Sound := by
  cases op with
  | handleKey sym char mods theme =>
    obtain ⟨post, _, handled, kept⟩ := sound.handleKey seg sym char mods theme
    exact ⟨post, congrArg (Option.map Prod.fst) handled, kept⟩
  | insertStr string => exact sound.insertStr string
  | setText text => exact ⟨_, rfl, boundary_size text, boundary_size text⟩
  | setPreedit =>
    refine ⟨_, rfl, ?_⟩
    unfold TextEdit.setPreedit
    split
    · exact sound
    · exact ⟨sound.cursor, sound.anchor⟩
  | clear | secureClear => exact ⟨_, rfl, boundary_zero [], boundary_zero []⟩
  | selectAll => exact ⟨_, rfl, sound.selectAll⟩
  | selectedText =>
    obtain ⟨_, read⟩ := sound.selectedText
    exact ⟨edit, congrArg (Option.map fun _ => edit) read, sound⟩
  | maskedPositions mask focused =>
    obtain ⟨_, read⟩ := sound.maskedPositions mask focused
    exact ⟨edit, congrArg (Option.map fun _ => edit) read, sound⟩
  | display mask =>
    obtain ⟨_, read⟩ := sound.display mask
    exact ⟨edit, congrArg (Option.map fun _ => edit) read, sound⟩

lemma Sound.foldlM (sound : edit.Sound) (ops : List Op) :
    ∃ post, ops.foldlM (TextEdit.step seg) edit = some post ∧ post.Sound := by
  induction ops generalizing edit with
  | nil => exact ⟨edit, rfl, sound⟩
  | cons op _ ih =>
    obtain ⟨_, stepped, kept⟩ := sound.step seg op
    obtain ⟨post, ran, end_⟩ := ih kept
    refine ⟨post, ?_, end_⟩
    rw [foldlM_cons, stepped]
    exact ran

/-- From any text, any operations in any order run to their end without a panic, and leave
the caret and the other end of the selection on character boundaries within the text. -/
theorem operations_never_panic (seg : Segmentation) (text : List Char) (ops : List Op) :
    ∃ edit, ops.foldlM (TextEdit.step seg) (withText text) = some edit ∧
      Boundary edit.text edit.cursor ∧ edit.cursor ≤ size edit.text ∧
      Boundary edit.text edit.anchor ∧ edit.anchor ≤ size edit.text := by
  have start : (withText text).Sound := ⟨boundary_size text, boundary_size text⟩
  obtain ⟨edit, ran, sound⟩ := start.foldlM seg ops
  exact ⟨edit, ran, sound.cursor, sound.cursor.le, sound.anchor, sound.anchor.le⟩

/-- A combining mark belongs to the character before it, and a run of letters is a word. -/
def plainSegmentation : Segmentation where
  graphemes text := text.splitBy fun _ next => next == '\u0301'
  wordBounds text := text.splitBy fun last next => (last == ' ') == (next == ' ')
  isAlphanumeric char := char != ' '
  flatten_graphemes := flatten_splitBy _
  flatten_wordBounds := flatten_splitBy _

/-- A letter with its accent and a word of two-byte letters are taken off, and another letter
is typed and selected. -/
def accented : List Op :=
  [.handleKey (some .backSpace) none ⟨false, false, false, false⟩ .default,
    .handleKey (some .backSpace) none ⟨true, false, false, false⟩ .default,
    .insertStr ['ß'], .handleKey (some .left) none ⟨false, true, false, false⟩ .default]

theorem operations_never_panic_accented : ∃ edit, accented.foldlM (TextEdit.step plainSegmentation)
        (withText ['a', ' ', 'é', 'é', ' ', 'e', '\u0301']) = some edit ∧
      (edit.text, edit.cursor, edit.anchor) = (['a', ' ', 'ß'], 2, 4) ∧
      Boundary edit.text edit.cursor ∧ Boundary edit.text edit.anchor := by
  obtain ⟨edit, ran, cursor, -, anchor, -⟩ := operations_never_panic plainSegmentation
    ['a', ' ', 'é', 'é', ' ', 'e', '\u0301'] accented
  refine ⟨edit, ran, ?_, cursor, anchor⟩
  have known : (accented.foldlM (TextEdit.step plainSegmentation)
      (withText ['a', ' ', 'é', 'é', ' ', 'e', '\u0301'])).map
        (fun edit => (edit.text, edit.cursor, edit.anchor)) = some (['a', ' ', 'ß'], 2, 4) := by
    decide +kernel
  rw [ran] at known
  exact Option.some.inj known

end Synoik.Ui.TextEdit
