import Synoik.Support.Offsets

/-!
# A text field

The single-line editable text behind every entry of the shell: the text, the caret, the other
end of the selection, the kill buffer and the composition in progress. Offsets are in bytes,
and a slice at an offset that is no character boundary panics, which is `none` here.
-/

namespace Synoik.Ui

open Offsets (size cut slice erase insert indices)

/-- How a text falls into graphemes and into words, and which characters make a piece a
word. The pieces put together are the text. -/
structure Segmentation where
  graphemes : List Char → List (List Char)
  wordBounds : List Char → List (List Char)
  isAlphanumeric : Char → Bool
  flatten_graphemes : ∀ text, (graphemes text).flatten = text
  flatten_wordBounds : ∀ text, (wordBounds text).flatten = text

structure EditMods where
  ctrl : Bool
  shift : Bool
  alt : Bool
  logo : Bool

/-- No modifier that changes the meaning of a binding. -/
def EditMods.isPlain (mods : EditMods) : Bool := !mods.ctrl && !mods.alt && !mods.logo

inductive KeyTheme where
  | default
  | emacs
deriving DecidableEq

inductive EditOutcome where
  | changed
  | moved
  | activate
  | cancel
  | ignored

inductive Motion where
  | move
  | extend
deriving DecidableEq

def Motion.of (mods : EditMods) : Motion := if mods.shift then .extend else .move

/-- The keys a text field knows, and all others. -/
inductive Keysym where
  | return_ | kpEnter | isoEnter | escape
  | left | kpLeft | right | kpRight
  | home | kpHome | begin_ | end_ | kpEnd
  | backSpace | delete | kpDelete
  | lowerA | upperA | lowerB | upperB | lowerD | upperD | lowerE | upperE | lowerF | upperF
  | lowerK | upperK | lowerN | upperN | lowerP | upperP | lowerU | upperU | lowerW | upperW
  | lowerY | upperY
  | other (code : Nat)
deriving DecidableEq

structure TextEdit where
  text : List Char := []
  /-- Caret position, a byte offset into `text`. -/
  cursor : Nat := 0
  /-- The other end of the selection. -/
  anchor : Nat := 0
  kill : List Char := []
  preedit : Option (List Char) := none

namespace TextEdit

variable (seg : Segmentation) (edit : TextEdit)

def setText (text : List Char) : TextEdit :=
  { edit with text, cursor := size text, anchor := size text }

def withText (text : List Char) : TextEdit := ({} : TextEdit).setText text

def clear : TextEdit := { edit with text := [], cursor := 0, anchor := 0 }

def secureClear (_ : TextEdit) : TextEdit :=
  { text := [], cursor := 0, anchor := 0, kill := [], preedit := none }

/-- The selection bounds, low first. -/
def ordered : Nat × Nat :=
  if edit.cursor ≤ edit.anchor then (edit.cursor, edit.anchor) else (edit.anchor, edit.cursor)

def selection : Option (Nat × Nat) :=
  if edit.ordered.1 ≠ edit.ordered.2 then some edit.ordered else none

def selectedText : Option (Option (List Char)) :=
  match edit.selection with
  | some (low, high) => (slice edit.text low high).map some
  | none => some none

def selectAll : TextEdit :=
  { edit with anchor := 0, cursor := size edit.text }

def setPreedit (preedit : Option (List Char)) : TextEdit × Bool :=
  if edit.preedit = preedit then (edit, false) else ({ edit with preedit }, true)

variable (offset : Nat)

/-- An offset mapped onto the text with every character masked. -/
def maskedOffset (mask : Char) : Option Nat :=
  (slice edit.text 0 (min offset (size edit.text))).map fun front =>
    front.length * mask.utf8Size

def maskedPositions (mask : Char) (focused : Bool) : Option (Option Nat × Option (Nat × Nat)) :=
  if !focused then some (none, none)
  else do
    let preedit := (edit.preedit.map size).getD 0
    let caret ← edit.maskedOffset edit.cursor mask
    match edit.selection with
    | none => some (some (caret + preedit), none)
    | some (low, high) =>
      let start ← edit.maskedOffset low mask
      let stop ← edit.maskedOffset high mask
      some (some (caret + preedit), some (start, stop))

/-- What is drawn with the composition put in at the caret. -/
def splice (base : List Char) (caret : Nat) (preedit : Option (List Char)) : Option (List Char) :=
  match preedit with
  | none => some base
  | some preedit => do
      let caret := min caret (size base)
      let front ← slice base 0 caret
      let rest ← slice base caret (size base)
      some (front ++ preedit ++ rest)

/-- The text, masked or as it is, with the composition at the caret. -/
def display (mask : Option Char) : Option (List Char) :=
  match mask with
  | some mask => do
      let caret ← edit.maskedOffset edit.cursor mask
      splice (List.replicate edit.text.length mask) caret edit.preedit
  | none => splice edit.text edit.cursor edit.preedit

/-- The assertions every mutator ends with. -/
def debugCheck : Option TextEdit :=
  if (cut edit.text edit.cursor).isSome ∧ (cut edit.text edit.anchor).isSome then some edit
  else none

/-- Delete a range, moving the caret to its start, and whether anything went. -/
def deleteRange (low high : Nat) : Option (TextEdit × Bool) :=
  if high ≤ low then some (edit, false)
  else do
    let text ← erase edit.text low high
    let edit ← debugCheck { edit with text, cursor := low, anchor := low }
    some (edit, true)

def deleteSelection : Option (TextEdit × Bool) :=
  match edit.selection with
  | some (low, high) => edit.deleteRange low high
  | none => some (edit, false)

/-- The selection goes, or what a key deletes without one. -/
def deleteSelectionOr (delete : TextEdit → Option (TextEdit × Bool)) :
    Option (TextEdit × Bool) := do
  let (edit, gone) ← edit.deleteSelection
  if gone then some (edit, true) else delete edit

/-- Delete a range, and keep it for the yank when `remember`. -/
def killRange (low high : Nat) (remember : Bool) : Option (TextEdit × Bool) :=
  if high ≤ low then some (edit, false)
  else do
    let kill ← if remember then slice edit.text low high else some edit.kill
    deleteRange { edit with kill } low high

def insertStr (string : List Char) : Option TextEdit := do
  let (edit, _) ← edit.deleteSelection
  let text ← insert edit.text edit.cursor string
  debugCheck { edit with
    text, cursor := edit.cursor + size string, anchor := edit.cursor + size string }

def moveCaret (target : Nat) (motion : Motion) : Option TextEdit :=
  debugCheck { edit with
    cursor := target, anchor := if motion = .move then target else edit.anchor }

def prevGrapheme : Option Nat := do
  let front ← slice edit.text 0 offset
  some (((indices 0 (seg.graphemes front)).getLast?.map Prod.fst).getD 0)

def nextGrapheme : Option Nat := do
  let rest ← slice edit.text offset (size edit.text)
  some (((seg.graphemes rest).head?.map fun piece => offset + size piece).getD
    (size edit.text))

/-- Whether a piece is a word rather than space or punctuation. -/
def isWord (chunk : List Char) : Bool := chunk.any seg.isAlphanumeric

def wordStartBefore : Nat :=
  (((indices 0 (seg.wordBounds edit.text)).reverse.find? fun (start, word) =>
    start < offset && isWord seg word).map Prod.fst).getD 0

def wordEndAfter : Nat :=
  (((indices 0 (seg.wordBounds edit.text)).find? fun (start, word) =>
    offset < start + size word && isWord seg word).map
      fun (start, word) => start + size word).getD (size edit.text)

variable (sym : Keysym)

def motionTarget (mods : EditMods) (emacs : Bool) : Option (Option Nat) :=
  match sym with
  | .left | .kpLeft =>
    if !mods.alt then
      if mods.ctrl then some (some (edit.wordStartBefore seg edit.cursor))
      else (edit.prevGrapheme seg edit.cursor).map some
    else some none
  | .right | .kpRight =>
    if !mods.alt then
      if mods.ctrl then some (some (edit.wordEndAfter seg edit.cursor))
      else (edit.nextGrapheme seg edit.cursor).map some
    else some none
  | .home | .kpHome | .begin_ => some (if !mods.alt then some 0 else none)
  | .end_ | .kpEnd => some (if !mods.alt then some (size edit.text) else none)
  | .lowerB | .upperB =>
    if emacs && mods.ctrl then (edit.prevGrapheme seg edit.cursor).map some else some none
  | .lowerF | .upperF =>
    if emacs && mods.ctrl then (edit.nextGrapheme seg edit.cursor).map some else some none
  | .lowerA | .upperA => some (if emacs && mods.ctrl then some 0 else none)
  | .lowerE | .upperE => some (if emacs && mods.ctrl then some (size edit.text) else none)
  | _ => some none

/-- The Emacs bindings that are neither motion nor deletion. -/
def handleEmacsTail (mods : EditMods) (emacs : Bool) : Option (TextEdit × Option EditOutcome) :=
  if !emacs || !mods.ctrl then some (edit, none)
  else
    match sym with
    | .lowerY | .upperY =>
      if edit.kill.isEmpty then some (edit, some .moved)
      else do
        let inserted ← insertStr { edit with kill := [] } edit.kill
        some ({ inserted with kill := edit.kill }, some .changed)
    | .lowerN | .upperN | .lowerP | .upperP => some (edit, some .moved)
    | _ => some (edit, none)

/-- What a deletion key does, and whether anything went; `none` inside for a key that deletes
nothing. -/
def deletion (mods : EditMods) (emacs : Bool) : Option (Option (TextEdit × Bool)) :=
  match sym with
  | .backSpace =>
    if !mods.alt then
      (edit.deleteSelectionOr fun edit =>
        if mods.ctrl then
          edit.deleteRange (edit.wordStartBefore seg edit.cursor) edit.cursor
        else do
          let start ← edit.prevGrapheme seg edit.cursor
          edit.deleteRange start edit.cursor).map some
    else some none
  | .delete | .kpDelete =>
    if !mods.alt then
      (edit.deleteSelectionOr fun edit =>
        if mods.ctrl then
          edit.deleteRange edit.cursor (edit.wordEndAfter seg edit.cursor)
        else do
          let stop ← edit.nextGrapheme seg edit.cursor
          edit.deleteRange edit.cursor stop).map some
    else some none
  | .lowerK | .upperK =>
    if mods.ctrl then (edit.killRange edit.cursor (size edit.text) emacs).map some
    else some none
  | .lowerU | .upperU =>
    if mods.ctrl then (edit.killRange 0 edit.cursor emacs).map some else some none
  | .lowerD | .upperD =>
    if emacs && mods.ctrl then
      (edit.deleteSelectionOr fun edit => do
        let stop ← edit.nextGrapheme seg edit.cursor
        edit.deleteRange edit.cursor stop).map some
    else some none
  | .lowerW | .upperW =>
    if emacs && mods.ctrl then
      (match edit.selection with
        | some (low, high) => edit.killRange low high true
        | none =>
          edit.killRange (edit.wordStartBefore seg edit.cursor) edit.cursor true).map some
    else some none
  | _ => some none

/-- The keysym half of `handleKey`; no outcome means the key is not ours. -/
def handleSym (mods : EditMods) (theme : KeyTheme) : Option (TextEdit × Option EditOutcome) :=
  let emacs := theme = .emacs
  if (sym = .return_ ∨ sym = .kpEnter ∨ sym = .isoEnter) ∧ mods.isPlain then
    some (edit, some .activate)
  else if sym = .escape ∧ mods.isPlain then some (edit, some .cancel)
  else do
    match ← edit.motionTarget seg sym mods emacs with
    | some target =>
      let edit ← edit.moveCaret target (.of mods)
      some (edit, some .moved)
    | none =>
      if (sym = .lowerA ∨ sym = .upperA) ∧ mods.ctrl ∧ !mods.shift ∧ !emacs then
        some (edit.selectAll, some .moved)
      else
        match ← edit.deletion seg sym mods emacs with
        | some (edit, gone) => some (edit, some (if gone then .changed else .moved))
        | none => edit.handleEmacsTail sym mods emacs

/-- The control characters of Unicode. -/
def isControl (char : Char) : Bool := char.toNat < 0x20 || (0x7f ≤ char.toNat && char.toNat < 0xa0)

def typeChar (char : Option Char) (mods : EditMods) : Option (TextEdit × EditOutcome) :=
  match char with
  | some char =>
    if mods.isPlain ∧ !isControl char then do
      let edit ← edit.insertStr [char]
      some (edit, .changed)
    else some (edit, .ignored)
  | none => some (edit, .ignored)

/-- One key press: the keysym, and the character the key would type. -/
def handleKey (sym : Option Keysym) (char : Option Char) (mods : EditMods)
    (theme : KeyTheme) : Option (TextEdit × EditOutcome) :=
  if mods.logo then some (edit, .ignored)
  else
    match sym with
    | none => edit.typeChar char mods
    | some sym =>
      (edit.handleSym seg sym mods theme).bind fun (edit, outcome) =>
      match outcome with
      | some outcome => some (edit, outcome)
      | none => edit.typeChar char mods

inductive Op where
  | handleKey (sym : Option Keysym) (char : Option Char) (mods : EditMods) (theme : KeyTheme)
  | insertStr (string : List Char)
  | setText (text : List Char)
  | setPreedit (preedit : Option (List Char))
  | clear
  | secureClear
  | selectAll
  | selectedText
  | maskedPositions (mask : Char) (focused : Bool)
  | display (mask : Option Char)

/-- One operation; those that only read leave the field as it is. -/
def step : Op → Option TextEdit
  | .handleKey sym char mods theme => (edit.handleKey seg sym char mods theme).map Prod.fst
  | .insertStr string => edit.insertStr string
  | .setText text => some (edit.setText text)
  | .setPreedit preedit => some (edit.setPreedit preedit).1
  | .clear => some edit.clear
  | .secureClear => some edit.secureClear
  | .selectAll => some edit.selectAll
  | .selectedText => edit.selectedText.map fun _ => edit
  | .maskedPositions mask focused => (edit.maskedPositions mask focused).map fun _ => edit
  | .display mask => (edit.display mask).map fun _ => edit

end TextEdit

end Synoik.Ui
