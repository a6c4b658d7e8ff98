import Synoik.Support.Offsets
import Mathlib.Data.List.Chain

/-!
# The menu of an indicator

A client's tree of menu nodes, and the entries shown for it.
-/

namespace Synoik.DbusMenu

open Offsets

abbrev Label := List Char

def maxLabelBytes : Nat := 512

/-- `_x` marks `x`, and two underscores are one. -/
def stripMnemonics : Label → Label
  | '_' :: '_' :: label => '_' :: stripMnemonics label
  | ['_'] => ['_']
  | '_' :: label => stripMnemonics label
  | char :: label => char :: stripMnemonics label
  | [] => []

def flattenText (text : Label) : Label :=
  text.map fun char => if char = '\n' ∨ char = '\r' then ' ' else char

/-- The text up to the last boundary at or before an offset. -/
def truncate (text : Label) : Nat → Label
  | 0 => []
  | stop + 1 => match cut text (stop + 1) with
    | some (front, _) => front
    | none => truncate text stop

def clampText (text : Label) (maxBytes : Nat) : Label :=
  if maxBytes < size text then truncate text maxBytes else text

def cleanLabel (label : Label) : Label :=
  clampText (flattenText (stripMnemonics label)) maxLabelBytes

inductive NodeKind where
  | standard | separator
  deriving DecidableEq

inductive Ornament where
  | none | check (on : Bool) | radio (on : Bool)

/-- What a node says of itself. -/
structure Props where
  id : BitVec 32
  label : Label
  enabled : Bool
  visible : Bool
  kind : NodeKind
  ornament : Ornament
  iconName : Option Label

inductive MenuNode where
  | mk (props : Props) (children : List MenuNode)

/-- What a row shows beside its children. -/
structure Row where
  id : BitVec 64
  label : Label
  enabled : Bool
  ornament : Ornament
  icon : Option Label

inductive MenuEntry where
  | separator
  | item (row : Row) (children : List MenuEntry)

def Props.row (props : Props) : Row :=
  ⟨props.id.signExtend 64, cleanLabel props.label, props.enabled, props.ornament, props.iconName⟩

def MenuNode.props : MenuNode → Props
  | .mk props _ => props

def MenuEntry.isItem : MenuEntry → Bool
  | .separator => false
  | .item .. => true

@[simp] lemma isItem_separator : MenuEntry.separator.isItem = false := rfl

@[simp] lemma isItem_entry (row : Row) (below : List MenuEntry) :
    (MenuEntry.item row below).isItem = true := rfl

/-- The entries end in an item, so a separator divides it from the next. -/
def endsInItem (out : List MenuEntry) : Bool := out.getLast?.any MenuEntry.isItem

/-- A separator after another one, or in front, is left out. -/
def pushSeparator (out : List MenuEntry) : List MenuEntry :=
  if endsInItem out then out ++ [.separator] else out

def popSeparator (out : List MenuEntry) : List MenuEntry :=
  if endsInItem out then out else out.dropLast

mutual

def MenuNode.entry : MenuNode → MenuEntry
  | .mk props children => .item props.row (entriesAfter [] children)

def entriesAfter (out : List MenuEntry) : List MenuNode → List MenuEntry
  | [] => popSeparator out
  | node :: nodes =>
    if node.props.visible = false then entriesAfter out nodes
    else if node.props.kind = .separator then entriesAfter (pushSeparator out) nodes
    else entriesAfter (out ++ [node.entry]) nodes

end

def toEntries (nodes : List MenuNode) : List MenuEntry := entriesAfter [] nodes

/-- A separator stands between two items, wherever it stands. -/
structure Neat (entries : List MenuEntry) : Prop where
  first : entries.head? ≠ some .separator
  last : entries.getLast? ≠ some .separator
  apart : entries.IsChain fun entry next => entry.isItem ∨ next.isItem

def MenuNode.shown (node : MenuNode) : Bool := node.props.visible && node.props.kind ≠ .separator

mutual

/-- The entries of the nodes: neat, and an item for each visible node but a separator. -/
inductive Shows : List MenuNode → List MenuEntry → Prop where
  | level {nodes entries} : Neat entries →
    Rows (nodes.filter MenuNode.shown) (entries.filter MenuEntry.isItem) → Shows nodes entries

/-- The items of the nodes, in order, with the entries of their children. -/
inductive Rows : List MenuNode → List MenuEntry → Prop where
  | nil : Rows [] []
  | cons {props children below nodes items} : Shows children below → Rows nodes items →
    Rows (.mk props children :: nodes) (.item props.row below :: items)

end

variable {out : List MenuEntry}

lemma endsInItem_iff : endsInItem out = true ↔ ∃ pre row below, out = pre ++ [.item row below] := by
  obtain rfl | ⟨pre, last, rfl⟩ := out.eq_nil_or_concat'
  · simp [endsInItem]
  · cases last <;> simp [endsInItem]

lemma not_endsInItem (open' : ¬ endsInItem out = true) :
    out = [] ∨ ∃ pre, out = pre ++ [.separator] := by
  obtain rfl | ⟨pre, last, rfl⟩ := out.eq_nil_or_concat'
  · exact .inl rfl
  · cases last with
    | separator => exact .inr ⟨pre, rfl⟩
    | item => simp [endsInItem] at open'

lemma popSeparator_neat (first : out.head? ≠ some .separator)
    (apart : out.IsChain fun entry next => entry.isItem ∨ next.isItem) : Neat (popSeparator out) := by
  unfold popSeparator
  split
  next ends =>
    obtain ⟨pre, row, below, rfl⟩ := endsInItem_iff.mp ends
    exact ⟨first, by simp, apart⟩
  next ends =>
    obtain rfl | ⟨pre, rfl⟩ := not_endsInItem ends
    · exact ⟨first, by simp, apart⟩
    rw [List.dropLast_concat]
    have ⟨inFront, _, seam⟩ := List.isChain_append.mp apart
    constructor
    · cases pre with
      | nil => simp
      | cons => simpa using first
    · intro last
      simpa using seam _ last _ rfl
    · exact inFront

lemma entriesAfter_neat (nodes : List MenuNode) {out : List MenuEntry}
    (first : out.head? ≠ some .separator)
    (apart : out.IsChain fun entry next => entry.isItem ∨ next.isItem) :
    Neat (entriesAfter out nodes) := by
  induction nodes generalizing out with
  | nil => exact popSeparator_neat first apart
  | cons node nodes ih =>
    rw [entriesAfter]
    split
    · exact ih first apart
    split
    · unfold pushSeparator
      split
      next ends =>
        obtain ⟨pre, row, below, rfl⟩ := endsInItem_iff.mp ends
        apply ih
        · cases pre <;> simp_all
        · simp_all [List.isChain_append]
      next => exact ih first apart
    · obtain ⟨props, children⟩ := node
      apply ih
      · cases out <;> simp_all [MenuNode.entry]
      · simp [List.isChain_append, apart, MenuNode.entry]

lemma popSeparator_items :
    (popSeparator out).filter MenuEntry.isItem = out.filter MenuEntry.isItem := by
  unfold popSeparator
  split
  next => rfl
  next ends =>
    obtain rfl | ⟨pre, rfl⟩ := not_endsInItem ends <;> simp

lemma pushSeparator_items :
    (pushSeparator out).filter MenuEntry.isItem = out.filter MenuEntry.isItem := by
  unfold pushSeparator
  split <;> simp

lemma entriesAfter_items (nodes : List MenuNode) (out : List MenuEntry) :
    (entriesAfter out nodes).filter MenuEntry.isItem
      = out.filter MenuEntry.isItem ++ (nodes.filter MenuNode.shown).map MenuNode.entry := by
  induction nodes generalizing out with
  | nil => simp [entriesAfter, popSeparator_items]
  | cons node nodes ih =>
    obtain ⟨props, children⟩ := node
    rw [entriesAfter]
    split
    · simp_all [MenuNode.shown]
    split
    · simp_all [MenuNode.shown, pushSeparator_items]
    · rw [ih, List.filter_append, List.append_assoc]
      simp_all [MenuNode.shown, MenuNode.entry]
      rfl

lemma Rows.filter {nodes : List MenuNode} (rows : Rows nodes (nodes.map MenuNode.entry)) :
    Rows (nodes.filter MenuNode.shown) ((nodes.filter MenuNode.shown).map MenuNode.entry) := by
  induction nodes with
  | nil => exact .nil
  | cons node nodes ih =>
    obtain ⟨props, children⟩ := node
    cases rows with
    | cons below rest =>
      rw [List.filter_cons]
      split
      · exact .cons below (ih rest)
      · exact ih rest

lemma Rows.shows {nodes : List MenuNode} (rows : Rows nodes (nodes.map MenuNode.entry)) :
    Shows nodes (toEntries nodes) := by
  apply Shows.level (entriesAfter_neat nodes (by simp) .nil)
  rw [entriesAfter_items]
  exact rows.filter

/-- Every underscore doubled. -/
def escape (label : Label) : Label :=
  label.flatMap fun char => if char = '_' then ['_', '_'] else [char]

end Synoik.DbusMenu
