import Mathlib.Data.List.Basic
import Synoik.Login.Ipc

/-!
# Frames as bytes

A frame is a tag byte, a little-endian `u32` length and that many bytes. Reading what was
written gives the same frames back and then a clean end. A stream that ends inside the
payload of a frame is an error, but one that ends inside its header reads as a clean end.
-/

namespace Synoik

open List

def toLeBytes (number : Nat) : List UInt8 :=
  [.ofNat number, .ofNat (number / 256), .ofNat (number / 65536), .ofNat (number / 16777216)]

def fromLeBytes : List UInt8 → Nat
  | [] => 0
  | byte :: bytes => byte.toNat + 256 * fromLeBytes bytes

lemma fromLeBytes_toLeBytes {num : Nat} (small : num < 4294967296) :
    fromLeBytes (toLeBytes num) = num := by
  simp only [toLeBytes, fromLeBytes, UInt8.toNat_ofNat']
  omega

namespace Frame

def tag : Frame → UInt8
  | .infoQuery _ => 1
  | .secretInfoQuery _ => 2
  | .info _ => 3
  | .problem _ => 4
  | .complete => 5
  | .failed _ => 6
  | .unavailable _ => 7
  | .opened _ => 8
  | .answer _ => 9
  | .open_ => 10
  | .start => 11

def payload : Frame → List UInt8
  | .infoQuery text | .secretInfoQuery text | .info text | .problem text | .failed text
  | .unavailable text | .opened text => text.toByteArray.data.toList
  | .complete | .open_ | .start => []
  | .answer secret => secret

/-- The bytes `write_to` puts on the wire. The length is a `u32`. -/
def writeTo (frame : Frame) : List UInt8 :=
  frame.tag :: toLeBytes (frame.payload.length % 4294967296) ++ frame.payload

/-- What a read fails with: the end of the input inside a buffer to be filled, or data that
is no frame. -/
inductive ReadError where
  | unexpectedEof
  | invalidData (message : String)

def maxLen : Nat := 64 * 1024

/-- Fills a buffer of `count` bytes; an input that ends before is used up. -/
def readExact (count : Nat) (input : List UInt8) : Except ReadError (List UInt8) × List UInt8 :=
  if count ≤ input.length then (.ok (input.take count), input.drop count)
  else (.error .unexpectedEof, [])

def text (payload : List UInt8) : Except ReadError String :=
  match String.fromUTF8? ⟨payload.toArray⟩ with
  | some text => .ok text
  | none => .error (.invalidData "frame is not UTF-8")

def decode (tag : UInt8) (payload : List UInt8) : Except ReadError Frame :=
  if tag = 1 then (text payload).map .infoQuery
  else if tag = 2 then (text payload).map .secretInfoQuery
  else if tag = 3 then (text payload).map .info
  else if tag = 4 then (text payload).map .problem
  else if tag = 5 then .ok .complete
  else if tag = 6 then (text payload).map .failed
  else if tag = 7 then (text payload).map .unavailable
  else if tag = 8 then (text payload).map .opened
  else if tag = 9 then .ok (.answer payload)
  else if tag = 10 then .ok .open_
  else if tag = 11 then .ok .start
  else .error (.invalidData s!"unknown frame {tag}")

/-- The next frame or `none`, and the input that is left. -/
def readFrom (input : List UInt8) : Except ReadError (Option Frame) × List UInt8 :=
  match readExact 5 input with
  -- whatever of the header was there
  | (.error .unexpectedEof, rest) => (.ok none, rest)
  | (.error error, rest) => (.error error, rest)
  | (.ok header, rest) =>
    let len := fromLeBytes header.tail
    if maxLen < len then (.error (.invalidData "frame too long"), rest)
    else
      match readExact len rest with
      | (.error error, rest) => (.error error, rest)
      | (.ok payload, rest) => ((decode (header.headD 0) payload).map some, rest)

/-- Reading one frame after the other gives these and then a clean end. -/
def Yields (input : List UInt8) : List Frame → Prop
  | [] => readFrom input = (.ok none, [])
  | frame :: frames => ∃ rest, readFrom input = (.ok (some frame), rest) ∧ Yields rest frames

variable {frame : Frame} {input rest header : List UInt8} {count : Nat}

lemma readExact_append (sized : header.length = count) :
    readExact count (header ++ rest) = (.ok header, rest) := by
  subst sized
  simp [readExact]

lemma readExact_short (short : input.length < count) :
    readExact count input = (.error .unexpectedEof, []) := by
  simp [readExact, short]

lemma text_toByteArray (string : String) : text string.toByteArray.data.toList = .ok string := by
  have valid : String.fromUTF8? ⟨string.toByteArray.data.toList.toArray⟩ = some string := by
    unfold String.fromUTF8?
    rw [dif_pos string.isValidUTF8]
    rfl
  unfold text
  rw [valid]

lemma decode_payload (frame : Frame) : decode frame.tag frame.payload = .ok frame := by
  cases frame <;> simp [decode, tag, payload, text_toByteArray, Except.map]

lemma readFrom_header (small : frame.payload.length ≤ maxLen) (rest : List UInt8) :
    readFrom (frame.tag :: toLeBytes (frame.payload.length % 4294967296) ++ rest) =
      match readExact frame.payload.length rest with
      | (.error error, rest) => (.error error, rest)
      | (.ok payload, rest) => ((decode frame.tag payload).map some, rest) := by
  have fits := Nat.lt_of_le_of_lt small (show maxLen < 4294967296 by decide)
  have length : fromLeBytes (toLeBytes (frame.payload.length % 4294967296)) =
      frame.payload.length := by
    rw [Nat.mod_eq_of_lt fits]
    exact fromLeBytes_toLeBytes fits
  have header : (frame.tag :: toLeBytes (frame.payload.length % 4294967296)).length = 5 := rfl
  unfold readFrom
  rw [readExact_append header]
  simp only [tail_cons, headD_cons, length, if_neg (Nat.not_lt.mpr small)]

lemma readFrom_writeTo (small : frame.payload.length ≤ maxLen) (rest : List UInt8) :
    readFrom (frame.writeTo ++ rest) = (.ok (some frame), rest) := by
  unfold writeTo
  rw [append_assoc, readFrom_header small, readExact_append rfl]
  dsimp only
  rw [decode_payload]
  rfl

lemma yields_writeTo {frames : List Frame}
    (small : ∀ frame ∈ frames, frame.payload.length ≤ maxLen) :
    Yields (frames.flatMap writeTo) frames := by
  induction frames with
  | nil => rfl
  | cons _ _ ih =>
    obtain ⟨one, rest⟩ := forall_mem_cons.mp small
    exact ⟨_, readFrom_writeTo one _, ih rest⟩

lemma readFrom_short (short : input.length < 5) : readFrom input = (.ok none, []) := by
  unfold readFrom
  rw [readExact_short short]

lemma readFrom_ne_none (long : 5 ≤ input.length) : (readFrom input).1 ≠ .ok none := by
  have read : readExact 5 input = (.ok (input.take 5), input.drop 5) := if_pos long
  unfold readFrom
  rw [read]
  dsimp only
  split
  · intro ended
    cases ended
  · split
    · intro ended
      cases ended
    next payload _ _ =>
    cases decode ((input.take 5).headD 0) payload with
    | error | ok =>
      intro ended
      cases ended

lemma readFrom_cut (small : frame.payload.length ≤ maxLen) (long : 5 ≤ count)
    (cut : count < frame.writeTo.length) :
    (readFrom (frame.writeTo.take count)).1 = .error .unexpectedEof := by
  have header : (frame.tag :: toLeBytes (frame.payload.length % 4294967296)).length = 5 := rfl
  have total : frame.writeTo.length = 5 + frame.payload.length := by
    unfold writeTo
    rw [length_append, header]
  have short : (frame.payload.take (count - 5)).length < frame.payload.length := by
    rw [length_take]
    omega
  have split : frame.writeTo.take count =
      frame.tag :: toLeBytes (frame.payload.length % 4294967296) ++
        frame.payload.take (count - 5) := by
    unfold writeTo
    rw [take_append, header, take_of_length_le (by rw [header]; exact long)]
  rw [split, readFrom_header small, readExact_short short]

/-- Written frames read back as they were, and then a clean end. A read answers a clean end
only where no byte remains, and a frame cut short is reported as an error, exactly where the
stream does not end one to four bytes into a header. -/
theorem codec_exact_iff (frames : List Frame) (input : List UInt8) (frame : Frame)
    (count : Nat) (small : ∀ frame ∈ frames, frame.payload.length ≤ maxLen)
    (fits : frame.payload.length ≤ maxLen) (positive : 0 < count)
    (cut : count < frame.writeTo.length) : Yields (frames.flatMap writeTo) frames ∧
    (((readFrom input).1 = .ok none → input = []) ↔ ¬ (0 < input.length ∧ input.length < 5)) ∧
    ((∃ error, (readFrom (frame.writeTo.take count)).1 = .error error) ↔
      ¬ (0 < count ∧ count < 5)) := by
  refine ⟨yields_writeTo small, ⟨?_, ?_⟩, ⟨?_, ?_⟩⟩
  · rintro reports ⟨some, short⟩
    have empty : input = [] := reports (by rw [readFrom_short short])
    rw [empty] at some
    exact absurd some (Nat.lt_irrefl 0)
  · intro whole ended
    by_contra remains
    have present := length_pos_iff.mpr remains
    exact readFrom_ne_none (by omega) ended
  · rintro ⟨error, failed⟩ ⟨_, short⟩
    have taken : (frame.writeTo.take count).length < 5 := by
      rw [length_take]
      omega
    rw [readFrom_short taken] at failed
    cases failed
  · intro _
    exact ⟨_, readFrom_cut fits (by omega) cut⟩

/-- An answer of two bytes comes back from the wire, and cut after its header it is an
error. -/
theorem codec_exact_iff_answer : Yields ([answer [104, 105]].flatMap writeTo) [answer [104, 105]] ∧
      ∃ error, (readFrom ((answer [104, 105]).writeTo.take 5)).1 = .error error := by
  have codec := codec_exact_iff [answer [104, 105]] [] (answer [104, 105]) 5 (by decide)
    (by decide) (by decide) (by decide)
  exact ⟨codec.1, codec.2.2.mpr (by decide)⟩

/-- The first byte of a frame, and then the end: no error is reported. -/
theorem header_cut_reads_as_end : (readFrom ((answer [104, 105]).writeTo.take 1)).1 = .ok none ∧
      (answer [104, 105]).writeTo.take 1 = [9] := by
  constructor <;> rfl

end Frame

end Synoik
