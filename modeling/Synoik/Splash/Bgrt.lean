import Synoik.Login.Codec

/-!
# The firmware's logo

A picture is decoded row by row from untrusted bytes. A slice that is not there panics, and each
turn of the loop and each pixel counts as a step.
-/

namespace Synoik.Bgrt

open List

abbrev Bytes := List UInt8

structure Image where
  w : Int
  h : Int
  pixels : List UInt32

def sliceAt (bytes : Bytes) (start count : Nat) : Option (Bytes) :=
  if start + count ≤ bytes.length then some ((bytes.drop start).take count) else none

/-- The little-endian number in some bytes. -/
def field (bytes : Bytes) (start count : Nat) : Nat := fromLeBytes ((bytes.drop start).take count)

def numberAt (bytes : Bytes) (start count : Nat) : Except String Nat :=
  if start + count ≤ bytes.length then .ok (field bytes start count)
  else .error "truncated header"

def u16At (bytes : Bytes) (start : Nat) : Except String Nat := numberAt bytes start 2

def u32At (bytes : Bytes) (start : Nat) : Except String Nat := numberAt bytes start 4

/-- The low 32 bits, read as a signed number. -/
@[irreducible] def asI32 (number : Nat) : Int :=
  if number % 4294967296 < 2147483648 then number % 4294967296
  else number % 4294967296 - 4294967296

/-- The bytes a row takes, which are a multiple of four. -/
def pitch (w : Nat) : Nat := (3 * w + 3) / 4 * 4

/-- The checks: the width, the height and the bytes of the pixels. -/
def header (bytes : Bytes) : Except String (Int × Int × Bytes) := do
  if (← u16At bytes 0) ≠ 0x4d42 then throw "not a BMP"
  let bitsAt ← u32At bytes 10
  let header ← u32At bytes 14
  let width := asI32 (← u32At bytes 18)
  let height := asI32 (← u32At bytes 22)
  let planes ← u16At bytes 26
  let bpp ← u16At bytes 28
  let compression ← u32At bytes 30
  if header ≠ 40 ∨ width < 0 ∨ planes ≠ 1 ∨ bpp ≠ 24 ∨ compression ≠ 0 then
    throw "not a 24-bit uncompressed BMP"
  match sliceAt bytes bitsAt (pitch width.toNat * height.natAbs) with
  | some bits => return (width, height, bits)
  | none => throw "truncated pixels"

def pixel (b g r : UInt8) : UInt32 :=
  (0xff000000 : UInt32) ||| (r.toUInt32 <<< 16) ||| (g.toUInt32 <<< 8) ||| b.toUInt32

def colours : Bytes → List UInt32
  | b :: g :: r :: rest => pixel b g r :: colours rest
  | _ => []

/-- The row of the input shown at `y`: a positive height stores the rows upside down. -/
def sourceRow (height : Int) (y : Nat) : Nat :=
  if 0 < height then height.natAbs - 1 - y else y

/-- The pixels of the rows, and the steps taken. -/
def rows (bits : Bytes) (w : Nat) (height : Int) : List Nat → Option (List UInt32 × Nat)
  | [] => some ([], 0)
  | y :: ys => do
    let row ← sliceAt bits (sourceRow height y * pitch w) (3 * w)
    let (pixels, work) ← rows bits w height ys
    some (colours row ++ pixels, (colours row).length + 1 + work)

def decodeBmp (bytes : Bytes) : Option (Except String (Image × Nat)) :=
  match header bytes with
  | .error what => some (.error what)
  | .ok (width, height, bits) => do
    let (pixels, work) ← rows bits width.toNat height (range height.natAbs)
    some (.ok (⟨asI32 width.toNat, asI32 height.natAbs, pixels⟩, work))

def widthOf (bytes : Bytes) : Int := asI32 (field bytes 18 4)

def heightOf (bytes : Bytes) : Int := asI32 (field bytes 22 4)

/-- The picture the bytes describe. -/
def Shows (bytes : Bytes) (image : Image) : Prop :=
  ∃ w h : Nat, widthOf bytes = w ∧ (heightOf bytes).natAbs = h ∧ image.w = w ∧ image.h = h ∧
    image.pixels.length = h * w ∧ ∀ x < w, ∀ y < h, ∃ b g r, (bytes.drop (field bytes 10 4 +
      (sourceRow (heightOf bytes) y * pitch w + 3 * x))).take 3 = [b, g, r] ∧
        image.pixels[y * w + x]? = some (pixel b g r)

variable {bytes bits : Bytes} {w : Nat} {height : Int}

lemma of_numberAt {α : Type} {start count : Nat} {next : Nat → Except String α} {value : α}
    (read : numberAt bytes start count >>= next = .ok value) :
    next (field bytes start count) = .ok value := by
  unfold numberAt at read
  split at read
  · exact read
  · cases read

lemma header_eq_ok {width : Int} (read : header bytes = .ok (width, height, bits)) :
    ∃ w : Nat, width = w ∧ widthOf bytes = w ∧ heightOf bytes = height ∧
      sliceAt bytes (field bytes 10 4) (pitch w * height.natAbs) = some bits := by
  have read := of_numberAt read
  split at read
  · cases read
  iterate 7 replace read := of_numberAt read
  split at read
  next got =>
    split at read
    · cases read
    next plain =>
      cases read
      obtain ⟨w, wide⟩ := Int.eq_ofNat_of_zero_le (show 0 ≤ asI32 (field bytes 18 4) by omega)
      rw [wide] at got ⊢
      exact ⟨w, rfl, wide, rfl, got⟩
  next => split at read <;> cases read

lemma le_pitch : 3 * w ≤ pitch w := by
  unfold pitch
  omega

lemma length_colours : ∀ row : Bytes, (colours row).length = row.length / 3
  | [] | [_] | [_, _] => by simp [colours]
  | _ :: _ :: _ :: rest => by
    rw [colours, length_cons, length_colours rest]
    simp only [length_cons]
    omega

lemma drop_colours (row : Bytes) (x : Nat) : (colours row).drop x = colours (row.drop (3 * x)) := by
  induction x generalizing row with
  | zero => rfl
  | succ x ih =>
    match row with
    | [] | [_] | [_, _] => simp [colours, Nat.mul_succ]
    | b :: g :: r :: rest => exact ih rest

def rowAt (bits : Bytes) (w start : Nat) : Bytes := (bits.drop start).take (3 * w)

lemma length_rowAt {start : Nat} (inside : start + 3 * w ≤ bits.length) :
    (colours (rowAt bits w start)).length = w := by
  rw [length_colours, rowAt, length_take, length_drop]
  omega

/-- The loop finds every row, and takes a step for it and one for each of its pixels. -/
lemma rows_eq {ys : List Nat}
    (inside : ∀ y ∈ ys, sourceRow height y * pitch w + 3 * w ≤ bits.length) :
    rows bits w height ys = some (ys.flatMap fun y =>
      colours (rowAt bits w (sourceRow height y * pitch w)), (w + 1) * ys.length) := by
  induction ys with
  | nil => rfl
  | cons y ys ih =>
    have fits := inside y (.head _)
    rw [rows, ih fun other mem => inside other (.tail _ mem), sliceAt, if_pos fits]
    change some (_, length (colours (rowAt bits w (sourceRow height y * _))) + 1 + _) = _
    rw [length_rowAt fits, length_cons, Nat.mul_succ, Nat.add_comm (w + 1)]
    rfl

lemma colours_rowAt {start x : Nat} (inside : start + 3 * w ≤ bits.length) (within : x < w) :
    ∃ b g r, (bits.drop (start + 3 * x)).take 3 = [b, g, r] ∧
      (colours (rowAt bits w start))[x]? = some (pixel b g r) := by
  rw [← head?_drop, drop_colours, rowAt, drop_take, drop_drop]
  obtain ⟨more, eq⟩ : ∃ more, 3 * w - 3 * x = more + 3 := ⟨3 * w - 3 * x - 3, by omega⟩
  have long : (bits.drop (start + 3 * x)).length = _ := length_drop
  rw [eq]
  match bits.drop (start + 3 * x), long with
  | [], long | [_], long | [_, _], long =>
    simp only [length_cons, length_nil] at long
    omega
  | b :: g :: r :: rest, _ => exact ⟨b, g, r, rfl, rfl⟩

lemma sourceRow_lt {y : Nat} (lt : y < height.natAbs) : sourceRow height y < height.natAbs := by
  unfold sourceRow
  split <;> omega

lemma rows_inside (sized : bits.length = pitch w * height.natAbs) (y : Nat)
    (mem : y ∈ range height.natAbs) : sourceRow height y * pitch w + 3 * w ≤ bits.length := by
  have row := Nat.mul_le_mul_left (pitch w) (sourceRow_lt (mem_range.mp mem))
  have fits := @le_pitch w
  rw [Nat.mul_succ, Nat.mul_comm] at row
  omega

/-- Of rows equally wide, the one at `y` starts after `y` of them. -/
lemma getElem?_flatMap (picture : Nat → List UInt32) {ys : List Nat}
    (wide : ∀ y ∈ ys, (picture y).length = w) {x y row : Nat} (inside : x < w)
    (got : ys[y]? = some row) : (ys.flatMap picture)[y * w + x]? = (picture row)[x]? := by
  induction ys generalizing y with
  | nil => cases got
  | cons first ys ih =>
    have width := wide first (.head _)
    rw [flatMap_cons]
    cases y with
    | zero =>
      cases got
      rw [Nat.zero_mul, Nat.zero_add, getElem?_append_left (width.symm ▸ inside)]
    | succ y =>
      have ahead : (y + 1) * w + x = (picture first).length + (y * w + x) := by
        rw [width, Nat.succ_mul]
        omega
      rw [ahead, getElem?_append_right (Nat.le_add_right _ _), Nat.add_sub_cancel_left]
      exact ih (fun other mem => wide other (.tail _ mem)) got

lemma asI32_natAbs (number : Nat) (least : asI32 number ≠ -2147483648) :
    asI32 (asI32 number).natAbs = (asI32 number).natAbs := by
  unfold asI32 at *
  split <;> omega

/-- The pixels of a picture of some width and height, as the bytes have them. -/
def Paints (bytes : Bytes) (w h : Nat) (pixels : List UInt32) : Prop :=
  pixels.length = h * w ∧ ∀ x < w, ∀ y < h, ∃ b g r, (bytes.drop (field bytes 10 4 +
    (sourceRow (heightOf bytes) y * pitch w + 3 * x))).take 3 = [b, g, r] ∧
      pixels[y * w + x]? = some (pixel b g r)

/-- A picture that passes the checks is decoded, a step for each row and each pixel. -/
lemma decodeBmp_eq_ok {checked : Int × Int × Bytes} (read : header bytes = .ok checked) :
    ∃ (w : Nat) (pixels : List UInt32), widthOf bytes = w ∧
      pitch w * (heightOf bytes).natAbs ≤ bytes.length ∧
      decodeBmp bytes = some (.ok (⟨asI32 w, asI32 (heightOf bytes).natAbs, pixels⟩,
        (w + 1) * (heightOf bytes).natAbs)) ∧ Paints bytes w (heightOf bytes).natAbs pixels := by
  obtain ⟨width, height, bits⟩ := checked
  obtain ⟨w, rfl, wide, rfl, got⟩ := header_eq_ok read
  obtain ⟨long, taken⟩ := Option.ite_none_right_eq_some.mp got
  have sized : bits.length = pitch w * (heightOf bytes).natAbs := by
    rw [← Option.some.inj taken, length_take, length_drop]
    omega
  have inside := rows_inside sized
  have same := fun y mem => length_rowAt (inside y mem)
  refine ⟨w, (range (heightOf bytes).natAbs).flatMap fun y =>
    colours (rowAt bits w (sourceRow (heightOf bytes) y * pitch w)), wide, by omega, ?_, ?_, ?_⟩
  · unfold decodeBmp
    simp only [read, Int.toNat_natCast, rows_eq inside, Option.bind_eq_bind, Option.bind_some,
      length_range]
  · rw [length_flatMap, map_congr_left same, map_const', sum_replicate_nat, length_range]
  · intro x within y lt
    have mem := mem_range.mpr lt
    obtain ⟨b, g, r, bgr, shown⟩ := colours_rowAt (inside y mem) within
    refine ⟨b, g, r, ?_, ?_⟩
    · rw [← bgr, ← Option.some.inj taken, drop_take, take_take, drop_drop, Nat.min_eq_left]
      have := inside y mem
      omega
    · rw [← shown]
      exact getElem?_flatMap _ same within (getElem?_range lt)

/-- A picture is refused or is the one that the bytes describe, after no more steps than there
are bytes, if and only if it fails the checks, or it does not have the least height and, if it
has no width, is no taller than there are bytes. -/
theorem decodeBmp_safe (bytes : Bytes) :
    (∃ decoded, decodeBmp bytes = some decoded ∧ ∀ image work, decoded = .ok (image, work) →
      Shows bytes image ∧ work ≤ bytes.length) ↔
      (header bytes).isOk = false ∨ (heightOf bytes ≠ -2147483648 ∧
        (widthOf bytes = 0 → (heightOf bytes).natAbs ≤ bytes.length)) := by
  cases read : header bytes with
  | error what =>
    refine iff_of_true ⟨.error what, ?_, nofun⟩ (.inl rfl)
    unfold decodeBmp
    rw [read]
  | ok checked =>
    obtain ⟨w, pixels, wide, fits, decodes, paints⟩ := decodeBmp_eq_ok read
    constructor
    · rintro ⟨_, got, safe⟩
      cases decodes.symm.trans got
      obtain ⟨⟨_, _, -, rfl, -, high, -⟩, quick⟩ := safe _ _ rfl
      refine .inr ⟨fun least => ?_, fun thin => ?_⟩
      · rw [least] at high
        have wraps : asI32 2147483648 ≠ 2147483648 := by
          unfold asI32
          decide
        exact wraps high
      · cases wide.symm.trans thin
        simpa using quick
    · rintro (refused | ⟨least, thin⟩)
      · cases refused
      refine ⟨_, decodes, ?_⟩
      rintro image work ⟨⟩
      constructor
      · refine ⟨w, _, wide, rfl, ?_, asI32_natAbs _ least, paints⟩
        have kept := asI32_natAbs (field bytes 18 4)
        rw [← widthOf, wide] at kept
        exact kept (by omega)
      · cases w with
        | zero => exact (Nat.one_mul _).trans_le (thin wide)
        | succ w =>
          have row := @le_pitch (w + 1)
          exact Nat.le_trans (Nat.mul_le_mul_right _ (by omega)) fits

def logo (w h : Nat) (bits : Bytes) : Bytes :=
  [66, 77] ++ replicate 8 0 ++ [54, 40, w, h].flatMap toLeBytes ++ [1, 0, 24, 0] ++
    replicate 24 0 ++ bits

theorem decodeBmp_safe_dot : (header (logo 1 1 [1, 2, 3, 0])).isOk ∧
    ∃ decoded, decodeBmp (logo 1 1 [1, 2, 3, 0]) = some decoded ∧ ∀ image work,
      decoded = .ok (image, work) → Shows (logo 1 1 [1, 2, 3, 0]) image ∧ work ≤ 58 :=
  ⟨by decide +kernel, (decodeBmp_safe _).mpr (.inr (by decide +kernel))⟩

/-- Fifty-four bytes that make a picture of negative height, in two thousand million steps. -/
theorem endless_logo : ∃ image work, (logo 0 2147483648 []).length = 54 ∧
    decodeBmp (logo 0 2147483648 []) = some (.ok (image, work)) ∧ image.h = -2147483648 ∧
      work = 2147483648 := by
  have read : header (logo 0 2147483648 []) = .ok (0, -2147483648, []) := by decide +kernel
  have drawn : rows [] (Int.toNat 0) (-2147483648) (range (Int.natAbs (-2147483648))) = _ :=
    rows_eq fun _ _ => Nat.le_of_eq rfl
  rw [decodeBmp, read]
  simp only [drawn]
  refine ⟨_, _, by decide +kernel, rfl, by decide +kernel, ?_⟩
  rw [length_range]
  rfl

end Synoik.Bgrt
