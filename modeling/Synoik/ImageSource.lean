import Mathlib.Data.List.Basic

/-!
# Image sources named by applications

A URI is the bytes of its UTF-8 text.
-/

namespace Synoik.Images

open List
open Option (bind_eq_some_iff ite_none_right_eq_some)

abbrev Bytes := List UInt8

def ascii (text : String) : Bytes := text.toList.map fun char => char.toNat.toUInt8

def maxUriBytes : Nat := 4096

inductive ImageSource where
  | file (path : Bytes)
  | remote (uri : Bytes)
  deriving DecidableEq

def stripPrefix? (front : Bytes) (text : Bytes) : Option Bytes :=
  if front.isPrefixOf text then some (text.drop front.length) else none

def hexDigit (byte : UInt8) : Option Nat :=
  if 48 ≤ byte ∧ byte ≤ 57 then some (byte.toNat - 48)
  else if 65 ≤ byte ∧ byte ≤ 70 then some (byte.toNat - 55)
  else if 97 ≤ byte ∧ byte ≤ 102 then some (byte.toNat - 87)
  else none

/-- The standard library's reading of a number in base sixteen: a plus sign may
stand in front. -/
def fromStrRadix (text : Bytes) : Option Nat :=
  let digits := if text.head? = some 43 ∧ 1 < text.length then text.tail else text
  digits.foldlM (fun value byte => (hexDigit byte).map (16 * value + ·)) 0

variable (utf8 : Bytes → Bool)

def decodeEscapes : Bytes → Option Bytes
  | [] => some []
  | byte :: path =>
    if byte = 37 then match path with
      | high :: low :: path => do
        if utf8 [high, low] then
          let value ← fromStrRadix [high, low]
          let out ← decodeEscapes path
          return value.toUInt8 :: out
        else none
      | _ => none
    else do
      let out ← decodeEscapes path
      return byte :: out

def percentDecode (path : Bytes) : Option Bytes :=
  if 37 ∉ path then some path
  else do
    let out ← decodeEscapes utf8 path
    if utf8 out = true ∧ 0 ∉ out then return out else none

/-- The path of a file URI, whose authority is nothing or `localhost`. -/
def localPath (rest : Bytes) : Option Bytes :=
  match stripPrefix? (ascii "localhost/") rest with
  | some path => some (47 :: path)
  | none => if rest.head? = some 47 then some rest else none

def localFile (rest : Bytes) : Option ImageSource := do
  let path ← localPath rest
  let path ← percentDecode utf8 path
  if path.head? = some 47 then return .file path else none

/-- The scheme of a URI and what follows the first `://`. -/
def cutScheme : Bytes → Option (Bytes × Bytes)
  | [] => none
  | byte :: uri => match stripPrefix? (ascii "://") (byte :: uri) with
    | some after => some ([], after)
    | none => (cutScheme uri).map fun (scheme, after) => (byte :: scheme, after)

def toLower (byte : UInt8) : UInt8 := if 65 ≤ byte ∧ byte ≤ 90 then byte + 32 else byte

def fromUri (uri : Bytes) : Option ImageSource :=
  if maxUriBytes < uri.length then none
  else match stripPrefix? (ascii "file://") uri with
    | some rest => localFile utf8 rest
    | none => do
      let (scheme, after) ← cutScheme uri
      let host := after.takeWhile (· ∉ ascii "/?#")
      let scheme := scheme.map toLower
      if (scheme = ascii "http" ∨ scheme = ascii "https") ∧ host ≠ [] ∧ 64 ∉ host then
        return .remote uri
      else none

/-- Every escape is a percent sign and two digits, and stands for one byte. -/
inductive Decodes : Bytes → Bytes → Prop where
  | nil : Decodes [] []
  | escape {high low path out h l} : hexDigit high = some h → hexDigit low = some l →
    Decodes path out → Decodes (37 :: high :: low :: path) ((16 * h + l).toUInt8 :: out)
  | plain {byte path out} : byte ≠ 37 → Decodes path out → Decodes (byte :: path) (byte :: out)

/-- The URI names the local file. -/
structure Names (uri path : Bytes) : Prop where
  decodes : ∃ rest, (uri = ascii "file://" ++ 47 :: rest ∨
    uri = ascii "file://localhost" ++ 47 :: rest) ∧ Decodes (47 :: rest) path
  absolute : path.head? = some 47
  noNul : 0 ∉ path

/-- No sign stands after a percent sign, and no NUL is written as such. -/
abbrev Clear (text : Bytes) : Prop := ¬ [37, 43] <:+: text ∧ 0 ∉ text

variable {utf8} {path out uri rest : Bytes}

lemma Clear.mono (clear : Clear uri) (part : rest <:+ uri) : Clear rest :=
  ⟨fun sign => clear.1 (sign.trans part.isInfix), fun nul => clear.2 (part.subset nul)⟩

lemma clear_append {front : Bytes} (plain : ∀ byte ∈ front, byte ≠ 37 ∧ byte ≠ 0)
    (clear : Clear rest) : Clear (front ++ rest) := by
  induction front with
  | nil => exact clear
  | cons byte front ih =>
    obtain ⟨noEscape, noNul⟩ := plain byte mem_cons_self
    obtain ⟨signs, nuls⟩ := ih fun byte mem => plain byte (.tail _ mem)
    constructor
    · rw [cons_append, infix_cons_iff, cons_prefix_cons]
      rintro (⟨eq, -⟩ | later)
      · exact noEscape eq.symm
      · exact signs later
    · rw [cons_append, mem_cons, not_or]
      exact ⟨noNul.symm, nuls⟩

lemma stripPrefix?_eq_some {pre : Bytes} (strips : stripPrefix? pre uri = some rest) :
    uri = pre ++ rest := by
  rw [stripPrefix?, ite_none_right_eq_some, isPrefixOf_iff_prefix] at strips
  obtain ⟨⟨rest, rfl⟩, eq⟩ := strips
  simpa using eq

lemma fromStrRadix_digits {high low : UInt8} {val : Nat} (unsigned : high ≠ 43)
    (read : fromStrRadix [high, low] = some val) :
    ∃ h l, hexDigit high = some h ∧ hexDigit low = some l ∧ 16 * h + l = val := by
  simpa [fromStrRadix, unsigned, bind_eq_some_iff] using read

lemma decodes_of_decodeEscapes (clear : Clear path)
    (decoded : decodeEscapes utf8 path = some out) : Decodes path out := by
  fun_induction decodeEscapes utf8 path generalizing out with
  | case1 =>
    cases decoded
    exact .nil
  | case2 high low path valid ih =>
    obtain ⟨val, read, decoded⟩ := bind_eq_some_iff.mp decoded
    obtain ⟨out, rest, eq⟩ := bind_eq_some_iff.mp decoded
    have sign : high ≠ 43 := by
      rintro rfl
      exact clear.1 ⟨[], low :: path, rfl⟩
    obtain ⟨h, l, one, last, rfl⟩ := fromStrRadix_digits sign read
    cases eq
    exact .escape one last (ih (clear.mono (suffix_append [37, high, low] path)) rest)
  | case3 | case4 => cases decoded
  | case5 byte path other ih =>
    obtain ⟨out, rest, eq⟩ := bind_eq_some_iff.mp decoded
    cases eq
    exact .plain other (ih (clear.mono (suffix_cons byte path)) rest)

lemma hexDigit_ne {byte : UInt8} {val : Nat} (digit : hexDigit byte = some val) :
    byte ≠ 37 ∧ byte ≠ 43 ∧ byte ≠ 0 := by
  refine ⟨?_, ?_, ?_⟩ <;> rintro rfl <;> cases digit

/-- What is decoded strictly without a NUL has neither a sign after a percent sign nor a NUL. -/
lemma Decodes.clear (decodes : Decodes path out) (noNul : 0 ∉ out) : Clear path := by
  induction decodes with
  | nil => exact ⟨fun sign => (nomatch infix_nil.mp sign), not_mem_nil⟩
  | @escape high low path out _ _ first second _ ih =>
    obtain ⟨highEscape, highSign, highNul⟩ := hexDigit_ne first
    obtain ⟨lowEscape, -, lowNul⟩ := hexDigit_ne second
    have rest := ih fun nul => noNul (.tail _ nul)
    have digits : Clear ([high, low] ++ path) := by
      refine clear_append ?_ rest
      simp only [mem_cons, not_mem_nil, or_false]
      rintro _ (rfl | rfl)
      · exact ⟨highEscape, highNul⟩
      · exact ⟨lowEscape, lowNul⟩
    constructor
    · rw [infix_cons_iff, cons_prefix_cons, cons_prefix_cons]
      rintro (⟨-, eq, -⟩ | later)
      · exact highSign eq.symm
      · exact digits.1 later
    · rw [mem_cons, not_or]
      exact ⟨by decide, digits.2⟩
  | @plain byte path out other _ ih =>
    rw [mem_cons, not_or] at noNul
    change Clear ([byte] ++ path)
    refine clear_append ?_ (ih noNul.2)
    simp only [mem_singleton, forall_eq]
    exact ⟨other, Ne.symm noNul.1⟩

lemma decodes_self (plain : 37 ∉ path) : Decodes path path := by
  induction path with
  | nil => exact .nil
  | cons byte path ih =>
    rw [mem_cons, not_or] at plain
    exact .plain (Ne.symm plain.1) (ih plain.2)

lemma percentDecode_decodes (clear : Clear path)
    (decoded : percentDecode utf8 path = some out) : Decodes path out ∧ 0 ∉ out := by
  unfold percentDecode at decoded
  split at decoded
  next plain =>
    cases decoded
    exact ⟨decodes_self plain, clear.2⟩
  next =>
    obtain ⟨out, escapes, kept⟩ := bind_eq_some_iff.mp decoded
    obtain ⟨⟨_, noNul⟩, eq⟩ := ite_none_right_eq_some.mp kept
    cases eq
    exact ⟨decodes_of_decodeEscapes clear escapes, noNul⟩

lemma localPath_eq_some (got : localPath rest = some path) : path <:+ rest ∧
    ∃ lt, path = 47 :: lt ∧ (rest = path ∨ rest = ascii "localhost" ++ path) := by
  unfold localPath at got
  split at got
  next lt strips =>
    cases got
    have eq : rest = ascii "localhost" ++ 47 :: lt := (stripPrefix?_eq_some strips).trans rfl
    exact ⟨⟨_, eq.symm⟩, lt, rfl, .inr eq⟩
  next =>
    obtain ⟨slash, eq⟩ := ite_none_right_eq_some.mp got
    cases eq
    obtain ⟨lt, rfl⟩ := head?_eq_some_iff.mp slash
    exact ⟨suffix_rfl, lt, rfl, .inl rfl⟩

lemma localFile_eq_some {src : ImageSource} (got : localFile utf8 rest = some src) :
    ∃ path, src = .file path ∧ (Clear rest → Names (ascii "file://" ++ rest) path) := by
  obtain ⟨full, authority, got⟩ := bind_eq_some_iff.mp got
  obtain ⟨path, decoded, got⟩ := bind_eq_some_iff.mp got
  obtain ⟨absolute, eq⟩ := ite_none_right_eq_some.mp got
  cases eq
  obtain ⟨part, lt, rfl, shape⟩ := localPath_eq_some authority
  refine ⟨path, rfl, fun clear => ?_⟩
  have ⟨decodes, noNul⟩ := percentDecode_decodes (clear.mono part) decoded
  refine ⟨⟨lt, ?_, decodes⟩, absolute, noNul⟩
  exact shape.imp (congrArg _) (congrArg (ascii "file://" ++ ·))

lemma fromUri_eq_some {src : ImageSource} (got : fromUri utf8 uri = some src) :
    (∃ path, src = .file path ∧ (Clear uri → Names uri path)) ∨
      ¬ ascii "file://" <+: uri ∧ src = .remote uri := by
  rw [fromUri, Option.ite_none_left_eq_some] at got
  replace got := got.2
  split at got
  next rest strips =>
    obtain rfl := stripPrefix?_eq_some strips
    obtain ⟨path, eq, names⟩ := localFile_eq_some got
    exact .inl ⟨path, eq, fun clear => names (clear.mono (suffix_append _ _))⟩
  next other =>
    obtain ⟨_, _, got⟩ := bind_eq_some_iff.mp got
    have same := (ite_none_right_eq_some.mp got).2
    refine .inr ⟨fun file => ?_, (Option.some.inj same).symm⟩
    simp [stripPrefix?, isPrefixOf_iff_prefix, file] at other

lemma Names.clear (names : Names uri path) : Clear uri := by
  obtain ⟨rest, shape, decodes⟩ := names.decodes
  have clear := decodes.clear names.noNul
  rcases shape with rfl | rfl
  · exact clear_append (by decide +kernel) clear
  · exact clear_append (by decide +kernel) clear

/-- Local files are named strictly, and everything else with the scheme of a file is refused, if
and only if a URI that is taken for a local file has no sign after a percent sign and no NUL. -/
theorem local_files_strict (utf8 : Bytes → Bool) (uri : Bytes) :
    ((∀ path, fromUri utf8 uri = some (.file path) → Names uri path) ∧
      (ascii "file://" <+: uri → (∀ path, ¬ Names uri path) → fromUri utf8 uri = none)) ↔
      ∀ path, fromUri utf8 uri = some (.file path) → Clear uri := by
  constructor
  · intro strict path got
    exact (strict.1 path got).clear
  · intro tests
    have strict (path : Bytes) (got : fromUri utf8 uri = some (.file path)) : Names uri path := by
      obtain ⟨_, eq, names⟩ | ⟨_, eq⟩ := fromUri_eq_some got
      · cases eq
        exact names (tests path got)
      · cases eq
    refine ⟨strict, fun file none => ?_⟩
    rw [Option.eq_none_iff_forall_not_mem]
    intro source got
    obtain ⟨path, rfl, _⟩ | ⟨other, _⟩ := fromUri_eq_some got
    · exact none path (strict path got)
    · exact other file

theorem local_files_strict_space : Names (ascii "file:///a%20b") (ascii "/a b") :=
  ((local_files_strict (fun _ => true) (ascii "file:///a%20b")).mpr
    fun _ _ => by decide +kernel).1 _ (by decide +kernel)

/-- A sign passes for a digit, and a NUL passes where nothing is escaped. -/
theorem sign_and_nul_pass : fromUri (fun _ => true) (ascii "file:///%+A") = some (.file [47, 10]) ∧
    (∀ path, ¬ Names (ascii "file:///%+A") path) ∧
    fromUri (fun _ => true) (ascii "file:///" ++ [0]) = some (.file [47, 0]) := by
  refine ⟨by decide +kernel, fun path names => ?_, by decide +kernel⟩
  obtain ⟨rest, eq | eq, decodes⟩ := names.decodes
  · cases eq
    cases decodes with
    | plain _ decodes => cases decodes with
      | escape sign => cases sign
      | plain other => exact other rfl
  · cases eq

end Synoik.Images
