import Mathlib.Order.Basic

/-!
# The requests of plymouth's clients

The bytes a client writes, taken apart into requests, and the bytes of the replies.
Texts are kept as the bytes they arrive in.
-/

namespace Synoik.Plymouth

abbrev Text := List UInt8

/-- The bytes of a text without other than ASCII characters. -/
def ascii (text : String) : Text := text.toList.map fun char => char.toNat.toUInt8

inductive Request where
  | ping
  | update (unit : Text)
  | changeMode (name : Text)
  | systemUpdate (progress : Text)
  | sysinit
  | error
  | showSplash
  | hideSplash
  | deactivate
  | reactivate
  | quit (retain : Bool)
  | reload
  | password (prompt : Option Text)
  | cachedPassword
  | question (prompt : Option Text)
  | showMessage (text : Text)
  | hideMessage (text : Text)
  | watchKeystroke
  | ignoreKeystroke
  | pauseProgress
  | unpauseProgress
  | newRoot
  | hasActiveVt
  | unknown (command : UInt8)
deriving DecidableEq

/-- An argument up to its first zero byte. -/
def text (bytes : List UInt8) : Text := bytes.takeWhile (· ≠ 0)

def Request.new (command : UInt8) (argument : Option (List UInt8)) : Request :=
  let some? := argument.map text
  let orEmpty := some?.getD []
  let nonEmpty := some?.filter (· ≠ [])
  -- P U C u S ! $ H D r Q l * c W M m K L A a R V
  match command.toNat with
  | 0x50 => .ping
  | 0x55 => .update orEmpty
  | 0x43 => .changeMode orEmpty
  | 0x75 => .systemUpdate orEmpty
  | 0x53 => .sysinit
  | 0x21 => .error
  | 0x24 => .showSplash
  | 0x48 => .hideSplash
  | 0x44 => .deactivate
  | 0x72 => .reactivate
  | 0x51 => .quit (argument.bind List.head? == some 1)
  | 0x6c => .reload
  | 0x2a => .password nonEmpty
  | 0x63 => .cachedPassword
  | 0x57 => .question nonEmpty
  | 0x4d => .showMessage orEmpty
  | 0x6d => .hideMessage orEmpty
  | 0x4b => .watchKeystroke
  | 0x4c => .ignoreKeystroke
  | 0x41 => .pauseProgress
  | 0x61 => .unpauseProgress
  | 0x52 => .newRoot
  | 0x56 => .hasActiveVt
  | _ => .unknown command

/-- The byte that says that an argument follows. -/
def hasArgument : UInt8 := 0x02

/-- The next whole request at the head of a buffer, and what is left of it. -/
def nextRequest : List UInt8 → Option (Request × List UInt8)
  | command :: marker :: rest =>
    if marker ≠ hasArgument then some (.new command none, rest)
    else
      match rest with
      | [] => none
      | length :: rest =>
        if rest.length < length.toNat then none
        else some (.new command (some (rest.take length.toNat)), rest.drop length.toNat)
  | _ => none

lemma nextRequest_length {buffer rest : List UInt8} {req : Request}
    (taken : nextRequest buffer = some (req, rest)) : rest.length < buffer.length := by
  unfold nextRequest at taken
  split at taken
  · split at taken
    · cases taken
      simp only [List.length_cons]
      omega
    · split at taken
      · cases taken
      · split at taken
        · cases taken
        · cases taken
          simp only [List.length_cons, List.length_drop]
          omega
  · cases taken

/-- All whole requests at the head of a buffer, and what is left of it. Every request
takes two bytes at least, so there are no more of them than the buffer is long. -/
def takeRequests : Nat → List UInt8 → List Request × List UInt8
  | 0, buffer => ([], buffer)
  | most + 1, buffer =>
    match nextRequest buffer with
    | none => ([], buffer)
    | some (request, rest) =>
      let (requests, rest) := takeRequests most rest
      (request :: requests, rest)

lemma takeRequests_rest {most : Nat} {buffer : List UInt8} (enough : buffer.length ≤ most) :
    nextRequest (takeRequests most buffer).2 = none := by
  induction most generalizing buffer with
  | zero =>
    cases List.length_eq_zero_iff.mp (Nat.le_zero.mp enough)
    rfl
  | succ _ ih =>
    unfold takeRequests
    split
    next none => exact none
    next _ _ taken =>
    exact ih (Nat.le_of_lt_succ (Nat.lt_of_lt_of_le (nextRequest_length taken) enough))

inductive Reply where
  | ack
  | nak
  | answer (answer : Text)
  | noAnswer
deriving DecidableEq

def lengthBytes (length : Nat) : List UInt8 :=
  [length.toUInt8, (length / 256).toUInt8, (length / 65536).toUInt8, (length / 16777216).toUInt8]

def Reply.encode : Reply → List UInt8
  | .ack => [0x06]
  | .nak => [0x15]
  | .noAnswer => [0x05]
  | .answer given => 0x02 :: lengthBytes given.length ++ given

end Synoik.Plymouth
