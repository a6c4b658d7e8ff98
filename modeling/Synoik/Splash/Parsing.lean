import Synoik.Splash.Request

/-!
# Requests from a stream in pieces

What a client wrote arrives cut anywhere. A reading of a stream is a list of requests,
each from the bytes that follow those of the one before, and what is left. There is only
one that leaves no whole request, so it does not matter how the bytes came in.
-/

namespace Synoik.Plymouth

open List

variable {buffer stream mid rest more : List UInt8} {req : Request}
  {reqs requests' : List Request}

/-- A request is read from the bytes before those it leaves, whatever follows them. -/
lemma nextRequest_piece (taken : nextRequest buffer = some (req, rest)) :
    ∃ piece, buffer = piece ++ rest ∧ ∀ more, nextRequest (piece ++ more) = some (req, more) := by
  unfold nextRequest at taken
  split at taken
  next command marker _ =>
    split at taken
    next without =>
      cases taken
      exact ⟨[command, marker], rfl, fun _ => if_pos without⟩
    next given =>
    split at taken
    · cases taken
    next length tail =>
    split at taken
    · cases taken
    next enough =>
    cases taken
    have within := Nat.le_of_not_lt enough
    refine ⟨command :: marker :: length :: tail.take length.toNat, by simp, fun more => ?_⟩
    have whole : (tail.take length.toNat).length = length.toNat := by simp [within]
    simp [nextRequest, given, within, take_append_of_le_length (Nat.le_of_eq whole.symm),
      drop_append_of_le_length (Nat.le_of_eq whole.symm), take_take]
  · cases taken

/-- Requests read from a stream one after the other, each from bytes of its own, and what
is left. -/
inductive Parses : List UInt8 → List Request → List UInt8 → Prop where
  | nil (rest : List UInt8) : Parses rest [] rest
  | cons {piece stream rest : List UInt8} {request : Request} {requests : List Request}
      (whole : ∀ more, nextRequest (piece ++ more) = some (request, more))
      (parses : Parses stream requests rest) :
      Parses (piece ++ stream) (request :: requests) rest

lemma Parses.append (parses : Parses stream reqs rest) :
    Parses (stream ++ more) reqs (rest ++ more) := by
  induction parses with
  | nil => exact .nil _
  | cons whole _ ih =>
    rw [append_assoc]
    exact .cons whole ih

lemma Parses.trans (one : Parses stream reqs mid)
    (last : Parses mid requests' rest) : Parses stream (reqs ++ requests') rest := by
  induction one with
  | nil => exact last
  | cons whole _ ih => exact .cons whole (ih last)

lemma nextRequest_parses (taken : nextRequest buffer = some (req, rest)) :
    Parses buffer [req] rest := by
  obtain ⟨_, rfl, whole⟩ := nextRequest_piece taken
  exact .cons whole (.nil rest)

lemma takeRequests_parses (most : Nat) (buffer : List UInt8) :
    Parses buffer (takeRequests most buffer).1 (takeRequests most buffer).2 := by
  induction most generalizing buffer with
  | zero => exact .nil buffer
  | succ _ ih =>
    unfold takeRequests
    split
    · exact .nil buffer
    next _ rest taken => exact (nextRequest_parses taken).trans (ih rest)

/-- The reading that leaves no whole request is the one that takes all it can. -/
lemma Parses.takeRequests (parses : Parses stream reqs rest)
    (last : nextRequest rest = none) {most : Nat} (enough : stream.length ≤ most) :
    takeRequests most stream = (reqs, rest) := by
  induction parses generalizing most with
  | nil => cases most <;> simp [Plymouth.takeRequests, last]
  | @cons piece stream _ req reqs whole _ ih =>
    have shorter := nextRequest_length (whole stream)
    match most with
    | 0 => omega
    | most + 1 =>
      have later : Plymouth.takeRequests most stream = (reqs, _) := ih last (by omega)
      simp only [Plymouth.takeRequests, whole, later]

/-- The requests a parser hands out, and its buffer. -/
abbrev Parsed := List Request × List UInt8

/-- The caller's loop: what it has, and then all whole requests. -/
def Parsed.drain (parsed : Parsed) : Parsed :=
  let (requests, rest) := takeRequests parsed.2.length parsed.2
  (parsed.1 ++ requests, rest)

def Parsed.feed (parsed : Parsed) (bytes : List UInt8) : Parsed := (parsed.1, parsed.2 ++ bytes)

def Parsed.nextRequest (parsed : Parsed) : Parsed :=
  match Plymouth.nextRequest parsed.2 with
  | none => parsed
  | some (request, rest) => (parsed.1 ++ [request], rest)

inductive ParserCall where
  | feed (bytes : List UInt8)
  | nextRequest

/-- All that was fed, in order. -/
def fed : List ParserCall → List UInt8
  | [] => []
  | .feed bytes :: calls => bytes ++ fed calls
  | .nextRequest :: calls => fed calls

def Parsed.call (parsed : Parsed) : ParserCall → Parsed
  | .feed bytes => parsed.feed bytes
  | .nextRequest => parsed.nextRequest

variable {parsed : Parsed}

lemma Parses.nextRequest (parses : Parses stream parsed.1 parsed.2) :
    Parses stream parsed.nextRequest.1 parsed.nextRequest.2 := by
  unfold Parsed.nextRequest
  split
  · exact parses
  next taken => exact parses.trans (nextRequest_parses taken)

lemma Parses.calls (calls : List ParserCall) (parses : Parses stream parsed.1 parsed.2) :
    Parses (stream ++ fed calls) (calls.foldl .call parsed).1 (calls.foldl .call parsed).2 := by
  induction calls generalizing stream parsed with
  | nil => rwa [fed, append_nil]
  | cons call _ ih =>
    cases call with
    | feed =>
      rw [fed, ← append_assoc]
      exact ih parses.append
    | nextRequest => exact ih parses.nextRequest

lemma Parses.drain (parses : Parses stream parsed.1 parsed.2) :
    parsed.drain = Parsed.drain ([], stream) := by
  have whole := (parses.trans (takeRequests_parses parsed.2.length parsed.2)).takeRequests
    (takeRequests_rest (Nat.le_refl _)) (Nat.le_refl _)
  unfold Parsed.drain
  rw [whole]
  rfl

/-- However its feeds are cut and the requests are asked for between them, a parser hands
out the requests of the whole stream fed at once and comes to the same rest, whenever it is
emptied. Up to there each request was read from bytes of its own, and these and the buffer
are all that was fed. -/
theorem parser_split_invariant (calls : List ParserCall) :
    let parsed : Parsed := calls.foldl .call ([], [])
    parsed.drain = Parsed.drain ([], fed calls) ∧ Parses (fed calls) parsed.1 parsed.2 :=
  have parses := @Parses.calls [] ([], []) calls (.nil [])
  ⟨parses.drain, parses⟩

end Synoik.Plymouth
