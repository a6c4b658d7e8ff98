import Mathlib.Data.List.Infix
import Synoik.Selection.Bridge
import Synoik.Support.Runs

/-!
# Pasted bytes

The conversion in flight is followed through what its owner has done, what the bridge has not
yet heard of it and what is in the property. While the bridge takes only its answers for
answers, the bytes it collects are the ones that were produced for it.
-/

namespace Synoik.Selection

open List
open Option (eq_none_or_eq_some ite_none_right_eq_some map_eq_some_iff some_get)

variable {st after : XState} {num : Nat} {conv later : Conversion} {fetch : Fetching}
  {evs rest : List XEvent} {property : Option Value} {event : XEvent}
  {selection : SelectionTarget} {target : String} {bytes : Bytes} {isIncr : Bool}

def XEvent.isFor (number : Nat) : XEvent → Bool
  | ownerChange _ _ => false
  | selectionNotify conversion _ _ _ => conversion = number
  | propertyNotify conversion => conversion = some number

/-- The property has a value; if it was written for the conversion, it is this one. -/
def Shows (property : Option Value) (number : Nat) (isIncr : Bool) (bytes : Bytes) : Prop :=
  ∃ value, property = some value ∧
    (value.writtenFor = some number → value.isIncr = isIncr ∧ value.bytes = bytes)

/-- The first that an owner writes: all there is, or the announcement of chunks. -/
inductive First (property : Option Value) (number : Nat) (conversion : Conversion) :
    Option (List Bytes) → Prop
  | whole {bytes : Bytes} (produced : conversion.produced = some bytes)
      (shows : Shows property number false bytes) : First property number conversion none
  | announced {chunks : List Bytes} (produced : conversion.produced = some chunks.flatten)
      (nonempty : [] ∉ chunks) (shows : Shows property number true []) :
      First property number conversion (some chunks)

/-- What an owner does after it has said that the first is written. -/
def Stage.afterFirst : Option (List Bytes) → Stage
  | none => .done
  | some chunks => .sending chunks false

/-- The conversion in flight, with the events that were sent for it and not yet taken. -/
inductive Progress (events : List XEvent) (property : Option Value) (fetching : Fetching)
    (conversion : Conversion) : Prop
  | asked (stage : conversion.stage = .asked) (quiet : events = [])
      (plain : fetching.isIncr = false) (empty : fetching.buf = [])
  | refused (stage : conversion.stage = .done)
      (unheard : events <:+ [.selectionNotify fetching.conversion conversion.selection
        conversion.target true])
      (plain : fetching.isIncr = false) (empty : fetching.buf = [])
  | wrote {chunks : Option (List Bytes)} (stage : conversion.stage = .wrote chunks false)
      (unheard : events <:+ [.propertyNotify (some fetching.conversion)])
      (plain : fetching.isIncr = false) (empty : fetching.buf = [])
      (first : First property fetching.conversion conversion chunks)
  | told {chunks : Option (List Bytes)} (stage : conversion.stage = .afterFirst chunks)
      (unheard : events <:+ [.propertyNotify (some fetching.conversion),
        .selectionNotify fetching.conversion conversion.selection conversion.target false])
      (plain : fetching.isIncr = false) (empty : fetching.buf = [])
      (first : First property fetching.conversion conversion chunks)
  | between {chunks : List Bytes} (stage : conversion.stage = .sending chunks true)
      (quiet : events = []) (incr : fetching.isIncr = true)
      (produced : conversion.produced = some (fetching.buf ++ chunks.flatten))
      (nonempty : [] ∉ chunks)
  | chunk {bytes : Bytes} {chunks : List Bytes}
      (stage : conversion.stage = .sending chunks false)
      (unheard : events = [.propertyNotify (some fetching.conversion)])
      (incr : fetching.isIncr = true) (shows : Shows property fetching.conversion false bytes)
      (produced : conversion.produced = some (fetching.buf ++ bytes ++ chunks.flatten))
      (nonempty : [] ∉ bytes :: chunks)
  | last (stage : conversion.stage = .done)
      (unheard : events = [.propertyNotify (some fetching.conversion)])
      (incr : fetching.isIncr = true) (shows : Shows property fetching.conversion false [])
      (produced : conversion.produced = some fetching.buf)

/-- The conversion asks for what a client wants to paste. -/
structure Conversion.Answers (conversion : Conversion) (request : Fetch) : Prop where
  selection : conversion.selection = request.target
  target : conversion.target = targetFor request.mimeType
  landing : conversion.landing = .selection

namespace XState

def eventsFor (state : XState) (number : Nat) : List XEvent :=
  state.events.filter (XEvent.isFor number)

/-- Nothing, or all that was produced for the client's own conversion. -/
def Own (state : XState) (written : Written) : Prop :=
  written.bytes = [] ∨
    ∃ conversion, state.conversions[written.conversion]? = some conversion ∧
      conversion.Answers written.request ∧ conversion.produced = some written.bytes

/-- What does not depend on the conversion in flight. -/
structure Orderly (state : XState) : Prop where
  numbered : ∀ event ∈ state.events, ∀ number, event.isFor number = true →
    number < state.conversions.length
  unanswered : ∀ conversion ∈ state.conversions, conversion.stage = .asked →
    conversion.produced = none
  own : ∀ written ∈ state.written, state.Own written

structure Sound (state : XState) : Prop extends Orderly state where
  inFlight : ∀ fetching, state.fetching = some fetching →
    ∃ conversion, state.conversions[fetching.conversion]? = some conversion ∧
      conversion.Answers fetching.request ∧
      Progress (state.eventsFor fetching.conversion) state.property fetching conversion

/-- The property, if there is one, was written for the conversion. -/
abbrev propertyIsFor (state : XState) (number : Nat) : Prop :=
  ∀ value ∈ state.property, value.writtenFor = some number

/-- What the bridge takes for an answer to the conversion in flight is one, and no chunk over
the limit comes after others. -/
def TakesOwn (state : XState) : Op → Prop
  | .deliver =>
    match state.events, state.fetching with
    | .selectionNotify number _ target refused :: _, some fetching =>
      target = "TARGETS" ∨ number = fetching.conversion ∧
        (refused = true ∨ state.propertyIsFor number)
    | .propertyNotify number :: _, some fetching =>
      fetching.isIncr = false ∨ number = some fetching.conversion ∧
        state.propertyIsFor fetching.conversion ∧
        (fetching.buf = [] ∨ ∀ value ∈ state.property, value.bytes.length ≤ transferLimit)
    | _, _ => True
  | _ => True

instance (state : XState) (op : Op) : Decidable (state.TakesOwn op) := by
  unfold TakesOwn
  split
  · split <;> infer_instance
  · infer_instance

/-- Conversions are added and gone on with, and what was produced for one stays. -/
def Grows (before after : List Conversion) : Prop :=
  ∀ (number : Nat) (conversion : Conversion), before[number]? = some conversion →
    ∃ later, after[number]? = some later ∧ later.selection = conversion.selection ∧
      later.target = conversion.target ∧ later.landing = conversion.landing ∧
      ∀ bytes, conversion.produced = some bytes → later.produced = some bytes

variable {pre : List Conversion}

lemma Grows.append {more : List Conversion} : Grows pre (pre ++ more) := by
  intro _ conv got
  refine ⟨conv, ?_, rfl, rfl, rfl, fun _ made => made⟩
  rw [getElem?_append_left (List.getElem?_eq_some_iff.mp got).1]
  exact got

lemma Grows.seeDeleted : Grows pre (pre.map Conversion.seeDeleted) := by
  intro _ conv got
  refine ⟨conv.seeDeleted, ?_, rfl, rfl, rfl, fun _ made => made⟩
  rw [getElem?_map, got]
  rfl

lemma Own.grows {written : Written} (own : st.Own written)
    (grows : Grows st.conversions after.conversions) : after.Own written := by
  rcases own with empty | ⟨_, got, ans, made⟩
  · exact .inl empty
  · obtain ⟨later, has, selection, target, landing, kept⟩ := grows _ _ got
    exact .inr ⟨later, has, ⟨selection.trans ans.selection,
      target.trans ans.target, landing.trans ans.landing⟩, kept _ made⟩

lemma seeDeleted_asked_iff : conv.seeDeleted.stage = .asked ↔ conv.stage = .asked := by
  unfold Conversion.seeDeleted Stage.seeDeleted
  split <;> simp_all

section

variable (inv : st.Orderly)
include inv

lemma Orderly.deleteProperty : st.deleteProperty.Orderly := by
  unfold XState.deleteProperty
  split
  · refine ⟨?_, ?_, ?_⟩
    · intro event mem num sent
      rw [length_map]
      exact inv.numbered event mem num sent
    · intro _ mem asked
      obtain ⟨old, has, rfl⟩ := mem_map.mp mem
      exact inv.unanswered old has (seeDeleted_asked_iff.mp asked)
    · intro written mem
      exact (inv.own written mem).grows .seeDeleted
  · exact inv

lemma Orderly.convertSelection {selection : SelectionTarget} {target : String}
    {landing : Landing} : (st.convertSelection selection target landing).Orderly := by
  refine ⟨?_, ?_, ?_⟩
  · intro event mem num sent
    have lt := inv.numbered event mem num sent
    simp only [XState.convertSelection, length_append]
    omega
  · intro conv mem asked
    rcases mem_append.mp mem with old | new
    · exact inv.unanswered conv old asked
    · rw [mem_singleton.mp new]
  · intro written mem
    exact (inv.own written mem).grows .append

lemma Orderly.startFetch {req : Fetch}
    (idle : st.fetching = none) : (st.startFetch req).Sound := by
  unfold XState.startFetch
  rw [idle]
  dsimp only [Option.isSome_none]
  have asked : (st.deleteProperty.convertSelection req.target
      (targetFor req.mimeType) .selection).Orderly := inv.deleteProperty.convertSelection
  have length : st.deleteProperty.conversions.length = st.conversions.length := by
    unfold XState.deleteProperty
    split
    · exact length_map _
    · rfl
  have evs : st.deleteProperty.events = st.events := by
    unfold XState.deleteProperty
    split <;> rfl
  refine ⟨⟨asked.numbered, asked.unanswered, asked.own⟩, ?_⟩
  rintro _ ⟨⟩
  refine ⟨{ selection := req.target, target := targetFor req.mimeType,
            landing := .selection }, ?_, ⟨rfl, rfl, rfl⟩, .asked rfl ?_ rfl rfl⟩
  · rw [← length]
    exact getElem?_concat_length
  · dsimp only [XState.convertSelection, eventsFor]
    rw [evs, filter_eq_nil_iff]
    intro event mem sent
    exact Nat.lt_irrefl _ (inv.numbered event mem _ sent)

lemma Orderly.startNext (idle : st.fetching = none) : (match st.fetchQueue with
      | [] => st
      | req :: rest => XState.startFetch { st with fetchQueue := rest } req).Sound := by
  split
  · refine ⟨inv, ?_⟩
    intro _ flying
    rw [idle] at flying
    cases flying
  next rest _ =>
  have taken : Orderly { st with fetchQueue := rest } := ⟨inv.numbered, inv.unanswered, inv.own⟩
  exact taken.startFetch idle

lemma Orderly.finishFetch (own : ∀ fetch, st.fetching = some fetch →
      st.Own ⟨fetch.request, fetch.conversion, fetch.buf⟩) : st.finishFetch.Sound := by
  unfold XState.finishFetch
  cases flying : st.fetching with
  | none => exact inv.startNext flying
  | some fetch =>
    have ended : Orderly
        { st with
          fetching := none
          written := st.written ++ [⟨fetch.request, fetch.conversion, fetch.buf⟩] } := by
      refine ⟨inv.numbered, inv.unanswered, ?_⟩
      intro written mem
      rcases mem_append.mp mem with old | new
      · exact inv.own written old
      · rw [mem_singleton.mp new]
        exact own fetch flying
    exact ended.startNext rfl

lemma Orderly.setBuf {buf : Bytes} : (st.setBuf buf).Orderly :=
  ⟨inv.numbered, inv.unanswered, inv.own⟩

lemma Orderly.finishEmpty : (st.setBuf []).finishFetch.Sound := by
  apply inv.setBuf.finishFetch
  intro _ flying
  obtain ⟨_, _, rfl⟩ := map_eq_some_iff.mp flying
  exact .inl rfl

lemma Orderly.take {event : XEvent} {rest : List XEvent}
    (queued : st.events = event :: rest) : Orderly { st with events := rest } := by
  refine ⟨?_, inv.unanswered, inv.own⟩
  intro other mem num sent
  exact inv.numbered other (queued ▸ .tail _ mem) num sent

end

end XState

namespace Progress

/-- An event that changes nothing for a conversion that was not announced to come in chunks. -/
lemma skip (prog : Progress (event :: rest) property fetch conv)
    (plain : fetch.isIncr = false) : Progress rest property fetch conv := by
  have tail := suffix_cons event rest
  cases prog with
  | asked _ quiet => cases quiet
  | refused stage unheard plain empty => exact .refused stage (tail.trans unheard) plain empty
  | wrote stage unheard plain empty first =>
    exact .wrote stage (tail.trans unheard) plain empty first
  | told stage unheard plain empty first => exact .told stage (tail.trans unheard) plain empty first
  | between _ quiet => cases quiet
  | chunk _ _ incr | last _ _ incr =>
    rw [plain] at incr
    cases incr

lemma plain_of_selectionNotify {refused : Bool}
    (prog : Progress (.selectionNotify num selection target refused :: rest) property
      fetch conv) : fetch.isIncr = false := by
  cases prog with
  | asked _ _ plain | refused _ _ plain | wrote _ _ plain | told _ _ plain => exact plain
  | between _ quiet => cases quiet
  | chunk _ unheard | last _ unheard => cases unheard

lemma empty_of_refused
    (prog : Progress (.selectionNotify num selection target true :: rest) property
      fetch conv) : fetch.buf = [] := by
  cases prog with
  | asked _ _ _ empty | refused _ _ _ empty | wrote _ _ _ empty | told _ _ _ empty => exact empty
  | between _ quiet => cases quiet
  | chunk _ unheard | last _ unheard => cases unheard

/-- An owner that says it has written has written the first, and nothing after it. -/
lemma of_selectionNotify
    (prog : Progress (.selectionNotify num selection target false :: rest) property fetch conv) :
    ∃ chunks, conv.stage = .afterFirst chunks ∧ rest = [] ∧ fetch.buf = [] ∧
      First property fetch.conversion conv chunks := by
  cases prog with
  | asked _ quiet => cases quiet
  | refused _ unheard | wrote _ unheard => simp [suffix_cons_iff] at unheard
  | @told chunks stage unheard plain empty first =>
    simp only [suffix_cons_iff, cons.injEq, reduceCtorEq, false_and, false_or,
      suffix_nil, or_false] at unheard
    exact ⟨chunks, stage, unheard.2, empty, first⟩
  | between _ quiet => cases quiet
  | chunk _ unheard | last _ unheard => cases unheard

/-- What a new value of the property is, while chunks are awaited. -/
lemma of_propertyNotify {num : Option Nat}
    (prog : Progress (.propertyNotify num :: rest) property fetch conv)
    (incr : fetch.isIncr = true) : rest = [] ∧
      ((∃ bytes chunks, conv.stage = .sending chunks false ∧
          Shows property fetch.conversion false bytes ∧
          conv.produced = some (fetch.buf ++ bytes ++ chunks.flatten) ∧
          [] ∉ bytes :: chunks) ∨ Shows property fetch.conversion false [] ∧
          conv.produced = some fetch.buf) := by
  cases prog with
  | asked _ quiet => cases quiet
  | refused _ _ plain | wrote _ _ plain | told _ _ plain =>
    rw [plain] at incr
    cases incr
  | between _ quiet => cases quiet
  | chunk stage unheard _ shows made nonempty =>
    cases unheard
    exact ⟨rfl, .inl ⟨_, _, stage, shows, made, nonempty⟩⟩
  | last _ unheard _ shows made =>
    cases unheard
    exact ⟨rfl, .inr ⟨shows, made⟩⟩

end Progress

namespace XState

lemma eventsFor_of_cons (queued : st.events = event :: rest) : st.eventsFor num =
      if event.isFor num then event :: eventsFor { st with events := rest } num
      else eventsFor { st with events := rest } num := by
  unfold eventsFor
  rw [queued]
  exact filter_cons

lemma Sound.skip (inv : st.Sound) (queued : st.events = event :: rest)
    (plain : ∀ fetch, st.fetching = some fetch →
      event.isFor fetch.conversion = true → fetch.isIncr = false) :
    Sound { st with events := rest } := by
  refine ⟨inv.toOrderly.take queued, ?_⟩
  intro fetch flying
  obtain ⟨conv, got, ans, prog⟩ := inv.inFlight fetch flying
  refine ⟨conv, got, ans, ?_⟩
  rw [eventsFor_of_cons queued] at prog
  split at prog
  next own => exact prog.skip (plain fetch flying own)
  · exact prog

lemma transferred_of_shows
    (shows : Shows st.property num isIncr bytes) (own : st.propertyIsFor num) :
    st.transferred = (isIncr, if transferLimit < bytes.length then [] else bytes) := by
  obtain ⟨val, has, same⟩ := shows
  obtain ⟨rfl, rfl⟩ := same (own val has)
  unfold transferred
  rw [has]

lemma deleteProperty_of_shows (shows : Shows st.property num isIncr bytes) : st.deleteProperty =
      { st with
        property := none
        conversions := st.conversions.map Conversion.seeDeleted } := by
  obtain ⟨_, has, _⟩ := shows
  unfold deleteProperty
  rw [if_pos (by rw [has]; rfl)]

lemma own_of_produced {req : Fetch} (got : st.conversions[num]? = some conv)
    (ans : conv.Answers req) (made : conv.produced = some bytes) : st.Own ⟨req, num, bytes⟩ :=
  .inr ⟨conv, got, ans, made⟩

lemma Orderly.readFirst {chunks : Option (List Bytes)} (inv : st.Orderly) (flying : st.fetching = some fetch)
    (got : st.conversions[fetch.conversion]? = some conv)
    (ans : conv.Answers fetch.request) (stage : conv.stage = .afterFirst chunks)
    (quiet : st.eventsFor fetch.conversion = []) (empty : fetch.buf = [])
    (first : First st.property fetch.conversion conv chunks)
    (own : st.propertyIsFor fetch.conversion) (payload : target ≠ "TARGETS") :
    (st.onSelectionNotify selection target false).Sound := by
  have busy : ¬ st.fetching.isNone = true := by
    rw [flying]
    exact Bool.false_ne_true
  unfold XState.onSelectionNotify
  rw [if_neg payload, if_neg busy, if_neg Bool.false_ne_true]
  cases first with
  | @whole bytes made shows =>
    rw [transferred_of_shows shows own]
    apply (inv.deleteProperty.setBuf).finishFetch
    intro fetched filled
    obtain ⟨_, same, rfl⟩ := map_eq_some_iff.mp filled
    rw [deleteProperty_of_shows shows] at same
    cases flying.symm.trans same
    split
    · exact .inl rfl
    · exact (own_of_produced got ans made).grows
        (deleteProperty_of_shows shows ▸ Grows.seeDeleted)
  | @announced chunks made nonempty shows =>
    rw [transferred_of_shows shows own]
    dsimp only
    rw [if_pos rfl]
    have deleted := inv.deleteProperty
    rw [deleteProperty_of_shows shows] at deleted ⊢
    refine ⟨⟨deleted.numbered, deleted.unanswered, deleted.own⟩, ?_⟩
    intro _ filled
    obtain ⟨_, same, rfl⟩ := map_eq_some_iff.mp filled
    cases flying.symm.trans same
    refine ⟨conv.seeDeleted, ?_, ⟨ans.selection, ans.target,
      ans.landing⟩, .between ?_ quiet rfl ?_ nonempty⟩
    · rw [getElem?_map, got]
      rfl
    · unfold Conversion.seeDeleted
      rw [stage]
      rfl
    · rw [empty]
      exact made

lemma Sound.onSelectionNotify {refused : Bool} (inv : st.Sound)
    (queued : st.events = .selectionNotify num selection target refused :: rest)
    (takes : st.TakesOwn .deliver) :
    (XState.onSelectionNotify { st with events := rest } selection target refused).Sound := by
  have taken : Sound { st with events := rest } := by
    apply inv.skip queued
    intro fetch flying own
    obtain ⟨_, _, _, prog⟩ := inv.inFlight fetch flying
    rw [eventsFor_of_cons queued, if_pos own] at prog
    exact prog.plain_of_selectionNotify
  by_cases payload : target = "TARGETS"
  · unfold XState.onSelectionNotify onTargets
    rw [if_pos payload]
    split <;> exact ⟨⟨taken.numbered, taken.unanswered, taken.own⟩, taken.inFlight⟩
  rcases eq_none_or_eq_some st.fetching with idle | ⟨fetch, flying⟩
  · unfold XState.onSelectionNotify
    rw [if_neg payload, if_pos (by rw [idle]; rfl)]
    exact taken
  · unfold TakesOwn at takes
    rw [queued, flying] at takes
    obtain ⟨rfl, readable⟩ := takes.resolve_left payload
    obtain ⟨_, got, ans, prog⟩ := inv.inFlight fetch flying
    have mine : XEvent.isFor fetch.conversion
        (.selectionNotify fetch.conversion selection target refused) = true := decide_eq_true rfl
    rw [eventsFor_of_cons queued, if_pos mine] at prog
    cases refused with
    | true =>
      unfold XState.onSelectionNotify
      rw [if_neg payload, if_neg (by rw [flying]; exact Bool.false_ne_true), if_pos rfl]
      apply taken.toOrderly.finishFetch
      intro _ same
      cases flying.symm.trans same
      exact .inl prog.empty_of_refused
    | false =>
      obtain ⟨_, stage, quiet, empty, first⟩ := prog.of_selectionNotify
      exact taken.toOrderly.readFirst flying got ans stage quiet empty first
        (readable.resolve_left Bool.false_ne_true) payload

lemma Orderly.readChunk {chunks : List Bytes} (inv : st.Orderly)
    (flying : st.fetching = some fetch) (got : st.conversions[fetch.conversion]? = some conv)
    (ans : conv.Answers fetch.request) (incr : fetch.isIncr = true)
    (stage : conv.stage = .sending chunks false) (quiet : st.eventsFor fetch.conversion = [])
    (shows : Shows st.property fetch.conversion false bytes)
    (made : conv.produced = some (fetch.buf ++ bytes ++ chunks.flatten))
    (nonempty : [] ∉ bytes :: chunks) (own : st.propertyIsFor fetch.conversion)
    (small : fetch.buf = [] ∨ bytes.length ≤ transferLimit) : st.onPropertyNotify.Sound := by
  have deleted := inv.deleteProperty
  unfold XState.onPropertyNotify
  rw [flying]
  dsimp only
  rw [if_pos incr, transferred_of_shows shows own]
  rw [deleteProperty_of_shows shows] at deleted ⊢
  by_cases long : transferLimit < bytes.length
  · -- a chunk over the limit reads as the end
    rw [if_pos long, if_pos isEmpty_nil]
    apply deleted.finishFetch
    intro _ same
    cases flying.symm.trans same
    exact .inl (small.resolve_right (Nat.not_le.mpr long))
  · have going : ¬ bytes.isEmpty = true := by
      rw [List.isEmpty_iff]
      rintro rfl
      exact nonempty (.head _)
    rw [if_neg long, if_neg going]
    split
    · exact deleted.finishEmpty
    · refine ⟨deleted.setBuf, ?_⟩
      intro _ filled
      obtain ⟨_, same, rfl⟩ := map_eq_some_iff.mp filled
      cases flying.symm.trans same
      refine ⟨conv.seeDeleted, ?_, ⟨ans.selection, ans.target,
        ans.landing⟩, .between ?_ quiet incr made
          (fun mem => nonempty (.tail _ mem))⟩
      · dsimp only [XState.setBuf]
        rw [getElem?_map, got]
        rfl
      · unfold Conversion.seeDeleted
        rw [stage]
        rfl

lemma Orderly.readLast (inv : st.Orderly) (flying : st.fetching = some fetch)
    (got : st.conversions[fetch.conversion]? = some conv)
    (ans : conv.Answers fetch.request) (incr : fetch.isIncr = true)
    (shows : Shows st.property fetch.conversion false []) (made : conv.produced = some fetch.buf)
    (own : st.propertyIsFor fetch.conversion) : st.onPropertyNotify.Sound := by
  have deleted := inv.deleteProperty
  unfold XState.onPropertyNotify
  rw [flying]
  dsimp only
  rw [if_pos incr, transferred_of_shows shows own]
  rw [deleteProperty_of_shows shows] at deleted ⊢
  apply deleted.finishFetch
  intro _ same
  cases flying.symm.trans same
  exact (own_of_produced got ans made).grows Grows.seeDeleted

lemma Sound.onPropertyNotify {sent : Option Nat} (inv : st.Sound)
    (queued : st.events = .propertyNotify sent :: rest) (takes : st.TakesOwn .deliver) :
    (XState.onPropertyNotify { st with events := rest }).Sound := by
  rcases eq_none_or_eq_some st.fetching with idle | ⟨fetch, flying⟩
  · unfold XState.onPropertyNotify
    rw [idle]
    dsimp only
    rw [← idle]
    apply inv.skip queued
    intro fetch flying
    rw [idle] at flying
    cases flying
  · by_cases incr : fetch.isIncr = true
    · unfold TakesOwn at takes
      rw [queued, flying] at takes
      obtain ⟨rfl, own, small⟩ := takes.resolve_left (by rw [incr]; exact Bool.noConfusion)
      obtain ⟨_, got, ans, prog⟩ := inv.inFlight fetch flying
      have mine : XEvent.isFor fetch.conversion
          (.propertyNotify (some fetch.conversion)) = true := decide_eq_true rfl
      rw [eventsFor_of_cons queued, if_pos mine] at prog
      have taken := inv.toOrderly.take queued
      obtain ⟨quiet, ⟨_, _, stage, shows, made, nonempty⟩ | ⟨shows, made⟩⟩ :=
        prog.of_propertyNotify incr
      · apply taken.readChunk flying got ans incr stage quiet shows made nonempty own
        apply small.imp_right
        intro within
        obtain ⟨val, has, same⟩ := shows
        rw [← (same (own val has)).2]
        exact within val has
      · exact taken.readLast flying got ans incr shows made own
    · unfold XState.onPropertyNotify
      rw [flying]
      dsimp only
      rw [if_neg incr, ← flying]
      apply inv.skip queued
      intro _ same _
      cases flying.symm.trans same
      exact (Bool.not_eq_true _).mp incr

end XState

variable {other : Nat} {written : Bool} {data : Bytes}

lemma shows_of_other (ne : num ≠ other) :
    Shows (some { isIncr := written, bytes := data, writtenFor := some other }) num isIncr bytes :=
  ⟨_, rfl, fun same => absurd (Option.some.inj same).symm ne⟩

lemma shows_written : Shows (some { isIncr, bytes, writtenFor := some num }) num isIncr bytes :=
  ⟨_, rfl, fun _ => ⟨rfl, rfl⟩⟩

variable {chunks : Option (List Bytes)}

lemma First.overwritten (first : First property num conv chunks) (ne : num ≠ other) :
    First (some { isIncr := written, bytes := data, writtenFor := some other }) num
      conv chunks := by
  cases first with
  | whole made => exact .whole made (shows_of_other ne)
  | announced made nonempty => exact .announced made nonempty (shows_of_other ne)

lemma Progress.overwritten {evs : List XEvent} {fetch : Fetching}
    (prog : Progress evs property fetch conv) (ne : fetch.conversion ≠ other) :
    Progress evs (some { isIncr := written, bytes := data, writtenFor := some other })
      fetch conv := by
  cases prog with
  | asked stage quiet plain empty => exact .asked stage quiet plain empty
  | refused stage unheard plain empty => exact .refused stage unheard plain empty
  | wrote stage unheard plain empty first =>
    exact .wrote stage unheard plain empty (first.overwritten ne)
  | told stage unheard plain empty first =>
    exact .told stage unheard plain empty (first.overwritten ne)
  | between stage quiet incr made nonempty => exact .between stage quiet incr made nonempty
  | chunk stage unheard incr _ made nonempty =>
    exact .chunk stage unheard incr (shows_of_other ne) made nonempty
  | last stage unheard incr _ made =>
    exact .last stage unheard incr (shows_of_other ne) made

/-- The owner of a conversion has gone on with it. -/
structure Conversion.Later (before after : Conversion) : Prop where
  selection : after.selection = before.selection
  target : after.target = before.target
  landing : after.landing = before.landing
  produced : before.stage = .asked ∨ after.produced = before.produced
  answered : after.stage ≠ .asked

namespace XState

lemma Orderly.proceed (inv : st.Orderly) (got : st.conversions[num]? = some conv)
    (goes : conv.Later later) : (st.proceed num later).Orderly := by
  have grows : Grows st.conversions (st.conversions.set num later) := by
    intro other old has
    by_cases same : num = other
    · subst same
      cases got.symm.trans has
      refine ⟨later, getElem?_set_self (List.getElem?_eq_some_iff.mp got).1,
        goes.selection, goes.target, goes.landing, ?_⟩
      intro _ made
      rcases goes.produced with asked | kept
      · rw [inv.unanswered _ (mem_of_getElem? got) asked] at made
        cases made
      · exact kept.trans made
    · exact ⟨old, (getElem?_set_ne same).trans has, rfl, rfl, rfl, fun _ kept => kept⟩
  refine ⟨?_, ?_, ?_⟩
  · intro event mem other sent
    dsimp only [XState.proceed]
    rw [length_set]
    exact inv.numbered event mem other sent
  · intro other mem asked
    rcases mem_or_eq_of_mem_set mem with old | rfl
    · exact inv.unanswered other old asked
    · exact absurd asked goes.answered
  · intro written mem
    exact (inv.own written mem).grows grows

lemma Orderly.post (inv : st.Orderly)
    (lt : ∀ num, event.isFor num = true → num < st.conversions.length) :
    (st.post event).Orderly := by
  refine ⟨?_, inv.unanswered, inv.own⟩
  intro other mem num sent
  rcases mem_append.mp mem with old | new
  · exact inv.numbered other old num sent
  · rw [mem_singleton.mp new] at sent
    exact lt num sent

/-- An owner goes on with a conversion, may write the property, and sends an event. -/
lemma Sound.goOn {property : Option Value} (inv : st.Sound)
    (got : st.conversions[num]? = some conv) (goes : conv.Later later)
    (sent : ∀ other, event.isFor other = true ↔ other = num)
    (writes : property = st.property ∨ ∃ isIncr bytes,
      property = some { isIncr, bytes, writtenFor := some num })
    (moves : ∀ fetch, fetch.conversion = num → conv.Answers fetch.request →
      Progress (st.eventsFor num) st.property fetch conv →
      Progress (st.eventsFor num ++ [event]) property fetch later) :
    Sound ({ st.proceed num later with property := property }.post event) := by
  have lt := (List.getElem?_eq_some_iff.mp got).1
  have gone : Orderly { st.proceed num later with property := property } :=
    ⟨(inv.toOrderly.proceed got goes).numbered,
      (inv.toOrderly.proceed got goes).unanswered, (inv.toOrderly.proceed got goes).own⟩
  refine ⟨gone.post ?_, ?_⟩
  · intro other mine
    rw [(sent other).mp mine]
    exact lt.trans_eq (length_set ..).symm
  · intro fetch flying
    obtain ⟨old, has, ans, prog⟩ := inv.inFlight fetch flying
    have evs : ∀ other, eventsFor
        ({ st.proceed num later with property := property }.post event) other =
          st.eventsFor other ++ [event].filter (XEvent.isFor other) := fun other => filter_append ..
    rw [evs]
    by_cases same : fetch.conversion = num
    · rw [same] at has prog ⊢
      cases got.symm.trans has
      refine ⟨later, getElem?_set_self lt, ⟨goes.selection.trans ans.selection,
        goes.target.trans ans.target, goes.landing.trans ans.landing⟩, ?_⟩
      rw [filter_cons_of_pos ((sent num).mpr rfl), filter_nil]
      exact moves fetch same ans prog
    · refine ⟨old, (getElem?_set_ne (Ne.symm same)).trans has, ans, ?_⟩
      rw [filter_cons_of_neg (fun mine => same ((sent _).mp mine)), filter_nil, append_nil]
      rcases writes with rfl | ⟨_, _, rfl⟩
      · exact prog
      · exact prog.overwritten same

end XState

namespace Progress

variable {chunks : List Bytes}

section

variable (prog : Progress evs property fetch conv)
include prog

lemma of_asked (asked : conv.stage = .asked) :
    evs = [] ∧ fetch.isIncr = false ∧ fetch.buf = [] := by
  cases prog with
  | asked _ quiet plain empty => exact ⟨quiet, plain, empty⟩
  | refused stage | wrote stage | between stage | chunk stage | last stage =>
    rw [asked] at stage
    cases stage
  | @told chunks stage =>
    rw [asked] at stage
    cases chunks <;> cases stage

lemma of_wrote {wrote : Option (List Bytes)} {deleted : Bool}
    (written : conv.stage = .wrote wrote deleted) :
    deleted = false ∧ evs <:+ [.propertyNotify (some fetch.conversion)] ∧
      fetch.isIncr = false ∧ fetch.buf = [] ∧ First property fetch.conversion conv wrote := by
  cases prog with
  | wrote stage unheard plain empty first =>
    rw [written] at stage
    cases stage
    exact ⟨rfl, unheard, plain, empty, first⟩
  | asked stage | refused stage | between stage | chunk stage | last stage =>
    rw [written] at stage
    cases stage
  | @told chunks stage =>
    rw [written] at stage
    cases chunks <;> cases stage

lemma of_sending (sending : conv.stage = .sending chunks true) : evs = [] ∧ fetch.isIncr = true ∧
      conv.produced = some (fetch.buf ++ chunks.flatten) ∧ [] ∉ chunks := by
  cases prog with
  | between stage quiet incr made nonempty =>
    rw [sending] at stage
    cases stage
    exact ⟨quiet, incr, made, nonempty⟩
  | asked stage | refused stage | wrote stage | chunk stage | last stage =>
    rw [sending] at stage
    cases stage
  | @told chunks stage =>
    rw [sending] at stage
    cases chunks <;> cases stage

end

end Progress

lemma First.of_produced {later : Conversion} (first : First property num conv chunks)
    (same : later.produced = conv.produced) : First property num later chunks := by
  cases first with
  | whole made shows => exact .whole (same.trans made) shows
  | announced made nonempty shows => exact .announced (same.trans made) nonempty shows

namespace XState

lemma isFor_selectionNotify_iff {selection : SelectionTarget} {target : String}
    {refused : Bool} (other : Nat) :
    XEvent.isFor other (.selectionNotify num selection target refused) = true ↔ other = num := by
  unfold XEvent.isFor
  rw [decide_eq_true_iff, eq_comm]

lemma isFor_propertyNotify_iff (other : Nat) :
    XEvent.isFor other (.propertyNotify (some num)) = true ↔ other = num := by
  unfold XEvent.isFor
  rw [decide_eq_true_iff, Option.some.injEq, eq_comm]

section

variable (inv : st.Sound)
include inv

section

variable (got : st.conversions[num]? = some conv)
include got

section

variable (asked : conv.stage = .asked)
include asked

lemma Sound.refuse : ((st.proceed num { conv with stage := .done }).notify num conv
      true).Sound := by
  refine inv.goOn got ⟨rfl, rfl, rfl, .inr rfl, by simp⟩ isFor_selectionNotify_iff (.inl rfl) ?_
  rintro _ rfl _ prog
  obtain ⟨quiet, plain, empty⟩ := prog.of_asked asked
  rw [quiet]
  exact .refused rfl (suffix_refl _) plain empty

lemma Sound.writeFirst {chunks : Option (List Bytes)} {all bytes : Bytes} {isIncr : Bool}
    (first : First (some { isIncr, bytes, writtenFor := some num }) num
      { conv with stage := .wrote chunks false, produced := some all } chunks) :
    ((st.proceed num { conv with
      stage := .wrote chunks false, produced := some all }).write num isIncr bytes).Sound := by
  refine inv.goOn got ⟨rfl, rfl, rfl, .inl asked, by simp⟩ isFor_propertyNotify_iff
    (.inr ⟨_, _, rfl⟩) ?_
  rintro _ rfl _ prog
  obtain ⟨quiet, plain, empty⟩ := prog.of_asked asked
  rw [quiet]
  exact .wrote rfl (suffix_refl _) plain empty first

end

lemma Sound.tell {chunks : Option (List Bytes)} {deleted : Bool} {stage : Stage}
    (wrote : conv.stage = .wrote chunks deleted)
    (follows : deleted = false → stage = .afterFirst chunks) (answered : stage ≠ .asked) :
    ((st.proceed num { conv with stage }).notify num conv false).Sound := by
  refine inv.goOn got ⟨rfl, rfl, rfl, .inr rfl, answered⟩ isFor_selectionNotify_iff
    (.inl rfl) ?_
  rintro _ rfl _ prog
  obtain ⟨untouched, unheard, plain, empty, first⟩ := prog.of_wrote wrote
  refine .told (follows untouched) ?_ plain empty (first.of_produced rfl)
  obtain ⟨pre, split⟩ := unheard
  exact ⟨pre, by rw [← append_assoc, split]; rfl⟩

lemma Sound.sendLast (sending : conv.stage = .sending [] true) :
    ((st.proceed num { conv with stage := .done }).write num false []).Sound := by
  refine inv.goOn got ⟨rfl, rfl, rfl, .inr rfl, by simp⟩ isFor_propertyNotify_iff
    (.inr ⟨_, _, rfl⟩) ?_
  rintro _ rfl _ prog
  obtain ⟨quiet, incr, made, _⟩ := prog.of_sending sending
  rw [quiet]
  rw [flatten_nil, append_nil] at made
  exact .last rfl rfl incr shows_written made

lemma Sound.sendChunk {chunk : Bytes} {chunks : List Bytes}
    (sending : conv.stage = .sending (chunk :: chunks) true) :
    ((st.proceed num { conv with stage := .sending chunks false }).write num
      false chunk).Sound := by
  refine inv.goOn got ⟨rfl, rfl, rfl, .inr rfl, by simp⟩ isFor_propertyNotify_iff
    (.inr ⟨_, _, rfl⟩) ?_
  rintro _ rfl _ prog
  obtain ⟨quiet, incr, made, nonempty⟩ := prog.of_sending sending
  rw [quiet]
  rw [flatten_cons, ← append_assoc] at made
  exact .chunk rfl rfl incr shows_written made nonempty

lemma Sound.ownerStep {op : Op} (ran : Selection.ownerStep st num conv op = some after) :
    after.Sound := by
  cases op with
  | fetch | expire | deliver | ownerChange => cases ran
  | refuse =>
    obtain ⟨asked, ⟨⟩⟩ := ite_none_right_eq_some.mp ran
    exact inv.refuse got asked
  | offerTargets =>
    obtain ⟨⟨asked, landing⟩, ⟨⟩⟩ := ite_none_right_eq_some.mp ran
    have gone : ((st.proceed num { conv with stage := .done }).notify num
        conv false).Sound := by
      refine inv.goOn got ⟨rfl, rfl, rfl, .inr rfl, by simp⟩ isFor_selectionNotify_iff
        (.inl rfl) ?_
      intro _ _ ans _
      rw [ans.landing] at landing
      cases landing
    exact ⟨⟨gone.numbered, gone.unanswered, gone.own⟩, gone.inFlight⟩
  | answer =>
    obtain ⟨⟨asked, _⟩, ⟨⟩⟩ := ite_none_right_eq_some.mp ran
    exact inv.writeFirst got asked (.whole rfl shows_written)
  | answerIncr =>
    obtain ⟨⟨asked, _, nonempty⟩, ⟨⟩⟩ := ite_none_right_eq_some.mp ran
    exact inv.writeFirst got asked (.announced rfl nonempty shows_written)
  | tell =>
    dsimp only [Selection.ownerStep] at ran
    split at ran
    next wrote =>
      cases ran
      exact inv.tell got wrote (fun _ => rfl) (by simp)
    next wrote =>
      cases ran
      exact inv.tell got wrote (fun untouched => by rw [untouched]; rfl) (by simp)
    · cases ran
  | sendChunk =>
    dsimp only [Selection.ownerStep] at ran
    split at ran
    next sending =>
      cases ran
      exact inv.sendLast got sending
    next sending =>
      cases ran
      exact inv.sendChunk got sending
    · cases ran

end

lemma Sound.startFetch {req : Fetch} : (st.startFetch req).Sound := by
  rcases eq_none_or_eq_some st.fetching with idle | ⟨_, flying⟩
  · exact inv.toOrderly.startFetch idle
  · unfold XState.startFetch
    rw [if_pos (by rw [flying]; rfl)]
    exact ⟨⟨inv.numbered, inv.unanswered, inv.own⟩, inv.inFlight⟩

lemma Sound.onOwnerChange {selection : SelectionTarget} {owner : Owner}
    : (st.onOwnerChange selection owner).Sound := by
  cases owner with
  | bridge => exact inv
  | nobody => exact ⟨⟨inv.numbered, inv.unanswered, inv.own⟩, inv.inFlight⟩
  | client =>
    have asked : (st.convertSelection selection "TARGETS" .targets).Orderly :=
      inv.toOrderly.convertSelection
    refine ⟨⟨asked.numbered, asked.unanswered, asked.own⟩, ?_⟩
    intro fetch flying
    obtain ⟨conv, got, ans, prog⟩ := inv.inFlight fetch flying
    refine ⟨conv, ?_, ans, prog⟩
    exact (getElem?_append_left (List.getElem?_eq_some_iff.mp got).1).trans got

lemma Sound.step {op : Op} (takes : st.TakesOwn op)
    (ran : Selection.step st op = some after) : after.Sound := by
  have byOwner : ∀ num, (st.conversions[num]?.bind fun conv =>
      Selection.ownerStep st num conv op) = some after → after.Sound := by
    intro num acted
    obtain ⟨conv, got, acted⟩ := Option.bind_eq_some_iff.mp acted
    exact inv.ownerStep got acted
  cases op with
  | fetch =>
    cases ran
    exact inv.startFetch
  | expire =>
    obtain ⟨_, ⟨⟩⟩ := ite_none_right_eq_some.mp ran
    exact inv.toOrderly.finishEmpty
  | deliver =>
    dsimp only [Selection.step] at ran
    split at ran
    · cases ran
    next event _ queued =>
    cases ran
    cases event with
    | ownerChange => exact (inv.skip queued (fun _ _ own => Bool.noConfusion own)).onOwnerChange
    | selectionNotify => exact inv.onSelectionNotify queued takes
    | propertyNotify => exact inv.onPropertyNotify queued takes
  | ownerChange selection owner =>
    cases ran
    refine ⟨inv.toOrderly.post (fun _ own => Bool.noConfusion own), ?_⟩
    intro fetch flying
    obtain ⟨conv, got, ans, prog⟩ := inv.inFlight fetch flying
    refine ⟨conv, got, ans, ?_⟩
    have same : (st.post (.ownerChange selection owner)).eventsFor fetch.conversion =
        st.eventsFor fetch.conversion := by
      unfold eventsFor XState.post
      rw [filter_append, filter_cons_of_neg Bool.false_ne_true, filter_nil, append_nil]
    rw [same]
    exact prog
  | refuse num | offerTargets num | answer num => exact byOwner num ran
  | answerIncr num | tell num | sendChunk num => exact byOwner num ran

end

lemma sound_start : start.Sound := by
  refine ⟨⟨?_, ?_, ?_⟩, ?_⟩
  · intro _ mem _ sent
    rw [mem_singleton.mp mem] at sent
    cases sent
  · intro _ mem
    cases mem
  · intro _ mem
    cases mem
  · intro _ flying
    cases flying

end XState

open XState

/-- A pasting client is given nothing, or all that the owner produced for its own request, as
long as the bridge takes only answers to the conversion in flight for answers to it. -/
theorem pasted_from_own_conversion {ops : List Op} {state : XState}
    (run : Runs step TakesOwn start ops state) : ∀ written ∈ state.written, written.bytes = [] ∨
      ∃ conversion, state.conversions[written.conversion]? = some conversion ∧
        conversion.selection = written.request.target ∧
        conversion.target = targetFor written.request.mimeType ∧
        conversion.produced = some written.bytes := by
  have sound : state.Sound :=
    run.invariant Sound (fun takes stepped sound => sound.step takes stepped) sound_start
  intro written member
  rcases sound.own written member with empty | ⟨conversion, found, answers, produced⟩
  · exact .inl empty
  · exact .inr ⟨conversion, found, answers.selection, answers.target, produced⟩

/-- One paste after the other, the second in chunks, the third given up. -/
def inTurn : List Op :=
  [.deliver, .fetch ⟨.clipboard, "text/plain", 1⟩, .fetch ⟨.primary, "image/png", 2⟩,
    .answer 0 [65, 66], .tell 0, .deliver, .deliver,
    .answerIncr 1 [[1, 2], [3]], .tell 1, .deliver, .deliver, .sendChunk 1, .deliver,
    .sendChunk 1, .deliver, .sendChunk 1, .fetch ⟨.clipboard, "text/plain", 3⟩, .deliver, .expire]

theorem pasted_from_own_conversion_inTurn : ∃ state, Runs step TakesOwn start inTurn state ∧
      state.written.map Written.bytes = [[65, 66], [1, 2, 3], []] ∧
      ∀ written ∈ state.written, written.bytes = [] ∨
        ∃ conversion, state.conversions[written.conversion]? = some conversion ∧
          conversion.selection = written.request.target ∧
          conversion.target = targetFor written.request.mimeType ∧
          conversion.produced = some written.bytes := by
  exact ⟨_, runs_get (by decide +kernel), by decide +kernel, pasted_from_own_conversion (runs_get _)⟩

/-- A paste is given up, another is begun, and then the owner of the first one answers. -/
def answeredLate : List Op :=
  [.deliver, .fetch ⟨.clipboard, "text/plain", 1⟩, .expire,
    .fetch ⟨.primary, "image/png", 2⟩, .answer 0 [65], .tell 0, .deliver, .deliver]

theorem pasted_from_other_conversion :
    ∃ state, Runs step (fun _ _ => True) start answeredLate state ∧
      ∃ written ∈ state.written, written.request = ⟨.primary, "image/png", 2⟩ ∧
        written.bytes = [65] ∧ state.conversions[written.conversion]?.map
          Conversion.produced = some none := by
  exact ⟨_, runs_get (by decide +kernel), by decide +kernel⟩

end Synoik.Selection
