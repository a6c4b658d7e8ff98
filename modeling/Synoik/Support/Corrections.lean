import Mathlib.Logic.Basic

/-!
# Runs of corrections

A state is brought up to a target by a list of events. What there is to be right about it is cut
into facets. While the events left to come are safe, the next one goes through, keeps every facet
that is right, and makes those right that it fixes.
-/

namespace Synoik

variable {State Event Facet : Type*}

/-- What one event does, with others to come. -/
def CorrectsOnce (apply : State → Event → Option State) (Safe : State → List Event → Prop)
    (Right : State → Facet → Prop) (Fixes : Event → Facet → Prop) (state : State)
    (event : Event) (rest : List Event) : Prop :=
  ∃ next, apply state event = some next ∧ Safe next rest ∧
    ∀ facet, Right state facet ∨ Fixes event facet → Right next facet

structure Corrects (apply : State → Event → Option State)
    (Safe : State → List Event → Prop) (Right : State → Facet → Prop)
    (Fixes : Event → Facet → Prop) : Prop where
  step : ∀ {state : State} {event : Event} {rest : List Event}, Safe state (event :: rest) →
    CorrectsOnce apply Safe Right Fixes state event rest

/-- When every facet is right or some event fixes it, all are right after the last event. -/
lemma Corrects.run {apply : State → Event → Option State}
    {Safe : State → List Event → Prop} {Right : State → Facet → Prop}
    {Fixes : Event → Facet → Prop} (corrects : Corrects apply Safe Right Fixes)
    {st : State} {evs : List Event} (safe : Safe st evs)
    (covered : ∀ facet, Right st facet ∨ ∃ ev ∈ evs, Fixes ev facet) :
    ∃ final, evs.foldlM apply st = some final ∧ Safe final [] ∧ ∀ facet, Right final facet := by
  induction evs generalizing st with
  | nil =>
    refine ⟨st, rfl, safe, ?_⟩
    intro facet
    apply (covered facet).resolve_right
    rintro ⟨_, mem, _⟩
    cases mem
  | cons ev rest ih =>
    obtain ⟨next, done, safe, kept⟩ := corrects.step safe
    have later : ∀ facet, Right next facet ∨ ∃ ev ∈ rest, Fixes ev facet := by
      intro facet
      rcases covered facet with right | ⟨other, mem, fixes⟩
      · exact .inl (kept facet (.inl right))
      · rcases List.mem_cons.mp mem with rfl | mem
        · exact .inl (kept facet (.inr fixes))
        · exact .inr ⟨other, mem, fixes⟩
    obtain ⟨final, run, rest⟩ := ih safe later
    refine ⟨final, ?_, rest⟩
    rw [List.foldlM_cons, done]
    exact run

end Synoik
