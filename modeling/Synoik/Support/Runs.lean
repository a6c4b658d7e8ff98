import Mathlib.Order.Basic

/-!
# Runs of a partial machine

A machine takes an operation in a state and returns the next state, or stops.
A run is a list of operations taken one after the other, each under a
condition on the state it is taken in.
-/

namespace Synoik

variable {State Op Ghost : Type*} {step : State → Op → Option State}
  {allowed allowed' : State → Op → Prop} {start middle finish : State}
  {op : Op} {ops ops' : List Op}

inductive Runs (step : State → Op → Option State) (allowed : State → Op → Prop) :
    State → List Op → State → Prop where
  | nil (state : State) : Runs step allowed state [] state
  | cons {start middle finish : State} {op : Op} {ops : List Op}
      (may : allowed start op) (stepped : step start op = some middle)
      (rest : Runs step allowed middle ops finish) :
      Runs step allowed start (op :: ops) finish

namespace Runs

/-- What every allowed step keeps, every run keeps. -/
lemma invariant (holds : State → Prop)
    (kept : ∀ {start op finish}, allowed start op → step start op = some finish →
      holds start → holds finish)
    (run : Runs step allowed start ops finish) (first : holds start) : holds finish := by
  induction run with
  | nil => exact first
  | cons may ran _ ih => exact ih (kept may ran first)

/-- A relation to a ghost state that every allowed step keeps. -/
lemma follow (relates : State → Ghost → Prop) (move : Ghost → Op → Ghost)
    (kept : ∀ {start op finish ghost}, allowed start op →
      step start op = some finish → relates start ghost → relates finish (move ghost op))
    (run : Runs step allowed start ops finish) {ghost : Ghost}
    (first : relates start ghost) : relates finish (ops.foldl move ghost) := by
  induction run generalizing ghost with
  | nil => exact first
  | cons may ran _ ih => exact ih (kept may ran first)

lemma mono (weaker : ∀ {st op}, allowed st op → allowed' st op)
    (run : Runs step allowed start ops finish) : Runs step allowed' start ops finish := by
  induction run with
  | nil => exact .nil _
  | cons may ran _ ih => exact .cons (weaker may) ran ih

end Runs

/-- Each operation meets the condition in the state it finds. -/
def Permitted (step : State → Op → Option State) (allowed : State → Op → Prop) :
    List Op → State → Prop
  | [], _ => True
  | op :: ops, state => allowed state op ∧
      ∀ middle, step state op = some middle → Permitted step allowed ops middle

lemma Runs.permitted (run : Runs step allowed start ops finish) :
    Permitted step allowed ops start := by
  induction run with
  | nil => exact trivial
  | cons may ran _ ih =>
    refine ⟨may, fun _ other => ?_⟩
    rw [ran] at other
    cases other
    exact ih

/-- A machine that goes on wherever it may runs every permitted list of
operations. -/
lemma Permitted.runs (holds : State → Prop) (prog : ∀ {st op}, holds st → allowed st op →
      ∃ middle, step st op = some middle ∧ holds middle)
    (permitted : Permitted step allowed ops start) (first : holds start) :
    ∃ finish, Runs step allowed start ops finish := by
  induction ops generalizing start with
  | nil => exact ⟨start, .nil start⟩
  | cons _ _ ih =>
    obtain ⟨may, rest⟩ := permitted
    obtain ⟨middle, ran, kept⟩ := prog first may
    obtain ⟨finish, run⟩ := ih (rest middle ran) kept
    exact ⟨finish, .cons may ran run⟩

/-- Takes the operations while the condition holds and the machine goes on. -/
def runUnder (step : State → Op → Option State) (allowed : State → Op → Prop)
    [∀ state op, Decidable (allowed state op)] : List Op → State → Option State
  | [], state => some state
  | op :: ops, state =>
    if allowed state op then (step state op).bind (runUnder step allowed ops)
    else none

lemma runs_of_runUnder [∀ st op, Decidable (allowed st op)]
    (ran : runUnder step allowed ops start = some finish) : Runs step allowed start ops finish := by
  induction ops generalizing start with
  | nil =>
    cases ran
    exact .nil _
  | cons _ _ ih =>
    unfold runUnder at ran
    split at ran
    next may =>
      obtain ⟨_, stepped, rest⟩ := Option.bind_eq_some_iff.mp ran
      exact .cons may stepped (ih rest)
    · cases ran

lemma runs_get [∀ st op, Decidable (allowed st op)]
    (ran : (runUnder step allowed ops start).isSome = true) :
    Runs step allowed start ops ((runUnder step allowed ops start).get ran) :=
  runs_of_runUnder (Option.some_get ran).symm

lemma runs_get_pair {Other : Type*} {step : State × Other → Op → Option (State × Other)}
    {allowed : State × Other → Op → Prop} {start : State × Other}
    [∀ st op, Decidable (allowed st op)] (ran : (runUnder step allowed ops start).isSome = true) :
    Runs step allowed start ops (((runUnder step allowed ops start).get ran).1,
      ((runUnder step allowed ops start).get ran).2) :=
  runs_get ran

end Synoik
