import Mathlib.Data.Option.Basic

/-!
# Computations that draw fresh numbers and may abort

A computation reads a counter, may advance it, and either returns or aborts.
An abort stands for a panic: nothing after it happens.  `Returns` is total
correctness: there is a result, and the postcondition holds of it.
-/

namespace Synoik

def FreshM (α : Type) : Type := Nat → Option (α × Nat)

namespace FreshM

variable {α β : Type}

def run (computation : FreshM α) (next : Nat) : Option (α × Nat) := computation next

instance : Monad FreshM where
  pure value := fun next => some (value, next)
  bind computation continuation := fun next =>
    match computation next with
    | none => none
    | some (value, later) => continuation value later

def fresh : FreshM Nat := fun next => some (next, next + 1)

def abort : FreshM α := fun _ => none

def unwrap : Option α → FreshM α
  | none => abort
  | some value => pure value

def ensure (condition : Bool) : FreshM Unit :=
  if condition then pure () else abort

@[simp] lemma run_pure (value : α) (next : Nat) :
    (pure value : FreshM α).run next = some (value, next) := rfl

@[simp] lemma run_abort (next : Nat) : (abort : FreshM α).run next = none := rfl

@[simp] lemma run_fresh (next : Nat) : fresh.run next = some (next, next + 1) := rfl

@[simp] lemma unwrap_some (value : α) : unwrap (some value) = pure value := rfl

@[simp] lemma unwrap_none : unwrap (none : Option α) = abort := rfl

@[simp] lemma ensure_true : ensure true = pure () := rfl

@[simp] lemma ensure_false : ensure false = abort := rfl

lemma run_bind (comp : FreshM α) (cont : α → FreshM β) (next : Nat) :
    (comp >>= cont).run next = (comp.run next).bind
        fun result => (cont result.1).run result.2 := by
  cases outcome : comp.run next with
  | none =>
    show (match comp next with
      | none => none
      | some (value, later) => cont value later) = _
    rw [show comp next = none from outcome]
    rfl
  | some result =>
    show (match comp next with
      | none => none
      | some (value, later) => cont value later) = _
    rw [show comp next = some result from outcome]
    rfl

@[simp] lemma pure_bind (value : α) (cont : α → FreshM β) :
    (pure value : FreshM α) >>= cont = cont value := rfl

@[simp] lemma abort_bind (cont : α → FreshM β) : (abort : FreshM α) >>= cont = abort := rfl

variable {next : Nat} {comp : FreshM α} {cont : α → FreshM β} {result : β × Nat}

/-- A sequence returns exactly when its first part does and the rest returns
from there. -/
lemma run_bind_some : (comp >>= cont).run next = some result ↔
      ∃ value later, comp.run next = some (value, later) ∧
        (cont value).run later = some result := by
  rw [run_bind, Option.bind_eq_some_iff]
  simp only [Prod.exists]

lemma of_bind : (comp >>= cont).run next = some result →
      ∃ value later, comp.run next = some (value, later) ∧ (cont value).run later = some result :=
  run_bind_some.mp

lemma of_ite {cond : Prop} [Decidable cond] {yes no : FreshM α} :
    (if cond then yes >>= cont else no >>= cont).run next = some result →
      ∃ value later, (if cond then yes else no).run next = some (value, later) ∧
        (cont value).run later = some result := by
  split <;> exact of_bind

lemma of_unwrap {option : Option α} : (unwrap option >>= cont).run next = some result →
      ∃ value, option = some value ∧ (cont value).run next = some result := by
  cases option with
  | none | some => simp

lemma run_ensure_eq_some {cond : Bool} {result : Unit × Nat} :
    (ensure cond).run next = some result ↔ cond = true ∧ result.2 = next := by
  cases cond <;> cases result <;> simp [eq_comm]

/-- The computation returns from this counter, with a result that meets
`post`. -/
def Returns (computation : FreshM α) (next : Nat)
    (post : α → Nat → Prop) : Prop :=
  ∃ value later, computation.run next = some (value, later) ∧ post value later

section Rules

variable {next : Nat} {value : α} {post : α → Nat → Prop}

lemma returns_pure (holds : post value next) : Returns (pure value) next post :=
  ⟨value, next, rfl, holds⟩

variable {comp : FreshM α} {cont : α → FreshM β}

lemma returns_bind {mid : α → Nat → Prop}
    {post : β → Nat → Prop} (first : Returns comp next mid)
    (rest : ∀ value later, mid value later → Returns (cont value) later post) :
    Returns (comp >>= cont) next post := by
  obtain ⟨value, later, firstReturned, holds⟩ := first
  obtain ⟨result, last, restReturned, final⟩ := rest value later holds
  exact ⟨result, last, run_bind_some.mpr ⟨value, later, firstReturned, restReturned⟩, final⟩

lemma returns_bind_of_run {later : Nat}
    {post : β → Nat → Prop} (ret : comp.run next = some (value, later))
    (rest : Returns (cont value) later post) : Returns (comp >>= cont) next post := by
  obtain ⟨result, last, restReturned, final⟩ := rest
  exact ⟨result, last, run_bind_some.mpr ⟨value, later, ret, restReturned⟩, final⟩

lemma returns_mono {weak strong : α → Nat → Prop} (holds : Returns comp next strong)
    (implies : ∀ value later, strong value later → weak value later) :
    Returns comp next weak := by
  obtain ⟨value, later, ret, strongHolds⟩ := holds
  exact ⟨value, later, ret, implies value later strongHolds⟩

/-- The computation returns from this counter, whatever it is. -/
def Completes (computation : FreshM α) (next : Nat) : Prop :=
  ∃ value later, computation.run next = some (value, later)

lemma completes_pure (value : α) : Completes (pure value) next := ⟨value, next, rfl⟩

lemma completes_bind (first : Completes comp next)
    (rest : ∀ value later, comp.run next = some (value, later) →
      Completes (cont value) later) : Completes (comp >>= cont) next := by
  obtain ⟨value, later, firstReturned⟩ := first
  obtain ⟨result, last, restReturned⟩ := rest value later firstReturned
  exact ⟨result, last, run_bind_some.mpr ⟨value, later, firstReturned, restReturned⟩⟩

lemma completes_map {pack : α → β} (first : Completes comp next) :
    Completes (comp >>= fun value => pure (pack value)) next :=
  completes_bind first fun _ _ _ => completes_pure _

lemma completes_unwrap {option : Option α} (got : option = some value)
    (rest : Completes (cont value) next) :
    Completes (unwrap option >>= cont) next := by
  rw [got]
  exact rest

lemma completes_ite_bind {cond : Prop} [Decidable cond] {yes no : FreshM α}
    (first : Completes (if cond then yes else no) next)
    (rest : ∀ value later, (if cond then yes else no).run next =
      some (value, later) → Completes (cont value) later) :
    Completes (if cond then yes >>= cont else no >>= cont) next := by
  split at first <;> simp_all only [if_true, if_false] <;> exact completes_bind first rest

/-- Whatever the computation returns meets the postcondition. -/
lemma Returns.ensures (holds : Returns comp next post)
    (value : α) (later : Nat) (ret : comp.run next = some (value, later)) :
    post value later := by
  obtain ⟨_, _, other, final⟩ := holds
  rw [ret] at other
  cases other
  exact final

lemma Returns.completes (holds : Returns comp next post) : Completes comp next := by
  obtain ⟨value, later, ret, _⟩ := holds
  exact ⟨value, later, ret⟩

end Rules

end FreshM

end Synoik
