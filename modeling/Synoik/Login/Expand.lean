import Mathlib.Data.List.Basic

/-!
# Values of the environment

A value names other variables. A default or an alternate is expanded in its turn.
-/

namespace Synoik.Login

open List

variable (env : List Char → Option (List Char))

/-- What stands before the matching brace, and after it. -/
def takeBody : Nat → List Char → List Char × List Char
  | _, [] => ([], [])
  | 0, '}' :: rest => ([], rest)
  | depth, char :: rest =>
    let depth := if char = '}' then depth - 1 else if char = '{' then depth + 1 else depth
    let (body, rest) := takeBody depth rest
    (char :: body, rest)

/-- A name, with the word after it and whether that is a default. -/
def splitWord (body : List Char) : List Char × Option (Bool × List Char) :=
  match body.dropWhile (· != ':') with
  | _ :: '-' :: word => (body.takeWhile (· != ':'), some (true, word))
  | _ :: '+' :: word => (body.takeWhile (· != ':'), some (false, word))
  | _ => (body, none)

/-- A character of a name that stands without braces. -/
def isNamed (char : Char) : Bool := char.isAlphanum || char == '_'

/-- What the body of a `${...}` stands for, its word expanded by the function given. -/
def substitute (expand : List Char → Option (List Char)) (body : List Char) : Option (List Char) :=
  let (name, word) := splitWord body
  let current := (env name).getD []
  match word with
  | none => some current
  | some (true, default) => if current.isEmpty then expand default else some current
  | some (false, alternate) => if current.isEmpty then some [] else expand alternate

/-- One turn of the loop, with the rest and the words expanded by the function given. -/
def expandWith (expand : List Char → Option (List Char)) : List Char → Option (List Char)
  | [] => some []
  | '$' :: '$' :: rest => (expand rest).map ('$' :: ·)
  | '$' :: '{' :: rest => do
    let (body, rest) := takeBody 0 rest
    let shown ← substitute env expand body
    (expand rest).map (shown ++ ·)
  | '$' :: rest =>
    let name := rest.takeWhile isNamed
    (expand (rest.dropWhile isNamed)).map
      ((if name.isEmpty then ['$'] else (env name).getD []) ++ ·)
  | char :: rest => (expand rest).map (char :: ·)

/-- None if the fuel runs out. -/
def expand : Nat → List Char → Option (List Char)
  | 0, value => if value.isEmpty then some [] else none
  | fuel + 1, value => expandWith env (expand fuel) value

/-- A value with each dollar sign doubled. -/
def escape (value : List Char) : List Char :=
  value.flatMap fun char => if char = '$' then ['$', '$'] else [char]

lemma takeBody_length (depth : Nat) (val : List Char) :
    (takeBody depth val).1.length + (takeBody depth val).2.length ≤ val.length := by
  fun_induction takeBody depth val with
  | case1 | case2 => simp
  | case3 => simp_all; omega

lemma splitWord_length {body name word : List Char} {isDefault : Bool}
    (split : splitWord body = (name, some (isDefault, word))) : word.length ≤ body.length := by
  have shorter := (dropWhile_sublist (· != ':') (l := body)).length_le
  unfold splitWord at split
  grind

lemma substitute_enough {expand : List Char → Option (List Char)} {body : List Char}
    (expands : ∀ word, word.length ≤ body.length → ∃ out, expand word = some out) :
    ∃ out, substitute env expand body = some out := by
  unfold substitute
  rcases split : splitWord body with ⟨name, _ | ⟨isDefault, word⟩⟩
  · exact ⟨_, rfl⟩
  obtain ⟨_, expanded⟩ := expands word (splitWord_length split)
  cases isDefault <;> cases empty : ((env name).getD []).isEmpty <;> simp [empty, expanded]

lemma expand_enough (fuel : Nat) (val : List Char) (enough : val.length ≤ fuel) :
    ∃ out, expand env fuel val = some out := by
  induction fuel generalizing val with
  | zero =>
    rw [length_eq_zero_iff.mp (Nat.le_zero.mp enough)]
    exact ⟨[], rfl⟩
  | succ fuel ih =>
    unfold expand
    fun_cases expandWith env (expand env fuel) val with
    | case1 => exact ⟨[], rfl⟩
    | case2 rest =>
      obtain ⟨_, expanded⟩ := ih rest (by grind)
      exact ⟨_, congrArg (Option.map _) expanded⟩
    | case3 inner body rest taken =>
      have lengths := takeBody_length 0 inner
      obtain ⟨_, expanded⟩ := ih rest (by grind)
      obtain ⟨_, shown⟩ := substitute_enough env
        fun word (_ : word.length ≤ body.length) => ih word (by grind)
      rw [shown, Option.bind_eq_bind, Option.bind_some, expanded]
      exact ⟨_, rfl⟩
    | case4 rest =>
      have shorter := (dropWhile_sublist isNamed (l := rest)).length_le
      obtain ⟨_, expanded⟩ := ih _ (Nat.le_trans shorter (Nat.le_of_succ_le_succ enough))
      exact ⟨_, congrArg (Option.map _) expanded⟩
    | case5 char rest =>
      obtain ⟨_, expanded⟩ := ih rest (by grind)
      exact ⟨_, congrArg (Option.map _) expanded⟩

lemma expand_escape (more : Nat) (val : List Char) :
    expand env ((escape val).length + more) (escape val) = some val := by
  induction val generalizing more with
  | nil => cases more <;> rfl
  | cons char val ih =>
    by_cases dollar : char = '$'
    · have doubled : escape (char :: val) = '$' :: '$' :: escape val := by
        simp [escape, dollar]
      rw [doubled, length_cons, length_cons, Nat.add_right_comm, expand, expandWith,
        Nat.add_right_comm _ 1, Nat.add_assoc, ih, dollar]
      rfl
    · have same : escape (char :: val) = char :: escape val := by simp [escape, dollar]
      rw [same, length_cons, Nat.succ_add, expand, expandWith]
      · rw [ih]
        rfl
      all_goals simp [dollar]

/-- A value with its dollar signs doubled is expanded to itself in every environment, and no
value is expanded without end. -/
theorem expand_inverts_escape (value : List Char) (more : Nat) :
    expand env ((escape value).length + more) (escape value) = some value ∧
      ∃ out, expand env (value.length + more) value = some out := by
  exact ⟨expand_escape env more value, expand_enough env _ value (Nat.le_add_right _ _)⟩

end Synoik.Login
