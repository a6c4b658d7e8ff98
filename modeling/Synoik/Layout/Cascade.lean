import Mathlib.Algebra.Order.Round
import Mathlib.Data.List.Sort
import Mathlib.Data.Rat.Floor
import Mathlib.Tactic.Linarith

/-!
# Cascading new windows

The slot of a new window starts at the centre of the work area and steps past every window
that sits on it. The windows are walked once, the nearest to the centre first. Coordinates
are exact.
-/

namespace Synoik.Cascade

structure Point where
  x : ℚ
  y : ℚ

structure Rect where
  loc : Point
  w : ℚ
  h : ℚ

def Rect.right (rect : Rect) : ℚ := rect.loc.x + rect.w

def Rect.bottom (rect : Rect) : ℚ := rect.loc.y + rect.h

def fuzz : ℚ := 15

def step : ℚ := 50

def interval : ℚ := 50

def sitsAt (pos cascade : Point) : Prop :=
  |pos.x - cascade.x| < fuzz ∧ |pos.y - cascade.y| < fuzz
deriving Decidable

/-- The work area, and the size of the new window. -/
structure Place where
  area : Rect
  w : ℚ
  h : ℚ

namespace Place

variable (place : Place)

def center : Point :=
  ⟨place.area.loc.x + place.area.w / 2 - place.w / 2,
    place.area.loc.y + place.area.h / 2 - place.h / 2⟩

def origin : Point := ⟨place.center.x, max 0 place.center.y⟩

/-- The squared distance from the centered corner. -/
def dist (pos : Point) : ℚ :=
  (place.center.x - pos.x) * (place.center.x - pos.x) +
    (place.center.y - pos.y) * (place.center.y - pos.y)

/-- One walk over the windows: the slot they leave, or none if it left the work area. -/
def walk : List Point → Point → Option Point
  | [], cascade => some cascade
  | pos :: others, cascade =>
    if sitsAt pos cascade then
      let cascade : Point := ⟨pos.x + step, pos.y + step⟩
      if cascade.x + place.w > place.area.right ∨ cascade.y + place.h > place.area.bottom then
        none
      else walk others cascade
    else walk others cascade

/-- Where the walk of a stage starts. -/
def slot (stage : Nat) : Point := ⟨place.origin.x + stage * interval, place.origin.y⟩

/-- No walk starts after this stage. -/
def lastStage : ℤ := ⌈(place.area.right - place.w - place.origin.x) / interval⌉

/-- The walks from a stage on, each an interval further right. -/
def restart (others : List Point) (stage : Nat) : Point :=
  let start := place.slot stage
  if start.x + place.w > place.area.right ∨ start.x < place.area.loc.x then place.origin
  else
    match place.walk others start with
    | some cascade => cascade
    | none => restart others (stage + 1)
termination_by (place.lastStage + 1 - stage).toNat
decreasing_by
  rename_i inside
  have reached : (stage : ℚ) ≤ (place.area.right - place.w - place.origin.x) / interval := by
    rw [le_div_iff₀ (by norm_num [interval])]
    linarith [not_lt.mp (not_or.mp inside).1, show start.x = _ + stage * interval from rfl]
  have last : (stage : ℤ) ≤ place.lastStage := by exact_mod_cast reached.trans (Int.le_ceil _)
  omega

def findNextCascade (windows : List Rect) : Point :=
  place.restart ((windows.map Rect.loc).insertionSort fun a b => place.dist a ≤ place.dist b) 0

variable {place} {others pre : List Point} {cascade res pos other : Point}

/-- A slot is nowhere left of the centre or above it. -/
structure Ahead (place : Place) (cascade : Point) : Prop where
  x : place.center.x ≤ cascade.x
  y : place.center.y ≤ cascade.y

section

variable (ahead : Ahead place cascade)
include ahead

lemma Ahead.sits (sits : sitsAt pos cascade) :
    place.center.x - 15 < pos.x ∧ place.center.y - 15 < pos.y := by
  simp only [sitsAt, fuzz, abs_lt] at sits
  constructor <;> linarith [ahead.x, ahead.y, sits.1.1, sits.2.1]

lemma Ahead.next (sits : sitsAt pos cascade) : Ahead place ⟨pos.x + step, pos.y + step⟩ := by
  obtain ⟨_, _⟩ := ahead.sits sits
  constructor <;> simp only [step] <;> linarith

/-- What sits at the slot past a window is further from the centre than the window. -/
lemma Ahead.dist_lt (sits : sitsAt pos cascade)
    (next : sitsAt other ⟨pos.x + step, pos.y + step⟩) : place.dist pos < place.dist other := by
  obtain ⟨_, _⟩ := ahead.sits sits
  simp only [sitsAt, fuzz, step, abs_lt] at next
  have wider : 0 < (other.x - pos.x) * (other.x - pos.x + 2 * (pos.x - place.center.x)) :=
    mul_pos (by linarith) (by linarith)
  have deeper : 0 < (other.y - pos.y) * (other.y - pos.y + 2 * (pos.y - place.center.y)) :=
    mul_pos (by linarith) (by linarith)
  simp only [dist]
  linarith

end

/-- No window sits at the slot that a walk ends with: those passed before the last step are
no further from the centre than the window it stepped past. -/
lemma walk_clear (sorted : (pre ++ others).Pairwise fun a b => place.dist a ≤ place.dist b)
    (ahead : Ahead place cascade) (clear : ∀ pos ∈ pre, ¬ sitsAt pos cascade)
    (walked : place.walk others cascade = some res) : ∀ pos ∈ pre ++ others, ¬ sitsAt pos res := by
  induction others generalizing pre cascade with
  | nil =>
    cases walked
    simpa using clear
  | cons pos _ ih =>
    rw [List.append_cons] at sorted ⊢
    rw [walk] at walked
    split at walked
    next sits =>
      dsimp only at walked
      split at walked
      · cases walked
      refine ih sorted (ahead.next sits) (fun other mem next => ?_) walked
      have nearer : place.dist other ≤ place.dist pos := by
        rcases List.mem_append.mp mem with mem | mem
        · exact (List.pairwise_append.mp (List.pairwise_append.mp sorted).1).2.2 other mem pos
            (.head _)
        · rw [List.mem_singleton.mp mem]
      exact absurd nearer (not_le.mpr (ahead.dist_lt sits next))
    next _ =>
    refine ih sorted ahead (fun other mem => ?_) walked
    rcases List.mem_append.mp mem with mem | mem
    · exact clear other mem
    · rwa [List.mem_singleton.mp mem]

lemma restart_clear (sorted : others.Pairwise fun a b => place.dist a ≤ place.dist b)
    (stage : Nat) : place.restart others stage = place.origin ∨
      ∀ pos ∈ others, ¬ sitsAt pos (place.restart others stage) := by
  fun_induction place.restart others stage with
  | case1 => exact .inl rfl
  | case2 _ start _ _ walked =>
    have ahead : Ahead place start :=
      ⟨le_add_of_nonneg_right (by unfold interval; positivity), le_max_right _ _⟩
    exact .inr (@walk_clear place others [] _ _ sorted ahead nofun walked)
  | case3 _ _ _ _ ih => exact ih

/-- Cascading ends, with the origin or at a slot that no window sits at. -/
theorem findNextCascade_free (place : Place) (windows : List Rect) :
    place.findNextCascade windows = place.origin ∨
      ∀ window ∈ windows, ¬ sitsAt window.loc (place.findNextCascade windows) := by
  have sorted := List.pairwise_insertionSort (fun a b => place.dist a ≤ place.dist b)
    (windows.map Rect.loc)
  refine (restart_clear sorted 0).imp_right fun free window member => ?_
  exact free _ ((List.perm_insertionSort _ _).mem_iff.mpr (List.mem_map_of_mem member))

end Place

end Synoik.Cascade
