import Mathlib.Order.Bounds.Basic

/-!
# The frame clock

Times are whole nanoseconds. A display with a fixed refresh rate presents a whole number of
intervals after its last presentation. The clock aims a frame at the next presentation, and may
hold it until there is just time enough to render it.
-/

namespace Synoik

structure RenderTimeEstimate where
  shorttermMax : Nat := 0
  longtermMax : Nat := 0

def RenderTimeEstimate.get (estimate : RenderTimeEstimate) : Nat :=
  max estimate.longtermMax estimate.shorttermMax

structure FrameClock where
  lastPresentationTime : Option Nat := none
  refreshInterval : Option { interval : Nat // 0 < interval }
  vrr : Bool := false
  renderTime : RenderTimeEstimate := {}

/-- When to build the next frame, and which presentation to aim it at. -/
inductive Dispatch where
  | now (target : Nat)
  | startAt (start target : Nat)
deriving DecidableEq

/-- Where a moment sits in the display's refresh cadence. -/
inductive Cadence where
  | immediate (now : Nat)
  | locked (boundary sinceLastPresentation now refreshInterval : Nat)

namespace FrameClock

variable (clock : FrameClock)

/-- The time that an early vblank is taken for, one early by more than an interval also. -/
def nudged (last interval now : Nat) : Nat :=
  if now ≤ last then
    if now + interval < last then last + interval else now + interval
  else now

def cadence (now : Nat) : Cadence :=
  match clock.refreshInterval, clock.lastPresentationTime with
  | some interval, some last =>
    let now := nudged last interval now
    let toNext := ((now - last) / interval + 1) * interval
    if clock.vrr ∧ interval < toNext then .immediate now
    else .locked (last + toNext) toNext now interval
  | _, _ => .immediate now

/-- Advances the target past the vblanks that the frame cannot reach, in so many rounds. -/
def advance (now interval : Nat) : Nat → Nat → Nat
  | 0, target => target
  | rounds + 1, target =>
    if now ≤ target - clock.renderTime.get then target
    else advance now interval rounds (target + interval)

def reachable (target now interval : Nat) : Nat := clock.advance now interval 2 target

def nextTargetFrom (now : Nat) (advancePastUnreachable : Bool) : Nat :=
  match clock.cadence now with
  | .immediate now => now
  | .locked boundary _ now interval =>
    if advancePastUnreachable then clock.reachable boundary now interval else boundary

def dispatchFromWith (now : Nat) (deadlineDispatch : Bool) (margin : Nat) : Dispatch :=
  match clock.cadence now with
  | .immediate now => .now now
  | .locked boundary sinceLast now interval =>
    let immediately := Dispatch.now (clock.reachable boundary now interval)
    let estimate := clock.renderTime.get
    if interval < sinceLast ∨ estimate = 0 ∨ deadlineDispatch = false then immediately
    else
      let start := boundary - (estimate + margin)
      if start ≤ now then immediately else .startAt start boundary

variable {clock} {interval : { interval : Nat // 0 < interval }} {last now : Nat}
  (paced : clock.refreshInterval = some interval)
  (presented : clock.lastPresentationTime = some last)

include paced presented

lemma nextTargetFrom_late (fixed : clock.vrr = false) (late : last < now) :
    clock.nextTargetFrom now false = last + ((now - last) / interval + 1) * interval := by
  simp [nextTargetFrom, cadence, nudged, paced, presented, fixed, Nat.not_le.mpr late]

lemma nextTargetFrom_early (fixed : clock.vrr = false) (early : now ≤ last) :
    clock.nextTargetFrom now false =
      last + if now ≠ last ∧ last ≤ now + interval then interval.1 else 2 * interval := by
  have positive := interval.2
  unfold nextTargetFrom cadence nudged
  rw [paced, presented]
  simp only [early, fixed, if_true, Bool.false_eq_true, false_and, if_false]
  by_cases far : now + interval < last
  · rw [if_pos far, Nat.add_sub_cancel_left, Nat.div_self positive, if_neg (by omega)]
  · rw [if_neg far]
    by_cases same : now = last
    · rw [same, Nat.add_sub_cancel_left, Nat.div_self positive, if_neg (by simp)]
    · rw [Nat.div_eq_of_lt (by omega), if_pos ⟨same, by omega⟩, Nat.zero_add, Nat.one_mul]

/-- The estimate is the next vblank, except at the very moment of the last presentation and
more than an interval before it, where it is the one after. -/
theorem estimate_is_next_vblank_iff (fixed : clock.vrr = false) :
    (IsLeast { time | (∃ k, 1 ≤ k ∧ time = last + k * interval) ∧ now < time }
        (clock.nextTargetFrom now false) ↔ now ≠ last ∧ last ≤ now + interval) ∧
      ∀ later, now ≤ later → now ≠ last ∧ last ≤ now + interval → later ≠ last →
        clock.nextTargetFrom now false ≤ clock.nextTargetFrom later false := by
  have positive := interval.2
  have least : ∀ now, now ≠ last ∧ last ≤ now + interval →
      IsLeast { time | (∃ k, 1 ≤ k ∧ time = last + k * interval) ∧ now < time }
        (clock.nextTargetFrom now false) := by
    intro now regular
    rcases Nat.lt_or_ge last now with late | early
    · rw [nextTargetFrom_late paced presented fixed late]
      have above := Nat.lt_mul_div_succ (now - last) positive
      rw [Nat.mul_comm] at above
      refine ⟨⟨⟨_, Nat.le_add_left _ _, rfl⟩, by omega⟩, ?_⟩
      rintro _ ⟨⟨k, -, rfl⟩, after⟩
      have below : (now - last) / interval < k := (Nat.div_lt_iff_lt_mul positive).mpr (by omega)
      exact Nat.add_le_add_left (Nat.mul_le_mul_right _ below) _
    · rw [nextTargetFrom_early paced presented fixed early, if_pos regular]
      refine ⟨⟨⟨1, le_rfl, by rw [Nat.one_mul]⟩, by omega⟩, ?_⟩
      rintro _ ⟨⟨k, some, rfl⟩, -⟩
      exact Nat.add_le_add_left (Nat.le_mul_of_pos_left _ some) _
  refine ⟨⟨?_, least now⟩, ?_⟩
  · intro isLeast
    by_contra irregular
    have early : now ≤ last := by omega
    have next := isLeast.2 ⟨⟨1, le_rfl, by rw [Nat.one_mul]⟩, show now < last + interval by omega⟩
    rw [nextTargetFrom_early paced presented fixed early, if_neg irregular] at next
    omega
  · intro later after regular apart
    have next := least later ⟨apart, by omega⟩
    exact (least now regular).2 ⟨next.1.1, after.trans_lt next.1.2⟩

omit paced presented

/-- At 60 Hz, asked at the moment of the last presentation, the clock skips a vblank, and a
nanosecond later it does not. -/
theorem estimate_skips_vblank :
    let clock : FrameClock := ⟨some 1000000000, some ⟨16667000, by decide⟩, false, {}⟩
    clock.nextTargetFrom 1000000000 false = 1033334000 ∧
      clock.nextTargetFrom 1000000001 false = 1016667000 := by
  decide

theorem estimate_is_next_vblank_late :
    let clock : FrameClock := ⟨some 10, some ⟨4, by decide⟩, false, {}⟩
    clock.nextTargetFrom 11 false ≤ clock.nextTargetFrom 19 false :=
  (estimate_is_next_vblank_iff rfl rfl rfl).2 19 (by decide) (by decide) (by decide)

/-- The first of the targets that can be reached in time, or the last of them. -/
lemma advance_first (clock : FrameClock) (now interval rounds dest : Nat) :
    ∃ k ≤ rounds, clock.advance now interval rounds dest = dest + k * interval ∧
      (∀ j < k, dest + j * interval - clock.renderTime.get < now) ∧
      (k < rounds → now ≤ dest + k * interval - clock.renderTime.get) := by
  induction rounds generalizing dest with
  | zero => exact ⟨0, le_rfl, by simp [advance]⟩
  | succ _ ih =>
    unfold advance
    split
    next inTime => exact ⟨0, Nat.zero_le _, by simp, nofun, fun _ => by simpa using inTime⟩
    next missed =>
    obtain ⟨k, lt, reached, skipped, inTime⟩ := ih (dest + interval)
    have shift : ∀ j, dest + interval + j * interval = dest + (j + 1) * interval :=
      fun j => by rw [Nat.succ_mul]; omega
    refine ⟨k + 1, Nat.succ_le_succ lt, by rw [reached, shift], ?_, ?_⟩
    · rintro (_ | j) pre
      · simpa using missed
      · rw [← shift]
        exact skipped j (Nat.lt_of_succ_lt_succ pre)
    · intro more
      rw [← shift]
      exact inTime (Nat.lt_of_succ_lt_succ more)

lemma held_within_interval {enabled : Bool} {margin start dest : Nat}
    (held : clock.dispatchFromWith now enabled margin = .startAt start dest) :
    ∃ last interval, clock.lastPresentationTime = some last ∧
      clock.refreshInterval = some interval ∧ dest = last + interval ∧ last < start ∧
      now < start ∧ 0 < clock.renderTime.get ∧ start + (clock.renderTime.get + margin) = dest := by
  unfold dispatchFromWith cadence at held
  split at held
  · cases held
  next locked =>
  split at locked
  next interval last paced presented =>
    have whole := Nat.le_mul_of_pos_left interval.1
      (Nat.succ_pos ((nudged last interval now - last) / interval))
    have forward : last ≤ nudged last interval now ∧ now ≤ nudged last interval now := by
      unfold nudged
      repeat' split
      all_goals omega
    grind
  · cases locked

/-- A frame that is held is started in time for its target, which the clock still names then. -/
theorem held_frame_meets_target (clock : FrameClock) : (∀ now enabled margin start target,
      clock.dispatchFromWith now enabled margin = .startAt start target →
        now < start ∧ start < target ∧ start + (clock.renderTime.get + margin) = target ∧
          clock.nextTargetFrom start true = target) ∧ ∀ target now interval, ∃ k ≤ 2,
        clock.reachable target now interval = target + k * interval ∧
          (∀ j < k, target + j * interval - clock.renderTime.get < now) ∧
          (k < 2 → now ≤ target + k * interval - clock.renderTime.get) := by
  refine ⟨?_, fun target now interval => advance_first clock now interval 2 target⟩
  intro _ _ _ start _ held
  obtain ⟨last, interval, presented, paced, rfl, after, later,
    costs, apart⟩ := held_within_interval held
  refine ⟨later, by omega, apart, ?_⟩
  have first : (start - last) / interval = 0 := Nat.div_eq_of_lt (by omega)
  simp only [nextTargetFrom, cadence, nudged, paced, presented, Nat.not_le.mpr after, if_false,
    first, Nat.zero_add, Nat.one_mul, lt_irrefl, and_false, if_true, reachable, advance]
  rw [if_pos (by omega)]

theorem held_frame_meets_target_once :
    let clock : FrameClock := ⟨some 100, some ⟨50, by decide⟩, false, ⟨10, 0⟩⟩
    clock.dispatchFromWith 110 true 5 = .startAt 135 150 ∧ clock.nextTargetFrom 135 true = 150 :=
  ⟨by decide, ((held_frame_meets_target _).1 110 true 5 135 150 (by decide)).2.2.2⟩

end FrameClock

end Synoik
