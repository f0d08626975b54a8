import Mathlib.Order.Interval.Set.UnorderedInterval
import ParseBoxes.Proofs.Animation.Easing
import ParseBoxes.Proofs.Animation.Steady

/-!
# The course of a tween

A tween is ticked with frames of any lengths.  What has elapsed is their sum, cut off at the span
of the tween (`Tween.Runs.ticks`); a zero duration spans one nanosecond.  The share of the way that
is covered grows with the frames (`Tween.share_le_share_ticks`) and is whole exactly at the end of
the span (`Tween.share_eq_one_iff`), because no easing arrives early (`Easing.apply_lt_one`).  So
the value moves from the start to the goal, never back and never beyond, whichever is the greater.
-/

namespace ParseBoxes

namespace Easing

theorem cubic_lt_one {x : ℚ} (h0 : 0 ≤ x) (h1 : x < 1) : cubic x < 1 := by
  rcases lt_or_ge x (1 / 2) with h | h
  · have hmono : cubic x ≤ cubic (1 / 2) := cubic_mono h0 h.le (by norm_num)
    have hseam : cubic (1 / 2 : ℚ) = 1 / 2 := by
      rw [cubic_of_le le_rfl]
      norm_num
    linarith
  · have hcube : 0 < (1 - x) * (1 - x) * (1 - x) := by
      have hpos : 0 < 1 - x := by linarith
      positivity
    rw [cubic_of_le h]
    linarith

/-- No easing arrives early. -/
theorem apply_lt_one (easing : Easing) {x : ℚ} (h0 : 0 ≤ x) (h1 : x < 1) : easing.apply x < 1 := by
  cases easing with
  | linear => exact h1
  | cubicInOut => exact cubic_lt_one h0 h1

end Easing

namespace Tween

/-! ## Frames in a row -/

section

variable {α : Type}

/-- A tween after frames of these lengths. -/
def ticks (w : Tween α) (ds : List Duration) : Tween α := ds.foldl tick w

theorem ticks_append (w : Tween α) (ds es : List Duration) :
    w.ticks (ds ++ es) = (w.ticks ds).ticks es :=
  List.foldl_append

/-- Frames change nothing but the time that has elapsed. -/
theorem ticks_eq (w : Tween α) (ds : List Duration) :
    w.ticks ds = { w with elapsed := (w.ticks ds).elapsed } := by
  induction ds generalizing w with
  | nil => rfl
  | cons d ds ih => exact ih (w.tick d)

theorem start_ticks (w : Tween α) (ds : List Duration) : (w.ticks ds).start = w.start := by
  rw [ticks_eq]

theorem goal_ticks (w : Tween α) (ds : List Duration) : (w.ticks ds).goal = w.goal := by
  rw [ticks_eq]

theorem Runs.ticks {span elapsed : Nat} {w : Tween α} (h : w.Runs span elapsed)
    (hle : elapsed ≤ span) (ds : List Duration) :
    (w.ticks ds).Runs span (min (elapsed + (ds.map (·.nanos)).sum) span) := by
  induction ds generalizing w elapsed with
  | nil =>
    rw [List.map_nil, List.sum_nil, Nat.add_zero, Nat.min_eq_left hle]
    exact h
  | cons d ds ih =>
    have hrest := ih (h.tick d) (Nat.min_le_right _ _)
    have hsum : min (min (elapsed + d.nanos) span + (ds.map (·.nanos)).sum) span =
        min (elapsed + ((d :: ds).map (·.nanos)).sum) span := by
      rw [List.map_cons, List.sum_cons]
      omega
    rwa [hsum] at hrest

theorem runs_ticks_begin (start goal : α) (duration : Duration) (easing : Easing)
    (ds : List Duration) :
    ((begin start goal duration easing).ticks ds).Runs (max duration.nanos 1)
      (min (ds.map (·.nanos)).sum (max duration.nanos 1)) := by
  have hruns := (runs_begin start goal duration easing).ticks (Nat.zero_le _) ds
  rwa [Nat.zero_add] at hruns

/-- A tween has arrived when its whole span has gone by. -/
theorem Runs.isComplete_iff {span elapsed : Nat} {w : Tween α} (h : w.Runs span elapsed) :
    w.isComplete = true ↔ span ≤ elapsed := by
  rw [isComplete, decide_eq_true_iff, h.duration, h.elapsed]

/-- To rewind a tween is to begin it again. -/
theorem rewind_ticks_begin (start goal : α) (duration : Duration) (easing : Easing)
    (ds : List Duration) :
    ((begin start goal duration easing).ticks ds).rewind = begin start goal duration easing := by
  rw [ticks_eq]
  rfl

end

/-! ## The share of the way -/

theorem progress_lt_one {w : Tween ℚ} (h : w.elapsed.nanos < w.duration.nanos) :
    w.progress < 1 := by
  have hpos : 0 < (w.duration.seconds : ℚ) := by
    rw [Duration.seconds_eq]
    have hspan : 0 < (w.duration.nanos : ℚ) := Nat.cast_pos.2 (by omega)
    positivity
  have hlt : (w.elapsed.seconds : ℚ) < w.duration.seconds := by
    rw [Duration.seconds_eq, Duration.seconds_eq]
    have hcast : (w.elapsed.nanos : ℚ) < w.duration.nanos := Nat.cast_lt.2 h
    linarith
  have hquot : (w.elapsed.seconds : ℚ) / w.duration.seconds < 1 := (div_lt_one hpos).2 hlt
  have hclamp : clamp ((w.elapsed.seconds : ℚ) / w.duration.seconds) 0 1 < 1 := by
    rw [clamp_eq, min_lt_iff, max_lt_iff]
    exact .inl ⟨hquot, zero_lt_one⟩
  exact hclamp

theorem share_eq_one_iff (w : Tween ℚ) : w.share = 1 ↔ w.isComplete = true := by
  constructor
  · intro hshare
    by_contra hdone
    have hlt : w.elapsed.nanos < w.duration.nanos := by
      rw [isComplete, decide_eq_true_iff] at hdone
      omega
    rw [share, if_neg hdone] at hshare
    exact absurd hshare (w.easing.apply_lt_one w.progress_mem_unit.1 (progress_lt_one hlt)).ne
  · intro hdone
    exact if_pos hdone

theorem share_le_share_ticks (w : Tween ℚ) (ds : List Duration) :
    w.share ≤ (w.ticks ds).share := by
  induction ds generalizing w with
  | nil => exact le_rfl
  | cons d ds ih => exact (w.share_le_share_tick d).trans (ih (w.tick d))

/-! ## The value -/

/-- More of the way from `a` to `b` is between less of it and `b`. -/
theorem mean_mem_uIcc {a b x y : ℚ} (hxy : x ≤ y) (hy : y ≤ 1) :
    a + (b - a) * y ∈ Set.uIcc (a + (b - a) * x) b := by
  rw [Set.mem_uIcc]
  have hrest : 0 ≤ 1 - y := by linarith
  have hmore : 0 ≤ y - x := by linarith
  rcases le_total a b with hab | hab
  · have hway : 0 ≤ b - a := by linarith
    left
    constructor
    · nlinarith [mul_nonneg hway hmore]
    · nlinarith [mul_nonneg hway hrest]
  · have hway : 0 ≤ a - b := by linarith
    right
    constructor
    · nlinarith [mul_nonneg hway hrest]
    · nlinarith [mul_nonneg hway hmore]

theorem value_mem_uIcc (w : Tween ℚ) : w.value ∈ Set.uIcc w.start w.goal := by
  have hmean := mean_mem_uIcc (a := w.start) (b := w.goal) w.share_mem_unit.1 w.share_mem_unit.2
  rwa [mul_zero, add_zero, ← value_eq] at hmean

/-- Frames bring the value nearer to the goal, or leave it. -/
theorem value_ticks_mem_uIcc (w : Tween ℚ) (ds : List Duration) :
    (w.ticks ds).value ∈ Set.uIcc w.value w.goal := by
  rw [value_eq, value_eq, start_ticks, goal_ticks]
  exact mean_mem_uIcc (w.share_le_share_ticks ds) (w.ticks ds).share_mem_unit.2

theorem value_eq_goal_iff (w : Tween ℚ) :
    w.value = w.goal ↔ w.start = w.goal ∨ w.isComplete = true := by
  rw [value_eq, ← share_eq_one_iff]
  constructor
  · intro heq
    have hrest : (w.goal - w.start) * (w.share - 1) = 0 := by linarith
    rcases mul_eq_zero.1 hrest with hway | hshare
    · exact .inl (by linarith)
    · exact .inr (by linarith)
  · rintro (hway | hshare)
    · rw [hway]
      ring
    · rw [hshare]
      ring

/-- **The course of a tween.**  Over exact rationals, after frames of any lengths, the time elapsed
is their sum, cut off at the duration, where a zero duration counts as one nanosecond.  The value is
the start while no time has elapsed, and again after a rewind; unless the two are the same, it is
the goal from the first moment on at which the frames reach the duration, and not before.  At all
times it is between the start and the goal, and further frames move it only towards the goal.  Both
easings take the unit interval into itself and never go back in it. -/
theorem ticks_course (start goal : ℚ) (duration : Duration) (easing : Easing)
    (ds es : List Duration) :
    let w := begin start goal duration easing
    let passed := (ds.map (·.nanos)).sum
    ((w.ticks ds).elapsed.nanos = min passed (max duration.nanos 1)) ∧
    ((w.ticks ds).elapsed.nanos = 0 → (w.ticks ds).value = start) ∧
    (w.ticks ds).rewind.value = start ∧
    ((w.ticks ds).value = goal ↔ start = goal ∨ max duration.nanos 1 ≤ passed) ∧
    (w.ticks ds).value ∈ Set.uIcc start goal ∧
    (w.ticks (ds ++ es)).value ∈ Set.uIcc (w.ticks ds).value goal ∧
    ∀ x y : ℚ, 0 ≤ x → x ≤ y → y ≤ 1 →
      0 ≤ easing.apply x ∧ easing.apply x ≤ easing.apply y ∧ easing.apply y ≤ 1 := by
  intro w passed
  have hruns := runs_ticks_begin start goal duration easing ds
  have hstart : (w.ticks ds).start = start := start_ticks w ds
  have hgoal : (w.ticks ds).goal = goal := goal_ticks w ds
  have hspan : 0 < max duration.nanos 1 := Nat.le_max_right _ _
  refine ⟨hruns.elapsed, ?_, ?_, ?_, ?_, ?_, ?_⟩
  · intro hzero
    rw [← hstart]
    exact value_of_elapsed_eq_zero hzero (by rwa [hruns.duration])
  -- a rewound tween is one that has just begun
  · have hbegin := runs_begin start goal duration easing
    rw [rewind_ticks_begin]
    exact value_of_elapsed_eq_zero hbegin.elapsed (by rwa [hbegin.duration])
  · have hdone : (w.ticks ds).isComplete = true ↔ max duration.nanos 1 ≤ passed := by
      rw [hruns.isComplete_iff, Nat.le_min, and_iff_left le_rfl]
    rw [← hdone, ← hstart, ← hgoal]
    exact value_eq_goal_iff _
  · have hmem := (w.ticks ds).value_mem_uIcc
    rwa [hstart, hgoal] at hmem
  · have hmem := (w.ticks ds).value_ticks_mem_uIcc es
    rwa [hgoal, ← ticks_append] at hmem
  · intro x y h0 hxy h1
    have hx := easing.apply_mem_unit h0 (hxy.trans h1)
    have hy := easing.apply_mem_unit (h0.trans hxy) h1
    exact ⟨hx.1, easing.apply_mono h0 hxy h1, hy.2⟩

end Tween

end ParseBoxes
