import Mathlib.Data.Rat.Defs
import Mathlib.Tactic.Linarith
import Mathlib.Tactic.Positivity
import Mathlib.Tactic.NormNum
import Mathlib.Tactic.Ring
import ParseBoxes.Tween

/-!
# Tweens over exact rationals

Over rationals the easings map the unit interval into itself, so a tween stays between its start and
its goal (`Tween.exists_value_eq`), and it begins at its start.  They never go back, so neither does
the share of its way that a tween has covered (`Tween.share_le_share_tick`).
-/

namespace ParseBoxes

/-- Exact arithmetic. -/
instance : Scalar ℚ where
  ofNat n := n
  max a b := max a b
  lt a b := a < b
  le a b := a ≤ b

instance : Scalar.LawfulMax ℚ := ⟨fun a b => max_eq_left (le_max_right a b)⟩

theorem Scalar.lt_iff {x y : ℚ} : Scalar.lt x y = true ↔ x < y := decide_eq_true_iff

namespace Easing

theorem cubic_of_lt {x : ℚ} (h : x < 1 / 2) : cubic x = 4 * x * x * x := by
  have hlt : Scalar.lt x (Scalar.ofNat 1 / Scalar.ofNat 2) = true := Scalar.lt_iff.2 h
  rw [cubic, if_pos hlt]
  rfl

/-- The second half is the first one turned round. -/
theorem cubic_of_le {x : ℚ} (h : 1 / 2 ≤ x) :
    cubic x = 1 / 2 * (2 * x - 2) * (2 * x - 2) * (2 * x - 2) + 1 := by
  have hlt : ¬Scalar.lt x (Scalar.ofNat 1 / Scalar.ofNat 2) = true :=
    Scalar.lt_iff.not.2 (not_lt.2 h)
  rw [cubic, if_neg hlt]
  rfl

theorem cubic_mem_unit {x : ℚ} (h0 : 0 ≤ x) (h1 : x ≤ 1) : 0 ≤ cubic x ∧ cubic x ≤ 1 := by
  rcases lt_or_ge x (1 / 2) with h | h
  · rw [cubic_of_lt h]
    constructor
    · positivity
    · nlinarith [mul_nonneg h0 h0]
  · rw [cubic_of_le h]
    constructor <;> nlinarith [sq_nonneg (2 * x - 2)]

/-- Eased progress is progress. -/
theorem apply_mem_unit (easing : Easing) {x : ℚ} (h0 : 0 ≤ x) (h1 : x ≤ 1) :
    0 ≤ easing.apply x ∧ easing.apply x ≤ 1 := by
  cases easing with
  | linear => exact ⟨h0, h1⟩
  | cubicInOut => exact cubic_mem_unit h0 h1

theorem apply_zero (easing : Easing) : easing.apply (0 : ℚ) = 0 := by
  cases easing with
  | linear => rfl
  | cubicInOut =>
    show cubic 0 = 0
    rw [cubic_of_lt (by norm_num)]
    norm_num

/-- The course never turns back. -/
theorem cubic_mono {x y : ℚ} (h0 : 0 ≤ x) (hxy : x ≤ y) (h1 : y ≤ 1) : cubic x ≤ cubic y := by
  rcases lt_or_ge x (1 / 2) with hx | hx <;> rcases lt_or_ge y (1 / 2) with hy | hy
  · rw [cubic_of_lt hx, cubic_of_lt hy]
    have hsq : x * x ≤ y * y := mul_self_le_mul_self h0 hxy
    have hcube : x * x * x ≤ y * y * y := mul_le_mul hsq hxy h0 (mul_self_nonneg y)
    linarith
  · -- the first half ends where the second half starts
    have hlow : cubic x ≤ 1 / 2 := by
      rw [cubic_of_lt hx]
      have hsq : x * x ≤ 1 / 2 * (1 / 2) := mul_self_le_mul_self h0 hx.le
      have hcube : x * x * x ≤ 1 / 2 * (1 / 2) * (1 / 2) := mul_le_mul hsq hx.le h0 (by norm_num)
      linarith
    have hhigh : 1 / 2 ≤ cubic y := by
      rw [cubic_of_le hy]
      have hsq : (1 - y) * (1 - y) ≤ 1 / 2 * (1 / 2) :=
        mul_self_le_mul_self (by linarith) (by linarith)
      have hcube : (1 - y) * (1 - y) * (1 - y) ≤ 1 / 2 * (1 / 2) * (1 / 2) :=
        mul_le_mul hsq (by linarith) (by linarith) (by norm_num)
      linarith
    exact hlow.trans hhigh
  · linarith
  · rw [cubic_of_le hx, cubic_of_le hy]
    have hsq : (1 - y) * (1 - y) ≤ (1 - x) * (1 - x) :=
      mul_self_le_mul_self (by linarith) (by linarith)
    have hcube : (1 - y) * (1 - y) * (1 - y) ≤ (1 - x) * (1 - x) * (1 - x) :=
      mul_le_mul hsq (by linarith) (by linarith) (mul_self_nonneg _)
    linarith

theorem apply_mono (easing : Easing) {x y : ℚ} (h0 : 0 ≤ x) (hxy : x ≤ y) (h1 : y ≤ 1) :
    easing.apply x ≤ easing.apply y := by
  cases easing with
  | linear => exact hxy
  | cubicInOut => exact cubic_mono h0 hxy h1

end Easing

namespace Duration

/-- Counted in seconds, a duration is a billionth of its nanoseconds. -/
theorem seconds_eq (d : Duration) : (d.seconds : ℚ) = d.nanos / 1000000000 := by
  have hnanos : ((d.nanos : Nat) : ℚ) =
      1000000000 * (d.wholeSeconds : ℚ) + (d.subsecNanos : ℚ) := by
    have hsplit : d.nanos = 1000000000 * d.wholeSeconds + d.subsecNanos :=
      (Nat.div_add_mod d.nanos 1000000000).symm
    exact_mod_cast hsplit
  show ((d.wholeSeconds : Nat) : ℚ) + ((d.subsecNanos : Nat) : ℚ) / ((1000000000 : Nat) : ℚ) = _
  rw [hnanos]
  push_cast
  ring

theorem seconds_mono {d e : Duration} (h : d.nanos ≤ e.nanos) :
    (d.seconds : ℚ) ≤ e.seconds := by
  rw [seconds_eq, seconds_eq]
  have hcast : (d.nanos : ℚ) ≤ e.nanos := Nat.cast_le.2 h
  linarith

theorem seconds_nonneg (d : Duration) : 0 ≤ (d.seconds : ℚ) := by
  rw [seconds_eq]
  positivity

end Duration

namespace Tween

theorem clamp_mem_unit (x : ℚ) : 0 ≤ clamp x 0 1 ∧ clamp x 0 1 ≤ 1 := by
  unfold clamp
  by_cases hx : Scalar.lt x 0 = true
  · simp only [hx, ↓reduceIte]
    rw [if_neg (by rw [Scalar.lt_iff]; norm_num)]
    norm_num
  · simp only [hx, Bool.false_eq_true, ↓reduceIte]
    rw [Scalar.lt_iff, not_lt] at hx
    split
    · norm_num
    · next h =>
      rw [Scalar.lt_iff, not_lt] at h
      exact ⟨hx, h⟩

theorem progress_mem_unit (w : Tween ℚ) : 0 ≤ w.progress ∧ w.progress ≤ 1 :=
  clamp_mem_unit _

theorem clamp_eq (x : ℚ) : clamp x 0 1 = min (max x 0) 1 := by
  unfold clamp
  simp only [Scalar.lt_iff]
  split <;> split <;> grind

theorem clamp_mono {x y : ℚ} (h : x ≤ y) : clamp x 0 1 ≤ clamp y 0 1 := by
  rw [clamp_eq, clamp_eq]
  exact min_le_min_right 1 (max_le_max_right 0 h)

theorem progress_of_elapsed_eq_zero {w : Tween ℚ} (h : w.elapsed.nanos = 0) : w.progress = 0 := by
  have helapsed : (w.elapsed.seconds : ℚ) = 0 := by
    rw [Duration.seconds_eq, h]
    norm_num
  have hzero : (0 : ℚ) / w.duration.seconds = 0 := zero_div _
  have hclamp : clamp (0 : ℚ) 0 1 = 0 := by
    unfold clamp
    rw [if_neg (by rw [Scalar.lt_iff]; norm_num), if_neg (by rw [Scalar.lt_iff]; norm_num)]
  unfold progress
  rw [helapsed]
  exact (congrArg (clamp · 0 1) hzero).trans hclamp

/-- The share of its way that a tween has covered. -/
def share (w : Tween ℚ) : ℚ := if w.isComplete then 1 else w.easing.apply w.progress

theorem share_mem_unit (w : Tween ℚ) : 0 ≤ w.share ∧ w.share ≤ 1 := by
  unfold share
  split
  · exact ⟨zero_le_one, le_rfl⟩
  · obtain ⟨h0, h1⟩ := w.progress_mem_unit
    exact w.easing.apply_mem_unit h0 h1

/-- A tween stands at its share of the way from start to goal. -/
theorem value_eq (w : Tween ℚ) : w.value = w.start + (w.goal - w.start) * w.share := by
  unfold value share
  split
  · ring
  · rfl

/-- A value is a mean of start and goal. -/
theorem exists_value_eq (w : Tween ℚ) :
    ∃ x, 0 ≤ x ∧ x ≤ 1 ∧ w.value = w.start + (w.goal - w.start) * x :=
  ⟨w.share, w.share_mem_unit.1, w.share_mem_unit.2, w.value_eq⟩

/-- A tween never goes back. -/
theorem share_le_share_tick (w : Tween ℚ) (dt : Duration) : w.share ≤ (w.tick dt).share := by
  by_cases hdone : (w.tick dt).isComplete = true
  · have hshare : (w.tick dt).share = 1 := if_pos hdone
    rw [hshare]
    exact w.share_mem_unit.2
  · have hspan := w.duration.nanos_le_longest
    have helapsed : w.elapsed.nanos ≤ (w.tick dt).elapsed.nanos ∧ ¬w.isComplete = true := by
      simp only [isComplete, tick, decide_eq_true_eq, Duration.nanos_least,
        Duration.nanos_add] at hdone ⊢
      omega
    have hprogress : w.progress ≤ (w.tick dt).progress :=
      clamp_mono (div_le_div_of_nonneg_right (Duration.seconds_mono helapsed.1)
        w.duration.seconds_nonneg)
    rw [share, share, if_neg hdone, if_neg helapsed.2]
    exact w.easing.apply_mono w.progress_mem_unit.1 hprogress (w.tick dt).progress_mem_unit.2

/-- What both ends of a tween reach, the tween reaches on its way. -/
theorem le_value {w : Tween ℚ} {least : ℚ} (hstart : least ≤ w.start) (hgoal : least ≤ w.goal) :
    least ≤ w.value := by
  obtain ⟨x, h0, h1, hvalue⟩ := w.exists_value_eq
  rw [hvalue]
  nlinarith

theorem value_of_elapsed_eq_zero {w : Tween ℚ} (h : w.elapsed.nanos = 0)
    (hspan : 0 < w.duration.nanos) : w.value = w.start := by
  unfold value isComplete
  rw [if_neg (by simp; omega), progress_of_elapsed_eq_zero h, Easing.apply_zero]
  show w.start + (w.goal - w.start) * 0 = w.start
  ring

end Tween

end ParseBoxes
