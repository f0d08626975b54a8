import Mathlib.Algebra.Order.Floor.Div
import Mathlib.Data.List.MinMax
import ParseBoxes.Proofs.Session.FrameRate
import ParseBoxes.Proofs.Session.InStep

/-!
# How long a session takes to settle

A box on its way needs as many frames as cover the rest of its span, and a session as many as the
box that is least far on (`Animator.framesLeft`).  Each frame takes one off the number
(`Sound.framesLeft_tick`), so frames in one go stop just when it has come down to nothing, or at the
greatest number of frames.
-/

namespace ParseBoxes

/-! ## The frames left to a box -/

namespace Stage

variable {span nanos : Nat}

/-- The number of frames of one length after which a box is at rest. -/
def framesLeft (span nanos : Nat) : Stage → Nat
  | resting _ => 0
  | moving _ elapsed => (span - elapsed) ⌈/⌉ nanos

theorem framesLeft_le_iff {s : Stage} (hnanos : 0 < nanos)
    (hs : ∀ d elapsed, s = moving d elapsed → elapsed < span) (k : Nat) :
    s.framesLeft span nanos ≤ k ↔
      (s.after span (.replicate k (.frame nanos))).isMoving = false := by
  cases s with
  | resting hidden =>
    rw [after_resting_frames]
    exact iff_of_true (Nat.zero_le k) rfl
  | moving d elapsed =>
    have hlt : elapsed < span := hs d elapsed rfl
    rw [isMoving_after_frames_iff, framesLeft, ceilDiv_le_iff_le_mul hnanos, Nat.mul_comm]
    constructor
    · intro hle
      refine ⟨?_, by omega⟩
      rintro rfl
      omega
    · rintro ⟨-, hle⟩
      omega

example : (moving .collapse 0).framesLeft 500000000 16000000 = 32 := by decide

end Stage

/-! ## The frames left to an animator -/

section

variable {α : Type}

/-- The tweens of a transition that have not arrived. -/
def Transition.tweens (tr : Transition α) : List (Tween α) := tr.width.toList ++ tr.height.toList

/-- The greatest number of frames of one length that is left to a tween. -/
def Animator.framesLeft (span nanos : Nat) (a : Animator α) : Nat :=
  ((a.active.flatMap (·.2.tweens)).map fun w => (span - w.elapsed.nanos) ⌈/⌉ nanos).foldr max 0

theorem Animator.framesLeft_le_iff {a : Animator α} {span nanos k : Nat} :
    a.framesLeft span nanos ≤ k ↔
      ∀ e ∈ a.active, ∀ w ∈ e.2.tweens, (span - w.elapsed.nanos) ⌈/⌉ nanos ≤ k := by
  constructor
  · intro h e he w hw
    have hmem : (span - w.elapsed.nanos) ⌈/⌉ nanos ∈
        (a.active.flatMap (·.2.tweens)).map fun w => (span - w.elapsed.nanos) ⌈/⌉ nanos :=
      List.mem_map.2 ⟨w, List.mem_flatMap.2 ⟨e, he, hw⟩, rfl⟩
    exact (List.le_max_of_le' 0 hmem le_rfl).trans h
  · intro h
    refine List.max_le_of_forall_le _ _ fun n hn => ?_
    obtain ⟨w, hw, rfl⟩ := List.mem_map.1 hn
    obtain ⟨e, he, hmem⟩ := List.mem_flatMap.1 hw
    exact h e he w hmem

end

variable {α : Type} [Scalar α]

theorem Transition.Carries.tweens_eq {span elapsed : Nat} {least : α} {d : Direction}
    {tr : Transition α} {p : BoxPins α} (h : tr.Carries span least d elapsed p) :
    ∃ w w', tr.tweens = [w, w'] ∧ w.elapsed.nanos = elapsed ∧ w'.elapsed.nanos = elapsed := by
  obtain ⟨w, hw, hruns, -, -⟩ := h.width
  obtain ⟨w', hw', hruns', -⟩ := h.height
  refine ⟨w, w', ?_, hruns.elapsed, hruns'.elapsed⟩
  rw [Transition.tweens, hw, hw']
  rfl

theorem Animator.Steady.framesLeft_le_iff {t : BoxTree} {ht : t.Tidy} {measure : Measurer α}
    {a : Animator α} {p : Pins α t} {stage : BoxId → Stage} (h : a.Steady ht measure p stage)
    {nanos k : Nat} :
    a.framesLeft a.span nanos ≤ k ↔
      ∀ b, (stage (t.nameOf b)).framesLeft a.span nanos ≤ k := by
  rw [Animator.framesLeft_le_iff]
  constructor
  · intro hall b
    rcases h.resting_or_moving b with ⟨hidden, hs, -, -⟩ | ⟨d, elapsed, tr, hs, htr, hcarries⟩
    · rw [hs]
      exact Nat.zero_le k
    · obtain ⟨w, w', htweens, hw, -⟩ := hcarries.tweens_eq
      obtain ⟨e, he, rfl⟩ := Option.map_eq_some_iff.1 htr
      have hmem : w ∈ e.2.tweens := htweens ▸ List.mem_cons_self
      rw [hs, Stage.framesLeft, ← hw]
      exact hall e (List.mem_of_find?_eq_some he) w hmem
  · intro hall e he w hw
    obtain ⟨l, hl⟩ := h.filed
    obtain ⟨b, -, htr⟩ := hl.exists_of_mem_active he
    have hb := hall b
    rcases h.resting_or_moving b with ⟨hidden, -, hnone, -⟩ | ⟨d, elapsed, tr, hs, htr', hcarries⟩
    · rw [htr] at hnone
      cases hnone
    · cases htr.symm.trans htr'
      obtain ⟨v, v', htweens, hv, hv'⟩ := hcarries.tweens_eq
      have helapsed : w.elapsed.nanos = elapsed := by
        rw [htweens, List.mem_cons, List.mem_singleton] at hw
        rcases hw with rfl | rfl
        · exact hv
        · exact hv'
      rw [hs] at hb
      rw [helapsed]
      exact hb

/-! ## Frames one by one -/

namespace Session

open Run

variable {s : Session α} {stage : BoxId → Stage}

theorem Sound.framesLeft_le_iff (hs : s.Sound stage) {nanos : Nat} (hnanos : 0 < nanos) (k : Nat) :
    s.animator.framesLeft s.span nanos ≤ k ↔ ∀ b : s.board.tree.Box,
      ((stage (s.board.tree.nameOf b)).after s.span (.replicate k (.frame nanos))).isMoving =
        false := by
  rw [← hs.span_eq, hs.steady.framesLeft_le_iff]
  refine forall_congr' fun b => Stage.framesLeft_le_iff hnanos ?_ k
  intro d elapsed hstage
  rcases hs.steady.resting_or_moving b with ⟨hidden, hrest, -⟩ | ⟨d', elapsed', tr, hmove, -, hcarries⟩
  · cases hrest.symm.trans hstage
  · cases hmove.symm.trans hstage
    exact hcarries.elapsed_lt

end Session

end ParseBoxes
