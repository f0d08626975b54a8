import Mathlib.Data.List.Basic
import Mathlib.Data.List.Perm.Basic
import ParseBoxes.Proofs.Animation.Steady

/-!
# Frames may be split

Two frames, one after the other, do what one frame does that is as long as both together.  Tweens
saturate at their durations, and durations at the longest one, in the same way for both
(`Tween.tick_tick`); so transitions, the pins of their boxes and the boxes that come to rest agree
(`Transition.next_next`, `Transition.carry_carry`, `Animator.arrived_perm`).  The fragments agree
because after any frame they follow (`Pins.eq_of_follows`).
-/

namespace ParseBoxes

variable {α : Type}

namespace Tween

theorem tick_tick (w : Tween α) (d e : Duration) : (w.tick d).tick e = w.tick (d + e) := by
  have helapsed : (((w.elapsed + d).least w.duration) + e).least w.duration =
      (w.elapsed + (d + e)).least w.duration := by
    have hspan := w.duration.nanos_le_longest
    ext
    simp only [Duration.nanos_least, Duration.nanos_add]
    omega
  unfold Tween.tick
  rw [helapsed]

/-- A tween that has arrived does not set out again. -/
theorem isComplete_tick (w : Tween α) (d e : Duration) (h : (w.tick d).isComplete = true) :
    (w.tick (d + e)).isComplete = true := by
  rw [← tick_tick]
  have hspan := w.duration.nanos_le_longest
  simp only [Tween.isComplete, Tween.tick, decide_eq_true_eq, Duration.nanos_least,
    Duration.nanos_add] at h ⊢
  omega

theorem next_next (w : Tween α) (d e : Duration) :
    (w.next d).bind (·.next e) = w.next (d + e) := by
  unfold Tween.next
  by_cases hd : (w.tick d).isComplete = true
  · rw [if_pos hd, if_pos (w.isComplete_tick d e hd), Option.bind_none]
  · rw [if_neg hd, Option.bind_some, tick_tick]

end Tween

/-! ## One transition -/

namespace Transition

open Animator

theorem next_next (tr : Transition α) (d e : Duration) :
    (tr.next d).next e = tr.next (d + e) := by
  have hbind : ∀ o : Option (Tween α),
      (o.bind (·.next d)).bind (·.next e) = o.bind (·.next (d + e)) := fun o => by
    rw [Option.bind_assoc]
    exact congrArg o.bind (funext fun w => w.next_next d e)
  unfold Transition.next
  rw [hbind, hbind]

variable [Scalar α]

/-- A transition that is done leaves the box alone. -/
theorem carry_of_isDone {tr : Transition α} (h : isDone tr = true) (d : Duration)
    (p : BoxPins α) : tr.carry d p = p := by
  simp only [isDone, Bool.and_eq_true, Option.isNone_iff_eq_none] at h
  rw [carry, carryWidth, h.1, carryHeight, h.2]

/-- Width and height of a box are carried apart from each other. -/
theorem carryWidth_carryHeight (tr tr' : Transition α) (d e : Duration) (p : BoxPins α) :
    tr'.carryWidth e (tr.carryHeight d p) = tr.carryHeight d (tr'.carryWidth e p) := by
  unfold carryWidth carryHeight
  cases tr'.width with
  | none => rfl
  | some w =>
    cases tr.height with
    | none => rfl
    | some h => cases hnext : h.next d <;> simp only [hnext, release]

theorem carryWidth_carryWidth (tr : Transition α) (d e : Duration) (p : BoxPins α) :
    (tr.next d).carryWidth e (tr.carryWidth d p) = tr.carryWidth (d + e) p := by
  unfold carryWidth next
  cases tr.width with
  | none => rfl
  | some w =>
    have hnext := w.next_next d e
    cases hd : w.next d with
    | none =>
      rw [hd, Option.bind_none] at hnext
      simp only [Option.bind_some, hd, ← hnext]
    | some w' =>
      rw [hd, Option.bind_some] at hnext
      simp only [Option.bind_some, hd, ← hnext]

theorem carryHeight_carryHeight (tr : Transition α) (d e : Duration) (p : BoxPins α) :
    (tr.next d).carryHeight e (tr.carryHeight d p) = tr.carryHeight (d + e) p := by
  unfold carryHeight next
  cases tr.height with
  | none => rfl
  | some h =>
    have hnext := h.next_next d e
    cases hd : h.next d with
    | none =>
      rw [hd, Option.bind_none] at hnext
      simp only [Option.bind_some, hd, ← hnext]
    | some h' =>
      rw [hd, Option.bind_some] at hnext
      simp only [Option.bind_some, hd, ← hnext]
      cases h'.next e <;> rfl

theorem carry_carry (tr : Transition α) (d e : Duration) (p : BoxPins α) :
    (tr.next d).carry e (tr.carry d p) = tr.carry (d + e) p := by
  unfold carry
  rw [carryWidth_carryHeight, carryWidth_carryWidth, carryHeight_carryHeight]

end Transition

/-! ## All transitions -/

namespace Animator

variable {t : BoxTree} {l : List (t.Box × Transition α)}

/-- The transitions that run on after a frame. -/
def running (dt : Duration) (l : List (t.Box × Transition α)) : List (t.Box × Transition α) :=
  (nextAll dt l).filter fun e => !isDone e.2

/-- The boxes that a frame brings to rest. -/
def arrived (dt : Duration) (l : List (t.Box × Transition α)) : List BoxId :=
  ((nextAll dt l).filter fun e => isDone e.2).map fun e => t.nameOf e.1

/-- What has come to rest stays at rest. -/
theorem isDone_next_add (tr : Transition α) (d e : Duration) (h : isDone (tr.next d) = true) :
    isDone (tr.next (d + e)) = true := by
  rw [← tr.next_next]
  simp only [isDone, Bool.and_eq_true, Option.isNone_iff_eq_none] at h ⊢
  constructor
  · show (tr.next d).width.bind _ = none
    rw [h.1, Option.bind_none]
  · show (tr.next d).height.bind _ = none
    rw [h.2, Option.bind_none]

theorem running_cons (dt : Duration) (b : t.Box) (tr : Transition α) :
    running dt ((b, tr) :: l) =
      if isDone (tr.next dt) then running dt l else (b, tr.next dt) :: running dt l := by
  cases h : isDone (tr.next dt) <;> simp [running, nextAll, h]

theorem arrived_cons (dt : Duration) (b : t.Box) (tr : Transition α) :
    arrived dt ((b, tr) :: l) =
      if isDone (tr.next dt) then t.nameOf b :: arrived dt l else arrived dt l := by
  cases h : isDone (tr.next dt) <;> simp [arrived, nextAll, h]

theorem running_running (d e : Duration) (l : List (t.Box × Transition α)) :
    running e (running d l) = running (d + e) l := by
  induction l with
  | nil => rfl
  | cons entry l ih =>
    obtain ⟨b, tr⟩ := entry
    rw [running_cons, running_cons]
    by_cases h : isDone (tr.next d) = true
    · rw [if_pos h, if_pos (isDone_next_add tr d e h), ih]
    · rw [if_neg h, running_cons, tr.next_next, ih]

/-- Over two frames the same boxes come to rest as over one. -/
theorem arrived_perm (d e : Duration) (l : List (t.Box × Transition α)) :
    (arrived d l ++ arrived e (running d l)).Perm (arrived (d + e) l) := by
  induction l with
  | nil => exact .refl _
  | cons entry l ih =>
    obtain ⟨b, tr⟩ := entry
    rw [running_cons, arrived_cons, arrived_cons]
    by_cases h : isDone (tr.next d) = true
    · rw [if_pos h, if_pos h, if_pos (isDone_next_add tr d e h)]
      exact ih.cons _
    · rw [if_neg h, if_neg h, arrived_cons, tr.next_next]
      split
      · exact List.perm_middle.trans (ih.cons _)
      · exact ih

end Animator

/-! ## Boards -/

variable [Scalar α] {t : BoxTree} {ht : t.Tidy} {measure : Measurer α}

/-- Where all fragments follow, boxes and highlights decide the whole board. -/
theorem Pins.eq_of_follows {p q : Pins α t} (hbox : ∀ b, p.box b = q.box b)
    (hp : ∀ x, p.Follows ht measure x) (hq : ∀ x, q.Follows ht measure x)
    (hbare : ∀ f, (∀ x, ht.input x ≠ f) → p.piece f = q.piece f)
    (hlit : ∀ f, (p.piece f).highlighted = (q.piece f).highlighted) : p = q := by
  refine Pins.ext hbox fun f => ?_
  by_cases hf : ∃ x, ht.input x = f
  · obtain ⟨x, rfl⟩ := hf
    have hwidth : (p.piece (ht.input x)).minWidth = (q.piece (ht.input x)).minWidth := by
      rw [hp x, hq x, Layout.displayedWidth_eq_of_sameWidth fun b => .of_eq (hbox b)]
    have hlight := hlit (ht.input x)
    cases hpx : p.piece (ht.input x)
    cases hqx : q.piece (ht.input x)
    rw [hpx, hqx] at hwidth hlight
    cases hwidth
    cases hlight
    rfl
  · exact hbare f fun x hx => hf ⟨x, hx⟩

namespace Animator.Steady

variable {a : Animator α} {p : Pins α t} {stage : BoxId → Stage}

/-- Two frames do what one frame does that is as long as both. -/
theorem tick_tick (h : a.Steady ht measure p stage) (d e : Duration) :
    ∃ done q active done' r active' arrived, (a.tick measure p d).Yields
        (done, q, { a with active := active }) ∧
      (Animator.tick measure { a with active := active } q e).Yields
        (done', r, { a with active := active' }) ∧
      (a.tick measure p (d + e)).Yields (arrived, r, { a with active := active' }) ∧
      (done ++ done').Perm arrived := by
  obtain ⟨l, hl⟩ := h.filed
  obtain ⟨done, q, active, hq, hsteady, -⟩ := h.tick d
  obtain ⟨q', hq', hqbox, -, hqbare, hqlit⟩ := h.frame_yields hl d
  have heq := hq.unique hq'
  simp only [Prod.mk.injEq, Animator.mk.injEq, true_and] at heq
  obtain ⟨rfl, rfl, rfl⟩ := heq
  obtain ⟨r, hr, hrbox, hrfollows, hrbare, hrlit⟩ := hsteady.frame_yields (hl.afterFrame d) e
  obtain ⟨r', hr', hrbox', hrfollows', hrbare', hrlit'⟩ := h.frame_yields hl (d + e)
  have hbox : ∀ b, r.box b = r'.box b := by
    intro b
    rw [hrbox, hrbox', hqbox, hl.find?_afterFrame]
    cases a.find? (t.nameOf b) with
    | none => rfl
    | some tr =>
      have hcarry := tr.carry_carry d e (p.box b)
      by_cases hdone : isDone (tr.next d) = true
      · rw [Transition.carry_of_isDone hdone] at hcarry
        simpa only [Option.bind_some, if_pos hdone, Option.elim] using hcarry
      · simpa only [Option.bind_some, if_neg hdone, Option.elim] using hcarry
  have hsame : r = r' := Pins.eq_of_follows hbox hrfollows hrfollows'
    (fun f hf => ((hrbare f hf).trans (hqbare f hf)).trans (hrbare' f hf).symm)
    fun f => ((hrlit f).trans (hqlit f)).trans (hrlit' f).symm
  have hrunning := running_running d e l
  refine ⟨_, q, _, _, r, _, _, hq, hr, ?_, arrived_perm d e l⟩
  rw [hsame]
  show (a.tick measure p (d + e)).Yields (_, r', { a with active := file (running e (running d l)) })
  rw [hrunning]
  exact hr'

end Animator.Steady

end ParseBoxes
