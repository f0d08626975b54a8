import Mathlib.Algebra.Order.BigOperators.Group.List
import ParseBoxes.Proofs.Layout.Containment

/-!
# Collapsing makes nothing larger

Over exact rationals, two boards of one tree at rest, where the second hides the children of every
box of which the first does (`Pins.CollapsesMore`).  From the leaves up, no box is wider or higher on
the second (`renderedWidth_le`, `renderedHeight_le`); from the top down, no box is displayed on the
second alone (`isDisplayed_of_collapsesMore`); so no fragment is held at a greater width, and none is
wider (`pieceWidth_le`).  The frame as a whole does not grow either.
-/

namespace ParseBoxes

variable {t : BoxTree} {ht : t.Tidy} {measure : Measurer ℚ} {p q : Pins ℚ t}

/-- Two boards at rest, the second of which hides all that the first hides. -/
structure Pins.CollapsesMore (ht : t.Tidy) (measure : Measurer ℚ) (p q : Pins ℚ t) : Prop where
  fst : p.AtRest ht measure
  snd : q.AtRest ht measure
  fst_height : ∀ b, (p.box b).childrenHeight = none
  snd_height : ∀ b, (q.box b).childrenHeight = none
  hidden : ∀ b, (p.box b).hidden = true → (q.box b).hidden = true

namespace Layout

theorem foldl_max_mono {β : Type} {g g' : β → ℚ} {cs : List β} (h : ∀ c ∈ cs, g c ≤ g' c) {x y : ℚ}
    (hxy : x ≤ y) :
    cs.foldl (fun h c => Scalar.max h (g c)) x ≤ cs.foldl (fun h c => Scalar.max h (g' c)) y := by
  induction cs generalizing x y with
  | nil => exact hxy
  | cons c cs ih =>
    have hc : max x (g c) ≤ max y (g' c) := max_le_max hxy (h c List.mem_cons_self)
    exact ih (fun d hd => h d (List.mem_cons_of_mem _ hd)) hc

section

variable (h : p.CollapsesMore ht measure q)

include h

/-! ## Boxes -/

/-- Where more is collapsed no box is wider. -/
theorem renderedWidth_le (b : t.Box) :
    (q.layout measure).renderedWidth b ≤ (p.layout measure).renderedWidth b := by
  induction b using Forest.kids_induction with
  | h b ih =>
    rw [renderedWidth_of_atRest h.snd, renderedWidth_of_atRest h.fst]
    -- labels and texts are the same, so only the children can make a difference
    apply max_le_max_right
    by_cases hq : (q.box b).hidden = true
    · rw [if_pos hq]
      split
      · exact le_refl _
      · exact le_max_left _ _
    · have hp : ¬(p.box b).hidden = true := fun hp => hq (h.hidden b hp)
      rw [if_neg hq, if_neg hp]
      apply max_le_max_left
      exact List.sum_le_sum ih

theorem renderedHeight_le (b : t.Box) :
    (q.layout measure).renderedHeight b ≤ (p.layout measure).renderedHeight b := by
  induction b using Forest.kids_induction with
  | h b ih =>
    rw [renderedHeight_eq (h.snd_height b), renderedHeight_eq (h.fst_height b)]
    apply add_le_add_right
    by_cases hq : (q.box b).hidden = true
    · rw [if_pos hq]
      split
      · exact le_refl _
      · exact (le_foldl_max (p.layout measure).renderedHeight 0 _).1
    · have hp : ¬(p.box b).hidden = true := fun hp => hq (h.hidden b hp)
      rw [if_neg hq, if_neg hp]
      exact foldl_max_mono ih (le_refl _)

/-- What is displayed where more is collapsed is displayed where less is. -/
theorem isDisplayed_of_collapsesMore (b : t.Box) (hb : (q.layout measure).isDisplayed b = true) :
    (p.layout measure).isDisplayed b = true := by
  fun_induction Forest.ancestors t.boxes b with
  | case1 b hparent =>
    rw [isDisplayed, hparent] at hb ⊢
    exact hb
  | case2 b a hlt hparent ih =>
    rw [isDisplayed, hparent] at hb ⊢
    simp only [Bool.and_eq_true, Bool.not_eq_true'] at hb ⊢
    have hshown : ¬(p.box a).hidden = true := fun hp => by
      have hhidden : (q.layout measure).hidden a = true := h.hidden a hp
      rw [hhidden] at hb
      cases hb.1
    exact ⟨Bool.eq_false_iff.2 hshown, ih hb.2⟩

variable (hroom : Roomy measure)

include hroom

theorem displayedWidth_le (b : t.Box) :
    (q.layout measure).displayedWidth b ≤ (p.layout measure).displayedWidth b := by
  have hnonneg : 0 ≤ (p.layout measure).renderedWidth b := by
    refine renderedWidth_nonneg ?_ (h.fst.minWidth b)
    rw [← ht.width_inputSize measure p]
    exact width_inputSize_nonneg (l := p.layout measure) hroom _
  unfold displayedWidth
  by_cases hq : (q.layout measure).isDisplayed b = true
  · rw [if_pos hq, if_pos (isDisplayed_of_collapsesMore h b hq)]
    exact renderedWidth_le h b
  · rw [if_neg hq]
    split
    · exact hnonneg
    · exact le_refl _

/-! ## Fragments -/

/-- A fragment that follows a box is held at a width that is no greater, one without a box at
none. -/
theorem minWidth_le (f : t.Piece) :
    (q.piece f).minWidth.getD 0 ≤ (p.piece f).minWidth.getD 0 := by
  cases hinput : ht.isInput f with
  | true =>
    obtain ⟨b, rfl⟩ := BoxTree.Tidy.isInput_iff.1 hinput
    rw [h.snd.follows b, h.fst.follows b]
    exact displayedWidth_le h hroom b
  | false =>
    rw [h.snd.minWidth_of_not_isInput hinput, h.fst.minWidth_of_not_isInput hinput]

/-- Where more is collapsed no fragment is wider. -/
theorem pieceWidth_le (f : t.Piece) :
    (q.layout measure).pieceWidth f ≤ (p.layout measure).pieceWidth f := by
  induction f using Forest.kids_induction with
  | h f ih =>
    rw [pieceWidth_eq, pieceWidth_eq]
    apply max_le_max
    · rw [innerWidth, innerWidth]
      apply add_le_add_right
      exact List.sum_le_sum ih
    · exact minWidth_le h hroom f

/-! ## The frame -/

theorem arranged_width_le :
    (q.layout measure).arranged.width ≤ (p.layout measure).arranged.width := by
  have hribbon : ∀ l : Layout ℚ t, (l.ribbonFlow.stop (0, 0) t.fragments.tops).1 =
      0 + (t.fragments.tops.map l.pieceWidth).sum := fun l =>
    stop_eq (F := l.ribbonFlow) Prod.fst l.pieceWidth (fun _ _ => rfl) (0, 0) _
  have hblock : ∀ l : Layout ℚ t, (l.blockFlow.stop (0, l.lineHeight, 0) t.boxes.tops).1 =
      0 + (t.boxes.tops.map l.renderedWidth).sum := fun l =>
    stop_eq (F := l.blockFlow) Prod.fst l.renderedWidth (fun _ _ => rfl) (0, l.lineHeight, 0) _
  rw [arranged, arranged, hribbon, hribbon, hblock, hblock]
  apply max_le_max
  · apply add_le_add_right
    exact List.sum_le_sum fun f _ => pieceWidth_le h hroom f
  · apply add_le_add_right
    exact List.sum_le_sum fun b _ => renderedWidth_le h b

omit hroom in
theorem arranged_height_le :
    (q.layout measure).arranged.height ≤ (p.layout measure).arranged.height := by
  rw [arranged, arranged]
  apply add_le_add_right
  exact foldl_max_mono (fun b _ => renderedHeight_le h b) (le_refl _)

end

end Layout

end ParseBoxes
