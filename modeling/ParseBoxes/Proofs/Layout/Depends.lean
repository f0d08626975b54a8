import Mathlib.Data.List.Basic
import ParseBoxes.Layout.Rules
import ParseBoxes.Proofs.Tree.Built

/-!
# What widths depend on

The width of a box depends on the box and on the boxes below it, and whether it is displayed depends
on the boxes above it.  Of what can change of a box, only three pins count (`SameWidth`); the height
of its block of children and all pins of fragments have no part in widths.  So a change of one box
leaves the displayed width of every box alone that is not among the dependents of the changed one
(`displayedWidth_eq_of_not_mem_dependents`).
-/

namespace ParseBoxes

variable {α : Type} {t : BoxTree}

/-- The layout that pins give to a board. -/
abbrev Pins.layout (p : Pins α t) (measure : Measurer α) : Layout α t := ⟨p, measure, none⟩

/-- Pins of a box that give the same widths. -/
structure BoxPins.SameWidth (p q : BoxPins α) : Prop where
  hidden : p.hidden = q.hidden
  explicitWidth : p.explicitWidth = q.explicitWidth
  minWidth : p.minWidth = q.minWidth

theorem BoxPins.SameWidth.rfl {p : BoxPins α} : p.SameWidth p := ⟨Eq.refl _, Eq.refl _, Eq.refl _⟩

theorem BoxPins.SameWidth.of_eq {p q : BoxPins α} (h : p = q) : p.SameWidth q := h ▸ .rfl

namespace Layout

/-- Whether a box is displayed depends on what the boxes above it hide. -/
theorem isDisplayed_congr {l l' : Layout α t} {b : t.Box}
    (h : ∀ c ∈ t.boxes.ancestors b, l.hidden c = l'.hidden c) :
    l.isDisplayed b = l'.isDisplayed b := by
  fun_induction Forest.ancestors t.boxes b with
  | case1 b hp => rw [isDisplayed, isDisplayed, hp]
  | case2 b a hlt hp ih =>
    rw [isDisplayed, isDisplayed, hp]
    simp only [h a List.mem_cons_self, ih fun c hc => h c (List.mem_cons_of_mem _ hc)]

variable [Scalar α]

theorem width_foldl_beside {β : Type} (width height : β → α) (l : List β) (size : Size α) :
    (l.foldl (fun s c => s.beside ⟨width c, height c⟩) size).width =
      l.foldl (fun w c => w + width c) size.width := by
  induction l generalizing size with
  | nil => rfl
  | cons c l ih => simp only [List.foldl_cons, ih, Size.width_beside]

/-- Heights have no part in the width of a block. -/
theorem width_childrenBlock (l : Layout α t) (b : t.Box) (h : l.hidden b = false) :
    (l.childrenBlock b).width =
      (t.boxes.kids b).foldl (fun w c => w + l.renderedWidth c.1) (0 : α) := by
  rw [childrenBlock, h]
  exact width_foldl_beside (fun c : { c // b < c } => l.renderedWidth c.1)
    (fun c => l.renderedHeight c.1) _ _

/-- The width of a box without explicit width is that of its label or its children. -/
theorem renderedWidth_eq (l : Layout α t) (b : t.Box) :
    l.renderedWidth b = atLeast ((l.explicitWidth b).getD
      (if l.hidden b then (l.labelSize b).width
        else Scalar.max (l.labelSize b).width (l.childrenBlock b).width))
      (l.pins.box b).minWidth := by
  rw [renderedWidth]
  cases l.explicitWidth b <;> rfl

/-- No box is narrower than its least width. -/
theorem exists_renderedWidth_eq_max {measure : Measurer α} {p : Pins α t} {b : t.Box} {least : α}
    (h : (p.box b).minWidth = some least) :
    ∃ natural, (p.layout measure).renderedWidth b = Scalar.max natural least := by
  have hleast : ((p.layout measure).pins.box b).minWidth = some least := h
  rw [renderedWidth_eq, hleast]
  exact ⟨_, rfl⟩

section Congruence

variable {measure : Measurer α} {p q : Pins α t}

/-- The width of a box depends on the box and on the boxes below it. -/
theorem renderedWidth_congr {b : t.Box}
    (h : ∀ c, c = b ∨ t.boxes.Below b c → (p.box c).SameWidth (q.box c)) :
    (p.layout measure).renderedWidth b = (q.layout measure).renderedWidth b := by
  induction b using Forest.kids_induction with
  | h b ih =>
    have hb := h b (.inl rfl)
    have hkids : ∀ c, t.boxes.HasChild b c →
        (p.layout measure).renderedWidth c = (q.layout measure).renderedWidth c := by
      intro c hc
      refine ih c hc fun d hd => h d (.inr ?_)
      exact Forest.below_iff_child.2 ⟨c, hc, hd⟩
    have hblock : (q.box b).hidden = false →
        ((p.layout measure).childrenBlock b).width = ((q.layout measure).childrenBlock b).width := by
      intro hq
      rw [width_childrenBlock (p.layout measure) b (hb.hidden.trans hq),
        width_childrenBlock (q.layout measure) b hq]
      refine List.foldl_ext _ _ _ fun w c hc => ?_
      rw [hkids c.1 (Forest.hasChild_of_mem_kids hc)]
    rw [renderedWidth_eq, renderedWidth_eq]
    simp only [explicitWidth, isDetached, hidden, labelSize, Bool.false_eq_true, ↓reduceIte,
      hb.explicitWidth, hb.minWidth, hb.hidden]
    by_cases hq : (q.box b).hidden = true
    · simp only [hq, ↓reduceIte]
    · rw [Bool.not_eq_true] at hq
      simp only [hq, Bool.false_eq_true, ↓reduceIte, hblock hq]

theorem displayedWidth_congr {b : t.Box}
    (habove : ∀ c ∈ t.boxes.ancestors b, (p.box c).hidden = (q.box c).hidden)
    (hbelow : ∀ c, c = b ∨ t.boxes.Below b c → (p.box c).SameWidth (q.box c)) :
    (p.layout measure).displayedWidth b = (q.layout measure).displayedWidth b := by
  have hdisplayed : (p.layout measure).isDisplayed b = (q.layout measure).isDisplayed b :=
    isDisplayed_congr habove
  unfold displayedWidth
  rw [hdisplayed, renderedWidth_congr hbelow]

theorem displayedWidth_eq_of_sameWidth (h : ∀ c, (p.box c).SameWidth (q.box c)) (b : t.Box) :
    (p.layout measure).displayedWidth b = (q.layout measure).displayedWidth b :=
  displayedWidth_congr (fun c _ => (h c).hidden) fun c _ => h c

/-- A change of one box leaves the width of all boxes alone that are not among its dependents. -/
theorem renderedWidth_eq_of_not_mem_dependents (ht : t.boxes.Linked) {c : t.Box}
    (h : ∀ d, d ≠ c → (p.box d).SameWidth (q.box d)) {b : t.Box} (hb : b ∉ t.dependents c) :
    (p.layout measure).renderedWidth b = (q.layout measure).renderedWidth b := by
  rw [BoxTree.mem_dependents ht] at hb
  refine renderedWidth_congr fun d hd => h d ?_
  rintro rfl
  rcases hd with rfl | hd
  · exact hb (.inl rfl)
  · exact hb (.inr (.inl hd))

/-- The same for the width that a box takes up: no box that hides it depends on the changed one. -/
theorem displayedWidth_eq_of_not_mem_dependents (ht : t.boxes.Linked) {c : t.Box}
    (h : ∀ d, d ≠ c → (p.box d).SameWidth (q.box d)) {b : t.Box} (hb : b ∉ t.dependents c) :
    (p.layout measure).displayedWidth b = (q.layout measure).displayedWidth b := by
  unfold displayedWidth
  have habove : ∀ d ∈ t.boxes.ancestors b, (p.box d).hidden = (q.box d).hidden := by
    intro d hd
    refine (h d ?_).hidden
    rintro rfl
    exact hb ((BoxTree.mem_dependents ht).2 (.inr (.inr (ht.mem_ancestors.1 hd))))
  have hdisplayed : (p.layout measure).isDisplayed b = (q.layout measure).isDisplayed b :=
    isDisplayed_congr habove
  rw [hdisplayed, renderedWidth_eq_of_not_mem_dependents ht h hb]

end Congruence

/-- The extent of a text depends on no pins. -/
theorem inputSize_congr {l l' : Layout α t} (hm : l.measure = l'.measure) (f : t.Piece) :
    l.inputSize f = l'.inputSize f := by
  induction f using Forest.kids_induction with
  | h f ih =>
    rw [inputSize, inputSize, textSize, textSize, hm]
    refine List.foldl_ext _ _ _ fun size c hc => ?_
    show size.beside (l.inputSize c.1) = size.beside _
    rw [ih c.1 (Forest.hasChild_of_mem_kids hc)]

theorem inputSize_eq (measure : Measurer α) (p q : Pins α t) (f : t.Piece) :
    (p.layout measure).inputSize f = (q.layout measure).inputSize f := by
  have hmeasure : (p.layout measure).measure = (q.layout measure).measure := rfl
  exact inputSize_congr hmeasure f

/-- The width of a fragment depends on no pins of boxes. -/
theorem pieceWidth_congr {l l' : Layout α t} (hm : l.measure = l'.measure)
    (h : ∀ f, l.pins.piece f = l'.pins.piece f) (f : t.Piece) :
    l.pieceWidth f = l'.pieceWidth f := by
  induction f using Forest.kids_induction with
  | h f ih =>
    have hkids : (t.fragments.kids f).map (fun c => l.pieceWidth c.1) =
        (t.fragments.kids f).map (fun c => l'.pieceWidth c.1) :=
      List.map_congr_left fun c hc => ih c.1 (Forest.hasChild_of_mem_kids hc)
    rw [pieceWidth, pieceWidth, textSize, textSize, hm]
    simp only [hkids, h]

end Layout

end ParseBoxes
