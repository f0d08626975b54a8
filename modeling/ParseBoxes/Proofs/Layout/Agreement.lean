import ParseBoxes.Proofs.Layout.Depends

/-!
# Layouts that agree

What a box takes up depends on the box and on the boxes below it.  Two layouts with one measurer give
a box the same size if each of these boxes has the same pins in both, or takes up the same room
whatever its pins are (`Layout.SameSize.of_forall`).  In particular layouts that give the same pins
to all of them give the box one block of children, one width and one height (`Layout.Agree`); one of
them may have taken a box out to measure it.
-/

namespace ParseBoxes.Layout

variable {α : Type} [Scalar α] {t : BoxTree} {l l' : Layout α t} {b : t.Box}

/-- Two layouts give the same pins to a box. -/
structure AgreeAt (l l' : Layout α t) (b : t.Box) : Prop where
  hidden : l.hidden b = l'.hidden b
  explicitWidth : l.explicitWidth b = l'.explicitWidth b
  pinnedHeight : l.pinnedHeight b = l'.pinnedHeight b
  minWidth : (l.pins.box b).minWidth = (l'.pins.box b).minWidth

/-- A box takes up the same room in two layouts. -/
structure SameSize (l l' : Layout α t) (b : t.Box) : Prop where
  width : l.renderedWidth b = l'.renderedWidth b
  height : l.childrenHeight b = l'.childrenHeight b

omit [Scalar α] in
/-- Layouts agree at a box on which the same is pinned. -/
theorem AgreeAt.of_box {p q : Pins α t} (h : p.box b = q.box b) (measure : Measurer α) :
    AgreeAt (p.layout measure) (q.layout measure) b := by
  constructor <;> simp [Layout.hidden, Layout.explicitWidth, Layout.pinnedHeight, isDetached, h]

omit [Scalar α] in
theorem labelSize_congr (hm : l.measure = l'.measure) (b : t.Box) :
    l.labelSize b = l'.labelSize b := by
  rw [labelSize, labelSize, hm]

namespace SameSize

theorem symm (h : SameSize l l' b) : SameSize l' l b := ⟨h.width.symm, h.height.symm⟩

theorem trans {l'' : Layout α t} (h : SameSize l l' b) (h' : SameSize l' l'' b) :
    SameSize l l'' b :=
  ⟨h.width.trans h'.width, h.height.trans h'.height⟩

theorem renderedHeight (hm : l.measure = l'.measure) (h : SameSize l l' b) :
    l.renderedHeight b = l'.renderedHeight b := by
  rw [Layout.renderedHeight, Layout.renderedHeight, labelSize_congr hm, h.height]

end SameSize

/-- Children that take up the same room make one block. -/
theorem childrenBlock_congr (hm : l.measure = l'.measure) (hidden : l.hidden b = l'.hidden b)
    (hkids : ∀ c, t.boxes.HasChild b c → SameSize l l' c) :
    l.childrenBlock b = l'.childrenBlock b := by
  rw [Layout.childrenBlock, Layout.childrenBlock, hidden]
  split
  · rfl
  · refine List.foldl_ext _ _ _ fun block c hc => ?_
    have hchild := hkids c.1 (Forest.hasChild_of_mem_kids hc)
    show block.beside ⟨l.renderedWidth c.1, l.renderedHeight c.1⟩ = block.beside ⟨_, _⟩
    rw [hchild.width, hchild.renderedHeight hm]

/-- Where layouts agree at a box, and its children have the same sizes, so has the box. -/
theorem AgreeAt.sameSize (hm : l.measure = l'.measure) (hb : AgreeAt l l' b)
    (hkids : ∀ c, t.boxes.HasChild b c → SameSize l l' c) : SameSize l l' b := by
  have hblock := childrenBlock_congr hm hb.hidden hkids
  constructor
  · rw [renderedWidth_eq, renderedWidth_eq, hb.explicitWidth, hb.hidden, hb.minWidth,
      labelSize_congr hm, hblock]
  · rw [Layout.childrenHeight, Layout.childrenHeight, hb.hidden, hb.pinnedHeight, hblock]

/-- Each box of the subtree has the same pins, or it takes up the same room anyway. -/
theorem SameSize.of_forall (hm : l.measure = l'.measure)
    (h : ∀ c, c = b ∨ t.boxes.Below b c → AgreeAt l l' c ∨ SameSize l l' c) :
    SameSize l l' b := by
  induction b using Forest.kids_induction with
  | h b ih =>
    rcases h b (.inl rfl) with hb | hb
    · refine hb.sameSize hm fun c hc => ih c hc fun d hd => h d (.inr ?_)
      exact Forest.below_iff_child.2 ⟨c, hc, hd⟩
    · exact hb

/-- Two layouts have one measurer and give the same pins to a box and to all boxes below it. -/
structure Agree (l l' : Layout α t) (b : t.Box) : Prop where
  measure : l.measure = l'.measure
  pins : ∀ c, c = b ∨ t.boxes.Below b c → AgreeAt l l' c

namespace Agree

/-- Layouts that agree on a box and all below it give it the same size. -/
theorem sameSize (h : Agree l l' b) : SameSize l l' b :=
  .of_forall h.measure fun c hc => .inl (h.pins c hc)

omit [Scalar α] in
theorem child {c : t.Box} (h : Agree l l' b) (hc : t.boxes.HasChild b c) : Agree l l' c where
  measure := h.measure
  pins d hd := h.pins d (.inr (Forest.below_iff_child.2 ⟨c, hc, hd⟩))

theorem childrenBlock (h : Agree l l' b) : l.childrenBlock b = l'.childrenBlock b :=
  childrenBlock_congr h.measure (h.pins b (.inl rfl)).hidden fun _ hc => (h.child hc).sameSize

theorem renderedWidth (h : Agree l l' b) : l.renderedWidth b = l'.renderedWidth b :=
  h.sameSize.width

theorem renderedHeight (h : Agree l l' b) : l.renderedHeight b = l'.renderedHeight b :=
  h.sameSize.renderedHeight h.measure

end Agree

end ParseBoxes.Layout
