import ParseBoxes.Proofs.Layout.Flush
import ParseBoxes.Proofs.Layout.Rows

/-!
# Rectangles within rectangles

Over exact rationals, where nothing has a negative extent (`Layout.Ample`).  A fragment encloses the
fragments in it in every frame (`PieceAreas.inside`).  A box encloses the boxes in it on a board at
rest (`BoxAreas.inside`): then it is as wide as they are side by side and as high as its label above
the tallest of them.  While a transition holds its width or its height, boxes can stick out of it.
-/

namespace ParseBoxes

/-- The rectangle of a whole frame. -/
def Snapshot.border {α : Type} [Scalar α] (s : Snapshot α) : Rect α := ⟨0, 0, s.width, s.height⟩

variable {t : BoxTree}

namespace Layout

/-- No text has a negative extent. -/
structure Ample (measure : Measurer ℚ) : Prop where
  width : Roomy measure
  height : ∀ text role, 0 ≤ (measure text role).height

/-! ## Widths and heights of rows -/

/-- The greatest of a row of numbers is no less than the first, nor than any other. -/
theorem le_foldl_max {β : Type} (g : β → ℚ) (x : ℚ) (cs : List β) :
    x ≤ cs.foldl (fun h c => Scalar.max h (g c)) x ∧
      ∀ c ∈ cs, g c ≤ cs.foldl (fun h c => Scalar.max h (g c)) x := by
  induction cs generalizing x with
  | nil => exact ⟨le_refl x, fun c hc => absurd hc List.not_mem_nil⟩
  | cons c cs ih =>
    obtain ⟨hfirst, hrest⟩ := ih (Scalar.max x (g c))
    refine ⟨(le_max_left x (g c)).trans hfirst, fun d hd => ?_⟩
    rcases List.mem_cons.1 hd with rfl | hd
    · exact (le_max_right x (g d)).trans hfirst
    · exact hrest d hd

theorem height_foldl_beside {β : Type} (width height : β → ℚ) (cs : List β) (size : Size ℚ) :
    (cs.foldl (fun s c => s.beside ⟨width c, height c⟩) size).height =
      cs.foldl (fun h c => Scalar.max h (height c)) size.height := by
  induction cs generalizing size with
  | nil => rfl
  | cons c cs ih => rw [List.foldl_cons, ih, Size.height_beside, List.foldl_cons]

/-- Where a cursor comes out of a row that moves it on by a width at each member. -/
theorem stop_eq {ν π : Type} {f : Forest ν} {F : f.Flow π} (abscissa : π → ℚ)
    (width : Fin f.size → ℚ) (h : ∀ c q, abscissa (F.behind c q) = abscissa q + width c) (q : π)
    (cs : List (Fin f.size)) : abscissa (F.stop q cs) = abscissa q + (cs.map width).sum := by
  induction cs generalizing q with
  | nil => exact (add_zero _).symm
  | cons c cs ih =>
    have hstop : F.stop q (c :: cs) = F.stop (F.behind c q) cs := rfl
    rw [hstop, ih, h, List.map_cons, List.sum_cons, add_assoc]

theorem width_inputSize_nonneg {l : Layout ℚ t} (hroom : Roomy l.measure) (f : t.Piece) :
    0 ≤ (l.inputSize f).width := by
  induction f using Forest.kids_induction with
  | h f ih =>
    rw [width_inputSize_eq]
    exact add_nonneg (hroom _ _) (sum_map_nonneg ih)

section

variable {measure : Measurer ℚ} {p : Pins ℚ t}

/-- A box is no narrower than nothing if its least width is not. -/
theorem renderedWidth_nonneg {b : t.Box} {least : ℚ} (hleast : 0 ≤ least)
    (hpin : (p.box b).minWidth = some least) : 0 ≤ (p.layout measure).renderedWidth b := by
  obtain ⟨natural, hwidth⟩ : ∃ natural, (p.layout measure).renderedWidth b =
      Scalar.max natural least := exists_renderedWidth_eq_max hpin
  rw [hwidth]
  exact hleast.trans (le_max_right natural least)

/-- A box whose height no transition holds is as high as its label above the tallest of the children
that it shows. -/
theorem renderedHeight_eq {b : t.Box} (hheight : (p.box b).childrenHeight = none) :
    (p.layout measure).renderedHeight b = ((p.layout measure).labelSize b).height +
      if (p.box b).hidden = true then 0
      else ((t.boxes.kids b).map (·.1)).foldl
        (fun h c => Scalar.max h ((p.layout measure).renderedHeight c)) 0 := by
  have hpinned : (p.layout measure).pinnedHeight b = none := hheight
  rw [renderedHeight, childrenHeight, hpinned]
  cases hhidden : (p.box b).hidden with
  | true =>
    have hhidden : (p.layout measure).hidden b = true := hhidden
    rw [hhidden]
    rfl
  | false =>
    have hhidden : (p.layout measure).hidden b = false := hhidden
    have hblock : ((p.layout measure).childrenBlock b).height =
        ((t.boxes.kids b).map (·.1)).foldl
          (fun h c => Scalar.max h ((p.layout measure).renderedHeight c)) 0 := by
      rw [childrenBlock, hhidden, List.foldl_map]
      exact height_foldl_beside (fun k : { c // b < c } => (p.layout measure).renderedWidth k.1)
        (fun k => (p.layout measure).renderedHeight k.1) _ _
    rw [hhidden]
    exact congrArg (_ + ·) hblock

/-- An open box whose height no transition holds has room for its label above each of its
children. -/
theorem labelHeight_add_le {b c : t.Box} (hopen : (p.box b).hidden = false)
    (hheight : (p.box b).childrenHeight = none) (hc : t.boxes.HasChild b c) :
    ((p.layout measure).labelSize b).height + (p.layout measure).renderedHeight c ≤
      (p.layout measure).renderedHeight b := by
  have htall := (le_foldl_max (p.layout measure).renderedHeight 0 _).2 c hc
  rw [renderedHeight_eq hheight, if_neg (ne_true_of_eq_false hopen)]
  exact add_le_add_right htall _

end

/-! ## The ribbon -/

namespace PieceAreas

variable {l : Layout ℚ t} {area : t.Piece → Rect ℚ} (hf : t.fragments.Preordered)

include hf

/-- A fragment encloses the fragments in it. -/
theorem inside (ha : l.PieceAreas area) (hroom : Roomy l.measure) {p c : t.Piece}
    (hc : t.fragments.HasChild p c) : (area c).Inside (area p) := by
  obtain ⟨q, hq⟩ := l.exists_mem_placedPieces hf p
  obtain ⟨q', hq'⟩ := l.exists_mem_placedPieces hf c
  obtain ⟨hleft, hright⟩ := (precedes_of_lt hroom hf hq hq' hc.lt).inside (.single hc)
  have htext : 0 ≤ (l.textSize p).width := hroom _ _
  have hinner := l.innerWidth_le p
  simp only at hleft hright
  rw [← ha _ hq, ← ha _ hq']
  refine ⟨?_, le_refl _, ?_, le_refl _⟩
  · show q.1 ≤ q'.1
    linarith
  · show q'.1 + l.pieceWidth c ≤ q.1 + l.pieceWidth p
    linarith

end PieceAreas

/-- The ribbon lies in the frame. -/
theorem ribbon_inside_border (l : Layout ℚ t) (hroom : Roomy l.measure) :
    ∀ r ∈ l.arranged.ribbon, r.rect.Inside l.arranged.border := by
  intro r hr
  obtain ⟨e, he, rfl⟩ := List.mem_map.1 hr
  obtain ⟨hleft, hright⟩ := within_row hroom (0, 0) t.fragments.tops e he
  have hstop := stop_eq (F := l.ribbonFlow) Prod.fst l.pieceWidth (fun _ _ => rfl) (0, 0)
    t.fragments.tops
  rw [← hstop] at hright
  have htall := (le_foldl_max l.renderedHeight 0 t.boxes.tops).1
  refine ⟨hleft, le_refl 0, ?_, ?_⟩
  · show e.2.1 + l.pieceWidth e.1 ≤ 0 + max _ _
    rw [zero_add]
    exact hright.trans (le_max_left _ _)
  · show 0 + l.lineHeight ≤ 0 + (l.lineHeight + _)
    linarith

/-! ## Boxes at rest -/

namespace BoxAreas

variable {measure : Measurer ℚ} {p : Pins ℚ t} {ht : t.Tidy} {area : t.Box → Rect ℚ}
  (ha : (p.layout measure).BoxAreas area) (hf : t.boxes.Preordered) (hample : Ample measure)
  (hwidth : ∀ b, 0 ≤ (p.layout measure).renderedWidth b)

include ha hf hwidth

/-- The rectangles of a row of displayed boxes lie between its ends. -/
theorem between {x : ℚ} {cs : List t.Box} (hrow : Rect.EdgeToEdge x (cs.map area))
    (hcs : ∀ c ∈ cs, (p.layout measure).isDisplayed c = true) (hl : t.boxes.Linked) :
    ∀ c ∈ cs, x ≤ (area c).x ∧
      (area c).right ≤ x + (cs.map (p.layout measure).renderedWidth).sum := by
  have hsize : ∀ c ∈ cs, (area c).width = (p.layout measure).renderedWidth c := fun c hc =>
    (ha.size hl hf (hcs c hc)).1
  have hwidths : (cs.map area).map (·.width) = cs.map (p.layout measure).renderedWidth := by
    rw [List.map_map]
    exact List.map_congr_left hsize
  have hnonneg : ∀ c ∈ cs, 0 ≤ (area c).width := by
    intro c hc
    rw [hsize c hc]
    exact hwidth c
  intro c hc
  have hbetween := hrow.between (List.forall_mem_map.2 hnonneg) (area c) (List.mem_map_of_mem hc)
  rwa [hwidths] at hbetween

include hample

/-- A box at rest encloses the boxes in it. -/
theorem inside (hrest : p.AtRest ht measure) (hheight : ∀ b, (p.box b).childrenHeight = none)
    {b c : t.Box} (hc : t.boxes.HasChild b c)
    (hdisplayed : (p.layout measure).isDisplayed c = true) : (area c).Inside (area b) := by
  obtain ⟨hopen, hb⟩ := (isDisplayed_child_iff ht.linked hc).1 hdisplayed
  have hkids : ∀ k ∈ (t.boxes.kids b).map (·.1), (p.layout measure).isDisplayed k = true :=
    fun k hk => (isDisplayed_child_iff ht.linked hk).2 ⟨hopen, hb⟩
  obtain ⟨hrow, hlevel⟩ := ha.row_kids ht.linked hf hb hopen
  obtain ⟨hleft, hright⟩ := ha.between hf hwidth hrow hkids ht.linked c hc
  obtain ⟨hwide, htall⟩ := ha.size ht.linked hf hb
  have hsum := sum_kids_le_renderedWidth hrest hopen
  have hroom : _ ≤ (p.layout measure).renderedHeight b :=
    labelHeight_add_le hopen (hheight b) hc
  have hlabel : 0 ≤ ((p.layout measure).labelSize b).height := hample.height _ _
  refine ⟨hleft, ?_, ?_, ?_⟩
  · rw [hlevel c hc]
    linarith
  · show _ ≤ (area b).x + (area b).width
    rw [hwide]
    linarith
  · rw [Rect.bottom, Rect.bottom, hlevel c hc, htall, (ha.size ht.linked hf hdisplayed).2]
    linarith

theorem top_inside_border (hl : t.boxes.Linked) {b : t.Box} (hb : b ∈ t.boxes.tops) :
    (area b).Inside (p.layout measure).arranged.border := by
  have htops : ∀ c ∈ t.boxes.tops, (p.layout measure).isDisplayed c = true := fun c hc =>
    isDisplayed_of_mem_tops hf hc
  obtain ⟨hrow, hlevel⟩ := ha.row_tops
  obtain ⟨hleft, hright⟩ := ha.between hf hwidth hrow htops hl b hb
  have hstop := stop_eq (F := (p.layout measure).blockFlow) Prod.fst
    (p.layout measure).renderedWidth (fun _ _ => rfl) (0, (p.layout measure).lineHeight, 0)
    t.boxes.tops
  rw [← hstop] at hright
  have htall := (le_foldl_max (p.layout measure).renderedHeight 0 t.boxes.tops).2 b hb
  refine ⟨hleft, ?_, ?_, ?_⟩
  · rw [hlevel b hb]
    exact hample.height _ _
  · show _ ≤ 0 + max _ _
    rw [zero_add]
    exact hright.trans (le_max_right _ _)
  · rw [Rect.bottom, hlevel b hb, (ha.size hl hf (htops b hb)).2]
    show _ ≤ 0 + ((p.layout measure).lineHeight + _)
    linarith

/-- All boxes at rest lie in the frame. -/
theorem boxes_inside_border (hrest : p.AtRest ht measure)
    (hheight : ∀ b, (p.box b).childrenHeight = none) :
    ∀ r ∈ (p.layout measure).arranged.boxes, r.rect.Inside (p.layout measure).arranged.border := by
  have hall : ∀ b, (p.layout measure).isDisplayed b = true →
      (area b).Inside (p.layout measure).arranged.border := by
    intro b
    induction b using hf.down_induction with
    | top b hb => exact fun _ => ha.top_inside_border hf hample hwidth ht.linked hb
    | child b c hc ih =>
      intro hdisplayed
      have hb := ((isDisplayed_child_iff ht.linked hc).1 hdisplayed).2
      exact (ha.inside hf hample hwidth hrest hheight hc hdisplayed).trans (ih hb)
  intro r hr
  obtain ⟨e, he, rfl⟩ := List.mem_map.1 hr
  rw [ha e he]
  exact hall e.1 ((mem_placedBoxes_iff ht.linked hf e.1).1 ⟨e.2, he⟩)

end BoxAreas

end Layout

end ParseBoxes
