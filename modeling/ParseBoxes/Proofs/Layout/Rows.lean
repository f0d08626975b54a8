import ParseBoxes.Proofs.Layout.Ribbon
import ParseBoxes.Proofs.Layout.Listing

/-!
# Rows of rectangles

Over exact rationals.  The cursor moves on by the width of what it meets, so the fragments of a row
stand edge to edge, and so do the boxes of a row (`Rect.EdgeToEdge`), in every frame.  As nothing is
placed twice, a frame is a table of rectangles (`Layout.PieceAreas`, `Layout.BoxAreas`), in which
its rows can be read off (`PieceAreas.inRows`, `BoxAreas.inRows`).
-/

namespace ParseBoxes

namespace Rect

/-- Rectangles stand side by side without gaps, the first of them at an abscissa. -/
def EdgeToEdge : ℚ → List (Rect ℚ) → Prop
  | _, [] => True
  | x, r :: rs => r.x = x ∧ EdgeToEdge r.right rs

/-- A rectangle lies in another one. -/
structure Inside (r outer : Rect ℚ) : Prop where
  left : outer.x ≤ r.x
  top : outer.y ≤ r.y
  right : r.right ≤ outer.right
  bottom : r.bottom ≤ outer.bottom

theorem Inside.trans {r s u : Rect ℚ} (h : r.Inside s) (h' : s.Inside u) : r.Inside u where
  left := h'.left.trans h.left
  top := h'.top.trans h.top
  right := h.right.trans h'.right
  bottom := h.bottom.trans h'.bottom

theorem contains_iff {r : Rect ℚ} {x y : ℚ} :
    r.contains x y = true ↔ (r.x ≤ x ∧ x < r.right) ∧ r.y ≤ y ∧ y < r.bottom := by
  have hle : ∀ a b : ℚ, Scalar.le a b = true ↔ a ≤ b := fun _ _ => decide_eq_true_iff
  have hlt : ∀ a b : ℚ, Scalar.lt a b = true ↔ a < b := fun _ _ => decide_eq_true_iff
  simp only [contains, Bool.and_eq_true, hle, hlt, and_assoc]

namespace EdgeToEdge

variable {x : ℚ} {rs : List (Rect ℚ)} (h : EdgeToEdge x rs) (hwidth : ∀ r ∈ rs, 0 ≤ r.width)

include h hwidth

/-- A row ends behind its start by the widths of its members, which all lie in between. -/
theorem between : ∀ r ∈ rs, x ≤ r.x ∧ r.right ≤ x + (rs.map (·.width)).sum := by
  induction rs generalizing x with
  | nil => exact fun r hr => absurd hr List.not_mem_nil
  | cons r rs ih =>
    obtain ⟨rfl, hrs⟩ := h
    have hr := hwidth r List.mem_cons_self
    have htail : ∀ s ∈ rs, 0 ≤ s.width := fun s hs => hwidth s (List.mem_cons_of_mem r hs)
    have hsum := Layout.sum_map_nonneg htail
    have hright : r.right = r.x + r.width := rfl
    intro s hs
    rw [List.map_cons, List.sum_cons]
    rcases List.mem_cons.1 hs with rfl | hs
    · exact ⟨le_refl _, by linarith⟩
    · obtain ⟨hleft, hend⟩ := ih hrs htail s hs
      exact ⟨by linarith, by linarith⟩

/-- What stands in a row further to the right starts no earlier than where the others end. -/
theorem pairwise : rs.Pairwise fun r s => r.right ≤ s.x := by
  induction rs generalizing x with
  | nil => exact .nil
  | cons r rs ih =>
    have htail : ∀ s ∈ rs, 0 ≤ s.width := fun s hs => hwidth s (List.mem_cons_of_mem r hs)
    refine List.pairwise_cons.2 ⟨fun s hs => ?_, ih h.2 htail⟩
    exact (between h.2 htail s hs).1

end EdgeToEdge

/-- No point lies in two rectangles of a row. -/
theorem EdgeToEdge.eq_of_contains {β : Type} {area : β → Rect ℚ} {x₀ : ℚ} {cs : List β}
    (hrow : EdgeToEdge x₀ (cs.map area)) (hwidth : ∀ c ∈ cs, 0 ≤ (area c).width) {x y : ℚ} {b c : β}
    (hb : b ∈ cs) (hc : c ∈ cs) (hxb : (area b).contains x y = true)
    (hxc : (area c).contains x y = true) : b = c := by
  have hnonneg : ∀ r ∈ cs.map area, 0 ≤ r.width := List.forall_mem_map.2 hwidth
  have hapart : cs.Pairwise fun b c =>
      ¬((area b).contains x y = true ∧ (area c).contains x y = true) := by
    refine (List.pairwise_map.1 (hrow.pairwise hnonneg)).imp fun {b c} hle hboth => ?_
    have hright := (contains_iff.1 hboth.1).1.2
    have hleft := (contains_iff.1 hboth.2).1.1
    linarith
  have hsymm : Std.Symm fun b c =>
      ¬((area b).contains x y = true ∧ (area c).contains x y = true) :=
    ⟨fun _ _ h hboth => h hboth.symm⟩
  by_contra hne
  exact hapart.forall hb hc hne ⟨hxb, hxc⟩

end Rect

namespace Forest.Flow

variable {π β : Type} {behind : β → π → π}

/-- A cursor that comes out of each member of a row at its right edge puts the members edge to
edge. -/
theorem edgeToEdge_spread (abscissa : π → ℚ) (rect : β × π → Rect ℚ)
    (hx : ∀ c q, (rect (c, q)).x = abscissa q)
    (hright : ∀ c q, (rect (c, q)).right = abscissa (behind c q)) (q : π) (cs : List β) :
    Rect.EdgeToEdge (abscissa q) ((spread behind q cs).map rect) := by
  induction cs generalizing q with
  | nil => trivial
  | cons c cs ih =>
    refine ⟨hx c q, ?_⟩
    rw [hright]
    exact ih (behind c q)

end Forest.Flow

variable {t : BoxTree}

namespace Layout

/-- A ribbon: every fragment has one rectangle, and the rectangles of siblings stand edge to edge in
order, those in a fragment behind its text. -/
structure RibbonInRows (l : Layout ℚ t) (ribbon : List (PieceRect ℚ)) (area : t.Piece → Rect ℚ) :
    Prop where
  listed : ribbon.map (fun r => (r.id, r.rect)) = t.fragments.nodes.map fun p => (p.1, area p)
  tops : Rect.EdgeToEdge 0 (t.fragments.tops.map area)
  kids : ∀ p, Rect.EdgeToEdge ((area p).x + (l.textSize p).width)
    (((t.fragments.kids p).map (·.1)).map area)

/-- The boxes below a ribbon: every displayed box has one rectangle, and the rectangles of siblings
stand edge to edge in order, those at the top below the ribbon and those in a box below its
label. -/
structure BoxesInRows (l : Layout ℚ t) (boxes : List (BoxRect ℚ)) (area : t.Box → Rect ℚ) :
    Prop where
  listed : boxes.map (fun r => (r.id, r.rect)) = l.shownBoxes.map fun b => (b.1, area b)
  tops : Rect.EdgeToEdge 0 (t.boxes.tops.map area)
  kids : ∀ b, l.isDisplayed b = true → l.hidden b = false →
    Rect.EdgeToEdge (area b).x (((t.boxes.kids b).map (·.1)).map area)
  below_ribbon : ∀ b ∈ t.boxes.tops, (area b).y = l.lineHeight
  below_label : ∀ b c, t.boxes.HasChild b c → l.isDisplayed c = true →
    (area c).y = (area b).y + (l.labelSize b).height

open Forest.Flow (spread)

/-! ## The ribbon -/

/-- The rectangles at which fragments are placed. -/
def PieceAreas (l : Layout ℚ t) (area : t.Piece → Rect ℚ) : Prop :=
  ∀ e ∈ l.placedPieces, (l.pieceRect l.lineHeight e).rect = area e.1

theorem exists_pieceAreas (l : Layout ℚ t) (hf : t.fragments.Preordered) :
    ∃ area, l.PieceAreas area :=
  Forest.Flow.exists_table _ ⟨0, 0, 0, 0⟩ <|
    List.pairwise_map.2 ((l.pairwise_placedPieces_lt hf).imp Fin.ne_of_lt)

namespace PieceAreas

variable {l : Layout ℚ t} {area : t.Piece → Rect ℚ} (ha : l.PieceAreas area)

include ha

theorem row {q : ℚ × Nat} {cs : List t.Piece}
    (h : ∀ e ∈ spread l.ribbonFlow.behind q cs, e ∈ l.placedPieces) :
    Rect.EdgeToEdge q.1 (cs.map area) := by
  rw [← Forest.Flow.map_spread fun e he => ha e (h e he)]
  exact Forest.Flow.edgeToEdge_spread Prod.fst (fun e => (l.pieceRect l.lineHeight e).rect)
    (fun _ _ => rfl) (fun _ _ => rfl) q cs

theorem inRows (hf : t.fragments.Preordered) : l.RibbonInRows l.arranged.ribbon area where
  listed := by
    rw [← l.map_fst_placedPieces hf, arranged, List.map_map, List.map_map]
    exact List.map_congr_left fun e he => congrArg (e.1.1, ·) (ha e he)
  tops := ha.row fun _ he => Forest.Flow.mem_row_iff_meets.2 (.start he)
  kids p := by
    obtain ⟨q, hq⟩ := l.exists_mem_placedPieces hf p
    have hmeets := Forest.Flow.mem_row_iff_meets.1 hq
    have hx : q.1 = (area p).x := congrArg Rect.x (ha _ hq)
    rw [← hx]
    exact ha.row (q := (q.1 + (l.textSize p).width, q.2 + 1)) fun e he =>
      Forest.Flow.mem_row_iff_meets.2 (hmeets.down rfl he)

end PieceAreas

/-! ## Boxes -/

/-- The rectangles at which boxes are placed. -/
def BoxAreas (l : Layout ℚ t) (area : t.Box → Rect ℚ) : Prop :=
  ∀ e ∈ l.placedBoxes, (l.boxRect e).rect = area e.1

theorem exists_boxAreas (l : Layout ℚ t) (hf : t.boxes.Preordered) : ∃ area, l.BoxAreas area :=
  Forest.Flow.exists_table _ ⟨0, 0, 0, 0⟩ <|
    List.pairwise_map.2 ((l.pairwise_placedBoxes_lt hf).imp Fin.ne_of_lt)

namespace BoxAreas

variable {measure : Measurer ℚ} {p : Pins ℚ t} {area : t.Box → Rect ℚ}
  (ha : (p.layout measure).BoxAreas area)

include ha

theorem row {q : ℚ × ℚ × Nat} {cs : List t.Box}
    (h : ∀ e ∈ spread (p.layout measure).blockFlow.behind q cs,
      e ∈ (p.layout measure).placedBoxes) :
    Rect.EdgeToEdge q.1 (cs.map area) ∧ ∀ c ∈ cs, (area c).y = q.2.1 := by
  constructor
  · rw [← Forest.Flow.map_spread fun e he => ha e (h e he)]
    exact Forest.Flow.edgeToEdge_spread Prod.fst (fun e => ((p.layout measure).boxRect e).rect)
      (fun _ _ => rfl) (fun _ _ => rfl) q cs
  · intro c hc
    rw [← Forest.Flow.map_fst_spread (p.layout measure).blockFlow.behind q cs] at hc
    obtain ⟨e, he, rfl⟩ := List.mem_map.1 hc
    have hkeep : ∀ (c : t.Box) (q' : ℚ × ℚ × Nat), q'.2 = q.2 →
        ((p.layout measure).blockFlow.behind c q').2 = q.2 := fun _ _ hlevel => hlevel
    have hlevel : e.2.2 = q.2 := Forest.Flow.of_mem_spread hkeep rfl he
    rw [← ha e (h e he), ← hlevel]
    rfl

theorem row_tops : Rect.EdgeToEdge 0 (t.boxes.tops.map area) ∧
    ∀ b ∈ t.boxes.tops, (area b).y = (p.layout measure).lineHeight :=
  ha.row fun _ he => Forest.Flow.mem_row_iff_meets.2 (.start he)

variable (hl : t.boxes.Linked) (hf : t.boxes.Preordered)

include hl hf

/-- The row of the boxes in an open box. -/
theorem row_kids {b : t.Box} (hb : (p.layout measure).isDisplayed b = true)
    (hopen : (p.box b).hidden = false) :
    Rect.EdgeToEdge (area b).x (((t.boxes.kids b).map (·.1)).map area) ∧
      ∀ c, t.boxes.HasChild b c →
        (area c).y = (area b).y + ((p.layout measure).labelSize b).height := by
  obtain ⟨q, hq⟩ := (mem_placedBoxes_iff hl hf b).2 hb
  have hmeets := Forest.Flow.mem_row_iff_meets.1 hq
  have hinside : (p.layout measure).blockFlow.inside b q = some _ :=
    if_neg (ne_true_of_eq_false hopen)
  rw [← ha _ hq]
  exact ha.row (q := (q.1, q.2.1 + ((p.layout measure).labelSize b).height, q.2.2 + 1))
    fun e he => Forest.Flow.mem_row_iff_meets.2 (hmeets.down hinside he)

theorem inRows :
    (p.layout measure).BoxesInRows (p.layout measure).arranged.boxes area where
  listed := by
    rw [← map_fst_placedBoxes hl hf, arranged, List.map_map, List.map_map]
    exact List.map_congr_left fun e he => congrArg (e.1.1, ·) (ha e he)
  tops := ha.row_tops.1
  kids _ hb hopen := (ha.row_kids hl hf hb hopen).1
  below_ribbon := ha.row_tops.2
  below_label b c hc hdisplayed := by
    obtain ⟨hopen, hb⟩ := (isDisplayed_child_iff hl hc).1 hdisplayed
    exact (ha.row_kids hl hf hb hopen).2 c hc

/-- A displayed box has the extent that the rules give it. -/
theorem size {b : t.Box} (hb : (p.layout measure).isDisplayed b = true) :
    (area b).width = (p.layout measure).renderedWidth b ∧
      (area b).height = (p.layout measure).renderedHeight b := by
  obtain ⟨q, hq⟩ := (mem_placedBoxes_iff hl hf b).2 hb
  rw [← ha _ hq]
  exact ⟨rfl, rfl⟩

end BoxAreas

end Layout

end ParseBoxes
