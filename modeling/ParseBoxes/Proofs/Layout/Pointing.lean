import ParseBoxes.Proofs.Layout.Rows

/-!
# Pointing

The search for the innermost box under a point goes down from the top row and takes the first box of
a row that lies under the point.  Where no two boxes of a row do so (`Snapshot.Apart`), it finds the
one box that lies there with all boxes around it and with none of the boxes in it
(`Snapshot.hit?_eq_some_iff`).  Boxes that stick out of the box around them are not found there.
Over exact rationals the boxes of a row never overlap (`BoxAreas.apart`).
-/

namespace ParseBoxes

variable {t : BoxTree}

namespace Snapshot

variable {α : Type} [Scalar α]

/-- A frame has a rectangle for the box with this number, and the point lies in it. -/
def LiesUnder (s : Snapshot α) (x y : α) (b : Nat) : Prop :=
  ∃ r ∈ s.boxes, r.id = b ∧ r.rect.contains x y = true

/-- A box lies under the point with all boxes around it, and none of those in it does. -/
structure Innermost (s : Snapshot α) (t : BoxTree) (x y : α) (b : t.Box) : Prop where
  under : s.LiesUnder x y b.1
  around : ∀ a ∈ t.boxes.ancestors b, s.LiesUnder x y a.1
  alone : ∀ c, t.boxes.HasChild b c → ¬s.LiesUnder x y c.1

/-- No two boxes of a row lie under the point. -/
structure Apart (s : Snapshot α) (t : BoxTree) (x y : α) : Prop where
  tops : ∀ b ∈ t.boxes.tops, ∀ c ∈ t.boxes.tops, s.LiesUnder x y b.1 → s.LiesUnder x y c.1 → b = c
  kids : ∀ p b c, t.boxes.HasChild p b → t.boxes.HasChild p c →
    s.LiesUnder x y b.1 → s.LiesUnder x y c.1 → b = c

/-! ## The table of rectangles -/

omit [Scalar α] in
theorem getElem?_foldl_rects {bs : List (BoxRect α)} (hnodup : (bs.map (·.id)).Nodup)
    (rs : Array (Option (Rect α))) {b : Nat} (hb : b < rs.size) :
    (bs.foldl (fun rs b => rs.setIfInBounds b.id (some b.rect)) rs)[b]? =
      ((bs.find? fun r => r.id = b).map fun r => some r.rect).or rs[b]? := by
  induction bs generalizing rs with
  | nil => rfl
  | cons r bs ih =>
    obtain ⟨hr, hbs⟩ := List.nodup_cons.1 hnodup
    rw [List.foldl_cons, ih hbs _ (by simpa using hb)]
    by_cases hid : r.id = b
    · have hnone : (bs.find? fun r => r.id = b) = none := by
        refine List.find?_eq_none.2 fun r' hr' hid' => hr ?_
        exact List.mem_map.2 ⟨r', hr', (of_decide_eq_true hid').trans hid.symm⟩
      subst hid
      simp [hnone, hb]
    · simp [hid]

variable {s : Snapshot α} {x y : α} (hnodup : (s.boxes.map (·.id)).Nodup)

include hnodup

theorem covers_iff {size b : Nat} (hb : b < size) :
    covers (s.rects size) x y b = true ↔ s.LiesUnder x y b := by
  have hget := getElem?_foldl_rects hnodup (Array.replicate size none) (by simpa using hb)
  rw [covers, rects, hget]
  cases hfind : s.boxes.find? fun r => r.id = b with
  | none =>
    have hnone := List.find?_eq_none.1 hfind
    constructor
    · simp [hb]
    · rintro ⟨r, hr, hid, -⟩
      exact absurd (decide_eq_true hid) (hnone r hr)
  | some r =>
    have hr := List.mem_of_find?_eq_some hfind
    have hid : r.id = b := by simpa using List.find?_some hfind
    show r.rect.contains x y = true ↔ _
    constructor
    · intro hin
      exact ⟨r, hr, hid, hin⟩
    · rintro ⟨r', hr', hid', hin⟩
      rwa [← List.inj_on_of_nodup_map hnodup hr' hr (hid'.trans hid.symm)]

/-! ## The search -/

/-- The box that is taken from a row lies under the point. -/
theorem of_find?_eq_some {β : Type} {g : β → t.Box} {cs : List β} {c : β}
    (h : (cs.find? fun c => covers (s.rects t.boxes.size) x y (g c).1) = some c) :
    c ∈ cs ∧ s.LiesUnder x y (g c).1 := by
  have hcovers := List.find?_some h
  exact ⟨List.mem_of_find?_eq_some h, (covers_iff hnodup (g c).2).1 hcovers⟩

/-- If none is taken from a row, none of it lies under the point. -/
theorem of_find?_eq_none {β : Type} {g : β → t.Box} {cs : List β}
    (h : (cs.find? fun c => covers (s.rects t.boxes.size) x y (g c).1) = none) :
    ∀ c ∈ cs, ¬s.LiesUnder x y (g c).1 := by
  intro c hc hunder
  have hcovers := (covers_iff hnodup (g c).2).2 hunder
  exact List.find?_eq_none.1 h c hc hcovers

variable (hl : t.boxes.Linked)

include hl

/-- The search ends at an innermost box, if it starts at a box that lies under the point with all
boxes around it. -/
theorem innermost_innermost {b : t.Box} (hb : s.LiesUnder x y b.1)
    (hancestors : ∀ a ∈ t.boxes.ancestors b, s.LiesUnder x y a.1) :
    s.Innermost t x y (innermost t (s.rects t.boxes.size) x y b) := by
  fun_induction innermost t (s.rects t.boxes.size) x y b with
  | case1 b c hlt hfind ih =>
    obtain ⟨hmem, hc⟩ := of_find?_eq_some hnodup hfind
    have hchild : t.boxes.HasChild b c := Forest.hasChild_of_mem_kids hmem
    refine ih hc ?_
    rw [hl.ancestors_of_hasChild hchild, List.forall_mem_cons]
    exact ⟨hb, hancestors⟩
  | case2 b hfind =>
    refine ⟨hb, hancestors, fun c hc hin => ?_⟩
    obtain ⟨k, hk, rfl⟩ := List.mem_map.1 hc
    exact of_find?_eq_none hnodup hfind k hk hin

omit hnodup in
/-- The boxes between a box and an innermost one in it lie under the point. -/
theorem Innermost.liesUnder {a b : t.Box} (h : s.Innermost t x y b)
    (ha : b = a ∨ t.boxes.Below a b) : s.LiesUnder x y a.1 := by
  rcases ha with rfl | hbelow
  · exact h.under
  · exact h.around a (hl.mem_ancestors.2 hbelow)

/-- The search misses no innermost box in the box that it starts at. -/
theorem innermost_eq (hapart : s.Apart t x y) {a b : t.Box} (h : s.Innermost t x y b)
    (ha : b = a ∨ t.boxes.Below a b) : innermost t (s.rects t.boxes.size) x y a = b := by
  fun_induction innermost t (s.rects t.boxes.size) x y a with
  | case1 a c hlt hfind ih =>
    obtain ⟨hmem, hc⟩ := of_find?_eq_some hnodup hfind
    have hchild : t.boxes.HasChild a c := Forest.hasChild_of_mem_kids hmem
    rcases ha with rfl | hbelow
    · exact absurd hc (h.alone c hchild)
    · -- the child towards the innermost box lies under the point, so it is the one that is taken
      obtain ⟨k, hk, hin⟩ := Forest.below_iff_child.1 hbelow
      have hkc := hapart.kids a k c hk hchild (h.liesUnder hl hin) hc
      exact ih (hkc ▸ hin)
  | case2 a hfind =>
    rcases ha with rfl | hbelow
    · rfl
    · obtain ⟨k, hk, hin⟩ := Forest.below_iff_child.1 hbelow
      obtain ⟨k', hk', rfl⟩ := List.mem_map.1 hk
      exact absurd (h.liesUnder hl hin) (of_find?_eq_none hnodup hfind k' hk')

variable (hf : t.boxes.Preordered) (hapart : s.Apart t x y)

omit hl in
/-- Nothing is found just if no box of the top row lies under the point. -/
theorem hit?_eq_none_iff :
    s.hit? t x y = none ↔ ∀ b ∈ t.boxes.tops, ¬s.LiesUnder x y b.1 := by
  rw [hit?, Option.map_eq_none_iff, List.find?_eq_none]
  exact forall₂_congr fun b _ => not_congr (covers_iff hnodup b.2)

include hf hapart

/-- What is found is the innermost box. -/
theorem hit?_eq_some_iff {b : t.Box} : s.hit? t x y = some b ↔ s.Innermost t x y b := by
  constructor
  · intro hhit
    obtain ⟨a, hfind, rfl⟩ := Option.map_eq_some_iff.1 hhit
    obtain ⟨htop, ha⟩ := of_find?_eq_some (g := id) hnodup hfind
    refine innermost_innermost hnodup hl ha ?_
    rw [hf.ancestors_of_mem_tops htop]
    exact fun a ha => absurd ha List.not_mem_nil
  · intro h
    obtain ⟨r, hr, hin⟩ := hf.exists_top b
    have hunder := h.liesUnder hl hin
    cases hfind : t.boxes.tops.find? fun a => covers (s.rects t.boxes.size) x y a.1 with
    | none => exact absurd hunder (of_find?_eq_none (g := id) hnodup hfind r hr)
    | some a =>
      obtain ⟨htop, ha⟩ := of_find?_eq_some (g := id) hnodup hfind
      have heq := hapart.tops a htop r hr ha hunder
      rw [hit?, hfind, heq]
      exact congrArg some (innermost_eq hnodup hl hapart h hin)

end Snapshot

/-! ## Rows of boxes -/

namespace Layout.BoxAreas

variable {measure : Measurer ℚ} {p : Pins ℚ t} {area : t.Box → Rect ℚ}
  (ha : (p.layout measure).BoxAreas area) (hl : t.boxes.Linked) (hf : t.boxes.Preordered)

include ha hl hf

theorem of_liesUnder {x y : ℚ} {b : t.Box}
    (h : (p.layout measure).arranged.LiesUnder x y b.1) :
    (p.layout measure).isDisplayed b = true ∧ (area b).contains x y = true := by
  obtain ⟨r, hr, hid, hin⟩ := h
  obtain ⟨e, he, rfl⟩ := List.mem_map.1 hr
  cases Fin.ext hid
  rw [ha e he] at hin
  exact ⟨(mem_placedBoxes_iff hl hf e.1).1 ⟨e.2, he⟩, hin⟩

/-- The boxes of a row never overlap. -/
theorem apart (hwidth : ∀ b, 0 ≤ (p.layout measure).renderedWidth b) (x y : ℚ) :
    (p.layout measure).arranged.Apart t x y := by
  have hrow : ∀ {x₀ : ℚ} {cs : List t.Box}, Rect.EdgeToEdge x₀ (cs.map area) →
      (∀ c ∈ cs, (p.layout measure).isDisplayed c = true) → ∀ b ∈ cs, ∀ c ∈ cs,
        (p.layout measure).arranged.LiesUnder x y b.1 →
        (p.layout measure).arranged.LiesUnder x y c.1 → b = c := by
    intro x₀ cs hrow hcs b hb c hc hub huc
    refine Rect.EdgeToEdge.eq_of_contains hrow (fun d hd => ?_) hb hc (ha.of_liesUnder hl hf hub).2
      (ha.of_liesUnder hl hf huc).2
    rw [(ha.size hl hf (hcs d hd)).1]
    exact hwidth d
  constructor
  · exact hrow ha.row_tops.1 fun c hc => isDisplayed_of_mem_tops hf hc
  · intro a b c hb hc hub huc
    have hdisplayed := (isDisplayed_child_iff hl hb).1 (ha.of_liesUnder hl hf hub).1
    exact hrow (ha.row_kids hl hf hdisplayed.2 hdisplayed.1).1
      (fun d hd => (isDisplayed_child_iff hl hd).2 hdisplayed) b hb c hc hub huc

end Layout.BoxAreas

end ParseBoxes
