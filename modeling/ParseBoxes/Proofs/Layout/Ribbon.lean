import ParseBoxes.Proofs.Animation.Easing
import ParseBoxes.Proofs.Animation.Pinning
import ParseBoxes.Proofs.Layout.Placing

/-!
# The ribbon

Over exact rationals.  If no text has a negative width, a fragment encloses the fragments in it, and
fragments that do not lie in each other stand side by side (`Layout.Precedes`).
-/

namespace ParseBoxes.Layout

variable {t : BoxTree} (l : Layout ℚ t)

/-- The extent of the text of a fragment and of the fragments in it. -/
def innerWidth (p : t.Piece) : ℚ :=
  (l.textSize p).width + (((t.fragments.kids p).map (·.1)).map l.pieceWidth).sum

theorem foldl_add_eq {β : Type} (width : β → ℚ) (x : ℚ) (cs : List β) :
    cs.foldl (fun x c => x + width c) x = x + (cs.map width).sum := by
  induction cs generalizing x with
  | nil => exact (add_zero x).symm
  | cons c cs ih => rw [List.foldl_cons, ih, List.map_cons, List.sum_cons, add_assoc]

theorem plusAll_eq (x : ℚ) (ws : List ℚ) : plusAll x ws = x + ws.sum := by
  cases ws with
  | nil => exact (add_zero x).symm
  | cons w ws =>
    have hsum := foldl_add_eq id w ws
    rw [List.map_id] at hsum
    exact congrArg (x + ·) hsum

theorem pieceWidth_eq (p : t.Piece) :
    l.pieceWidth p = max (l.innerWidth p) ((l.pins.piece p).minWidth.getD 0) := by
  rw [pieceWidth, plusAll_eq, innerWidth, List.map_map]
  rfl

theorem innerWidth_le (p : t.Piece) : l.innerWidth p ≤ l.pieceWidth p := by
  rw [pieceWidth_eq]
  exact le_max_left _ _

/-- No text has a negative width. -/
def Roomy (measure : Measurer ℚ) : Prop := ∀ text role, 0 ≤ (measure text role).width

variable {l} (hroom : Roomy l.measure)

theorem sum_map_nonneg {β : Type} {width : β → ℚ} {cs : List β} (h : ∀ c ∈ cs, 0 ≤ width c) :
    0 ≤ (cs.map width).sum := by
  refine List.sum_nonneg fun w hw => ?_
  obtain ⟨c, hc, rfl⟩ := List.mem_map.1 hw
  exact h c hc

include hroom in
theorem pieceWidth_nonneg (p : t.Piece) : 0 ≤ l.pieceWidth p := by
  induction p using Forest.kids_induction with
  | h p ih => exact le_trans (add_nonneg (hroom _ _) (sum_map_nonneg ih)) (l.innerWidth_le p)

include hroom in
theorem innerWidth_nonneg (p : t.Piece) : 0 ≤ l.innerWidth p :=
  add_nonneg (hroom _ _) (sum_map_nonneg fun c _ => pieceWidth_nonneg hroom c)

/-- A fragment lies between two ends. -/
def Within (l : Layout ℚ t) (left right : ℚ) (e : t.Piece × ℚ × Nat) : Prop :=
  left ≤ e.2.1 ∧ e.2.1 + l.pieceWidth e.1 ≤ right

theorem within_row_of_place {q : ℚ × Nat} {cs : List t.Piece}
    (hplace : ∀ c ∈ cs, ∀ q, ∀ e ∈ l.ribbonFlow.place c q,
      l.Within q.1 (q.1 + l.pieceWidth c) e)
    (hnonneg : ∀ c ∈ cs, 0 ≤ l.pieceWidth c) :
    ∀ e ∈ l.ribbonFlow.row q cs, l.Within q.1 (q.1 + (cs.map l.pieceWidth).sum) e := by
  induction cs generalizing q with
  | nil => exact fun e he => absurd he List.not_mem_nil
  | cons c cs ih =>
    intro e he
    have hc := hnonneg c List.mem_cons_self
    have hcs := sum_map_nonneg fun d hd => hnonneg d (List.mem_cons_of_mem c hd)
    rw [Forest.Flow.row_cons, List.mem_append] at he
    rw [List.map_cons, List.sum_cons]
    rcases he with he | he
    · obtain ⟨hleft, hright⟩ := hplace c List.mem_cons_self q e he
      exact ⟨hleft, by linarith⟩
    · obtain ⟨hleft, hright⟩ := ih (fun d hd => hplace d (List.mem_cons_of_mem c hd))
        (fun d hd => hnonneg d (List.mem_cons_of_mem c hd)) e he
      have hbehind : (l.ribbonFlow.behind c q).1 = q.1 + l.pieceWidth c := rfl
      rw [hbehind] at hleft hright
      exact ⟨by linarith, by linarith⟩

include hroom in
/-- A fragment encloses all that is placed in it. -/
theorem within_place (p : t.Piece) (q : ℚ × Nat) :
    ∀ e ∈ l.ribbonFlow.place p q, l.Within q.1 (q.1 + l.pieceWidth p) e := by
  induction p using Forest.kids_induction generalizing q with
  | h p ih =>
    intro e he
    rcases Forest.Flow.mem_place.1 he with rfl | ⟨q', hopen, he⟩
    · exact ⟨le_refl _, le_refl _⟩
    · cases hopen
      have htext : 0 ≤ (l.textSize p).width := hroom _ _
      have hinner := l.innerWidth_le p
      obtain ⟨hleft, hright⟩ := within_row_of_place (fun c hc => ih c hc)
        (fun c _ => pieceWidth_nonneg hroom c) e he
      rw [innerWidth] at hinner
      exact ⟨by simp only at hleft; linarith, by simp only at hright; linarith⟩

include hroom in
/-- Nothing in a row of fragments goes beyond the sum of their widths. -/
theorem within_row (q : ℚ × Nat) (cs : List t.Piece) :
    ∀ e ∈ l.ribbonFlow.row q cs, l.Within q.1 (q.1 + (cs.map l.pieceWidth).sum) e :=
  within_row_of_place (fun c _ => within_place hroom c) fun c _ => pieceWidth_nonneg hroom c

/-- One fragment is placed before another one: around it or to the left of it. -/
structure Precedes (l : Layout ℚ t) (d e : t.Piece × ℚ × Nat) : Prop where
  inside : t.fragments.Below d.1 e.1 →
    l.Within (d.2.1 + (l.textSize d.1).width) (d.2.1 + l.innerWidth d.1) e
  behind : ¬t.fragments.Below d.1 e.1 → d.2.1 + l.pieceWidth d.1 ≤ e.2.1

include hroom in
theorem pairwise_placedPieces (hf : t.fragments.Preordered) :
    l.placedPieces.Pairwise l.Precedes := by
  refine Forest.Flow.pairwise_row hf (fun p q q' hopen e he => ?_) (fun c q cs hc d hd e he => ?_)
    hf.siblings.tops (0, 0)
  · cases hopen
    have hbelow : t.fragments.Below p e.1 := by
      obtain ⟨c, hc, hce⟩ := Forest.Flow.below_of_mem_row he
      exact Forest.below_iff_child.2 ⟨c, hc, hce⟩
    refine ⟨fun _ => ?_, fun hnot => absurd hbelow hnot⟩
    have hwithin := within_row hroom _ _ e he
    rwa [add_assoc] at hwithin
  · have hdc := Forest.Flow.below_of_mem_place hd
    obtain ⟨c', hc', hce⟩ := Forest.Flow.below_of_mem_row he
    refine ⟨fun hbelow => absurd hbelow ?_, fun _ => ?_⟩
    · intro hbelow
      have hin : t.fragments.Below c e.1 := by
        rcases hdc with heq | hdc
        · exact heq ▸ hbelow
        · exact hdc.trans hbelow
      have hlt := hc c' hc' e.1 (.inr hin)
      rcases hce with heq | hce
      · exact absurd hlt (heq ▸ Nat.lt_irrefl _)
      · exact absurd (Nat.lt_trans hlt hce.lt) (Nat.lt_irrefl _)
    · exact le_trans (within_place hroom c q d hd).2 (within_row hroom _ cs e he).1

include hroom in
/-- A fragment with a lower number is placed before one with a higher number. -/
theorem precedes_of_lt (hf : t.fragments.Preordered) {d e : t.Piece × ℚ × Nat}
    (hd : d ∈ l.placedPieces) (he : e ∈ l.placedPieces) (hlt : d.1 < e.1) : l.Precedes d e := by
  obtain ⟨i, hi, rfl⟩ := List.mem_iff_getElem.1 hd
  obtain ⟨j, hj, rfl⟩ := List.mem_iff_getElem.1 he
  rcases Nat.lt_trichotomy i j with hij | rfl | hji
  · exact List.pairwise_iff_getElem.1 (pairwise_placedPieces hroom hf) i j hi hj hij
  · exact absurd hlt (Nat.lt_irrefl _)
  · have hgt := List.pairwise_iff_getElem.1 (l.pairwise_placedPieces_lt hf) j i hj hi hji
    exact absurd (Fin.lt_trans hlt hgt) (Nat.lt_irrefl _)

/-! ## Boxes below the ribbon -/

/-- A box stands no further right than its fragment. -/
def Under (ht : t.Tidy) (l : Layout ℚ t) (d : t.Box × ℚ × ℚ × Nat) : Prop :=
  ∀ e ∈ l.placedPieces, e.1 = ht.input d.1 → d.2.1 ≤ e.2.1

section

variable {ht : t.Tidy} {measure : Measurer ℚ} {p : Pins ℚ t}

/-- The fragment of a displayed box that follows it is held at the width of the box. -/
theorem minWidth_input {b : t.Box} (hfollows : p.Follows ht measure b)
    (hb : (p.layout measure).isDisplayed b = true) :
    ((p.layout measure).pins.piece (ht.input b)).minWidth =
      some ((p.layout measure).renderedWidth b) := by
  rw [hfollows, displayedWidth, if_pos hb]

/-- A fragment that follows a displayed box is at least as wide as it. -/
theorem renderedWidth_le_pieceWidth {b : t.Box} (hfollows : p.Follows ht measure b)
    (hb : (p.layout measure).isDisplayed b = true) :
    (p.layout measure).renderedWidth b ≤ (p.layout measure).pieceWidth (ht.input b) := by
  rw [pieceWidth_eq, minWidth_input hfollows hb]
  exact le_max_right _ _

/-- If the boxes of a row start under the first fragment and are no wider than their fragments, which
stand apart, all of them stand under their fragments. -/
theorem under_of_mem_spread (hroom : Roomy l.measure) (hf : t.fragments.Preordered)
    {cs : List t.Box}
    (hsiblings : cs.Pairwise fun b c => t.fragments.Ahead (ht.input b) (ht.input c))
    (hwide : ∀ c ∈ cs, l.renderedWidth c ≤ l.pieceWidth (ht.input c)) {q : ℚ × ℚ × Nat}
    (hstart : ∀ c ∈ cs, l.Under ht (c, q)) :
    ∀ d ∈ Forest.Flow.spread l.blockFlow.behind q cs, l.Under ht d := by
  induction cs generalizing q with
  | nil => exact fun d hd => absurd hd List.not_mem_nil
  | cons c cs ih =>
    obtain ⟨hc, hsiblings⟩ := List.pairwise_cons.1 hsiblings
    intro d hd
    rcases List.mem_cons.1 hd with rfl | hd
    · exact hstart c List.mem_cons_self
    · refine ih hsiblings (fun c hc => hwide c (List.mem_cons_of_mem _ hc)) ?_ d hd
      intro c' hc' e' he' hinput
      obtain ⟨q₀, he⟩ := l.exists_mem_placedPieces hf (ht.input c)
      have hahead : t.fragments.Ahead (ht.input c) e'.1 := hinput ▸ hc c' hc'
      have hbehind := (precedes_of_lt hroom hf he he' (hahead _ (.inl rfl))).behind fun hbelow =>
        Nat.lt_irrefl _ (hahead _ (.inr hbelow))
      have hle := hstart c List.mem_cons_self _ he rfl
      have hwidth := hwide c List.mem_cons_self
      show q.1 + l.renderedWidth c ≤ e'.2.1
      simp only at hle hbehind
      linarith

/-- Where no displayed box is wider than its fragment, no box stands further right than its
fragment. -/
theorem under_of_mem_placedBoxes (hn : BoxTree.Nested ht) (hroom : Roomy measure)
    (hwide : ∀ b, (p.layout measure).isDisplayed b = true →
      (p.layout measure).renderedWidth b ≤ (p.layout measure).pieceWidth (ht.input b)) :
    ∀ d ∈ (p.layout measure).placedBoxes, (p.layout measure).Under ht d := by
  intro d hd
  rw [placedBoxes, Forest.Flow.mem_row_iff_meets] at hd
  induction hd with
  | start hd =>
    refine under_of_mem_spread (l := p.layout measure) hroom hn.fragments hn.siblings.tops
      (fun c hc => hwide c (isDisplayed_of_mem_tops hn.boxes hc)) (fun c _ e he _ => ?_) _ hd
    exact (within_row (l := p.layout measure) hroom _ _ e he).1
  | @down d c q' hmeets hopen hc ih =>
    obtain ⟨b, q⟩ := d
    have hdisplayed : ∀ c, t.boxes.HasChild b c → (p.layout measure).isDisplayed c = true :=
      fun c => isDisplayed_of_inside ht.linked (isDisplayed_of_meets ht.linked hn.boxes hmeets) hopen
    obtain ⟨-, rfl⟩ := eq_of_inside_eq_some hopen
    refine under_of_mem_spread (l := p.layout measure) hroom hn.fragments (hn.siblings.kids b)
      (fun c hc => hwide c (hdisplayed c hc)) (fun c hc e he hinput => ?_) c hc
    obtain ⟨q₀, he₀⟩ := (p.layout measure).exists_mem_placedPieces hn.fragments (ht.input b)
    have hbelow : t.fragments.Below (ht.input b) e.1 := hinput ▸ hn.input_below b c hc
    have hinside := ((precedes_of_lt (l := p.layout measure) hroom hn.fragments he₀ he
      hbelow.lt).inside hbelow).1
    have htext : 0 ≤ ((p.layout measure).textSize (ht.input b)).width := hroom _ _
    have hle := ih _ he₀ rfl
    show q.1 ≤ e.2.1
    simp only at hle hinside
    linarith

end

end ParseBoxes.Layout
