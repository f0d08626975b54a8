import ParseBoxes.Proofs.Layout.Ribbon
import ParseBoxes.Proofs.Animation.Frames
import ParseBoxes.Proofs.Tree.Homes

/-!
# Boxes flush with their fragments

Over exact rationals, on a board at rest (`Pins.AtRest`) with a snug tree.  A fragment without a box
is just as wide as the fragments in it, so a row of the ribbon that boxes are at home in is a row of
the fragments of these boxes (`Layout.exists_mem_row_of_mem_lined`).  So the fragment of a displayed
box is as wide as the box (`Layout.pieceWidth_input`) and stands where the box stands
(`Layout.exists_mem_placedPieces_of_mem_placedBoxes`).
-/

namespace ParseBoxes

variable {t : BoxTree} {ht : t.Tidy} {measure : Measurer ℚ} {p : Pins ℚ t}

/-- Nothing holds a box but its least width, that of its text, and nothing holds a fragment but the
width of its box. -/
structure Pins.AtRest (ht : t.Tidy) (measure : Measurer ℚ) (p : Pins ℚ t) : Prop where
  explicitWidth : ∀ b, (p.box b).explicitWidth = none
  minWidth : ∀ b, (p.box b).minWidth = some (ht.textWidth measure b)
  follows : ∀ b, p.Follows ht measure b
  bare : ∀ f, (∀ b, ht.input b ≠ f) → (p.piece f).minWidth = none

namespace Pins.AtRest

variable (hrest : p.AtRest ht measure)

include hrest

theorem minWidth_of_not_isInput {f : t.Piece} (hf : ht.isInput f = false) :
    (p.piece f).minWidth = none :=
  hrest.bare f fun b hb => ne_true_of_eq_false hf (BoxTree.Tidy.isInput_iff.2 ⟨b, hb⟩)

/-- Nothing holds a fragment whose box is not displayed. -/
theorem minWidth_getD_eq_zero {f : t.Piece}
    (hf : ∀ c, ht.input c = f → (p.layout measure).isDisplayed c = false) :
    (p.piece f).minWidth.getD 0 = 0 := by
  cases hinput : ht.isInput f with
  | true =>
    obtain ⟨c, rfl⟩ := BoxTree.Tidy.isInput_iff.1 hinput
    rw [hrest.follows c, Layout.displayedWidth, hf c rfl]
    rfl
  | false => rw [hrest.minWidth_of_not_isInput hinput, Option.getD_none]

end Pins.AtRest

namespace Layout

open Forest.Flow (spread)

/-! ## Rows -/

/-- The members of a row side by side, each with the abscissa at which it stands. -/
def lined {β : Type} (width : β → ℚ) (x : ℚ) (cs : List β) : List (β × ℚ) :=
  spread (fun c x => x + width c) x cs

theorem lined_append {β : Type} (width : β → ℚ) (x : ℚ) (cs ds : List β) :
    lined width x (cs ++ ds) = lined width x cs ++ lined width (x + (cs.map width).sum) ds := by
  induction cs generalizing x with
  | nil => rw [List.nil_append, List.map_nil, List.sum_nil, add_zero]; rfl
  | cons c cs ih =>
    have htail := ih (x + width c)
    rw [add_assoc, ← List.sum_cons, ← List.map_cons] at htail
    exact congrArg ((c, x) :: ·) htail

/-- Boxes that are as wide as their fragments stand side by side as these do. -/
theorem mem_lined_of_mem_spread {l : Layout ℚ t} {cs : List t.Box}
    (hwidth : ∀ c ∈ cs, l.pieceWidth (ht.input c) = l.renderedWidth c) {q : ℚ × ℚ × Nat}
    {d : t.Box × ℚ × ℚ × Nat} (hd : d ∈ spread l.blockFlow.behind q cs) :
    (ht.input d.1, d.2.1) ∈ lined l.pieceWidth q.1 (cs.map ht.input) := by
  induction cs generalizing q with
  | nil => exact absurd hd List.not_mem_nil
  | cons c cs ih =>
    rcases List.mem_cons.1 hd with rfl | hd
    · exact List.mem_cons_self
    · refine List.mem_cons_of_mem _ ?_
      show _ ∈ lined l.pieceWidth (q.1 + l.pieceWidth (ht.input c)) _
      rw [hwidth c List.mem_cons_self]
      exact ih (fun c hc => hwidth c (List.mem_cons_of_mem _ hc)) hd

theorem sum_map_flatMap {β γ : Type} {g : β → List γ} {width : γ → ℚ} {width' : β → ℚ} {cs : List β}
    (h : ∀ c ∈ cs, ((g c).map width).sum = width' c) :
    ((cs.flatMap g).map width).sum = (cs.map width').sum := by
  induction cs with
  | nil => rfl
  | cons c cs ih =>
    rw [List.flatMap_cons, List.map_append, List.sum_append, h c List.mem_cons_self,
      ih fun d hd => h d (List.mem_cons_of_mem c hd), List.map_cons, List.sum_cons]

/-- Fragments are placed side by side. -/
def SideBySide (l : Layout ℚ t) (x : ℚ) (fs : List t.Piece) (placed : List (t.Piece × ℚ × Nat)) :
    Prop :=
  ∀ e ∈ lined l.pieceWidth x fs, ∃ depth, (e.1, e.2, depth) ∈ placed

namespace SideBySide

variable {l : Layout ℚ t} {x : ℚ} {fs gs : List t.Piece} {placed placed' : List (t.Piece × ℚ × Nat)}

theorem cons (h : l.SideBySide x fs placed) (d : t.Piece × ℚ × Nat) :
    l.SideBySide x fs (d :: placed) := by
  intro e he
  obtain ⟨depth, hdepth⟩ := h e he
  exact ⟨depth, List.mem_cons_of_mem d hdepth⟩

theorem append (h : l.SideBySide x fs placed)
    (h' : l.SideBySide (x + (fs.map l.pieceWidth).sum) gs placed') :
    l.SideBySide x (fs ++ gs) (placed ++ placed') := by
  intro e he
  rw [lined_append, List.mem_append] at he
  rcases he with he | he
  · obtain ⟨depth, hdepth⟩ := h e he
    exact ⟨depth, List.mem_append_left _ hdepth⟩
  · obtain ⟨depth, hdepth⟩ := h' e he
    exact ⟨depth, List.mem_append_right _ hdepth⟩

end SideBySide

/-- If each fragment of a row is as wide as the fragments that stand for it, and these are placed
side by side in it, then all of them are so in the row. -/
theorem sideBySide_row {l : Layout ℚ t} {fs : List t.Piece} {front : t.Piece → List t.Piece}
    (hsum : ∀ f ∈ fs, ((front f).map l.pieceWidth).sum = l.pieceWidth f)
    (hplace : ∀ f ∈ fs, ∀ q, l.SideBySide q.1 (front f) (l.ribbonFlow.place f q)) (q : ℚ × Nat) :
    l.SideBySide q.1 (fs.flatMap front) (l.ribbonFlow.row q fs) := by
  induction fs generalizing q with
  | nil => exact fun e he => absurd he List.not_mem_nil
  | cons f fs ih =>
    have htail := ih (fun g hg => hsum g (List.mem_cons_of_mem f hg))
      (fun g hg => hplace g (List.mem_cons_of_mem f hg)) (l.ribbonFlow.behind f q)
    rw [List.flatMap_cons, Forest.Flow.row_cons]
    refine (hplace f List.mem_cons_self q).append ?_
    rw [hsum f List.mem_cons_self]
    exact htail

/-! ## Texts -/

theorem width_inputSize_eq (l : Layout ℚ t) (f : t.Piece) :
    (l.inputSize f).width = (l.textSize f).width +
      (((t.fragments.kids f).map (·.1)).map fun c => (l.inputSize c).width).sum := by
  rw [inputSize, List.map_map]
  exact (width_foldl_beside (fun c : { c // f < c } => (l.inputSize c.1).width)
    (fun c => (l.inputSize c.1).height) _ _).trans (foldl_add_eq _ _ _)

theorem width_textSize_eq_zero {l : Layout ℚ t} (hempty : (l.measure "" .input).width = 0)
    {f : t.Piece} (hf : t.piece f = .ofText "" none) : (l.textSize f).width = 0 := by
  rw [textSize, hf]
  exact hempty

theorem inside_of_width_textSize {l : Layout ℚ t} {f : t.Piece} (h : (l.textSize f).width = 0)
    (q : ℚ × Nat) : l.ribbonFlow.inside f q = some (q.1, q.2 + 1) := by
  show some (q.1 + (l.textSize f).width, q.2 + 1) = _
  rw [h, add_zero]

section

variable (hrest : p.AtRest ht measure) (hroom : Roomy measure)

include hrest hroom

/-- Fragments in which no box is displayed are as wide as their text. -/
theorem innerWidth_eq_width_inputSize {f : t.Piece}
    (hf : ∀ c, t.fragments.Below f (ht.input c) → (p.layout measure).isDisplayed c = false) :
    (p.layout measure).innerWidth f = ((p.layout measure).inputSize f).width := by
  induction f using Forest.kids_induction with
  | h f ih =>
    rw [innerWidth, width_inputSize_eq]
    refine congrArg _ (congrArg List.sum (List.map_congr_left fun k hk => ?_))
    have hin : ∀ c, k = ht.input c ∨ t.fragments.Below k (ht.input c) →
        (p.layout measure).isDisplayed c = false := by
      rintro c (rfl | hbelow)
      · exact hf c (.single hk)
      · exact hf c (.head hk hbelow)
    have hpin : ((p.layout measure).pins.piece k).minWidth.getD 0 = 0 :=
      hrest.minWidth_getD_eq_zero fun c hc => hin c (.inl hc.symm)
    rw [pieceWidth_eq, hpin, max_eq_left (innerWidth_nonneg (l := p.layout measure) hroom k)]
    exact ih k hk fun c hbelow => hin c (.inr hbelow)

/-- A fragment without a box is just as wide as what is in it. -/
theorem pieceWidth_eq_innerWidth {f : t.Piece} (hf : ht.isInput f = false) :
    (p.layout measure).pieceWidth f = (p.layout measure).innerWidth f := by
  have hpin : ((p.layout measure).pins.piece f).minWidth = none :=
    hrest.minWidth_of_not_isInput hf
  rw [pieceWidth_eq, hpin]
  exact max_eq_left (innerWidth_nonneg (l := p.layout measure) hroom f)

end

/-! ## Fragments of boxes side by side -/

section

variable {home : t.Piece → Option t.Box} (hsnug : BoxTree.Snug ht home)
  (hrest : p.AtRest ht measure) (hroom : Roomy measure) (hempty : (measure "" .input).width = 0)

include hsnug hrest hroom hempty

theorem sum_front {f : t.Piece} {c : t.Box} (hhome : home (ht.input c) = home f) :
    ((t.fragments.front ht.isInput f).map (p.layout measure).pieceWidth).sum =
      (p.layout measure).pieceWidth f := by
  induction f using Forest.kids_induction with
  | h f ih =>
    cases hf : ht.isInput f with
    | true => rw [Forest.front_of_mark hf, List.map_singleton, List.sum_singleton]
    | false =>
      have htext : ((p.layout measure).textSize f).width = 0 :=
        width_textSize_eq_zero hempty (hsnug.bare f c hf hhome)
      rw [Forest.front_of_not_mark hf, pieceWidth_eq_innerWidth hrest hroom hf, innerWidth, htext,
        zero_add]
      exact sum_map_flatMap fun k hk => ih k hk (hhome.trans (hsnug.stay f k hf hk).symm)

theorem sideBySide_place {f : t.Piece} {c : t.Box} (hhome : home (ht.input c) = home f)
    (q : ℚ × Nat) :
    (p.layout measure).SideBySide q.1 (t.fragments.front ht.isInput f)
      ((p.layout measure).ribbonFlow.place f q) := by
  induction f using Forest.kids_induction generalizing q with
  | h f ih =>
    rw [Forest.Flow.place_eq]
    cases hf : ht.isInput f with
    | true =>
      intro e he
      rw [Forest.front_of_mark hf] at he
      cases List.mem_singleton.1 he
      exact ⟨q.2, List.mem_cons_self⟩
    | false =>
      have hkids : ∀ k, t.fragments.HasChild f k → home (ht.input c) = home k :=
        fun k hk => hhome.trans (hsnug.stay f k hf hk).symm
      have htext : ((p.layout measure).textSize f).width = 0 :=
        width_textSize_eq_zero hempty (hsnug.bare f c hf hhome)
      have hrow := sideBySide_row
        (fun k hk => sum_front hsnug hrest hroom hempty (hkids k hk))
        (fun k hk => ih k hk (hkids k hk)) (q.1, q.2 + 1)
      rw [Forest.front_of_not_mark hf, inside_of_width_textSize htext]
      exact hrow.cons _

/-- A row of fragments that has the home of a box is as wide as the fragments of the boxes at home
there, and these are placed side by side in it. -/
theorem row_of_home {fs : List t.Piece} {c : t.Box} (hhome : ∀ f ∈ fs, home (ht.input c) = home f)
    (q : ℚ × Nat) :
    ((fs.flatMap (t.fragments.front ht.isInput)).map (p.layout measure).pieceWidth).sum =
        (fs.map (p.layout measure).pieceWidth).sum ∧
      (p.layout measure).SideBySide q.1 (fs.flatMap (t.fragments.front ht.isInput))
        ((p.layout measure).ribbonFlow.row q fs) := by
  have hsum : ∀ f ∈ fs, ((t.fragments.front ht.isInput f).map (p.layout measure).pieceWidth).sum =
      (p.layout measure).pieceWidth f :=
    fun f hf => sum_front hsnug hrest hroom hempty (hhome f hf)
  exact ⟨sum_map_flatMap hsum, sideBySide_row hsum
    (fun f hf => sideBySide_place hsnug hrest hroom hempty (hhome f hf)) q⟩

/-! ## Widths -/

omit hempty in
theorem innerWidth_le_of_not_isDisplayed {b : t.Box}
    (hb : ∀ c, t.boxes.Below b c → (p.layout measure).isDisplayed c = false) :
    (p.layout measure).innerWidth (ht.input b) ≤ (p.layout measure).renderedWidth b := by
  have hinner := innerWidth_eq_width_inputSize hrest hroom (f := ht.input b) fun c hbelow =>
    hb c (hsnug.below_of_input_below hbelow)
  obtain ⟨natural, hnatural⟩ : ∃ natural, (p.layout measure).renderedWidth b =
      Scalar.max natural (ht.textWidth measure b) :=
    exists_renderedWidth_eq_max (hrest.minWidth b)
  rw [hinner, ht.width_inputSize, hnatural]
  exact le_max_right natural _

omit hsnug hroom hempty in
/-- At rest a box is as wide as its label, as its children side by side if it shows them, and as its
text. -/
theorem renderedWidth_of_atRest (b : t.Box) :
    (p.layout measure).renderedWidth b =
      max (if (p.box b).hidden = true then ((p.layout measure).labelSize b).width
        else max ((p.layout measure).labelSize b).width
          (((t.boxes.kids b).map (·.1)).map (p.layout measure).renderedWidth).sum)
        (ht.textWidth measure b) := by
  have hexplicit : (p.layout measure).explicitWidth b = none := hrest.explicitWidth b
  have hleast : ((p.layout measure).pins.box b).minWidth = some (ht.textWidth measure b) :=
    hrest.minWidth b
  rw [renderedWidth_eq, hexplicit, hleast]
  cases hhidden : (p.box b).hidden with
  | true =>
    have hhidden : (p.layout measure).hidden b = true := hhidden
    rw [hhidden]
    rfl
  | false =>
    have hhidden : (p.layout measure).hidden b = false := hhidden
    have hblock : ((p.layout measure).childrenBlock b).width =
        (((t.boxes.kids b).map (·.1)).map (p.layout measure).renderedWidth).sum := by
      rw [width_childrenBlock _ b hhidden, foldl_add_eq, zero_add, List.map_map]
      rfl
    rw [hhidden, hblock]
    rfl

omit hsnug hroom hempty in
theorem sum_kids_le_renderedWidth {b : t.Box} (hb : (p.box b).hidden = false) :
    (((t.boxes.kids b).map (·.1)).map (p.layout measure).renderedWidth).sum ≤
      (p.layout measure).renderedWidth b := by
  rw [renderedWidth_of_atRest hrest, if_neg (ne_true_of_eq_false hb)]
  exact (le_max_right _ _).trans (le_max_left _ _)

omit hrest hroom in
/-- A box that others lie in has no text of its own. -/
theorem width_textSize_input (hn : BoxTree.Nested ht) {b c : t.Box} (hc : t.boxes.HasChild b c) :
    ((p.layout measure).textSize (ht.input b)).width = 0 := by
  obtain ⟨f, hf, -⟩ := Forest.below_iff_child.1 (hn.input_below b c hc)
  exact width_textSize_eq_zero hempty (hsnug.leaf _ f hf)

theorem innerWidth_eq_sum_kids (hn : BoxTree.Nested ht) {b c : t.Box} (hc : t.boxes.HasChild b c) :
    (p.layout measure).innerWidth (ht.input b) =
      (((t.boxes.kids b).map (·.1)).map fun c =>
        (p.layout measure).pieceWidth (ht.input c)).sum := by
  have hhome : ∀ f ∈ (t.fragments.kids (ht.input b)).map (·.1), home (ht.input c) = home f :=
    fun f hf => ((hsnug.input_kid b c).2 hc).trans (hsnug.inside b f hf).symm
  have hsum := (row_of_home hsnug hrest hroom hempty hhome (0, 0)).1
  rw [innerWidth, width_textSize_input hsnug hempty hn hc, zero_add, ← hsum, hsnug.front_kids hn,
    List.map_map]
  rfl

/-- The fragment of a displayed box is as wide as the box. -/
theorem pieceWidth_input (hn : BoxTree.Nested ht) {b : t.Box}
    (hb : (p.layout measure).isDisplayed b = true) :
    (p.layout measure).pieceWidth (ht.input b) = (p.layout measure).renderedWidth b := by
  induction b using Forest.kids_induction with
  | h b ih =>
    have hdisplayed : ∀ c, t.boxes.HasChild b c →
        (p.layout measure).isDisplayed c = !(p.box b).hidden := by
      intro c hc
      rw [isDisplayed_of_hasChild ht.linked hc, hb, Bool.and_true]
    rw [pieceWidth_eq, minWidth_input (hrest.follows b) hb]
    refine max_eq_right ?_
    -- the fragment holds those of the boxes shown in the box, or else nothing but text
    by_cases hopen : (p.box b).hidden = false ∧ ∃ c, t.boxes.HasChild b c
    · obtain ⟨hshown, c, hc⟩ := hopen
      rw [innerWidth_eq_sum_kids hsnug hrest hroom hempty hn hc]
      refine le_trans (le_of_eq (congrArg List.sum (List.map_congr_left fun c hc => ?_)))
        (sum_kids_le_renderedWidth hrest hshown)
      exact ih c hc ((hdisplayed c hc).trans (congrArg not hshown))
    · refine innerWidth_le_of_not_isDisplayed hsnug hrest hroom fun c hbelow => ?_
      obtain ⟨k, hk, -⟩ := Forest.below_iff_child.1 hbelow
      refine Bool.eq_false_iff.2 fun hc => hopen ⟨?_, k, hk⟩
      exact hidden_eq_false_of_below ht.linked hbelow hc

/-! ## Places -/

/-- The boxes of a row that starts where their fragments start stand where their fragments stand. -/
theorem exists_mem_row_of_mem_spread {cs : List t.Box} {fs : List t.Piece}
    (hfront : fs.flatMap (t.fragments.front ht.isInput) = cs.map ht.input)
    (hhome : ∀ c ∈ cs, ∀ f ∈ fs, home (ht.input c) = home f)
    (hwidth : ∀ c ∈ cs, (p.layout measure).pieceWidth (ht.input c) =
      (p.layout measure).renderedWidth c)
    {q : ℚ × ℚ × Nat} {d : t.Box × ℚ × ℚ × Nat}
    (hd : d ∈ spread (p.layout measure).blockFlow.behind q cs) (depth : Nat) :
    ∃ depth', (ht.input d.1, d.2.1, depth') ∈
      (p.layout measure).ribbonFlow.row (q.1, depth) fs := by
  have hlined := mem_lined_of_mem_spread hwidth hd
  rw [← hfront] at hlined
  exact (row_of_home hsnug hrest hroom hempty (hhome d.1 (Forest.Flow.mem_of_mem_spread hd))
    (q.1, depth)).2 _ hlined

/-- The fragment of a box stands where the box stands. -/
theorem exists_mem_placedPieces_of_mem_placedBoxes (hn : BoxTree.Nested ht)
    {d : t.Box × ℚ × ℚ × Nat} (hd : d ∈ (p.layout measure).placedBoxes) :
    ∃ depth, (ht.input d.1, d.2.1, depth) ∈ (p.layout measure).placedPieces := by
  rw [placedBoxes, Forest.Flow.mem_row_iff_meets] at hd
  induction hd with
  | start hd =>
    refine exists_mem_row_of_mem_spread hsnug hrest hroom hempty (hsnug.front_tops hn)
      (fun c hc f hf => ?_) (fun c hc => ?_) hd 0
    · rw [hsnug.top f hf, hsnug.input_top]
      exact hc
    · exact pieceWidth_input hsnug hrest hroom hempty hn (isDisplayed_of_mem_tops hn.boxes hc)
  | @down d c q' hmeets hopen hc ih =>
    obtain ⟨b, q⟩ := d
    obtain ⟨depth, hb⟩ := ih
    have hchild := Forest.Flow.mem_of_mem_spread hc
    have hdisplayed : ∀ c, t.boxes.HasChild b c → (p.layout measure).isDisplayed c = true :=
      fun c => isDisplayed_of_inside ht.linked (isDisplayed_of_meets ht.linked hn.boxes hmeets) hopen
    obtain ⟨-, rfl⟩ := eq_of_inside_eq_some hopen
    have htext : ((p.layout measure).textSize (ht.input b)).width = 0 :=
      width_textSize_input hsnug hempty hn hchild
    obtain ⟨depth', hdepth'⟩ := exists_mem_row_of_mem_spread hsnug hrest hroom hempty
      (hsnug.front_kids hn b)
      (fun c hc f hf => ((hsnug.input_kid b c).2 hc).trans (hsnug.inside b f hf).symm)
      (fun c hc => pieceWidth_input hsnug hrest hroom hempty hn (hdisplayed c hc)) hc (depth + 1)
    refine ⟨depth', Forest.Flow.mem_row_iff_meets.2 ?_⟩
    obtain ⟨k, hk, hin⟩ := Forest.Flow.mem_row.1 hdepth'
    have hmeets' := Forest.Flow.mem_row_iff_meets.1 hb
    exact (hmeets'.down (inside_of_width_textSize htext _) hk).place hin

end

end Layout

end ParseBoxes
