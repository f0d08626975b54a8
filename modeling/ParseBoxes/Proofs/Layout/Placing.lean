import Mathlib.Data.List.Basic
import ParseBoxes.Layout.Snapshot
import ParseBoxes.Proofs.Layout.Remembered
import ParseBoxes.Proofs.Tree.Nesting

/-!
# Placing forests

Fragments and boxes are placed by one scheme (`Forest.Flow`): a cursor runs over the nodes of a row,
is moved by each of them, and is handed down to a row of children, unless the node is closed.
Arranging a view lists the nodes in the order in which the cursor meets them, each with a rectangle
at the cursor (`View.arrange_answers`); what a view remembers plays no part.
-/

namespace ParseBoxes

namespace Forest

variable {ν π β : Type}

/-- How a cursor goes over a forest: where it enters a node, if the node is open, and where it comes
out behind it. -/
structure Flow (f : Forest ν) (π : Type) where
  inside : Fin f.size → π → Option π
  behind : Fin f.size → π → π

namespace Flow

/-- The members of a row, each with the cursor that meets it. -/
def spread (behind : β → π → π) : π → List β → List (β × π)
  | _, [] => []
  | q, c :: cs => (c, q) :: spread behind (behind c q) cs

theorem spread_map {γ : Type} (val : β → γ) (behind : γ → π → π) (q : π) (cs : List β) :
    spread behind q (cs.map val) =
      (spread (fun c => behind (val c)) q cs).map fun e => (val e.1, e.2) := by
  induction cs generalizing q with
  | nil => rfl
  | cons c cs ih => rw [List.map_cons, spread, spread, List.map_cons, ih]

variable {f : Forest ν}

section

variable (F : f.Flow π)

/-- A node and all that the cursor meets in it. -/
def place (i : Fin f.size) (q : π) : List (Fin f.size × π) :=
  (i, q) :: match F.inside i q with
    | none => []
    | some q => (spread (fun c => F.behind c.1) q (f.kids i)).flatMap fun ⟨⟨c, _⟩, q⟩ => place c q
termination_by f.size - i

/-- The nodes of a row and all that the cursor meets in them. -/
def row (q : π) (cs : List (Fin f.size)) : List (Fin f.size × π) :=
  (spread F.behind q cs).flatMap fun e => F.place e.1 e.2

theorem row_nil (q : π) : F.row q [] = [] := rfl

theorem row_cons (q : π) (c : Fin f.size) (cs : List (Fin f.size)) :
    F.row q (c :: cs) = F.place c q ++ F.row (F.behind c q) cs := by
  rw [row, spread, List.flatMap_cons, row]

/-- A node is placed, and within it, if it is open, the row of its children. -/
theorem place_eq (i : Fin f.size) (q : π) :
    F.place i q = (i, q) :: (F.inside i q).elim [] fun q => F.row q ((f.kids i).map (·.1)) := by
  rw [place]
  cases F.inside i q with
  | none => rfl
  | some q =>
    show (i, _) :: _ = (i, _) :: F.row q _
    rw [row, spread_map, List.flatMap_map]

/-- Where the cursor comes out behind a row. -/
def stop (q : π) (cs : List (Fin f.size)) : π := cs.foldl (fun q c => F.behind c q) q

/-- A loop whose state moves as the cursor does, and which writes down what the cursor meets. -/
theorem foldl_eq {σ γ : Type} (val : β → Fin f.size) (cursor : σ → π) (out : σ → Array γ)
    (rect : Fin f.size × π → γ) (step : σ → β → σ)
    (hcursor : ∀ s c, cursor (step s c) = F.behind (val c) (cursor s))
    (hout : ∀ s c, out (step s c) = out s ++ ((F.place (val c) (cursor s)).map rect).toArray)
    (s : σ) (cs : List β) :
    cursor (cs.foldl step s) = F.stop (cursor s) (cs.map val) ∧
      out (cs.foldl step s) = out s ++ ((F.row (cursor s) (cs.map val)).map rect).toArray := by
  induction cs generalizing s with
  | nil => exact ⟨rfl, by simp [row_nil]⟩
  | cons c cs ih =>
    obtain ⟨hc, ho⟩ := ih (step s c)
    refine ⟨?_, ?_⟩
    · rw [List.foldl_cons, hc, hcursor]
      rfl
    · rw [List.foldl_cons, ho, hout, hcursor, List.map_cons, row_cons, List.map_append,
        ← List.append_toArray, Array.append_assoc]

end

/-! ### What the cursor meets -/

/-- The cursor meets the members of a row and, in an open node that it meets, the children. -/
inductive Meets (F : f.Flow π) (q : π) (cs : List (Fin f.size)) : Fin f.size × π → Prop
  | start {e : Fin f.size × π} (he : e ∈ spread F.behind q cs) : Meets F q cs e
  | down {e d : Fin f.size × π} {q' : π} (he : Meets F q cs e) (hopen : F.inside e.1 e.2 = some q')
      (hd : d ∈ spread F.behind q' ((f.kids e.1).map (·.1))) : Meets F q cs d

variable {F : f.Flow π} {q : π} {cs : List (Fin f.size)}

theorem mem_of_mem_spread {behind : β → π → π} {q : π} {cs : List β} {e : β × π}
    (he : e ∈ spread behind q cs) : e.1 ∈ cs := by
  induction cs generalizing q with
  | nil => cases he
  | cons c cs ih =>
    rcases List.mem_cons.1 he with rfl | he
    · exact List.mem_cons_self
    · exact List.mem_cons_of_mem c (ih he)

theorem exists_mem_spread {behind : β → π → π} {c : β} {cs : List β} (hc : c ∈ cs) (q : π) :
    ∃ q', (c, q') ∈ spread behind q cs := by
  induction cs generalizing q with
  | nil => cases hc
  | cons d cs ih =>
    rcases List.mem_cons.1 hc with rfl | hc
    · exact ⟨q, List.mem_cons_self⟩
    · obtain ⟨q', hq'⟩ := ih hc (behind d q)
      exact ⟨q', List.mem_cons_of_mem _ hq'⟩

theorem mem_place {i : Fin f.size} {q : π} {e : Fin f.size × π} :
    e ∈ F.place i q ↔
      e = (i, q) ∨ ∃ q', F.inside i q = some q' ∧ e ∈ F.row q' ((f.kids i).map (·.1)) := by
  rw [place_eq, List.mem_cons]
  cases F.inside i q with
  | none => simp
  | some q' => simp

theorem mem_row {e : Fin f.size × π} :
    e ∈ F.row q cs ↔ ∃ d ∈ spread F.behind q cs, e ∈ F.place d.1 d.2 :=
  List.mem_flatMap

/-- Whatever is placed in a node lies in it. -/
theorem below_of_mem_place {i : Fin f.size} {q : π} {e : Fin f.size × π} (he : e ∈ F.place i q) :
    e.1 = i ∨ f.Below i e.1 := by
  induction i using Forest.kids_induction generalizing q with
  | h i ih =>
    rcases mem_place.1 he with rfl | ⟨q', -, he⟩
    · exact .inl rfl
    · obtain ⟨d, hd, he⟩ := mem_row.1 he
      exact .inr (below_iff_child.2 ⟨d.1, mem_of_mem_spread hd, ih d.1 (mem_of_mem_spread hd) he⟩)

theorem Meets.place {d e : Fin f.size × π} (hd : F.Meets q cs d) (he : e ∈ F.place d.1 d.2) :
    F.Meets q cs e := by
  obtain ⟨i, q₀⟩ := d
  induction i using Forest.kids_induction generalizing q₀ with
  | h i ih =>
    rcases mem_place.1 he with rfl | ⟨q', hopen, he⟩
    · exact hd
    · obtain ⟨c, hc, he⟩ := mem_row.1 he
      exact ih c.1 (mem_of_mem_spread hc) c.2 (hd.down hopen hc) he

theorem place_down {i : Fin f.size} {q₀ q' : π} {e d : Fin f.size × π} (he : e ∈ F.place i q₀)
    (hopen : F.inside e.1 e.2 = some q')
    (hd : d ∈ spread F.behind q' ((f.kids e.1).map (·.1))) : d ∈ F.place i q₀ := by
  induction i using Forest.kids_induction generalizing q₀ with
  | h i ih =>
    rw [mem_place]
    rcases mem_place.1 he with rfl | ⟨q₁, hopen₁, he⟩
    · exact .inr ⟨q', hopen, mem_row.2 ⟨d, hd, mem_place.2 (.inl rfl)⟩⟩
    · obtain ⟨c, hc, he⟩ := mem_row.1 he
      exact .inr ⟨q₁, hopen₁, mem_row.2 ⟨c, hc, ih c.1 (mem_of_mem_spread hc) he⟩⟩

/-- What is placed is what the cursor meets. -/
theorem mem_row_iff_meets {e : Fin f.size × π} : e ∈ F.row q cs ↔ F.Meets q cs e := by
  constructor
  · intro he
    obtain ⟨d, hd, he⟩ := mem_row.1 he
    exact (Meets.start hd).place he
  · intro he
    induction he with
    | start he => exact mem_row.2 ⟨_, he, mem_place.2 (.inl rfl)⟩
    | down _ hopen hd ih =>
      obtain ⟨c, hc, he⟩ := mem_row.1 ih
      exact mem_row.2 ⟨c, hc, place_down he hopen hd⟩

theorem below_of_mem_row {e : Fin f.size × π} (he : e ∈ F.row q cs) :
    ∃ c ∈ cs, e.1 = c ∨ f.Below c e.1 := by
  obtain ⟨d, hd, he⟩ := mem_row.1 he
  exact ⟨d.1, mem_of_mem_spread hd, below_of_mem_place he⟩

/-- What holds between a node and what is placed in it, and between what is placed in a node and
what is placed behind it, holds between what is placed earlier and what is placed later. -/
theorem pairwise_row (hf : f.Preordered) {R : Fin f.size × π → Fin f.size × π → Prop}
    (hinside : ∀ i q q', F.inside i q = some q' →
      ∀ e ∈ F.row q' ((f.kids i).map (·.1)), R (i, q) e)
    (hbehind : ∀ c q cs, (∀ c' ∈ cs, f.Ahead c c') →
      ∀ d ∈ F.place c q, ∀ e ∈ F.row (F.behind c q) cs, R d e)
    (hcs : cs.Pairwise f.Ahead) (q : π) : (F.row q cs).Pairwise R := by
  have hrow : ∀ cs : List (Fin f.size), cs.Pairwise f.Ahead →
      (∀ c ∈ cs, ∀ q, (F.place c q).Pairwise R) → ∀ q, (F.row q cs).Pairwise R := by
    intro cs hcs hplace
    induction cs with
    | nil => exact fun q => .nil
    | cons c cs ih =>
      intro q
      obtain ⟨hc, hcs⟩ := List.pairwise_cons.1 hcs
      rw [row_cons, List.pairwise_append]
      exact ⟨hplace c List.mem_cons_self q,
        ih hcs (fun d hd => hplace d (List.mem_cons_of_mem c hd)) _, hbehind c q cs hc⟩
  have hplace : ∀ i q, (F.place i q).Pairwise R := by
    intro i
    induction i using Forest.kids_induction with
    | h i ih =>
      intro q
      rw [place_eq, List.pairwise_cons]
      cases hopen : F.inside i q with
      | none => exact ⟨fun e he => absurd he List.not_mem_nil, .nil⟩
      | some q' => exact ⟨hinside i q q' hopen, hrow _ (hf.siblings.kids i) ih q'⟩
  exact hrow cs hcs (fun i _ => hplace i) q

/-- Nodes are placed in the order of their numbers. -/
theorem pairwise_row_lt (hf : f.Preordered) (hcs : cs.Pairwise f.Ahead) (q : π) :
    (F.row q cs).Pairwise fun d e => d.1 < e.1 := by
  refine pairwise_row hf (fun i q q' _ e he => ?_) (fun c q cs hc d hd e he => ?_) hcs q
  · obtain ⟨c, hc, hce⟩ := below_of_mem_row he
    have hlt : i < c := HasChild.lt hc
    rcases hce with heq | hbelow
    · exact heq ▸ hlt
    · exact Fin.lt_trans hlt hbelow.lt
  · obtain ⟨c', hc', hce⟩ := below_of_mem_row he
    have hlt := hc c' hc' d.1 (below_of_mem_place hd)
    rcases hce with heq | hbelow
    · exact heq ▸ hlt
    · exact Fin.lt_trans hlt hbelow.lt

end Flow

end Forest

variable {α : Type} [Scalar α] {t : BoxTree}

namespace Layout

variable (l : Layout α t)

/-- The way of the cursor over the ribbon; it keeps its depth in mind. -/
def ribbonFlow : t.fragments.Flow (α × Nat) where
  inside p q := some (q.1 + (l.textSize p).width, q.2 + 1)
  behind p q := (q.1 + l.pieceWidth p, q.2)

/-- The way of the cursor over the boxes; it keeps its ordinate and its depth in mind. -/
def blockFlow : t.boxes.Flow (α × α × Nat) where
  inside b q :=
    if (l.pins.box b).hidden then none
    else some (q.1, q.2.1 + (l.labelSize b).height, q.2.2 + 1)
  behind b q := (q.1 + l.renderedWidth b, q.2)

def pieceRect (height : α) (e : t.Piece × α × Nat) : PieceRect α where
  id := e.1
  depth := e.2.2
  rect := ⟨e.2.1, 0, l.pieceWidth e.1, height⟩
  text := (t.piece e.1).display
  whitespace := (t.piece e.1).isWhitespace
  highlighted := (l.pins.piece e.1).highlighted

def boxRect (e : t.Box × α × α × Nat) : BoxRect α :=
  View.boxRect l e.1 e.2.2.2 ⟨e.2.1, e.2.2.1, l.renderedWidth e.1, l.renderedHeight e.1⟩

/-- The height of a line of the ribbon. -/
def lineHeight : α := (l.measure "" .input).height

/-- One fragment more in a row of the ribbon. -/
def pieceStep (height : α) (depth : Nat) (s : α × Array (PieceRect α)) (p : t.Piece) :
    α × Array (PieceRect α) :=
  (s.1 + l.pieceWidth p,
    s.2 ++ ((l.ribbonFlow.place p (s.1, depth)).map (l.pieceRect height)).toArray)

theorem foldl_pieceStep {β : Type} (val : β → t.Piece) (height : α) (depth : Nat)
    (s : α × Array (PieceRect α)) (cs : List β) :
    cs.foldl (fun s c => l.pieceStep height depth s (val c)) s =
      ((l.ribbonFlow.stop (s.1, depth) (cs.map val)).1,
        s.2 ++ ((l.ribbonFlow.row (s.1, depth) (cs.map val)).map (l.pieceRect height)).toArray) := by
  obtain ⟨hcursor, hout⟩ := l.ribbonFlow.foldl_eq val (fun s => (s.1, depth)) (·.2)
    (l.pieceRect height) (fun s c => l.pieceStep height depth s (val c)) (fun _ _ => rfl)
    (fun _ _ => rfl) s cs
  have hfst := congrArg Prod.fst hcursor
  exact Prod.ext hfst hout

/-- One box more in a row of boxes. -/
def boxStep (y : α) (depth : Nat) (s : α × Array (BoxRect α)) (b : t.Box) :
    α × Array (BoxRect α) :=
  (s.1 + l.renderedWidth b,
    s.2 ++ ((l.blockFlow.place b (s.1, y, depth)).map l.boxRect).toArray)

theorem foldl_boxStep {β : Type} (val : β → t.Box) (y : α) (depth : Nat)
    (s : α × Array (BoxRect α)) (cs : List β) :
    cs.foldl (fun s c => l.boxStep y depth s (val c)) s =
      ((l.blockFlow.stop (s.1, y, depth) (cs.map val)).1,
        s.2 ++ ((l.blockFlow.row (s.1, y, depth) (cs.map val)).map l.boxRect).toArray) := by
  obtain ⟨hcursor, hout⟩ := l.blockFlow.foldl_eq val (fun s => (s.1, y, depth)) (·.2)
    l.boxRect (fun s c => l.boxStep y depth s (val c)) (fun _ _ => rfl) (fun _ _ => rfl) s cs
  have hfst := congrArg Prod.fst hcursor
  exact Prod.ext hfst hout

/-- One box more in the top row, whose height is the greatest. -/
def topStep (y : α) (s : α × α × Array (BoxRect α)) (b : t.Box) : α × α × Array (BoxRect α) :=
  ((l.boxStep y 0 (s.1, s.2.2) b).1, Scalar.max s.2.1 (l.renderedHeight b),
    (l.boxStep y 0 (s.1, s.2.2) b).2)

theorem foldl_topStep (y : α) (s : α × α × Array (BoxRect α)) (cs : List t.Box) :
    cs.foldl (l.topStep y) s =
      ((l.blockFlow.stop (s.1, y, 0) cs).1,
        cs.foldl (fun height b => Scalar.max height (l.renderedHeight b)) s.2.1,
        s.2.2 ++ ((l.blockFlow.row (s.1, y, 0) cs).map l.boxRect).toArray) := by
  have hsplit : cs.foldl (l.topStep y) s =
      ((cs.foldl (l.boxStep y 0) (s.1, s.2.2)).1,
        cs.foldl (fun height b => Scalar.max height (l.renderedHeight b)) s.2.1,
        (cs.foldl (l.boxStep y 0) (s.1, s.2.2)).2) := by
    induction cs generalizing s with
    | nil => rfl
    | cons c cs ih => exact ih (l.topStep y s c)
  have hrow := l.foldl_boxStep id y 0 (s.1, s.2.2) cs
  rw [List.map_id] at hrow
  rw [hsplit]
  simp only [id_eq] at hrow
  rw [hrow]

def placedPieces : List (t.Piece × α × Nat) := l.ribbonFlow.row (0, 0) t.fragments.tops

def placedBoxes : List (t.Box × α × α × Nat) := l.blockFlow.row (0, l.lineHeight, 0) t.boxes.tops

/-- The frame that a layout shows. -/
def arranged : Snapshot α where
  generation := t.generation
  width := Scalar.max (l.ribbonFlow.stop (0, 0) t.fragments.tops).1
    (l.blockFlow.stop (0, l.lineHeight, 0) t.boxes.tops).1
  height := l.lineHeight +
    t.boxes.tops.foldl (fun height b => Scalar.max height (l.renderedHeight b)) 0
  ribbon := l.placedPieces.map (l.pieceRect l.lineHeight)
  boxes := l.placedBoxes.map l.boxRect

/-! ### What is placed -/

theorem pairwise_placedPieces_lt (hf : t.fragments.Preordered) :
    l.placedPieces.Pairwise fun d e => d.1 < e.1 :=
  Forest.Flow.pairwise_row_lt hf hf.siblings.tops (0, 0)

theorem pairwise_placedBoxes_lt (hf : t.boxes.Preordered) :
    l.placedBoxes.Pairwise fun d e => d.1 < e.1 :=
  Forest.Flow.pairwise_row_lt hf hf.siblings.tops _

/-- No fragment is placed twice. -/
theorem nodup_ribbon (hf : t.fragments.Preordered) : (l.arranged.ribbon.map (·.id)).Nodup := by
  rw [arranged, List.map_map]
  exact List.pairwise_map.2 ((l.pairwise_placedPieces_lt hf).imp Nat.ne_of_lt)

/-- No box is placed twice. -/
theorem nodup_boxes (hf : t.boxes.Preordered) : (l.arranged.boxes.map (·.id)).Nodup := by
  rw [arranged, List.map_map]
  exact List.pairwise_map.2 ((l.pairwise_placedBoxes_lt hf).imp Nat.ne_of_lt)

/-- Every fragment is placed. -/
theorem exists_mem_placedPieces (hf : t.fragments.Preordered) (p : t.Piece) :
    ∃ q, (p, q) ∈ l.placedPieces := by
  unfold placedPieces
  simp only [Forest.Flow.mem_row_iff_meets]
  induction p using hf.down_induction with
  | top p htop =>
    obtain ⟨q, hq⟩ := Forest.Flow.exists_mem_spread htop ((0 : α), 0)
    exact ⟨q, .start hq⟩
  | child p c hc ih =>
    obtain ⟨q, hq⟩ := ih
    obtain ⟨q', hq'⟩ := Forest.Flow.exists_mem_spread hc (q.1 + (l.textSize p).width, q.2 + 1)
    exact ⟨q', .down hq rfl hq'⟩

section

variable {measure : Measurer α} {p : Pins α t}

omit [Scalar α] in
theorem isDisplayed_of_hasChild (hl : t.boxes.Linked) {b c : t.Box} (h : t.boxes.HasChild b c) :
    (p.layout measure).isDisplayed c =
      (!(p.box b).hidden && (p.layout measure).isDisplayed b) := by
  have hparent := hl.parent?_iff.2 h
  rw [isDisplayed]
  cases hc : t.boxes.parent? c with
  | none => rw [hc] at hparent; cases hparent
  | some b' =>
    rw [hc] at hparent
    cases Option.some.inj hparent
    rfl

omit [Scalar α] in
theorem isDisplayed_child_iff (hl : t.boxes.Linked) {b c : t.Box} (h : t.boxes.HasChild b c) :
    (p.layout measure).isDisplayed c = true ↔
      (p.box b).hidden = false ∧ (p.layout measure).isDisplayed b = true := by
  rw [isDisplayed_of_hasChild hl h, Bool.and_eq_true, Bool.not_eq_true']

omit [Scalar α] in
/-- Nothing is displayed in a box that hides its children. -/
theorem hidden_eq_false_of_below (hl : t.boxes.Linked) {b c : t.Box} (h : t.boxes.Below b c)
    (hc : (p.layout measure).isDisplayed c = true) : (p.box b).hidden = false := by
  induction h with
  | single hchild => exact ((isDisplayed_child_iff hl hchild).1 hc).1
  | tail _ hchild ih => exact ih ((isDisplayed_child_iff hl hchild).1 hc).2

omit [Scalar α] in
theorem isDisplayed_of_mem_tops (hf : t.boxes.Preordered) {b : t.Box} (hb : b ∈ t.boxes.tops) :
    (p.layout measure).isDisplayed b = true := by
  rw [isDisplayed, hf.parent?_of_mem_tops hb]
  simp [Forest.isLoose, hf.placed b hb]

theorem eq_of_inside_eq_some {b : t.Box} {q q' : α × α × Nat}
    (h : (p.layout measure).blockFlow.inside b q = some q') :
    (p.box b).hidden = false ∧
      q' = (q.1, q.2.1 + ((p.layout measure).labelSize b).height, q.2.2 + 1) := by
  by_cases hidden : (p.box b).hidden = true
  · have hclosed := h.symm.trans (if_pos hidden)
    cases hclosed
  · have hopen := h.symm.trans (if_neg hidden)
    exact ⟨Bool.eq_false_iff.2 hidden, Option.some.inj hopen⟩

/-- The children of an open box are displayed as the box is. -/
theorem isDisplayed_of_inside (hl : t.boxes.Linked) {b c : t.Box} {q q' : α × α × Nat}
    (hb : (p.layout measure).isDisplayed b = true)
    (hopen : (p.layout measure).blockFlow.inside b q = some q') (hc : t.boxes.HasChild b c) :
    (p.layout measure).isDisplayed c = true :=
  (isDisplayed_child_iff hl hc).2 ⟨(eq_of_inside_eq_some hopen).1, hb⟩

/-- What the cursor meets is displayed. -/
theorem isDisplayed_of_meets (hl : t.boxes.Linked) (hf : t.boxes.Preordered) {q : α × α × Nat}
    {e : t.Box × α × α × Nat} (he : (p.layout measure).blockFlow.Meets q t.boxes.tops e) :
    (p.layout measure).isDisplayed e.1 = true := by
  induction he with
  | start he => exact isDisplayed_of_mem_tops hf (Forest.Flow.mem_of_mem_spread he)
  | down _ hopen hd ih => exact isDisplayed_of_inside hl ih hopen (Forest.Flow.mem_of_mem_spread hd)

/-- The boxes that are placed are those that are displayed. -/
theorem mem_placedBoxes_iff (hl : t.boxes.Linked) (hf : t.boxes.Preordered) (b : t.Box) :
    (∃ q, (b, q) ∈ (p.layout measure).placedBoxes) ↔
      (p.layout measure).isDisplayed b = true := by
  unfold placedBoxes
  simp only [Forest.Flow.mem_row_iff_meets]
  constructor
  · rintro ⟨q, hq⟩
    exact isDisplayed_of_meets hl hf hq
  · intro hb
    induction b using hf.down_induction with
    | top b htop =>
      obtain ⟨q, hq⟩ :=
        Forest.Flow.exists_mem_spread htop ((0 : α), (p.layout measure).lineHeight, 0)
      exact ⟨q, .start hq⟩
    | child b c hc ih =>
      obtain ⟨hshown, hparent⟩ := (isDisplayed_child_iff hl hc).1 hb
      obtain ⟨q, hq⟩ := ih hparent
      have hopen : (p.layout measure).blockFlow.inside b q = some _ :=
        if_neg (ne_true_of_eq_false hshown)
      obtain ⟨q', hq'⟩ := Forest.Flow.exists_mem_spread hc
        (q.1, q.2.1 + ((p.layout measure).labelSize b).height, q.2.2 + 1)
      exact ⟨q', .down hq hopen hq'⟩

end

end Layout

namespace View

variable (l : Layout α t)

theorem placePiece_answers (p : t.Piece) (x height : α) (depth : Nat)
    (placed : Array (PieceRect α)) :
    Answers l (placePiece l p x height depth placed)
      (l.pieceStep height depth (x, placed) p) := by
  induction p using Forest.kids_induction generalizing x depth placed with
  | h p ih =>
    have hplace := l.ribbonFlow.place_eq p (x, depth)
    rw [placePiece]
    refine .bind (pieceWidth_answers l p) (.bind (textSize_answers l p) ?_)
    refine .bind (.foldlM (f := fun s c => l.pieceStep height (depth + 1) s c.1) _ _ fun s c hc =>
      ih c.1 (Forest.hasChild_of_mem_kids hc) s.1 (depth + 1) s.2) ?_
    rw [l.foldl_pieceStep, Layout.pieceStep, hplace, List.map_cons, ← List.push_append_toArray]
    exact .pure _

theorem placeBox_answers (b : t.Box) (x y : α) (depth : Nat) (placed : Array (BoxRect α)) :
    Answers l (placeBox l b x y depth placed)
      (⟨x, y, l.renderedWidth b, l.renderedHeight b⟩,
        (l.boxStep y depth (x, placed) b).2) := by
  induction b using Forest.kids_induction generalizing x y depth placed with
  | h b ih =>
    have hplace := l.blockFlow.place_eq b (x, y, depth)
    rw [placeBox]
    refine .bind (renderedWidth_answers l b) (.bind (rendered_answers l b).2 ?_)
    by_cases hidden : (l.pins.box b).hidden = true
    · have hclosed : l.blockFlow.inside b (x, y, depth) = none := if_pos hidden
      rw [if_pos hidden, Layout.boxStep, hplace, hclosed, List.map_cons,
        ← List.push_append_toArray]
      exact .pure _
    · have hopen : l.blockFlow.inside b (x, y, depth) =
          some (x, y + (l.labelSize b).height, depth + 1) := if_neg hidden
      rw [if_neg hidden]
      refine .bind (labelSize_answers l b) ?_
      refine .bind (.foldlM (f := fun s c =>
        l.boxStep (y + (l.labelSize b).height) (depth + 1) s c.1) _ _ fun s c hc =>
          .bind (ih c.1 (Forest.hasChild_of_mem_kids hc) s.1 _ (depth + 1) s.2) (.pure _)) ?_
      rw [l.foldl_boxStep, Layout.boxStep, hplace, hopen, List.map_cons,
        ← List.push_append_toArray]
      exact .pure _

/-- **A view arranges by the rules**: fragments and boxes are listed as the cursor meets them. -/
theorem arrange_answers : Answers l (arrange l) l.arranged := by
  rw [arrange]
  refine .bind (ask_answers l _ _ _) ?_
  refine .bind (.foldlM (f := fun s p => l.pieceStep l.lineHeight 0 s p) _ _ fun s p _ =>
    placePiece_answers l p s.1 _ 0 s.2) ?_
  refine .bind (.foldlM (f := l.topStep l.lineHeight) _ _ fun s b _ =>
    .bind (placeBox_answers l b s.1 _ 0 s.2.2) (.pure _)) ?_
  have hribbon := l.foldl_pieceStep id l.lineHeight 0 (0, #[]) t.fragments.tops
  rw [List.map_id] at hribbon
  simp only [id_eq] at hribbon
  rw [hribbon, l.foldl_topStep, Array.empty_append, Array.empty_append]
  exact .pure _

end View

end ParseBoxes
