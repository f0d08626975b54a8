import ParseBoxes.Proofs.Animation.Frames
import ParseBoxes.Proofs.Layout.Agreement
import ParseBoxes.Proofs.Layout.Placing

/-!
# Nothing jumps at a toggle

A toggle overwrites three pins of a box, but it holds the box at the size that it has: whether the
box was at rest or on its way, open or closed, it takes up the same room right after the toggle
(`Layout.sameSize_of_held`), and so does every box around it.  So the frame right after the toggle
shows what the frame before showed, each box in the same rectangle.  Only an expansion opens a box,
and what the cursor meets then on top of what it met before lies in that box
(`Forest.Flow.Opens.mem_row_of_opened`).
-/

namespace ParseBoxes

namespace Forest.Flow

variable {ν π : Type} {f : Forest ν} {F G : f.Flow π} {q : π} {cs : List (Fin f.size)}

/-- A cursor that finds every node open that another one finds open, and is moved in the same way. -/
structure Opens (F G : f.Flow π) : Prop where
  behind : F.behind = G.behind
  inside : ∀ i q q', F.inside i q = some q' → G.inside i q = some q'

namespace Opens

theorem row_sublist_of_place (h : Opens F G)
    (hplace : ∀ c ∈ cs, ∀ q, (F.place c q).Sublist (G.place c q)) (q : π) :
    (F.row q cs).Sublist (G.row q cs) := by
  induction cs generalizing q with
  | nil => exact .refl _
  | cons c cs ih =>
    rw [row_cons, row_cons, ← h.behind]
    exact (hplace c List.mem_cons_self q).append
      (ih (fun d hd => hplace d (List.mem_cons_of_mem c hd)) _)

theorem place_sublist (h : Opens F G) (i : Fin f.size) (q : π) :
    (F.place i q).Sublist (G.place i q) := by
  induction i using Forest.kids_induction generalizing q with
  | h i ih =>
    rw [place_eq, place_eq]
    refine .cons_cons _ ?_
    cases hopen : F.inside i q with
    | none => exact List.nil_sublist _
    | some q' =>
      rw [h.inside i q q' hopen]
      exact h.row_sublist_of_place ih q'

/-- What the cursor met before it goes on meeting, in the same order and at the same places. -/
theorem row_sublist (h : Opens F G) (q : π) (cs : List (Fin f.size)) :
    (F.row q cs).Sublist (G.row q cs) :=
  h.row_sublist_of_place (fun c _ q => h.place_sublist c q) q

/-- What it meets on top of that lies in a node that has been opened. -/
theorem mem_row_of_opened (h : Opens F G) {b : Fin f.size}
    (hothers : ∀ i, i ≠ b → F.inside i = G.inside i) {e : Fin f.size × π} (he : e ∈ G.row q cs) :
    e ∈ F.row q cs ∨ f.Below b e.1 := by
  rw [mem_row_iff_meets] at he ⊢
  induction he with
  | start hd => exact .inl (.start (h.behind ▸ hd))
  | @down d c q' _ hopen hc ih =>
    have hchild : f.HasChild d.1 c.1 := mem_of_mem_spread hc
    rcases ih with hmeets | hbelow
    · by_cases hd : d.1 = b
      · exact .inr (hd ▸ .single hchild)
      · rw [← hothers d.1 hd] at hopen
        exact .inl (hmeets.down hopen (h.behind ▸ hc))
    · exact .inr (.tail hbelow hchild)

end Opens

end Forest.Flow

variable {α : Type} [Scalar α] {t : BoxTree}

namespace Layout

variable {measure : Measurer α} {p q : Pins α t} {b : t.Box}

/-- Whether a box is open depends on no sizes. -/
theorem inside_congr {c : t.Box} (h : (p.box c).hidden = (q.box c).hidden) :
    (p.layout measure).blockFlow.inside c = (q.layout measure).blockFlow.inside c := by
  funext r
  show (if (p.box c).hidden then none else some (r.1, _, _)) =
    if (q.box c).hidden then none else some (r.1, r.2.1 + ((p.layout measure).labelSize c).height, _)
  rw [h]

/-- To hold a box at its width leaves the width: the least width has been taken into account. -/
theorem atLeast_renderedWidth [Scalar.LawfulMax α] (l : Layout α t) (b : t.Box) :
    atLeast (l.renderedWidth b) (l.pins.box b).minWidth = l.renderedWidth b := by
  rw [renderedWidth_eq, atLeast, atLeast, Scalar.LawfulMax.max_max]

/-- Children that are hidden take up no height. -/
theorem childrenHeight_of_hidden {l : Layout α t} (h : l.hidden b = true) :
    l.childrenHeight b = 0 := by
  rw [childrenHeight, if_pos h]

/-- A box that is held at its size keeps it, whether its children were shown before or not. -/
theorem sameSize_of_held [Scalar.LawfulMax α] {d : Direction}
    (hb : q.box b = Animator.hold d ((p.layout measure).renderedWidth b)
      ((p.layout measure).childrenHeight b) (p.box b)) :
    SameSize (q.layout measure) (p.layout measure) b := by
  constructor
  · have hwidth : (q.layout measure).renderedWidth b =
        atLeast ((p.layout measure).renderedWidth b) (p.box b).minWidth := by
      rw [renderedWidth_eq]
      simp [explicitWidth, isDetached, hb, Animator.hold]
    rw [hwidth]
    exact (p.layout measure).atLeast_renderedWidth b
  · by_cases hidden : (q.layout measure).hidden b = true
    · -- a toggle shows children and never hides them
      have hidden' : (p.layout measure).hidden b = true := by
        simp only [Layout.hidden, hb, Animator.hold, Bool.and_eq_true] at hidden
        exact hidden.1
      rw [childrenHeight_of_hidden hidden, childrenHeight_of_hidden hidden']
    · rw [childrenHeight, if_neg hidden]
      simp [pinnedHeight, isDetached, hb, Animator.hold]

/-- So every box keeps its size. -/
theorem sameSize_of_held_of_others [Scalar.LawfulMax α] {d : Direction}
    (hb : q.box b = Animator.hold d ((p.layout measure).renderedWidth b)
      ((p.layout measure).childrenHeight b) (p.box b))
    (hothers : ∀ c, c ≠ b → q.box c = p.box c) (c : t.Box) :
    SameSize (q.layout measure) (p.layout measure) c := by
  refine .of_forall rfl fun x _ => ?_
  by_cases hx : x = b
  · subst hx
    exact .inr (sameSize_of_held hb)
  · exact .inl (.of_box (hothers x hx) measure)

end Layout

namespace Animator

variable (measure : Measurer α) (a : Animator α) (p : Pins α t) (b : t.Box)

/-- A toggle may show the children of its box; it hides none. -/
theorem hidden_held_of_eq_false {c : t.Box} (h : (p.box c).hidden = false) :
    ((a.held measure p b).box c).hidden = false := by
  by_cases hc : c = b
  · subst hc
    rw [box_held, hold, h, Bool.false_and]
  · rw [box_held_of_ne measure a p hc, h]

/-- A toggle that collapses its box leaves the children as they are until it has arrived. -/
theorem hidden_held_of_collapse (hd : a.nextDirection p b = .collapse) (c : t.Box) :
    ((a.held measure p b).box c).hidden = (p.box c).hidden := by
  by_cases hc : c = b
  · subst hc
    rw [box_held, hold, hd]
    exact Bool.and_true _
  · rw [box_held_of_ne measure a p hc]

theorem pieceWidth_held (f : t.Piece) :
    ((a.held measure p b).layout measure).pieceWidth f = (p.layout measure).pieceWidth f := by
  have hmeasure : ((a.held measure p b).layout measure).measure = (p.layout measure).measure := rfl
  exact Layout.pieceWidth_congr hmeasure (Pins.piece_modifyBox p b _) f

theorem ribbonFlow_held :
    ((a.held measure p b).layout measure).ribbonFlow = (p.layout measure).ribbonFlow := by
  have hbehind : ((a.held measure p b).layout measure).ribbonFlow.behind =
      (p.layout measure).ribbonFlow.behind := by
    funext f q
    show (q.1 + ((a.held measure p b).layout measure).pieceWidth f, q.2) = (q.1 + _, q.2)
    rw [pieceWidth_held]
  exact congrArg (Forest.Flow.mk _) hbehind

theorem pieceRect_held (height : α) :
    ((a.held measure p b).layout measure).pieceRect height =
      (p.layout measure).pieceRect height := by
  funext e
  rw [Layout.pieceRect, Layout.pieceRect, pieceWidth_held]
  rfl

variable [Scalar.LawfulMax α]

theorem sameSize_held (c : t.Box) :
    Layout.SameSize ((a.held measure p b).layout measure) (p.layout measure) c :=
  Layout.sameSize_of_held_of_others (box_held measure a p b)
    (fun _ hx => box_held_of_ne measure a p hx) c

/-! ## What is shown right after a toggle -/

theorem behind_held : ((a.held measure p b).layout measure).blockFlow.behind =
    (p.layout measure).blockFlow.behind := by
  funext c q
  show (q.1 + ((a.held measure p b).layout measure).renderedWidth c, q.2) = (q.1 + _, q.2)
  rw [(sameSize_held measure a p b c).width]

theorem opens_held :
    (p.layout measure).blockFlow.Opens ((a.held measure p b).layout measure).blockFlow where
  behind := (behind_held measure a p b).symm
  inside c q q' h := by
    obtain ⟨hidden, rfl⟩ := Layout.eq_of_inside_eq_some h
    exact if_neg (ne_true_of_eq_false (hidden_held_of_eq_false measure a p b hidden))

theorem blockFlow_held_of_collapse (hd : a.nextDirection p b = .collapse) :
    ((a.held measure p b).layout measure).blockFlow = (p.layout measure).blockFlow := by
  have hinside : ((a.held measure p b).layout measure).blockFlow.inside =
      (p.layout measure).blockFlow.inside :=
    funext fun c => Layout.inside_congr (hidden_held_of_collapse measure a p b hd c)
  exact congrArg₂ Forest.Flow.mk hinside (behind_held measure a p b)

theorem placedBoxes_held_sublist :
    (p.layout measure).placedBoxes.Sublist ((a.held measure p b).layout measure).placedBoxes :=
  (opens_held measure a p b).row_sublist _ _

theorem mem_placedBoxes_held {e : t.Box × α × α × Nat}
    (he : e ∈ ((a.held measure p b).layout measure).placedBoxes) :
    e ∈ (p.layout measure).placedBoxes ∨ a.nextDirection p b = .expand ∧ t.boxes.Below b e.1 := by
  cases hd : a.nextDirection p b with
  | collapse =>
    rw [Layout.placedBoxes, blockFlow_held_of_collapse measure a p b hd] at he
    exact .inl he
  | expand =>
    have hothers : ∀ c, c ≠ b → (p.layout measure).blockFlow.inside c =
        ((a.held measure p b).layout measure).blockFlow.inside c := by
      intro c hc
      apply Layout.inside_congr
      rw [box_held_of_ne measure a p hc]
    exact ((opens_held measure a p b).mem_row_of_opened hothers he).imp_right fun h => ⟨rfl, h⟩

/-- The frame right after a toggle differs in nothing but the boxes. -/
theorem arranged_held : ((a.held measure p b).layout measure).arranged =
    { (p.layout measure).arranged with
      boxes := ((a.held measure p b).layout measure).arranged.boxes } := by
  have hline : ((a.held measure p b).layout measure).lineHeight = (p.layout measure).lineHeight :=
    rfl
  have hstop : ∀ q cs, ((a.held measure p b).layout measure).blockFlow.stop q cs =
      (p.layout measure).blockFlow.stop q cs := by
    intro q cs
    rw [Forest.Flow.stop, Forest.Flow.stop, behind_held]
  have hheight : ∀ c, ((a.held measure p b).layout measure).renderedHeight c =
      (p.layout measure).renderedHeight c :=
    fun c => (sameSize_held measure a p b c).renderedHeight rfl
  simp only [Layout.arranged, Layout.placedPieces, hline, hstop, hheight, ribbonFlow_held,
    pieceRect_held]

/-- A box is shown in the same rectangle wherever the cursor meets it. -/
theorem rect_held (e : t.Box × α × α × Nat) :
    (((a.held measure p b).layout measure).boxRect e).rect = ((p.layout measure).boxRect e).rect := by
  have hsize := sameSize_held measure a p b e.1
  exact congrArg₂ (Rect.mk e.2.1 e.2.2.1) hsize.width (hsize.renderedHeight rfl)

end Animator

/-- The frame that a fresh view of a board shows. -/
def Pins.shown (measure : Measurer α) (p : Pins α t) : Snapshot α :=
  View.fresh (View.arrange (p.layout measure))

theorem Pins.shown_eq (measure : Measurer α) (p : Pins α t) :
    p.shown measure = (p.layout measure).arranged :=
  (View.arrange_answers (p.layout measure)).fresh

/-- The boxes of a frame, each by its place in the tree and with its rectangle. -/
theorem Pins.rects_shown (measure : Measurer α) (p : Pins α t) :
    (p.shown measure).boxes.map (fun r => (r.id, r.rect)) =
      (p.layout measure).placedBoxes.map fun e => (e.1.1, ((p.layout measure).boxRect e).rect) := by
  rw [shown_eq, Layout.arranged, List.map_map]
  rfl

/-- **Nothing jumps at a toggle.**  Whatever the state of the board and of the transitions: right after
a toggle of a box that has a fragment, every box has the width and the height that it had, and every
fragment its width.  The frame is the same but for the boxes, and of these all that were shown stand
where they stood.  What else is shown lies in the toggled box, and is shown by an expansion only. -/
theorem Animator.toggle_continuous [Scalar.LawfulMax α] (measure : Measurer α) (a : Animator α)
    (p : Pins α t) (b : t.Box) {f : t.Piece} (hf : t.locatePiece (t.box b).input = .ok f) :
    ∃ d q a', (a.toggle measure p (t.nameOf b)).Yields (d, q, a') ∧
      (∀ c, View.fresh (View.renderedWidth (q.layout measure) c) =
          View.fresh (View.renderedWidth (p.layout measure) c) ∧
        View.fresh (View.renderedHeight (q.layout measure) c) =
          View.fresh (View.renderedHeight (p.layout measure) c)) ∧
      (∀ g, View.fresh (View.pieceWidth (q.layout measure) g) =
        View.fresh (View.pieceWidth (p.layout measure) g)) ∧
      q.shown measure = { p.shown measure with boxes := (q.shown measure).boxes } ∧
      ((p.shown measure).boxes.map fun r => (r.id, r.rect)).Sublist
        ((q.shown measure).boxes.map fun r => (r.id, r.rect)) ∧
      ∀ r ∈ (q.shown measure).boxes,
        (r.id, r.rect) ∈ (p.shown measure).boxes.map (fun r => (r.id, r.rect)) ∨
          d = .expand ∧ ∃ c ∈ t.boxes.descendants b, r.id = c.1 := by
  refine ⟨_, _, _, toggle_yields_of_locate measure a p b hf, fun c => ?_, fun g => ?_, ?_, ?_, ?_⟩
  · have hsize := sameSize_held measure a p b c
    rw [(View.rendered_answers _ c).1.fresh, (View.rendered_answers _ c).1.fresh,
      (View.rendered_answers _ c).2.fresh, (View.rendered_answers _ c).2.fresh]
    exact ⟨hsize.width, hsize.renderedHeight rfl⟩
  · rw [(View.pieceWidth_answers _ g).fresh, (View.pieceWidth_answers _ g).fresh]
    exact pieceWidth_held measure a p b g
  · rw [Pins.shown_eq, Pins.shown_eq]
    exact arranged_held measure a p b
  · rw [Pins.rects_shown, Pins.rects_shown]
    simp only [rect_held]
    exact (placedBoxes_held_sublist measure a p b).map _
  · intro r hr
    rw [Pins.shown_eq] at hr
    obtain ⟨e, he, rfl⟩ := List.mem_map.1 hr
    rcases mem_placedBoxes_held measure a p b he with he | ⟨hd, hbelow⟩
    · rw [Pins.rects_shown, rect_held]
      exact .inl (List.mem_map_of_mem he)
    · exact .inr ⟨hd, e.1, Forest.mem_descendants.2 hbelow, rfl⟩

/-- A box that holds another one; both stand for one fragment. -/
def boxInBox : BoxTree :=
  let text := (BoxTree.empty 0).pushPiece none ⟨"1", "1", false⟩
  let outer := text.pushBox none ⟨"expr", ⟨0⟩, false, false, false⟩
  outer.pushBox (some ⟨0, by decide⟩) ⟨"digit", ⟨0⟩, false, false, true⟩

/-- In doubles: the outer of two boxes, collapsed, is expanded. -/
theorem boxInBox_expands_continuously :
    boxInBox.locatePiece (boxInBox.box ⟨0, by decide⟩).input = .ok ⟨0, by decide⟩ ∧
      ∃ d q a', ((Animator.idle 0 .linear : Animator Float).toggle CellMetrics.standard.measurer
          ((Pins.fresh boxInBox).modifyBox ⟨0, by decide⟩ ({ · with hidden := true }))
          (boxInBox.nameOf ⟨0, by decide⟩)).Yields (d, q, a') ∧
        ∀ c, View.fresh (View.renderedHeight (q.layout CellMetrics.standard.measurer) c) =
          View.fresh (View.renderedHeight (((Pins.fresh boxInBox).modifyBox ⟨0, by decide⟩
            ({ · with hidden := true })).layout CellMetrics.standard.measurer) c) := by
  have hinput : boxInBox.locatePiece (boxInBox.box ⟨0, by decide⟩).input = .ok ⟨0, by decide⟩ := rfl
  obtain ⟨d, q, a', hyields, hsizes, -⟩ := Animator.toggle_continuous
    (CellMetrics.standard : CellMetrics Float).measurer (.idle 0 .linear)
    ((Pins.fresh boxInBox).modifyBox ⟨0, by decide⟩ ({ · with hidden := true })) ⟨0, by decide⟩ hinput
  exact ⟨hinput, d, q, a', hyields, fun c => (hsizes c).2⟩

end ParseBoxes
