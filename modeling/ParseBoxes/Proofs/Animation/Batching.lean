import ParseBoxes.Proofs.Animation.Easing
import ParseBoxes.Proofs.Animation.Pinning

/-!
# Pinning box by box

An update of widths looks at many boxes through one view and pins them in a row.  It might as well
take a fresh view for every box (`Widths.followEach`): pins of fragments have no part in widths, and
the row ends where a box gets a least width, which does have a part in them.  No more is asked of the
tree: boxes may share a fragment, come twice or lack a least width, and where a box has no fragment
at all, both procedures end with the same fault.

What both come to is a row of steps on boards (`Widths.followed`), told by the rules of the layout
alone.
-/

namespace ParseBoxes.Widths

open Run

variable {α : Type} [Scalar α] {t : BoxTree} (measure : Measurer α)

/-- Lets the fragment of one box follow: it is pinned to the width at which a fresh view displays the
box.  Then the text of the box is measured, if the box has no least width, and the width of the text
becomes the least width. -/
def followOne (p : Pins α t) (b : t.Box) : Run α (Pins α t) := do
  let width ← look (p.layout measure) (View.displayedWidth (p.layout measure) b)
  let f ← check (t.locatePiece (t.box b).input)
  let p := p.modifyPiece f ({ · with minWidth := some width })
  match (p.box b).minWidth with
  | some _ => return p
  | none =>
    let text ← Measuring.input measure p (t.box b).input
    return p.modifyBox b ({ · with minWidth := some text.width })

/-- Lets the fragments of boxes follow, one box at a time. -/
def followEach (p : Pins α t) (boxes : List t.Box) : Run α (Pins α t) :=
  boxes.foldlM (followOne measure) p

/-! ## What the two procedures come to -/

/-- The board on which the fragment of one box has been pinned. -/
def pinned (p : Pins α t) (b : t.Box) : Except Fault (Pins α t) := do
  let f ← t.locatePiece (t.box b).input
  let width := (p.layout measure).displayedWidth b
  let follow (g : t.Piece) : PiecePins α :=
    if f = g then { p.piece f with minWidth := some width } else p.piece g
  return { p with pieces := .ofFn follow }

/-- The board on which the width of its text has become the least width of a box. -/
def sized (p : Pins α t) (b : t.Box) : Except Fault (Pins α t) := do
  let f ← t.locatePiece (t.box b).input
  let width := ((p.layout measure).inputSize f).width
  let size (c : t.Box) : BoxPins α :=
    if b = c then { p.box b with minWidth := some width } else p.box c
  return { p with boxes := .ofFn size }

/-- The board on which one box has been followed: its fragment is pinned, and the box has a least
width, that which it had or the width of its text. -/
def followed (p : Pins α t) (b : t.Box) : Except Fault (Pins α t) := do
  let q ← pinned measure p b
  match (q.box b).minWidth with
  | some _ => return q
  | none => sized measure q b

variable {measure}

/-- To pin is to change the pins of one fragment. -/
theorem pinned_eq (p : Pins α t) (b : t.Box) : pinned measure p b = (do
    let f ← t.locatePiece (t.box b).input
    return p.modifyPiece f ({ · with minWidth := some ((p.layout measure).displayedWidth b) })) := by
  refine bind_congr fun f => congrArg pure (Pins.ext (fun _ => rfl) fun g => ?_)
  rw [Pins.piece_modifyPiece]
  simp only [Pins.piece, Fin.getElem_fin, Vector.getElem_ofFn]

/-- To size is to change the pins of one box. -/
theorem sized_eq (p : Pins α t) (b : t.Box) : sized measure p b = (do
    let f ← t.locatePiece (t.box b).input
    return p.modifyBox b ({ · with minWidth := some ((p.layout measure).inputSize f).width })) := by
  refine bind_congr fun f => congrArg pure (Pins.ext (fun c => ?_) fun _ => rfl)
  rw [Pins.box_modifyBox]
  simp only [Pins.box, Fin.getElem_fin, Vector.getElem_ofFn]

theorem pinned_of_input {p : Pins α t} {b : t.Box} {f : t.Piece}
    (h : t.locatePiece (t.box b).input = .ok f) :
    pinned measure p b = .ok (p.modifyPiece f
      ({ · with minWidth := some ((p.layout measure).displayedWidth b) })) := by
  rw [pinned_eq, h]
  rfl

theorem box_of_pinned {p q : Pins α t} {b : t.Box} (h : pinned measure p b = .ok q) (c : t.Box) :
    q.box c = p.box c := by
  unfold pinned at h
  cases hf : t.locatePiece (t.box b).input with
  | error fault =>
    rw [hf] at h
    cases h
  | ok f =>
    rw [hf] at h
    cases h
    rfl

theorem box_of_foldlM_pinned {p q : Pins α t} {boxes : List t.Box}
    (h : boxes.foldlM (pinned measure) p = .ok q) (c : t.Box) : q.box c = p.box c := by
  induction boxes generalizing p with
  | nil =>
    cases h
    rfl
  | cons b boxes ih =>
    rw [List.foldlM_cons] at h
    cases hr : pinned measure p b with
    | error fault =>
      rw [hr] at h
      cases h
    | ok r =>
      rw [hr] at h
      rw [ih h, box_of_pinned hr]

theorem followed_of_sized {p : Pins α t} {b : t.Box} (h : (p.box b).minWidth ≠ none) :
    followed measure p b = pinned measure p b := by
  unfold followed
  cases hq : pinned measure p b with
  | error fault => rfl
  | ok q =>
    obtain ⟨least, hleast⟩ := Option.ne_none_iff_exists'.1 h
    rw [← box_of_pinned hq] at hleast
    show (match (q.box b).minWidth with | some _ => _ | none => _) = _
    rw [hleast]
    rfl

/-- A box without a least width is followed, and then sized. -/
theorem followed_of_unsized {p : Pins α t} {b : t.Box} (h : (p.box b).minWidth = none) :
    followed measure p b = pinned measure p b >>= fun q => sized measure q b := by
  unfold followed
  cases hq : pinned measure p b with
  | error fault => rfl
  | ok q =>
    rw [← box_of_pinned hq] at h
    show (match (q.box b).minWidth with | some _ => _ | none => _) = _
    rw [h]
    rfl

/-- A row of boxes with least widths is pinned from the first to the last, and to widths that could
have been asked for beforehand. -/
theorem pin_eq (p q : Pins α t) (hpq : ∀ b, q.box b = p.box b) (boxes : List t.Box) :
    pin q (boxes.map fun b => (b, (p.layout measure).displayedWidth b)) =
      boxes.foldlM (pinned measure) q := by
  induction boxes generalizing q with
  | nil => rfl
  | cons b boxes ih =>
    have hwidth : (p.layout measure).displayedWidth b = (q.layout measure).displayedWidth b :=
      (Layout.displayedWidth_eq_of_sameWidth (fun c => .of_eq (hpq c)) b).symm
    rw [List.map_cons, pin, List.foldlM_cons, hwidth]
    cases hf : t.locatePiece (t.box b).input with
    | error fault =>
      rw [pinned, hf]
      rfl
    | ok f =>
      rw [pinned_of_input hf]
      exact ih _ hpq

/-- Where all boxes of a row have least widths, to follow them is to pin them. -/
theorem foldlM_followed_of_sized (p : Pins α t) (boxes : List t.Box)
    (h : ∀ b ∈ boxes, (p.box b).minWidth ≠ none) :
    boxes.foldlM (followed measure) p = boxes.foldlM (pinned measure) p := by
  induction boxes generalizing p with
  | nil => rfl
  | cons b boxes ih =>
    rw [List.foldlM_cons, List.foldlM_cons, followed_of_sized (h b List.mem_cons_self)]
    cases hq : pinned measure p b with
    | error fault => rfl
    | ok q =>
      apply ih q
      intro c hc
      rw [box_of_pinned hq]
      exact h c (List.mem_cons_of_mem b hc)

/-- Only the last box of a row lacks a least width: it gets one when the whole row has been pinned. -/
theorem foldlM_followed_concat (p : Pins α t) (boxes : List t.Box) (b : t.Box)
    (hboxes : ∀ c ∈ boxes, (p.box c).minWidth ≠ none) (hb : (p.box b).minWidth = none) :
    (boxes ++ [b]).foldlM (followed measure) p =
      (boxes ++ [b]).foldlM (pinned measure) p >>= fun q => sized measure q b := by
  rw [List.foldlM_append, List.foldlM_append, foldlM_followed_of_sized p boxes hboxes]
  cases hq : boxes.foldlM (pinned measure) p with
  | error fault => rfl
  | ok q =>
    have hlast : (q.box b).minWidth = none := by rw [box_of_foldlM_pinned hq, hb]
    show [b].foldlM (followed measure) q = [b].foldlM (pinned measure) q >>= _
    rw [List.foldlM_cons, List.foldlM_cons, followed_of_unsized hlast]
    simp only [List.foldlM_nil, bind_pure]

/-- Where every box has a fragment, nothing goes wrong. -/
theorem exists_followed (p : Pins α t) (boxes : List t.Box)
    (h : ∀ b ∈ boxes, (t.box b).input.index < t.fragments.size) :
    ∃ q, boxes.foldlM (followed measure) p = .ok q := by
  induction boxes generalizing p with
  | nil => exact ⟨p, rfl⟩
  | cons b boxes ih =>
    obtain ⟨hb, hboxes⟩ := List.forall_mem_cons.1 h
    have hf : t.locatePiece (t.box b).input = .ok ⟨(t.box b).input.index, hb⟩ := by
      simp [BoxTree.locatePiece, hb]
    have hone : ∃ q, followed measure p b = .ok q := by
      cases hleast : (p.box b).minWidth with
      | some least =>
        rw [followed_of_sized (by simp [hleast]), pinned_of_input hf]
        exact ⟨_, rfl⟩
      | none =>
        rw [followed_of_unsized hleast, pinned_of_input hf]
        unfold sized
        rw [hf]
        exact ⟨_, rfl⟩
    obtain ⟨q, hq⟩ := hone
    rw [List.foldlM_cons, hq]
    exact ih q hboxes

/-! ## Runs -/

/-- To pin a row from one view is to pin box by box. -/
theorem pinAll_ends (p : Pins α t) (boxes : List t.Box) :
    (pinAll measure p boxes).Ends (boxes.foldlM (pinned measure) p) := by
  rw [← pin_eq p p (fun _ => rfl) boxes]
  have hwidths : (look (p.layout measure) (boxes.mapM fun b =>
      return (b, ← View.displayedWidth (p.layout measure) b))).Yields
        (boxes.map fun b => (b, (p.layout measure).displayedWidth b)) :=
    look_yields_of_answers
      (.mapM boxes fun b _ => .bind (View.displayedWidth_answers _ b) (.pure _))
  refine Ends.bind hwidths.ends (f := fun widths => pin p widths) ?_
  intro widths _
  exact .check _

/-- The text of a box is measured as the rules say, or the box has no fragment. -/
theorem input_ends (p : Pins α t) (b : t.Box) :
    (Measuring.input measure p (t.box b).input).Ends
      ((p.layout measure).inputSize <$> t.locatePiece (t.box b).input) := by
  cases hf : t.locatePiece (t.box b).input with
  | error fault =>
    have hpieces : [(t.box b).input].mapM t.locatePiece = .error fault := by
      rw [List.mapM_cons, hf]
      rfl
    unfold Measuring.input Measuring.inputs
    rw [hpieces]
    intro j
    rfl
  | ok f => exact (Measuring.input_yields_of_locate measure hf).ends

/-- To measure the text of a box and keep its width is to size the box. -/
theorem sized_ends (p : Pins α t) (b : t.Box) :
    (do
      let text ← Measuring.input measure p (t.box b).input
      return p.modifyBox b ({ · with minWidth := some text.width })).Ends (sized measure p b) := by
  have hsized : sized measure p b =
      ((p.layout measure).inputSize <$> t.locatePiece (t.box b).input) >>= fun text =>
        return p.modifyBox b ({ · with minWidth := some text.width }) := by
    rw [sized_eq, bind_map_left]
  rw [hsized]
  apply Ends.bind (input_ends p b)
  intro text _
  exact (Yields.pure _).ends

theorem giveMinWidth_ends (p : Pins α t) (b : t.Box) :
    (giveMinWidth measure p b).Ends (sized measure p b) := sized_ends p b

/-- One box is followed as the rules say. -/
theorem followOne_ends (p : Pins α t) (b : t.Box) :
    (followOne measure p b).Ends (followed measure p b) := by
  have hwidth := (look_yields_of_answers (View.displayedWidth_answers (p.layout measure) b)).ends
  refine Ends.bind hwidth (f := fun _ => followed measure p b) ?_
  intro width heq
  cases heq
  rw [followed, pinned_eq, bind_assoc]
  apply Ends.bind (.check _)
  intro f _
  simp only [pure_bind, Pins.box_modifyPiece]
  cases (p.box b).minWidth with
  | some least => exact (Yields.pure _).ends
  | none => exact sized_ends _ b

theorem followEach_ends (p : Pins α t) (boxes : List t.Box) :
    (followEach measure p boxes).Ends (boxes.foldlM (followed measure) p) := by
  induction boxes generalizing p with
  | nil => exact (Yields.pure p).ends
  | cons b boxes ih =>
    rw [followEach, List.foldlM_cons, List.foldlM_cons]
    apply Ends.bind (followOne_ends p b)
    intro q _
    exact ih q

/-- Boxes that wait for the next view have least widths. -/
theorem updateFrom_ends (p : Pins α t) (waiting boxes : List t.Box)
    (hwaiting : ∀ b ∈ waiting, (p.box b).minWidth ≠ none) :
    (updateFrom measure p waiting (boxes.map t.nameOf)).Ends
      ((waiting.reverse ++ boxes).foldlM (followed measure) p) := by
  have hsized : ∀ b ∈ waiting.reverse, (p.box b).minWidth ≠ none := by
    intro b hb
    exact hwaiting b (List.mem_reverse.1 hb)
  induction boxes generalizing p waiting with
  | nil =>
    rw [List.map_nil, updateFrom, List.append_nil, foldlM_followed_of_sized p _ hsized]
    cases waiting with
    | nil => exact (Yields.pure p).ends
    | cons b waiting => exact pinAll_ends p _
  | cons b boxes ih =>
    have hrow : waiting.reverse ++ b :: boxes = (b :: waiting).reverse ++ boxes := by simp
    rw [List.map_cons, updateFrom, hrow]
    refine Ends.bind (r := .ok b) (check_yields (t.locate_nameOf b)).ends
      (f := fun _ => ((b :: waiting).reverse ++ boxes).foldlM (followed measure) p) ?_
    intro c hc
    cases hc
    cases hb : (p.box b).minWidth with
    | some least =>
      have hmore : ∀ c ∈ b :: waiting, (p.box c).minWidth ≠ none := by
        intro c hc
        rcases List.mem_cons.1 hc with rfl | hc
        · simp [hb]
        · exact hwaiting c hc
      exact ih p (b :: waiting) hmore fun c hc => hmore c (List.mem_reverse.1 hc)
    | none =>
      -- the row ends here, as the least width of the box has a part in the widths of those behind
      rw [List.foldlM_append, List.reverse_cons, foldlM_followed_concat p _ b hsized hb, bind_assoc,
        ← List.reverse_cons]
      apply Ends.bind (pinAll_ends p _)
      intro q _
      apply Ends.bind (giveMinWidth_ends q b)
      intro r _
      exact ih r [] (by simp) (by simp)

/-- **An update pins box by box.**  On every board, and for every row of its boxes, an update of widths
ends as if every box had been followed by itself, with a fresh view: with the same pins, or with the
same fault.  These pins are told by the rules of the layout: box for box, the fragment is pinned to
the displayed width, and a box without a least width gets the width of its text.  There is no fault
if all these boxes have fragments. -/
theorem update_follows_each (measure : Measurer α) (p : Pins α t) (boxes : List t.Box) :
    (update measure p (boxes.map t.nameOf)).Ends (boxes.foldlM (followed measure) p) ∧
      (followEach measure p boxes).Ends (boxes.foldlM (followed measure) p) ∧
      ((∀ b ∈ boxes, (t.box b).input.index < t.fragments.size) →
        ∃ q, boxes.foldlM (followed measure) p = .ok q) := by
  refine ⟨?_, followEach_ends p boxes, exists_followed p boxes⟩
  apply updateFrom_ends p []
  intro b hb
  cases hb

/-- Two boxes above one fragment of three letters: the label of the first is longer than the text,
that of the second is shorter. -/
def twoAbove : BoxTree :=
  let ribbon := (BoxTree.empty 0).pushPiece none (.ofText "abc" none)
  (ribbon.pushBox none { label := "letters", input := ⟨0⟩ }).pushBox none
    { label := "x", input := ⟨0⟩ }

/-- The second box comes twice: the fragment follows its label, and then its text. -/
theorem shared_fragment_follows_last :
    let measure : Measurer ℚ := fun text _ => ⟨10 * text.length, 20⟩
    let boxes : List twoAbove.Box := [⟨0, by decide⟩, ⟨1, by decide⟩, ⟨1, by decide⟩]
    (∀ b ∈ boxes, (twoAbove.box b).input.index < twoAbove.fragments.size) ∧
      ∃ q, (update measure (.fresh twoAbove) (boxes.map twoAbove.nameOf)).Ends (.ok q) ∧
        (followEach measure (.fresh twoAbove) boxes).Ends (.ok q) ∧
        q.pieces.toList.map (·.minWidth) = [some 30] ∧
        q.boxes.toList.map (·.minWidth) = [some 30, some 30] := by
  intro measure boxes
  have hinputs : ∀ b ∈ boxes, (twoAbove.box b).input.index < twoAbove.fragments.size := by
    decide +kernel
  have hpins : (boxes.foldlM (followed measure) (.fresh twoAbove)).toOption.map (fun q =>
      (q.pieces.toList.map (·.minWidth), q.boxes.toList.map (·.minWidth))) =
        some ([some 30], [some 30, some 30]) := by
    decide +kernel
  obtain ⟨hupdate, heach, hends⟩ := update_follows_each measure (.fresh twoAbove) boxes
  obtain ⟨q, hq⟩ := hends hinputs
  rw [hq] at hupdate heach hpins
  simp only [Except.toOption, Option.map_some, Option.some.injEq, Prod.mk.injEq] at hpins
  exact ⟨hinputs, q, hupdate, heach, hpins⟩

end ParseBoxes.Widths
