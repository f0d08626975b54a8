import ParseBoxes.Proofs.Layout.Containment
import ParseBoxes.Proofs.Session.Flush
import ParseBoxes.Proofs.Session.Listing

/-!
# Rectangles nest

Over exact rationals, where nothing has a negative extent.  In every frame the fragments of a row
stand edge to edge and lie in the fragment around them.  The boxes of a row stand edge to edge below
the label of the box around them in every frame as well, but this is sure to enclose them only when
nothing moves.
-/

namespace ParseBoxes

/-- Cells and paddings that are not negative give no negative extents. -/
theorem CellMetrics.ample (m : CellMetrics ℚ) (hchar : 0 ≤ m.charWidth) (hline : 0 ≤ m.lineHeight)
    (hpadding : 0 ≤ m.labelPadding) : Layout.Ample m.measurer where
  width := m.roomy hchar hpadding
  height text role := by
    cases role with
    | label | primitiveLabel => exact add_nonneg hline (mul_nonneg (Nat.cast_nonneg _) hpadding)
    | input | whitespace => exact hline

namespace Session

variable {s : Session ℚ} {stage : BoxId → Stage}

/-- The least width of a box is that of its text, at all times, so no box is narrower than
nothing. -/
theorem Sound.renderedWidth_nonneg (hs : s.Sound stage) (hroom : Layout.Roomy s.measure)
    (b : s.board.tree.Box) : 0 ≤ s.layout.renderedWidth b := by
  have hpin := (hs.steady.fits b).minWidth
  rw [← hs.tidy.width_inputSize s.measure s.board.pins b] at hpin
  exact Layout.renderedWidth_nonneg (Layout.width_inputSize_nonneg (l := s.layout) hroom _) hpin

theorem Sound.boxesInRows (hs : s.Sound stage) {area : s.board.tree.Box → Rect ℚ}
    (ha : s.layout.BoxAreas area) : s.layout.BoxesInRows s.frame.boxes area :=
  have hrows := ha.inRows hs.tidy.linked hs.nested.boxes
  { hrows with
    listed := (map_markTransient s.animator.active _ (fun _ _ => rfl) _).trans hrows.listed }

/-- **Rectangles nest.**  Whatever happens to a session, at any time: the rectangles of fragments
stand edge to edge in order and lie in that of the fragment around them and in the frame.  The
rectangles of displayed boxes stand edge to edge in order below the label of the box around them
and, when nothing moves, lie in its rectangle and in the frame. -/
theorem rectangles_nest (measure : Measurer ℚ) (hample : Layout.Ample measure) (config : Config ℚ)
    (registry : GrammarRegistry) (es : List (Event ℚ)) :
    ∃ h s, ((begin measure config registry).performAll es).Yields (h, s) ∧
      ∃ frame, s.snapshot.Yields frame ∧
        ∃ (pieceArea : s.board.tree.Piece → Rect ℚ) (boxArea : s.board.tree.Box → Rect ℚ),
          s.layout.RibbonInRows frame.ribbon pieceArea ∧ s.layout.BoxesInRows frame.boxes boxArea ∧
          (∀ p c, s.board.tree.fragments.HasChild p c → (pieceArea c).Inside (pieceArea p)) ∧
          (∀ r ∈ frame.ribbon, r.rect.Inside frame.border) ∧
          (s.isSettled = true →
            (∀ b c, s.board.tree.boxes.HasChild b c → s.layout.isDisplayed c = true →
              (boxArea c).Inside (boxArea b)) ∧
            ∀ r ∈ frame.boxes, r.rect.Inside frame.border) := by
  obtain ⟨h, s, stage, hyields, hs, hmeasure⟩ := performAll_begin measure config registry es
  rw [← hmeasure] at hample
  obtain ⟨pieceArea, hpieces⟩ := s.layout.exists_pieceAreas hs.nested.fragments
  obtain ⟨boxArea, hboxes⟩ := s.layout.exists_boxAreas hs.nested.boxes
  have hwidth := hs.renderedWidth_nonneg hample.width
  refine ⟨h, s, hyields, s.frame, s.snapshot_yields_frame, pieceArea, boxArea,
    hpieces.inRows hs.nested.fragments, hs.boxesInRows hboxes,
    fun p c => hpieces.inside hs.nested.fragments hample.width,
    s.layout.ribbon_inside_border hample.width, fun hidle => ?_⟩
  have hrest := hs.steady.atRest hidle
  have hheight : ∀ b, (s.board.pins.box b).childrenHeight = none := fun b => by
    rw [hs.steady.box_of_isIdle hidle]
  refine ⟨fun b c => hboxes.inside hs.nested.boxes hample hwidth hrest hheight, fun r hr => ?_⟩
  have hrect : r.rect ∈ s.frame.boxes.map (·.rect) := List.mem_map_of_mem hr
  rw [frame, map_markTransient _ _ fun _ _ => rfl] at hrect
  obtain ⟨r', hr', hrect⟩ := List.mem_map.1 hrect
  rw [← hrect]
  exact hboxes.boxes_inside_border hs.nested.boxes hample hwidth hrest hheight r' hr'

/-- A word on a monospace grid. -/
theorem rectangles_nest_of_word :
    Layout.Ample (CellMetrics.standard : CellMetrics ℚ).measurer ∧
      ∃ s : Session ℚ, ((begin CellMetrics.standard.measurer .standard {}).performAll
          [.load wordTrace .success]).Yields ([.loaded], s) ∧ s.isSettled = true ∧
        ∃ frame, s.snapshot.Yields frame ∧
          ∃ (pieceArea : s.board.tree.Piece → Rect ℚ) (boxArea : s.board.tree.Box → Rect ℚ),
            s.layout.RibbonInRows frame.ribbon pieceArea ∧
            s.layout.BoxesInRows frame.boxes boxArea ∧
            (∀ p c, s.board.tree.fragments.HasChild p c → (pieceArea c).Inside (pieceArea p)) ∧
            (∀ b c, s.board.tree.boxes.HasChild b c → s.layout.isDisplayed c = true →
              (boxArea c).Inside (boxArea b)) ∧
            (∀ r ∈ frame.ribbon, r.rect.Inside frame.border) ∧
            ∀ r ∈ frame.boxes, r.rect.Inside frame.border := by
  have hample : Layout.Ample (CellMetrics.standard : CellMetrics ℚ).measurer :=
    CellMetrics.ample _ (Nat.cast_nonneg 8) (Nat.cast_nonneg 16) (Nat.cast_nonneg 4)
  obtain ⟨h, s, hyields, frame, hframe, pieceArea, boxArea, hribbon, hboxes, hpieces, hin, hrest⟩ :=
    rectangles_nest CellMetrics.standard.measurer hample .standard {} [.load wordTrace .success]
  obtain ⟨s', hload, -, hidle⟩ := (begin (CellMetrics.standard : CellMetrics ℚ).measurer
    .standard {}).load_yields wordTrace .success
  cases hyields.unique hload
  obtain ⟨hinside, hborder⟩ := hrest hidle
  exact ⟨hample, s, hyields, hidle, frame, hframe, pieceArea, boxArea, hribbon, hboxes, hpieces,
    hinside, hin, hborder⟩

-- Half way through the collapse of a word its letters reach beyond it.
example : (match ((begin (CellMetrics.standard : CellMetrics ℚ).measurer .standard
    {}).performAll [.load wordTrace .success, .gesture (.click ⟨1, 0⟩),
      .gesture (.tick (.ofMillis 250))]).run {} with
    | .ok ((_, s), _) => decide (∃ word ∈ (View.arrange s.layout).fresh.boxes,
        ∃ letter ∈ (View.arrange s.layout).fresh.boxes,
          letter.parent = some word.id ∧ word.rect.right < letter.rect.right)
    | .error _ => false) = true := by decide +kernel

end Session

end ParseBoxes
