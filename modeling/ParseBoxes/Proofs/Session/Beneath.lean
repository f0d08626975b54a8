import ParseBoxes.Proofs.Layout.Ribbon
import ParseBoxes.Proofs.Session.Following

/-!
# Boxes lie beneath their fragments

Over exact rationals.  Fragments that follow their boxes are at least as wide as these.  So a row of
boxes, put together without gaps, falls behind the row of their fragments and never runs ahead of it:
no box starts further right than its fragment.
-/

namespace ParseBoxes

/-- Cells and paddings that are not negative give no negative widths. -/
theorem CellMetrics.roomy (m : CellMetrics ℚ) (hchar : 0 ≤ m.charWidth)
    (hpadding : 0 ≤ m.labelPadding) : Layout.Roomy m.measurer := by
  intro text role
  have hcolumns : (0 : ℚ) ≤ (Text.columns text : ℚ) * m.charWidth :=
    mul_nonneg (Nat.cast_nonneg _) hchar
  cases role with
  | label | primitiveLabel =>
    exact add_nonneg hcolumns (mul_nonneg (Nat.cast_nonneg _) hpadding)
  | input | whitespace => exact hcolumns

namespace Session

variable {s s' : Session ℚ} {stage : BoxId → Stage}

theorem Sound.under (hs : s.Sound stage) (hfollows : s.Follows) (hroom : Layout.Roomy s.measure) :
    ∀ d ∈ s.layout.placedBoxes, s.layout.Under hs.tidy d :=
  Layout.under_of_mem_placedBoxes hs.nested hroom fun b hb =>
    Layout.renderedWidth_le_pieceWidth (hfollows hs.tidy b) hb

/-- **Boxes lie beneath their fragments.**  Right after a new board, right after any frame, and
whenever nothing moves: every displayed box has one rectangle, its fragment has one, and this starts
no further left than the box and is no narrower. -/
theorem box_beneath_fragment (measure : Measurer ℚ) (hroom : Layout.Roomy measure)
    (config : Config ℚ) (registry : GrammarRegistry) (es : List (Event ℚ)) :
    ∃ h s, ((begin measure config registry).performAll es).Yields (h, s) ∧
      ((∃ m, h.getLast? = some m ∧ m.mends = true) ∨ s.isSettled = true →
        let frame := (View.arrange s.layout).fresh
        (frame.boxes.map (·.id)).Nodup ∧ (frame.ribbon.map (·.id)).Nodup ∧
          ∀ b, (View.isDisplayed s.layout b).fresh = true →
            ∃ r ∈ frame.boxes, r.id = b.1 ∧ ∃ f ∈ frame.ribbon, f.id = r.fragment ∧
              r.rect.x ≤ f.rect.x ∧ r.rect.width ≤ f.rect.width) := by
  have hbegin := sound_begin measure config registry
  obtain ⟨h, s, hyields, run⟩ := hbegin.performAll es
  have hs := run.sound hbegin
  have hmeasure : s.measure = measure := run.measure
  refine ⟨h, s, hyields, fun hend => ?_⟩
  have hfollows := run.follows hbegin hend
  rw [(View.arrange_answers s.layout).fresh]
  refine ⟨s.layout.nodup_boxes hs.nested.boxes, s.layout.nodup_ribbon hs.nested.fragments,
    fun b hb => ?_⟩
  rw [(View.isDisplayed_answers s.layout b).fresh] at hb
  obtain ⟨q, hq⟩ := (Layout.mem_placedBoxes_iff hs.tidy.linked hs.nested.boxes b).2 hb
  obtain ⟨q', hq'⟩ := s.layout.exists_mem_placedPieces hs.nested.fragments (hs.tidy.input b)
  refine ⟨_, List.mem_map_of_mem hq, rfl, _, List.mem_map_of_mem hq', rfl, ?_, ?_⟩
  · exact hs.under hfollows (hmeasure ▸ hroom) _ hq _ hq' rfl
  · exact Layout.renderedWidth_le_pieceWidth (hfollows hs.tidy b) hb

/-- The trace of a word of two letters. -/
def wordTrace : List TraceNode :=
  [((TraceNode.leaf .other "word" "ab").withSource 0 2).withChildren
    [(TraceNode.leaf .primitive "letter a" "a").withSource 0 1,
      (TraceNode.leaf .primitive "letter b" "b").withSource 1 2]]

/-- A word on a monospace grid. -/
theorem box_beneath_fragment_of_word :
    Layout.Roomy (CellMetrics.standard : CellMetrics ℚ).measurer ∧
      ∃ s : Session ℚ, ((begin CellMetrics.standard.measurer .standard {}).performAll
          [.load wordTrace .success]).Yields ([.loaded], s) ∧
        let frame := (View.arrange s.layout).fresh
        (frame.boxes.map (·.id)).Nodup ∧ (frame.ribbon.map (·.id)).Nodup ∧
          ∀ b, (View.isDisplayed s.layout b).fresh = true →
            ∃ r ∈ frame.boxes, r.id = b.1 ∧ ∃ f ∈ frame.ribbon, f.id = r.fragment ∧
              r.rect.x ≤ f.rect.x ∧ r.rect.width ≤ f.rect.width := by
  have hroom : Layout.Roomy (CellMetrics.standard : CellMetrics ℚ).measurer :=
    CellMetrics.roomy _ (Nat.cast_nonneg 8) (Nat.cast_nonneg 4)
  obtain ⟨h, s, hyields, hframe⟩ := box_beneath_fragment CellMetrics.standard.measurer hroom
    .standard {} [.load wordTrace .success]
  obtain ⟨s', hload, -⟩ := (begin (CellMetrics.standard : CellMetrics ℚ).measurer
    .standard {}).load_yields wordTrace .success
  cases hyields.unique hload
  exact ⟨hroom, s, hyields, hframe (.inl ⟨.loaded, rfl, rfl⟩)⟩

end Session

end ParseBoxes
