import ParseBoxes.Proofs.Layout.Flush
import ParseBoxes.Proofs.Session.Beneath
import ParseBoxes.Proofs.Session.Confluence

/-!
# Boxes at rest are flush with their fragments

Over exact rationals.  When nothing moves, every displayed box stands exactly under its fragment and
is as wide (`Session.Flush`), as long as text without a box stands beside no box (`BareTextApart`).
Where it does, it pushes fragments to the right and leaves the boxes where they are.
-/

namespace ParseBoxes

theorem Animator.Steady.atRest {t : BoxTree} {ht : t.Tidy} {measure : Measurer ℚ} {a : Animator ℚ}
    {p : Pins ℚ t} {stage : BoxId → Stage} (h : a.Steady ht measure p stage)
    (hidle : a.isIdle = true) : p.AtRest ht measure where
  explicitWidth b := by rw [h.box_of_isIdle hidle]
  minWidth b := by rw [h.box_of_isIdle hidle]
  follows b := h.follows_of_isIdle hidle b
  bare := h.bare

namespace Session

/-- Every displayed box stands where its fragment stands and is as wide. -/
def Flush (s : Session ℚ) : Prop :=
  ∀ b, (View.isDisplayed s.layout b).fresh = true →
    ∃ r ∈ (View.arrange s.layout).fresh.boxes, r.id = b.1 ∧
      ∃ f ∈ (View.arrange s.layout).fresh.ribbon, f.id = r.fragment ∧
        r.rect.x = f.rect.x ∧ r.rect.width = f.rect.width

/-- **Boxes at rest are flush with their fragments.**  Whenever nothing moves and a trace is on show
in which nothing lies in primitives and text without a box stands beside no box: every displayed box
has one rectangle, its fragment has one, and both start at one abscissa and are equally wide. -/
theorem flush_of_bareTextApart (measure : Measurer ℚ) (hroom : Layout.Roomy measure)
    (hempty : (measure "" .input).width = 0) (config : Config ℚ) (registry : GrammarRegistry)
    (es : List (Event ℚ)) :
    ∃ h s, ((begin measure config registry).performAll es).Yields (h, s) ∧
      (s.isSettled = true → ∀ (b : TreeBuilder) trace generation,
        s.board.tree = b.build trace generation → LeafPrimitives trace → BareTextApart trace →
          ((View.arrange s.layout).fresh.boxes.map (·.id)).Nodup ∧
            ((View.arrange s.layout).fresh.ribbon.map (·.id)).Nodup ∧ s.Flush) := by
  have hbegin := sound_begin measure config registry
  obtain ⟨h, s, hyields, run⟩ := hbegin.performAll es
  have hs := run.sound hbegin
  have hmeasure : s.measure = measure := run.measure
  refine ⟨h, s, hyields, fun hidle b trace generation htree hleaf hbare => ?_⟩
  have hsnug : ∀ {t : BoxTree} (ht : t.Tidy), t = b.build trace generation →
      ∃ home, BoxTree.Snug ht home := by
    rintro t ht rfl
    exact BoxTree.exists_snug_build b trace generation ht hleaf hbare
  obtain ⟨home, hsnug⟩ := hsnug hs.tidy htree
  have hrest := hs.steady.atRest hidle
  rw [← hmeasure] at hroom hempty
  unfold Flush
  rw [(View.arrange_answers s.layout).fresh]
  refine ⟨s.layout.nodup_boxes hs.nested.boxes, s.layout.nodup_ribbon hs.nested.fragments,
    fun b hb => ?_⟩
  rw [(View.isDisplayed_answers s.layout b).fresh] at hb
  obtain ⟨q, hq⟩ := (Layout.mem_placedBoxes_iff hs.tidy.linked hs.nested.boxes b).2 hb
  obtain ⟨depth, hdepth⟩ := Layout.exists_mem_placedPieces_of_mem_placedBoxes hsnug hrest hroom
    hempty hs.nested hq
  have hwidth := Layout.pieceWidth_input hsnug hrest hroom hempty hs.nested hb
  exact ⟨_, List.mem_map_of_mem hq, rfl, _, List.mem_map_of_mem hdepth, rfl, rfl, hwidth.symm⟩

/-- A word on a monospace grid, each letter of which has a box. -/
theorem flush_of_word :
    Layout.Roomy (CellMetrics.standard : CellMetrics ℚ).measurer ∧
      (((CellMetrics.standard : CellMetrics ℚ).measurer "" .input).width = 0) ∧
      LeafPrimitives wordTrace ∧ BareTextApart wordTrace ∧
      ∃ s : Session ℚ, ((begin CellMetrics.standard.measurer .standard {}).performAll
          [.load wordTrace .success]).Yields ([.loaded], s) ∧ s.isSettled = true ∧
        s.board.tree = TreeBuilder.build {} wordTrace 1 ∧
        ((View.arrange s.layout).fresh.boxes.map (·.id)).Nodup ∧
          ((View.arrange s.layout).fresh.ribbon.map (·.id)).Nodup ∧ s.Flush := by
  have hroom : Layout.Roomy (CellMetrics.standard : CellMetrics ℚ).measurer :=
    CellMetrics.roomy _ (Nat.cast_nonneg 8) (Nat.cast_nonneg 4)
  have hempty : ((CellMetrics.standard : CellMetrics ℚ).measurer "" .input).width = 0 := by
    decide +kernel
  have hleaf : LeafPrimitives wordTrace := by decide +kernel
  have hboxed : ∀ a ∈ survivors wordTrace, a.hasBox = true := by decide +kernel
  have hbare : BareTextApart wordTrace := by
    intro a ha hbox
    rw [hboxed a ha] at hbox
    cases hbox
  obtain ⟨h, s, hyields, hflush⟩ := flush_of_bareTextApart CellMetrics.standard.measurer hroom
    hempty .standard {} [.load wordTrace .success]
  obtain ⟨s', hload, htree, hidle⟩ := (begin (CellMetrics.standard : CellMetrics ℚ).measurer
    .standard {}).load_yields wordTrace .success
  cases hyields.unique hload
  exact ⟨hroom, hempty, hleaf, hbare, s, hyields, hidle, htree,
    hflush hidle ⟨"·"⟩ wordTrace 1 htree hleaf hbare⟩

/-- Every letter takes up ten by twenty, in labels too. -/
def letterMeasurer : Measurer ℚ := fun text _ => ⟨10 * text.length, 20⟩

/-- The trace of a word of two letters, the first of which matched what the grammar's author did not
write. -/
def bareTextTrace : List TraceNode :=
  [((TraceNode.leaf .other "word" "ab").withSource 0 2).withChildren
    [TraceNode.leaf .primitive "a" "a", (TraceNode.leaf .primitive "b" "b").withSource 1 2]]

/-- The first letter has no box, so the box of the second one stands at the left end of the word and
its fragment behind that of the first letter. -/
theorem not_flush_beside_bare_text :
    Layout.Roomy letterMeasurer ∧ (∀ role, (letterMeasurer "" role).width = 0) ∧
      LeafPrimitives bareTextTrace ∧
      ∃ s : Session ℚ, ((begin letterMeasurer .standard {}).performAll
          [.load bareTextTrace .success]).Yields ([.loaded], s) ∧
        s.isSettled = true ∧ ¬s.Flush := by
  have hroom : Layout.Roomy letterMeasurer := fun text _ =>
    mul_nonneg (by decide) (Nat.cast_nonneg text.length)
  obtain ⟨s, hload, -, hidle⟩ := (begin letterMeasurer .standard {}).load_yields bareTextTrace
    .success
  obtain ⟨j, hrun⟩ := hload {}
  have hplaces : (match ((begin letterMeasurer .standard {}).performAll
      [.load bareTextTrace .success]).run {} with
      | .ok ((_, s), _) => decide (∃ b, (View.isDisplayed s.layout b).fresh = true ∧
          ∀ r ∈ (View.arrange s.layout).fresh.boxes, r.id = b.1 →
            ∀ f ∈ (View.arrange s.layout).fresh.ribbon, f.id = r.fragment → r.rect.x ≠ f.rect.x)
      | .error _ => false) = true := by decide +kernel
  rw [hrun] at hplaces
  obtain ⟨b, hb, hapart⟩ := of_decide_eq_true hplaces
  refine ⟨hroom, fun _ => mul_zero _, by decide +kernel, s, hload, hidle, fun hflush => ?_⟩
  obtain ⟨r, hr, hrb, f, hf, hfr, hx, -⟩ := hflush b hb
  exact hapart r hr hrb f hf hfr hx

end Session

end ParseBoxes
