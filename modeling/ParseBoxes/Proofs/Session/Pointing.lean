import ParseBoxes.Proofs.Layout.Pointing
import ParseBoxes.Proofs.Session.Containment

/-!
# Pointing at a session

Over exact rationals, where no text has a negative width.  The boxes of a row never overlap, also
while some of them are on their way, so a point has no more than one innermost box, and a session
finds it.
-/

namespace ParseBoxes.Session

open Run

/-- A session looks for the point in the frame of its layout. -/
theorem hit_yields_hit? {α : Type} [Scalar α] (s : Session α) (x y : α) :
    (s.hit x y).Yields ((s.layout.arranged.hit? s.board.tree x y).map s.board.tree.nameOf) :=
  .bind (look_yields_of_answers (View.arrange_answers s.layout)) (.pure _)

variable {s : Session ℚ} {stage : BoxId → Stage}

theorem Sound.apart (hs : s.Sound stage) (hroom : Layout.Roomy s.measure) (x y : ℚ) :
    s.layout.arranged.Apart s.board.tree x y := by
  obtain ⟨area, ha⟩ := s.layout.exists_boxAreas hs.nested.boxes
  exact ha.apart hs.tidy.linked hs.nested.boxes (hs.renderedWidth_nonneg hroom) x y

theorem Sound.hit?_eq_some_iff (hs : s.Sound stage) (hroom : Layout.Roomy s.measure) {x y : ℚ}
    {b : s.board.tree.Box} :
    s.layout.arranged.hit? s.board.tree x y = some b ↔
      s.layout.arranged.Innermost s.board.tree x y b :=
  Snapshot.hit?_eq_some_iff (s.layout.nodup_boxes hs.nested.boxes) hs.tidy.linked hs.nested.boxes
    (hs.apart hroom x y)

/-- **A point finds its innermost box.**  Whatever happens to a session, at any time and for any
point: no box has two rectangles, and the box that is hit is the one whose rectangle the point lies
in, as it does in those of all boxes around it, while it lies in that of no box in it.  There is one
such box at most, and none is hit just if the point lies in no rectangle of the top row. -/
theorem hit_finds_innermost (measure : Measurer ℚ) (hroom : Layout.Roomy measure)
    (config : Config ℚ) (registry : GrammarRegistry) (es : List (Event ℚ)) :
    ∃ h s, ((begin measure config registry).performAll es).Yields (h, s) ∧
      let frame := (View.arrange s.layout).fresh
      (frame.boxes.map (·.id)).Nodup ∧
        ∀ x y : ℚ, ∃ hit, (s.hit x y).Yields hit ∧
          (∀ id, hit = some id ↔ ∃ b, s.board.tree.nameOf b = id ∧
            frame.Innermost s.board.tree x y b) ∧
          (∀ b c, frame.Innermost s.board.tree x y b → frame.Innermost s.board.tree x y c →
            b = c) ∧
          (hit = none ↔ ∀ b ∈ s.board.tree.boxes.tops, ¬frame.LiesUnder x y b.1) := by
  obtain ⟨h, s, stage, hyields, hs, hmeasure⟩ := performAll_begin measure config registry es
  rw [← hmeasure] at hroom
  have hnodup := s.layout.nodup_boxes hs.nested.boxes
  refine ⟨h, s, hyields, ?_⟩
  rw [(View.arrange_answers s.layout).fresh]
  refine ⟨hnodup, fun x y => ⟨_, s.hit_yields_hit? x y, fun id => ?_, fun b c hb hc => ?_, ?_⟩⟩
  · rw [Option.map_eq_some_iff]
    refine exists_congr fun b => ?_
    rw [hs.hit?_eq_some_iff hroom, and_comm]
  · rw [← hs.hit?_eq_some_iff hroom] at hb hc
    exact Option.some.inj (hb.symm.trans hc)
  · rw [Option.map_eq_none_iff]
    exact Snapshot.hit?_eq_none_iff hnodup

/-- A word on a monospace grid: the second letter is hit at a point in its box. -/
theorem hit_finds_letter :
    Layout.Roomy (CellMetrics.standard : CellMetrics ℚ).measurer ∧
      ∃ s : Session ℚ, ((begin CellMetrics.standard.measurer .standard {}).performAll
          [.load wordTrace .success]).Yields ([.loaded], s) ∧
        (s.hit 80 50).Yields (some ⟨1, 2⟩) ∧
          ∃ b, s.board.tree.nameOf b = ⟨1, 2⟩ ∧
            (View.arrange s.layout).fresh.Innermost s.board.tree 80 50 b := by
  have hroom : Layout.Roomy (CellMetrics.standard : CellMetrics ℚ).measurer :=
    CellMetrics.roomy _ (Nat.cast_nonneg 8) (Nat.cast_nonneg 4)
  obtain ⟨h, s, hyields, -, hpoint⟩ := hit_finds_innermost CellMetrics.standard.measurer hroom
    .standard {} [.load wordTrace .success]
  obtain ⟨s', hload, -⟩ := (begin (CellMetrics.standard : CellMetrics ℚ).measurer
    .standard {}).load_yields wordTrace .success
  cases hyields.unique hload
  have hfound : (match ((begin (CellMetrics.standard : CellMetrics ℚ).measurer .standard
      {}).performAll [.load wordTrace .success]).run {} with
      | .ok ((_, s), _) => decide (((View.arrange s.layout).fresh.hit? s.board.tree 80 50).map
          s.board.tree.nameOf = some ⟨1, 2⟩)
      | .error _ => false) = true := by decide +kernel
  obtain ⟨j, hrun⟩ := hyields {}
  rw [hrun] at hfound
  have hhit := s.hit_yields_hit? 80 50
  rw [← (View.arrange_answers s.layout).fresh, of_decide_eq_true hfound] at hhit
  obtain ⟨hit, hhit', hsome, -⟩ := hpoint 80 50
  exact ⟨hroom, s, hyields, hhit, (hsome _).1 (hhit'.unique hhit)⟩

end ParseBoxes.Session
