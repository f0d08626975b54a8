import Mathlib.Data.Set.Basic
import ParseBoxes.Proofs.Layout.Shrinking
import ParseBoxes.Proofs.Session.Containment

/-!
# More collapsed boxes, smaller frames

Over exact rationals.  A box is collapsed just if it hides its children
(`Sound.mem_collapsedBoxes_iff`).  So of two states of one board at rest the one in which more boxes
are collapsed hides more, and nothing is larger in it (`Sound.shrinksTo`).
-/

namespace ParseBoxes.Session

section

variable {α : Type} [Scalar α] {s : Session α} {stage : BoxId → Stage}

/-- The names of the boxes that are collapsed. -/
def collapsedBoxes (s : Session α) : Set BoxId := {id | (s.state id).Yields (.ok .collapsed)}

theorem Sound.mem_collapsedBoxes_iff (hs : s.Sound stage) {id : BoxId} :
    id ∈ s.collapsedBoxes ↔
      ∃ b, s.board.tree.nameOf b = id ∧ (s.board.pins.box b).hidden = true := by
  constructor
  · intro hstate
    rcases check_yields_cases s id with ⟨b, rfl⟩ | ⟨-, e, he⟩
    · refine ⟨b, rfl, ?_⟩
      have heq := Except.ok.inj (hstate.unique (hs.state b))
      rcases hs.steady.resting_or_moving b with ⟨hidden, hstage, -, hp⟩ | ⟨d, elapsed, -, hstage, -⟩
      · rw [hp]
        rw [hstage] at heq
        cases hidden with
        | true => rfl
        | false => cases heq
      · rw [hstage] at heq
        cases d <;> cases heq
    · cases hstate.unique (.bind he (.pure _))
  · rintro ⟨b, rfl, hhidden⟩
    have hstate := hs.state b
    rcases hs.steady.resting_or_moving b with ⟨hidden, hstage, -, hp⟩ | ⟨_, _, _, -, -, hcarries⟩
    · rw [hp] at hhidden
      cases hhidden
      rw [hstage] at hstate
      exact hstate
    · rw [hcarries.hidden] at hhidden
      cases hhidden

end

/-- On one tree, no box, no fragment and no frame of the second session is larger than that of the
first. -/
structure ShrinksTo (s s' : Session ℚ) : Prop where
  tree : s'.board.tree = s.board.tree
  renderedWidth : ∀ (b : s.board.tree.Box) (b' : s'.board.tree.Box), b'.1 = b.1 →
    (View.renderedWidth s'.layout b').fresh ≤ (View.renderedWidth s.layout b).fresh
  renderedHeight : ∀ (b : s.board.tree.Box) (b' : s'.board.tree.Box), b'.1 = b.1 →
    (View.renderedHeight s'.layout b').fresh ≤ (View.renderedHeight s.layout b).fresh
  displayedWidth : ∀ (b : s.board.tree.Box) (b' : s'.board.tree.Box), b'.1 = b.1 →
    (View.displayedWidth s'.layout b').fresh ≤ (View.displayedWidth s.layout b).fresh
  pieceWidth : ∀ (f : s.board.tree.Piece) (f' : s'.board.tree.Piece), f'.1 = f.1 →
    (View.pieceWidth s'.layout f').fresh ≤ (View.pieceWidth s.layout f).fresh
  frame : ∃ frame frame', s.snapshot.Yields frame ∧ s'.snapshot.Yields frame' ∧
    frame'.width ≤ frame.width ∧ frame'.height ≤ frame.height

variable {s s' : Session ℚ} {stage stage' : BoxId → Stage}

theorem Sound.childrenHeight_of_isSettled (hs : s.Sound stage) (hidle : s.isSettled = true)
    (b : s.board.tree.Box) : (s.board.pins.box b).childrenHeight = none := by
  rw [hs.steady.box_of_isIdle hidle]

/-- Of two states of one board at rest, the one in which more boxes are collapsed is nowhere
larger. -/
theorem Sound.shrinksTo (hs : s.Sound stage) (hs' : s'.Sound stage')
    (htree : s'.board.tree = s.board.tree) (hmeasure : s'.measure = s.measure)
    (hroom : Layout.Roomy s.measure) (hidle : s.isSettled = true) (hidle' : s'.isSettled = true)
    (hmore : s.collapsedBoxes ⊆ s'.collapsedBoxes) : s.ShrinksTo s' := by
  obtain ⟨config, measure, pristine, registry, ⟨tree, pins⟩, animator, _, _, _⟩ := s
  obtain ⟨config', measure', pristine', registry', ⟨tree', pins'⟩, animator', _, _, _⟩ := s'
  subst htree hmeasure
  -- both boards are at rest, so their pins are told by what is collapsed
  have h : pins.CollapsesMore hs.tidy measure' pins' := by
    refine ⟨hs.steady.atRest hidle, hs'.steady.atRest hidle', hs.childrenHeight_of_isSettled hidle,
      hs'.childrenHeight_of_isSettled hidle', fun b hb => ?_⟩
    obtain ⟨c, hc, hhidden⟩ := hs'.mem_collapsedBoxes_iff.1
      (hmore (hs.mem_collapsedBoxes_iff.2 ⟨b, rfl, hb⟩))
    cases BoxTree.nameOf_inj.1 hc
    exact hhidden
  refine ⟨rfl, ?_, ?_, ?_, ?_, _, _, snapshot_yields_frame _, snapshot_yields_frame _, ?_, ?_⟩
  · intro b b' hb
    cases Fin.ext hb
    rw [(View.renderedWidth_answers _ _).fresh, (View.renderedWidth_answers _ _).fresh]
    exact Layout.renderedWidth_le h b
  · intro b b' hb
    cases Fin.ext hb
    rw [(View.rendered_answers _ _).2.fresh, (View.rendered_answers _ _).2.fresh]
    exact Layout.renderedHeight_le h b
  · intro b b' hb
    cases Fin.ext hb
    rw [(View.displayedWidth_answers _ _).fresh, (View.displayedWidth_answers _ _).fresh]
    exact Layout.displayedWidth_le h hroom b
  · intro f f' hf
    cases Fin.ext hf
    rw [(View.pieceWidth_answers _ _).fresh, (View.pieceWidth_answers _ _).fresh]
    exact Layout.pieceWidth_le h hroom f
  · exact Layout.arranged_width_le h hroom
  · exact Layout.arranged_height_le h

/-- **Collapsing makes nothing larger.**  If no text has a negative width, take any two states in
which nothing moves and to which a session comes from one state without building a new board.  If
every box that is collapsed in the first is collapsed in the second, then in the second no box is
rendered wider or higher or displayed wider, no fragment is wider, and the snapshot is neither wider
nor higher. -/
theorem collapsing_shrinks (measure : Measurer ℚ) (hroom : Layout.Roomy measure)
    (config : Config ℚ) (registry : GrammarRegistry) (es es₁ es₂ : List (Event ℚ)) :
    ∃ h s h₁ s₁ h₂ s₂, ((begin measure config registry).performAll es).Yields (h, s) ∧
      (s.performAll es₁).Yields (h₁, s₁) ∧ (s.performAll es₂).Yields (h₂, s₂) ∧
      ((∀ m ∈ h₁ ++ h₂, m.isRebuild = false) → s₁.isSettled = true → s₂.isSettled = true →
        s₁.collapsedBoxes ⊆ s₂.collapsedBoxes → s₁.ShrinksTo s₂) := by
  obtain ⟨h, s, stage, hyields, hs, hmeasure⟩ := performAll_begin measure config registry es
  obtain ⟨h₁, s₁, hyields₁, run₁⟩ := hs.performAll es₁
  obtain ⟨h₂, s₂, hyields₂, run₂⟩ := hs.performAll es₂
  refine ⟨h, s, h₁, s₁, h₂, s₂, hyields, hyields₁, hyields₂, fun hkeep hidle₁ hidle₂ hmore => ?_⟩
  obtain ⟨hkeep₁, hkeep₂⟩ := List.forall_mem_append.1 hkeep
  have htree := (run₂.tree hkeep₂).trans (run₁.tree hkeep₁).symm
  have hmeasures := run₂.measure.trans run₁.measure.symm
  rw [← hmeasure, ← run₁.measure] at hroom
  exact (run₁.sound hs).shrinksTo (run₂.sound hs) htree hmeasures hroom hidle₁ hidle₂ hmore

/-- A word of two letters on a monospace grid is collapsed. -/
theorem collapsed_word_shrinks :
    Layout.Roomy (CellMetrics.standard : CellMetrics ℚ).measurer ∧
      ∃ (s s' : Session ℚ) (h : History),
        ((begin CellMetrics.standard.measurer .standard {}).performAll
          [.load wordTrace .success]).Yields ([.loaded], s) ∧
        (s.performAll [.gesture (.click ⟨1, 0⟩), .gesture (.tick (.ofMillis 500))]).Yields (h, s') ∧
        s.isSettled = true ∧ s'.isSettled = true ∧ s.collapsedBoxes = ∅ ∧
        ⟨1, 0⟩ ∈ s'.collapsedBoxes ∧ s.ShrinksTo s' := by
  have hroom : Layout.Roomy (CellMetrics.standard : CellMetrics ℚ).measurer :=
    CellMetrics.roomy _ (Nat.cast_nonneg 8) (Nat.cast_nonneg 4)
  obtain ⟨h, s, h₁, s₁, h₂, s₂, hload, hnothing, hgo, hshrinks⟩ :=
    collapsing_shrinks CellMetrics.standard.measurer hroom .standard {}
      [.load wordTrace .success] [] [.gesture (.click ⟨1, 0⟩), .gesture (.tick (.ofMillis 500))]
  obtain ⟨s', hload', -, hidle⟩ := (begin (CellMetrics.standard : CellMetrics ℚ).measurer
    .standard {}).load_yields wordTrace .success
  cases hload.unique hload'
  cases hnothing.unique (.pure _)
  have hall := performAll_append_yields hload hgo
  obtain ⟨stage, hs⟩ := exists_sound_of_yields hload
  obtain ⟨stage', hs'⟩ := exists_sound_of_yields hall
  have hopen : (match ((begin (CellMetrics.standard : CellMetrics ℚ).measurer .standard
      {}).performAll [.load wordTrace .success]).run {} with
      | .ok ((_, s), _) => decide (∀ b, (s.board.pins.box b).hidden = false)
      | .error _ => false) = true := by decide +kernel
  have hclosed : (match ((begin (CellMetrics.standard : CellMetrics ℚ).measurer .standard
      {}).performAll ([.load wordTrace .success] ++
        [.gesture (.click ⟨1, 0⟩), .gesture (.tick (.ofMillis 500))])).run {} with
      | .ok ((h, s), _) => decide (h.map (·.isRebuild) = [true, false, false] ∧
          s.isSettled = true ∧ ∃ b, s.board.tree.nameOf b = ⟨1, 0⟩ ∧
            (s.board.pins.box b).hidden = true)
      | .error _ => false) = true := by decide +kernel
  obtain ⟨_, hrun⟩ := hload {}
  obtain ⟨_, hrun'⟩ := hall {}
  rw [hrun] at hopen
  rw [hrun'] at hclosed
  obtain ⟨hrebuilds, hidle', hcollapsed⟩ := of_decide_eq_true hclosed
  have hempty : s.collapsedBoxes = ∅ := by
    refine Set.eq_empty_of_forall_notMem fun id hid => ?_
    obtain ⟨b, -, hb⟩ := hs.mem_collapsedBoxes_iff.1 hid
    rw [of_decide_eq_true hopen b] at hb
    cases hb
  refine ⟨hroom, s, s₂, h₂, hload, hgo, hidle, hidle', hempty,
    hs'.mem_collapsedBoxes_iff.2 hcollapsed, hshrinks ?_ hidle hidle' ?_⟩
  · intro m hm
    have hkeep : h₂.map (·.isRebuild) = [false, false] := (List.cons.inj hrebuilds).2
    have hmem : m.isRebuild ∈ [false, false] := hkeep ▸ List.mem_map_of_mem hm
    simpa using hmem
  · rw [hempty]
    exact Set.empty_subset _

end ParseBoxes.Session
