import ParseBoxes.Proofs.Animation.Easing
import ParseBoxes.Proofs.Session.Runs

/-!
# Least widths never get in the way

Over exact rationals.  The least width of a box is the width of its text at all times, and a
transition starts and ends no lower, so the width on its way is the width that is shown: the least
width has nothing to raise.
-/

namespace ParseBoxes

/-- Over rationals a pin that shows a tween has its value, also before the first frame. -/
theorem Tween.Shown.eq_value {w : Tween ℚ} {pin : Option ℚ} {span elapsed : Nat}
    (h : w.Shown pin) (hruns : w.Runs span elapsed) (hlt : elapsed < span) :
    pin = some w.value := by
  rcases h with h | ⟨h, hzero⟩
  · exact h
  · rw [h, value_of_elapsed_eq_zero hzero (by rw [hruns.duration]; omega)]

theorem Tween.Raised.le_start {w : Tween ℚ} {least : ℚ} (h : w.Raised least) : least ≤ w.start := by
  obtain ⟨⟨x, hx⟩, -⟩ := h
  rw [hx]
  exact le_max_right x least

theorem Tween.Raised.le_goal {w : Tween ℚ} {least : ℚ} (h : w.Raised least) : least ≤ w.goal := by
  obtain ⟨-, x, hx⟩ := h
  rw [hx]
  exact le_max_right x least

/-- A box on its way is as wide as its tween says. -/
theorem Layout.renderedWidth_eq_value {t : BoxTree} {measure : Measurer ℚ} {p : Pins ℚ t} {b : t.Box}
    {least value : ℚ} (hminWidth : (p.box b).minWidth = some least)
    (hwidth : (p.box b).explicitWidth = some value) (h : least ≤ value) :
    (p.layout measure).renderedWidth b = value := by
  have hpins : ((p.layout measure).pins.box b).minWidth = some least := hminWidth
  have hexplicit : (p.layout measure).explicitWidth b = some value := hwidth
  rw [renderedWidth_eq, hpins, hexplicit]
  exact max_eq_left h

namespace Session

/-- **Least widths never get in the way.**  Whatever happens to a session, at any time: the least
width of a box is the measured width of its text, and the box is no narrower.  While the box is on its
way, its width starts, is and ends no lower than that, and is the width shown. -/
theorem minWidth_le_tween (measure : Measurer ℚ) (config : Config ℚ) (registry : GrammarRegistry)
    (es : List (Event ℚ)) :
    ∃ h s, ((begin measure config registry).performAll es).Yields (h, s) ∧
      ∀ b, ∃ f least, inputOf s.board.tree (s.board.tree.nameOf b) = .ok f ∧
        least = (View.inputSize s.layout f).fresh.width ∧
        (s.board.pins.box b).minWidth = some least ∧
        least ≤ (View.renderedWidth s.layout b).fresh ∧
        ∀ tr, s.animator.find? (s.board.tree.nameOf b) = some tr →
          ∃ w, tr.width = some w ∧ least ≤ w.start ∧ least ≤ w.goal ∧ least ≤ w.value ∧
            (View.renderedWidth s.layout b).fresh = w.value := by
  have hbegin := sound_begin measure config registry
  obtain ⟨h, s, hyields, run⟩ := hbegin.performAll es
  have hs := run.sound hbegin
  refine ⟨h, s, hyields, fun b => ?_⟩
  have hfits := hs.steady.fits b
  have hrendered : (View.renderedWidth s.layout b).fresh = s.layout.renderedWidth b :=
    (View.renderedWidth_answers s.layout b).fresh
  refine ⟨hs.tidy.input b, hs.tidy.textWidth s.measure b, inputOf_nameOf hs.tidy b, ?_,
    hfits.minWidth, ?_, fun tr htr => ?_⟩
  · rw [(View.inputSize_answers s.layout (hs.tidy.input b)).fresh]
    exact (hs.tidy.width_inputSize s.measure s.board.pins b).symm
  · rw [hrendered]
    obtain ⟨natural, hnatural⟩ : ∃ natural, s.layout.renderedWidth b = Scalar.max natural _ :=
      Layout.exists_renderedWidth_eq_max hfits.minWidth
    exact (le_max_right natural _).trans_eq hnatural.symm
  -- on its way the width is pinned to the tween, whose ends have room for the text
  · rw [htr] at hfits
    obtain ⟨d, elapsed, -, hcarries⟩ := hfits.exists_carries
    obtain ⟨w, hw, hruns, hraised, hshown⟩ := hcarries.width
    have hvalue := w.le_value hraised.le_start hraised.le_goal
    refine ⟨w, hw, hraised.le_start, hraised.le_goal, hvalue, ?_⟩
    rw [hrendered]
    exact Layout.renderedWidth_eq_value hcarries.minWidth
      (hshown.eq_value hruns hcarries.elapsed_lt) hvalue

end Session

end ParseBoxes
