import ParseBoxes.Proofs.Session.Runs

/-!
# States told from clicks and frames

The state of a box is told by what has happened to it since its board was built, without a look at
the board: the parity of its clicks tells whether it is collapsed or about to be, and the time since
its last click whether it is on its way.  It is reported to have come to rest once for each click
that was given the time of a toggle.
-/

namespace ParseBoxes.Session

open Run

variable {α : Type} [Scalar α] {s s' : Session α} {stage : BoxId → Stage} {h : History}

/-- The part of a run that has happened to the board on show.  It starts with all boxes expanded. -/
theorem Leads.sinceRebuild (run : Leads s (fun _ => .resting false) h s')
    (hs : s.Sound fun _ => .resting false) :
    ∃ s₁ : Session α, Leads s₁ (fun _ => .resting false) h.sinceRebuild s' ∧
      (s₁.Sound fun _ => .resting false) ∧ s₁.span = s.span := by
  induction run with
  | nil => exact ⟨s, .nil, hs, rfl⟩
  | @snoc h s₁ s₂ m run step ih =>
    rw [History.sinceRebuild_concat]
    cases hm : m.isRebuild with
    | true =>
      have hadvance : m.advance s₁.span (h.advance s.span fun _ => .resting false) =
          fun _ => .resting false := funext fun id => if_pos hm
      have hsound := step.sound
      rw [hadvance] at hsound
      exact ⟨s₂, .nil, hsound, (run.snoc step).span⟩
    | false =>
      obtain ⟨s₀, run₀, hs₀, hspan⟩ := ih
      refine ⟨s₀, run₀.snoc ?_, hs₀, hspan⟩
      rwa [hspan, History.advance_sinceRebuild]

/-- On one board a box is reported once for each time it comes to rest. -/
theorem Leads.reports (run : Leads s stage h s')
    (hh : ∀ m ∈ h, m.isRebuild = false) (hsettle : ∀ m ∈ h, m.isSettle = false)
    (b : s.board.tree.Box) :
    h.reports (s.board.tree.nameOf b) =
      (stage (s.board.tree.nameOf b)).arrivals s.span (h.acts (s.board.tree.nameOf b)) := by
  induction run with
  | nil => rfl
  | @snoc h s₁ s₂ m run step ih =>
    obtain ⟨hh, hm⟩ := List.forall_mem_append.1 hh
    obtain ⟨hsettle, hm'⟩ := List.forall_mem_append.1 hsettle
    have hreports := step.reports (hm' m List.mem_cons_self)
    rw [run.tree hh, run.span] at hreports
    rw [History.reports_concat, History.acts_concat, Stage.arrivals_append, ih hh hsettle,
      hreports b, History.advance_of_not_isRebuild _ _ _ hh]

/-- **Clicks and frames tell the state.**  Of every box on show it is known from what has happened
since the board was built: the box is collapsed or about to be if it was clicked an odd number of
times; it is on its way if less than the time of a toggle has gone by since its last click; and, as
long as each frame was run by itself, it was reported to have come to rest once for each click that
was given the time of a toggle before the next click. -/
theorem state_told_by_clicks (measure : Measurer α) (config : Config α)
    (registry : GrammarRegistry) (es : List (Event α)) :
    ∃ h s, ((begin measure config registry).performAll es).Yields (h, s) ∧
      ∀ b : s.board.tree.Box,
        let id := s.board.tree.nameOf b
        let now := h.sinceRebuild
        let span := max config.toggleDuration.nanos 1
        ∃ state, (s.state id).Yields (.ok state) ∧
          (state = .collapsed ∨ state = .collapsing ↔ now.clicks id % 2 = 1) ∧
          (state.isTransient = true ↔
            ∃ elapsed, Stage.sinceToggle (now.acts id) = some elapsed ∧ elapsed < span) ∧
          ((∀ m ∈ now, m.isSettle = false) →
            now.reports id = Stage.completed span (now.acts id)) := by
  have hbegin := sound_begin measure config registry
  obtain ⟨h, s, hyields, run⟩ := hbegin.performAll es
  refine ⟨h, s, hyields, fun b => ?_⟩
  obtain ⟨s₀, run₀, hs₀, hspan⟩ := run.sinceRebuild hbegin
  have hh : ∀ m ∈ h.sinceRebuild, m.isRebuild = false := fun m hm =>
    History.isRebuild_of_mem_sinceRebuild hm
  refine ⟨_, (run₀.sound hs₀).state b, ?_, ?_, fun hsettle => ?_⟩
  · rw [Stage.state_headsDown, History.headsDown_advance _ _ _ hh]
    simp [Stage.headsDown]
  · rw [Stage.state_isTransient, History.advance_of_not_isRebuild _ _ _ hh, hspan]
    exact Stage.isMoving_after_iff (span_pos _) false _
  -- the box has been there since the last new board, so its reports are counted from there
  · obtain ⟨b', hb'⟩ : ∃ b', s₀.board.tree.nameOf b' = s.board.tree.nameOf b := by
      rw [← run₀.tree hh]
      exact ⟨b, rfl⟩
    have hreports := run₀.reports hh hsettle b'
    rw [hb', hspan, Stage.arrivals_resting (span_pos _)] at hreports
    exact hreports

end ParseBoxes.Session
