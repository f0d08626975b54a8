import ParseBoxes.Proofs.Session.Runs

/-!
# The ribbon stays under the boxes

A new board, every frame and rest of all boxes see to it that every fragment of a box is pinned to
the width at which the box is displayed, also where the box is inside a collapsed one.  Between two
frames a toggle may leave the dependents of boxes on their way behind, and nothing else may.
-/

namespace ParseBoxes.Session

variable {α : Type} [Scalar α] {s s' : Session α} {stage : BoxId → Stage} {h : History}

theorem Sound.follows_of_isSettled (hs : s.Sound stage) (hidle : s.isSettled = true) : s.Follows :=
  fun _ x => hs.steady.follows_of_isIdle hidle x

/-- What has just been mended or does not move follows. -/
theorem Leads.follows (run : Leads s stage h s') (hs : s.Sound stage)
    (hend : (∃ m, h.getLast? = some m ∧ m.mends = true) ∨ s'.isSettled = true) : s'.Follows := by
  rcases hend with ⟨m, hlast, hm⟩ | hidle
  · cases run with
    | nil => cases hlast
    | snoc run step =>
      rw [List.getLast?_concat] at hlast
      cases hlast
      exact step.follows hm
  · exact (run.sound hs).follows_of_isSettled hidle

/-- **The ribbon stays under the boxes.**  Whatever happens to a session: right after a new board,
right after any frame, and whenever nothing moves, the fragment of every box is pinned to the width
that a fresh view shows for the box. -/
theorem minWidth_piece_eq_displayedWidth (measure : Measurer α) (config : Config α)
    (registry : GrammarRegistry) (es : List (Event α)) :
    ∃ h s, ((begin measure config registry).performAll es).Yields (h, s) ∧
      ((∃ m, h.getLast? = some m ∧ m.mends = true) ∨ s.isSettled = true →
        ∀ b, ∃ f, inputOf s.board.tree (s.board.tree.nameOf b) = .ok f ∧
          (s.board.pins.piece f).minWidth = some (View.displayedWidth s.layout b).fresh) := by
  have hbegin := sound_begin measure config registry
  obtain ⟨h, s, hyields, run⟩ := hbegin.performAll es
  refine ⟨h, s, hyields, fun hend b => ?_⟩
  have ht := (run.sound hbegin).tidy
  refine ⟨ht.input b, inputOf_nameOf ht b, ?_⟩
  rw [(View.displayedWidth_answers s.layout b).fresh]
  exact run.follows hbegin hend ht b

end ParseBoxes.Session
