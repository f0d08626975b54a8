import ParseBoxes.Proofs.Session.Following

/-!
# Rest is confluent

When nothing moves, the board is decided by which boxes are collapsed: nothing holds a box, least
widths are those of the texts, and fragments follow their boxes (`Steady.box_of_isIdle`).  Where a
box heads is decided by the parity of its clicks.  So runs that end at rest with clicks of equal
parity end with one board, whatever happened in between; only highlights may differ.
-/

namespace ParseBoxes

variable {α : Type}

def Board.unlit (b : Board α) : Board α where
  tree := b.tree
  pins := { b.pins with pieces := b.pins.pieces.map ({ · with highlighted := false }) }

theorem Board.unlit_eq {t : BoxTree} {p q : Pins α t} (hbox : ∀ b, p.box b = q.box b)
    (hpiece : ∀ f, (p.piece f).minWidth = (q.piece f).minWidth) :
    (Board.mk t p).unlit = (Board.mk t q).unlit := by
  unfold unlit
  congr 1
  refine Pins.ext hbox fun f => ?_
  have := hpiece f
  simp_all [Pins.piece]

/-- Boards that differ neither without highlights nor in highlights. -/
theorem Board.eq_of_unlit_eq {b c : Board α} (hunlit : b.unlit = c.unlit)
    (hlights : b.lights = c.lights) : b = c := by
  obtain ⟨t, p⟩ := b
  obtain ⟨t', q⟩ := c
  obtain rfl : t = t' := congrArg Board.tree hunlit
  have hpins := eq_of_heq (Board.mk.inj hunlit).2
  have hpieces := (Pins.mk.inj hpins).2
  refine congrArg (Board.mk t) (Pins.ext (fun b => ?_) fun f => ?_)
  · rw [Pins.box, Pins.box, (Pins.mk.inj hpins).1]
  · have hminWidth : (p.piece f).minWidth = (q.piece f).minWidth := by
      have := congrArg (fun v => (v[f]).minWidth) hpieces
      simpa [Pins.piece] using this
    have hlit : (p.piece f).highlighted = (q.piece f).highlighted := by
      have := congrArg (fun l : List Bool => l[f.1]?) hlights
      simpa [lights, Pins.piece] using this
    cases hp : p.piece f
    cases hq : q.piece f
    simp_all

variable [Scalar α]

namespace Animator.Steady

variable {t : BoxTree} {ht : t.Tidy} {measure : Measurer α} {a a' : Animator α} {p q : Pins α t}
  {stage stage' : BoxId → Stage}

/-- At rest the directions in which the boxes head decide the board but for highlights. -/
theorem unlit_eq_of_isIdle (h : a.Steady ht measure p stage) (h' : a'.Steady ht measure q stage')
    (hidle : a.isIdle = true) (hidle' : a'.isIdle = true)
    (hdown : ∀ b, (stage (t.nameOf b)).headsDown = (stage' (t.nameOf b)).headsDown) :
    (Board.mk t p).unlit = (Board.mk t q).unlit := by
  have hbox : ∀ b, p.box b = q.box b := fun b => by
    rw [h.box_of_isIdle hidle, h'.box_of_isIdle hidle', hdown]
  refine Board.unlit_eq hbox fun f => ?_
  by_cases hf : ∃ b, ht.input b = f
  · obtain ⟨b, rfl⟩ := hf
    rw [h.follows_of_isIdle hidle b, h'.follows_of_isIdle hidle' b,
      Layout.displayedWidth_eq_of_sameWidth (fun c => .of_eq (hbox c)) b]
  · have hbare : ∀ b, ht.input b ≠ f := fun b hb => hf ⟨b, hb⟩
    rw [h.bare f hbare, h'.bare f hbare]

end Animator.Steady

namespace Session

variable {s s₁ s₂ : Session α} {stage stage₁ stage₂ : BoxId → Stage} {h h₁ h₂ : History}

theorem Sound.unlit_eq (hs₁ : s₁.Sound stage₁) (hs₂ : s₂.Sound stage₂)
    (htree : s₁.board.tree = s₂.board.tree) (hmeasure : s₁.measure = s₂.measure)
    (hidle₁ : s₁.isSettled = true) (hidle₂ : s₂.isSettled = true)
    (hdown : ∀ b, (stage₁ (s₁.board.tree.nameOf b)).headsDown =
      (stage₂ (s₁.board.tree.nameOf b)).headsDown) :
    s₁.board.unlit = s₂.board.unlit := by
  obtain ⟨config₁, measure₁, pristine₁, registry₁, ⟨tree₁, pins₁⟩, animator₁, _, _, _⟩ := s₁
  obtain ⟨config₂, measure₂, pristine₂, registry₂, ⟨tree₂, pins₂⟩, animator₂, _, _, _⟩ := s₂
  subst htree hmeasure
  exact hs₁.steady.unlit_eq_of_isIdle hs₂.steady hidle₁ hidle₂ hdown

/-- A click followed by frames in one go.  Enough frames bring everything to rest. -/
theorem Sound.click_settle (hs : s.Sound stage) (id : BoxId) (frame : Duration) :
    ∃ answer n s', (s.performAll [.gesture (.click id), .gesture (.settle frame)]).Yields
      ([.clicked id answer, .ranFrames frame n], s') ∧
        s'.Sound (History.advance s.span stage [.clicked id answer, .ranFrames frame n]) ∧
        SameTree s s' ∧ s'.board.lights = s.board.lights ∧
        (s.span ≤ maxFrames * (frame.greatest .millisecond).nanos → s'.isSettled = true) := by
  obtain ⟨answer, s₁, hyields₁, hsound₁, hsame₁, hlights₁⟩ := hs.click id
  obtain ⟨n, s₂, hyields₂, hsound₂, hsame₂, hlights₂, -, hend⟩ := hsound₁.settle frame
  rw [hsame₁.span] at hsound₂
  refine ⟨answer, n, s₂, ?_, hsound₂, hsame₁.trans hsame₂, hlights₂.trans hlights₁, ?_⟩
  · exact .bind (.bind hyields₁ (.pure _)) (.bind (.bind (.bind hyields₂ (.pure _))
      (.bind (.pure _) (.pure _))) (.pure _))
  · intro hlong
    rcases hend with hidle | rfl
    · exact hidle
    · refine hsound₂.steady.isIdle_iff.2 fun b => ?_
      rw [Moment.advance_ranFrames]
      exact Stage.isMoving_after_replicate _ s.span_pos _ _ hlong

theorem Sound.click_settle_twice (hs : s.Sound stage) (id : BoxId) (f g : Duration) :
    ∃ h s', (s.performAll [.gesture (.click id), .gesture (.settle f), .gesture (.click id),
        .gesture (.settle g)]).Yields (h, s') ∧
      (s.isSettled = true → s'.isSettled = true → s'.board = s.board) ∧
      (s.span ≤ maxFrames * (g.greatest .millisecond).nanos → s'.isSettled = true) := by
  obtain ⟨answer, n, s₁, hyields, hsound, hsame, hlights, -⟩ := hs.click_settle id f
  obtain ⟨answer', n', s₂, hyields', hsound', hsame', hlights', hidle⟩ :=
    hsound.click_settle id g
  rw [hsame.span] at hsound' hidle
  refine ⟨_, s₂, performAll_append_yields hyields hyields', fun hrest hrest' => ?_, hidle⟩
  refine Board.eq_of_unlit_eq ?_ (hlights'.trans hlights)
  refine hsound'.unlit_eq hs (hsame.trans hsame').tree (hsame.trans hsame').measure hrest' hrest
    fun b => ?_
  have heven : ∀ id', History.clicks id' [.clicked id answer, .ranFrames f n, .clicked id answer',
      .ranFrames g n'] % 2 = 0 := by
    intro id'
    by_cases hid : id = id' <;> simp [History.clicks, Moment.clicked?, hid]
  have hdown := History.headsDown_advance s.span stage [.clicked id answer, .ranFrames f n,
    .clicked id answer', .ranFrames g n'] (by simp [Moment.isRebuild]) (s₂.board.tree.nameOf b)
  rw [heven] at hdown
  exact hdown.trans (by simp)

/-- **Rest is confluent.**  Two rows of gestures that start on one board and end at rest, with clicks
of equal parity on every box, end with equal boards, but for highlights.  So two clicks on one box,
each followed by frames until nothing moves, restore a board at rest; frames that last as long as a
toggle suffice. -/
theorem board_at_rest_confluent (measure : Measurer α) (config : Config α)
    (registry : GrammarRegistry) (es : List (Event α)) (gs₁ gs₂ : List (Gesture α)) (id : BoxId)
    (f g : Duration) :
    ∃ h s h₁ s₁ h₂ s₂ h₃ s₃, ((begin measure config registry).performAll es).Yields (h, s) ∧
      (s.performAll (gs₁.map .gesture)).Yields (h₁, s₁) ∧
      (s.performAll (gs₂.map .gesture)).Yields (h₂, s₂) ∧
      (s.performAll [.gesture (.click id), .gesture (.settle f), .gesture (.click id),
        .gesture (.settle g)]).Yields (h₃, s₃) ∧
      (s₁.isSettled = true → s₂.isSettled = true →
        (∀ b, h₁.clicks (s.board.tree.nameOf b) % 2 = h₂.clicks (s.board.tree.nameOf b) % 2) →
          s₁.board.unlit = s₂.board.unlit) ∧
      (s.isSettled = true → s₃.isSettled = true → s₃.board = s.board) ∧
      (s.span ≤ maxFrames * (g.greatest .millisecond).nanos → s₃.isSettled = true) := by
  have hbegin := sound_begin measure config registry
  obtain ⟨h, s, hyields, run⟩ := hbegin.performAll es
  have hs := run.sound hbegin
  obtain ⟨h₁, s₁, hyields₁, run₁, hh₁⟩ := hs.gestures gs₁
  obtain ⟨h₂, s₂, hyields₂, run₂, hh₂⟩ := hs.gestures gs₂
  obtain ⟨h₃, s₃, hyields₃, hrestored, hrests⟩ := hs.click_settle_twice id f g
  refine ⟨h, s, h₁, s₁, h₂, s₂, h₃, s₃, hyields, hyields₁, hyields₂, hyields₃, ?_, hrestored, hrests⟩
  -- gestures keep the tree, and at rest the pins of boxes are told by their directions
  intro hidle₁ hidle₂ hparity
  have htree₁ := run₁.tree hh₁
  have htree₂ := run₂.tree hh₂
  refine (run₁.sound hs).unlit_eq (run₂.sound hs) (htree₁.trans htree₂.symm)
    (run₁.measure.trans run₂.measure.symm) hidle₁ hidle₂ ?_
  rw [htree₁]
  intro b
  rw [History.headsDown_advance _ _ _ hh₁, History.headsDown_advance _ _ _ hh₂, hparity]

end Session

end ParseBoxes
