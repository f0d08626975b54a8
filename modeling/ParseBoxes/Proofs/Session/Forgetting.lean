import ParseBoxes.Proofs.Animation.Splitting
import ParseBoxes.Proofs.Session.Basis
import ParseBoxes.Proofs.Tree.Declared

/-!
# A refresh forgets

Of all that a session has been through, a successful refresh keeps what no event changes
(`Session.SameBasis`), the clock and the generation.  The new board depends on nothing else: trees of
one trace differ in their generations alone (`TreeBuilder.stamped_build`), no layout looks at these,
and the layout decides the pins of a new board (`Widths.Established.unique`).
-/

namespace ParseBoxes

variable {α : Type} {t : BoxTree}

/-! ## Generations -/

/-- The same boxes and fragments in another generation. -/
abbrev BoxTree.stamped (t : BoxTree) (generation : UInt32) : BoxTree :=
  ⟨generation, t.boxes, t.fragments⟩

def Pins.stamped (p : Pins α t) (generation : UInt32) : Pins α (t.stamped generation) :=
  ⟨p.boxes, p.pieces⟩

def Board.stamped (b : Board α) (generation : UInt32) : Board α :=
  ⟨b.tree.stamped generation, b.pins.stamped generation⟩

theorem BoxTree.Tidy.stamped (ht : t.Tidy) (generation : UInt32) : (t.stamped generation).Tidy :=
  ⟨ht.linked, ht.input_lt, ht.input_inj⟩

/-- A tree is built alike in every generation. -/
theorem TreeBuilder.stamped_build (b : TreeBuilder) (trace : List TraceNode) (g g' : UInt32) :
    (b.build trace g).stamped g' = b.build trace g' := by
  rw [(drawn_build b trace g).eq, (drawn_build b trace g').eq]
  rfl

namespace Layout

variable {p : Pins α t} {measure : Measurer α} {generation : UInt32}

theorem isDisplayed_stamped (b : t.Box) :
    ((p.stamped generation).layout measure).isDisplayed b = (p.layout measure).isDisplayed b := by
  fun_induction Forest.ancestors t.boxes b with
  | case1 b hb =>
    rw [isDisplayed, isDisplayed]
    simp only [hb]
  | case2 b a hlt hb ih =>
    rw [isDisplayed, isDisplayed]
    simp only [hb, ih]
    rfl

variable [Scalar α]

theorem inputSize_stamped (f : t.Piece) :
    ((p.stamped generation).layout measure).inputSize f = (p.layout measure).inputSize f := by
  induction f using Forest.kids_induction with
  | h f ih =>
    rw [inputSize, inputSize]
    refine List.foldl_ext _ _ _ fun size c hc => ?_
    show size.beside (((p.stamped generation).layout measure).inputSize c.1) = size.beside _
    rw [ih c.1 (Forest.hasChild_of_mem_kids hc)]

theorem renderedWidth_stamped (b : t.Box) :
    ((p.stamped generation).layout measure).renderedWidth b = (p.layout measure).renderedWidth b := by
  induction b using Forest.kids_induction with
  | h b ih =>
    have hblock : (p.box b).hidden = false →
        (((p.stamped generation).layout measure).childrenBlock b).width =
          ((p.layout measure).childrenBlock b).width := by
      intro hshown
      rw [width_childrenBlock (p.layout measure) b hshown,
        width_childrenBlock ((p.stamped generation).layout measure) b hshown]
      refine List.foldl_ext _ _ _ fun w c hc => ?_
      rw [ih c.1 (Forest.hasChild_of_mem_kids hc)]
    have hhidden : ((p.stamped generation).layout measure).hidden b = (p.box b).hidden := rfl
    have hhidden' : (p.layout measure).hidden b = (p.box b).hidden := rfl
    rw [renderedWidth_eq, renderedWidth_eq, hhidden, hhidden']
    cases hshown : (p.box b).hidden with
    | true => rfl
    | false =>
      rw [hblock hshown]
      rfl

theorem displayedWidth_stamped (b : t.Box) :
    ((p.stamped generation).layout measure).displayedWidth b =
      (p.layout measure).displayedWidth b := by
  rw [displayedWidth, displayedWidth, isDisplayed_stamped, renderedWidth_stamped]

end Layout

/-! ## New boards -/

namespace Widths.Established

variable [Scalar α] {ht : t.Tidy} {measure : Measurer α} {p q : Pins α t}

/-- The tree and the measurer decide the pins of a new board. -/
theorem unique (hp : Established ht measure p) (hq : Established ht measure q) : p = q := by
  have hbox : ∀ b, p.box b = q.box b := by
    intro b
    rw [hp.box, hq.box, Layout.inputSize_eq measure p q]
  have hlit : ∀ f, (p.piece f).highlighted = (q.piece f).highlighted := by
    intro f
    rw [hp.unlit, hq.unlit]
  refine Pins.eq_of_follows hbox hp.follows hq.follows (fun f hf => ?_) hlit
  have heta : ∀ pins : PiecePins α, pins = ⟨pins.minWidth, pins.highlighted⟩ := fun _ => rfl
  rw [heta (p.piece f), heta (q.piece f), hp.bare f hf, hq.bare f hf, hlit f]

theorem expanded (h : Established ht measure p) (b : t.Box) : (p.box b).hidden = false := by
  rw [h.box]

theorem stamped (h : Established ht measure p) (generation : UInt32) :
    Established (ht.stamped generation) measure (p.stamped generation) where
  box b := by
    rw [Layout.inputSize_stamped]
    exact h.box b
  follows b := by
    unfold Pins.Follows
    rw [Layout.displayedWidth_stamped]
    exact h.follows b
  bare := h.bare
  unlit := h.unlit

/-- New boards for one tree are alike but for the generation. -/
theorem board_eq {t' : BoxTree} {ht' : t'.Tidy} {p' : Pins α t'} {generation : UInt32}
    (hp : Established ht measure p) (hp' : Established ht' measure p')
    (htree : t' = t.stamped generation) : (⟨t', p'⟩ : Board α) = .stamped ⟨t, p⟩ generation := by
  subst htree
  rw [hp'.unique (hp.stamped generation)]
  rfl

end Widths.Established

/-! ## Refreshing -/

namespace Session

open Run

/-- Sessions that differ in their clocks and generations alone. -/
structure Alike (s s' : Session α) : Prop where
  config : s'.config = s.config
  measure : s'.measure = s.measure
  pristine : s'.pristine = s.pristine
  registry : s'.registry = s.registry
  board : s'.board = s.board.stamped s'.board.tree.generation
  animator : s'.animator = s.animator
  hovered : s'.hovered = s.hovered
  outcome : s'.outcome = s.outcome

/-- A session shows a new board: all boxes are expanded, and nothing moves or is highlighted. -/
structure Renewed (s : Session α) (outcome : MatchOutcome) : Prop where
  outcome : s.outcome = some outcome
  hovered : s.hovered = none
  settled : s.isSettled = true
  expanded : ∀ b, (s.board.pins.box b).hidden = false
  unlit : ∀ f, (s.board.pins.piece f).highlighted = false

variable [Scalar α] {s s' : Session α} {engine : Engine} {grammar input start : String}
  {outcome : MatchOutcome} {trace : List TraceNode} {e : EngineError}

theorem refresh_yields_ok
    (h : Engine.extract (engine.run s.pristine grammar input start).1 = .ok (outcome, trace)) :
    ∃ p, (s.refresh engine grammar input start).Yields (.ok outcome,
        { s with
          registry := (engine.run s.pristine grammar input start).2
          board := ⟨TreeBuilder.build ⟨s.config.glyph⟩ trace (s.board.tree.generation + 1), p⟩
          animator := { s.animator with active := [] }
          hovered := none
          outcome := some outcome }) ∧
      Widths.Established (.build ⟨s.config.glyph⟩ trace (s.board.tree.generation + 1)) s.measure
        p := by
  obtain ⟨p, hyields, hest⟩ := rebuild_yields
    { s with registry := (engine.run s.pristine grammar input start).2 } trace outcome
  refine ⟨p, .bind (note_yields _) ?_, hest⟩
  simp only [h]
  exact .bind hyields (.pure _)

/-- A refresh that the engine refuses keeps what the engine has left in the registry. -/
theorem refresh_yields_error
    (h : Engine.extract (engine.run s.pristine grammar input start).1 = .error e) :
    (s.refresh engine grammar input start).Yields (.error (.engine e),
      { s with registry := (engine.run s.pristine grammar input start).2 }) := by
  refine .bind (note_yields _) ?_
  simp only [h]
  exact .bind (note_yields _) (.pure _)

/-- Whatever two sessions have been through, one refresh of both has one answer, and if it succeeds
they show one board. -/
theorem SameBasis.refresh (h : SameBasis s s') (engine : Engine) (grammar input start : String) :
    ∃ answer s₁ s₁', (s.refresh engine grammar input start).Yields (answer, s₁) ∧
      (s'.refresh engine grammar input start).Yields (answer, s₁') ∧
      s₁.registry = (engine.run s.pristine grammar input start).2 ∧
      s₁'.registry = s₁.registry ∧
      ∀ outcome, answer = .ok outcome → s₁.Renewed outcome ∧ s₁'.Renewed outcome ∧ s₁.Alike s₁' := by
  cases hextract : Engine.extract (engine.run s.pristine grammar input start).1 with
  | error e =>
    have hextract' := h.pristine ▸ hextract
    refine ⟨_, _, _, refresh_yields_error hextract, refresh_yields_error hextract', rfl, ?_, ?_⟩
    · rw [h.pristine]
    · intro outcome ho
      cases ho
  | ok result =>
    obtain ⟨outcome, trace⟩ := result
    have hextract' := h.pristine ▸ hextract
    obtain ⟨p, hyields, hest⟩ := refresh_yields_ok hextract
    obtain ⟨p', hyields', hest'⟩ := refresh_yields_ok hextract'
    have hregistry : (engine.run s'.pristine grammar input start).2 =
        (engine.run s.pristine grammar input start).2 := by rw [h.pristine]
    refine ⟨_, _, _, hyields, hyields', rfl, hregistry, ?_⟩
    intro outcome ho
    cases ho
    refine ⟨⟨rfl, rfl, rfl, hest.expanded, hest.unlit⟩, ⟨rfl, rfl, rfl, hest'.expanded, hest'.unlit⟩,
      h.config, h.measure, h.pristine, hregistry, ?_, ?_, rfl, rfl⟩
    -- the generation is the one thing in which the two new boards may differ
    · rw [h.measure] at hest'
      apply hest.board_eq hest'
      rw [TreeBuilder.generation_build, TreeBuilder.stamped_build, h.config]
    · show Animator.mk _ _ [] = Animator.mk _ _ []
      rw [h.duration, h.easing]

/-- **A refresh forgets what went before**: two sessions may have been through any events since they
were begun alike.  If both parse an input anew with one engine, the answer is the same, and the
grammars are left as the engine makes them of those that both were begun with.  If the parse
succeeds, both show the same board in which all boxes are expanded and nothing moves or is
highlighted; they differ in their clocks and generations alone. -/
theorem refresh_forgets (measure : Measurer α) (config : Config α) (registry : GrammarRegistry)
    (es es' : List (Event α)) (engine : Engine) (grammar input start : String) :
    ∃ h s h' s' answer s₁ s₁', ((begin measure config registry).performAll es).Yields (h, s) ∧
      ((begin measure config registry).performAll es').Yields (h', s') ∧
      (s.refresh engine grammar input start).Yields (answer, s₁) ∧
      (s'.refresh engine grammar input start).Yields (answer, s₁') ∧
      s₁.registry = (engine.run registry grammar input start).2 ∧ s₁'.registry = s₁.registry ∧
      ∀ outcome, answer = .ok outcome → s₁.Renewed outcome ∧ s₁'.Renewed outcome ∧ s₁.Alike s₁' := by
  have hbegin := sound_begin measure config registry
  obtain ⟨h, s, hyields, -⟩ := hbegin.performAll es
  obtain ⟨h', s', hyields', -⟩ := hbegin.performAll es'
  have hbasis : SameBasis (begin measure config registry) s :=
    (performAll_ensures es _).of_yields hyields
  have hbasis' : SameBasis (begin measure config registry) s' :=
    (performAll_ensures es' _).of_yields hyields'
  obtain ⟨answer, s₁, s₁', hrefresh, hrefresh', hregistry, hsame, halike⟩ :=
    (hbasis.symm.trans hbasis').refresh engine grammar input start
  rw [hbasis.pristine] at hregistry
  exact ⟨h, s, h', s', answer, s₁, s₁', hyields, hyields', hrefresh, hrefresh', hregistry, hsame,
    halike⟩

end Session

end ParseBoxes
