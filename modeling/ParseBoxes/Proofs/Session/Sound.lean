import Mathlib.Data.List.Nodup
import ParseBoxes.Proofs.Animation.Steady
import ParseBoxes.Proofs.Session.History
import ParseBoxes.Proofs.Tree.Nesting

/-!
# The invariant of a session

Every event comes to its end without fault, whatever it is asked for, and keeps the invariant of the
session (`Sound`): the board is steady, and the hovered box is on it.  What each event does is said
once (`Goes`); a run of events strings such steps together (`Leads`).
-/

namespace ParseBoxes

variable {α : Type}

def Board.lights (b : Board α) : List Bool := b.pins.pieces.toList.map (·.highlighted)

theorem Board.lights_withPins {b : Board α} {p : Pins α b.tree}
    (h : ∀ f, (p.piece f).highlighted = (b.pins.piece f).highlighted) :
    (b.withPins p).lights = b.lights := by
  unfold lights
  refine List.ext_getElem (by simp [withPins]) fun i hi _ => ?_
  have hlt : i < b.tree.fragments.size := by simpa [withPins] using hi
  rw [List.getElem_map, List.getElem_map]
  exact h ⟨i, hlt⟩

namespace Session

open Run

def span (s : Session α) : Nat := max s.config.toggleDuration.nanos 1

theorem span_pos (s : Session α) : 0 < s.span := Nat.le_max_right ..

/-- Two sessions with one configuration, one measurer and one tree. -/
structure SameTree (s s' : Session α) : Prop where
  config : s'.config = s.config
  measure : s'.measure = s.measure
  tree : s'.board.tree = s.board.tree

theorem SameTree.refl (s : Session α) : SameTree s s := ⟨rfl, rfl, rfl⟩

theorem SameTree.trans {s s' s'' : Session α} (h : SameTree s s') (h' : SameTree s' s'') :
    SameTree s s'' :=
  ⟨h'.config.trans h.config, h'.measure.trans h.measure, h'.tree.trans h.tree⟩

theorem SameTree.span {s s' : Session α} (h : SameTree s s') : s'.span = s.span := by
  unfold Session.span
  rw [h.config]

variable [Scalar α]

/-- The board is steady, its boxes are at these stages, and the hovered box is one of them.  Its
tree was built from a trace. -/
structure Sound (s : Session α) (stage : BoxId → Stage) : Prop where
  tidy : s.board.tree.Tidy
  steady : s.animator.Steady tidy s.measure s.board.pins stage
  hovered : ∀ id, s.hovered = some id → ∃ b, s.board.tree.nameOf b = id
  duration : s.animator.duration = s.config.toggleDuration
  built : ∃ (b : TreeBuilder) (trace : List TraceNode) (generation : UInt32),
    s.board.tree = b.build trace generation

/-- All fragments stand at the widths at which their boxes are displayed. -/
def Follows (s : Session α) : Prop :=
  ∀ (ht : s.board.tree.Tidy) (b : s.board.tree.Box), s.board.pins.Follows ht s.measure b

variable {s : Session α} {stage : BoxId → Stage}

theorem Sound.span_eq (h : s.Sound stage) : s.animator.span = s.span := by
  rw [Animator.span, h.duration]
  rfl

/-- Stages of boxes that are not on the board do not matter. -/
theorem Sound.congr (h : s.Sound stage) {stage' : BoxId → Stage}
    (hstage : ∀ b, stage' (s.board.tree.nameOf b) = stage (s.board.tree.nameOf b)) :
    s.Sound stage' :=
  ⟨h.tidy, h.steady.congr hstage, h.hovered, h.duration, h.built⟩

theorem Sound.nested (hs : s.Sound stage) : BoxTree.Nested hs.tidy := by
  have hnested : ∀ {t : BoxTree} (ht : t.Tidy), (∃ (b : TreeBuilder) (trace : List TraceNode)
      (generation : UInt32), t = b.build trace generation) → BoxTree.Nested ht := by
    rintro t ht ⟨b, trace, generation, rfl⟩
    exact BoxTree.nested_build b trace generation ht
  exact hnested hs.tidy hs.built

theorem Sound.linked_fragments (hs : s.Sound stage) : s.board.tree.fragments.Linked := by
  obtain ⟨b, trace, generation, htree⟩ := hs.built
  rw [htree]
  exact TreeBuilder.linked_fragments_build b trace generation

/-- A session begins on an empty board, which is sound. -/
theorem sound_begin (measure : Measurer α) (config : Config α) (registry : GrammarRegistry) :
    (begin measure config registry).Sound fun _ => .resting false where
  tidy := .empty 0
  steady := {
    filed := ⟨[], rfl, .nil⟩
    dependents := fun b => absurd b.2 (Nat.not_lt_zero b.1)
    fits := fun b => absurd b.2 (Nat.not_lt_zero b.1)
    follows := fun b => absurd b.2 (Nat.not_lt_zero b.1)
    bare := fun f => absurd f.2 (Nat.not_lt_zero f.1) }
  hovered _ h := by cases h
  duration := rfl
  built := ⟨{}, [], 0, by rw [TreeBuilder.build, TreeBuilder.addNodes]; rfl⟩

/-! ## Rebuilding -/

omit [Scalar α] in
theorem cancelAll_yields (a : Animator α) : a.cancelAll.Yields { a with active := [] } := by
  unfold Animator.cancelAll
  split
  · exact .pure _
  · exact .bind (note_yields _) (.pure _)

/-- A trace is built, gets its widths and goes on show, without fault. -/
theorem rebuild_yields (s : Session α) (trace : List TraceNode) (outcome : MatchOutcome) :
    ∃ p, (s.rebuild trace outcome).Yields
        { s with
          board := ⟨TreeBuilder.build ⟨s.config.glyph⟩ trace (s.board.tree.generation + 1), p⟩
          animator := { s.animator with active := [] }
          hovered := none
          outcome := some outcome } ∧
      Widths.Established (.build ⟨s.config.glyph⟩ trace (s.board.tree.generation + 1)) s.measure p := by
  have ht := BoxTree.Tidy.build ⟨s.config.glyph⟩ trace (s.board.tree.generation + 1)
  obtain ⟨p, hp, hest⟩ := Widths.establish_yields ht s.measure
  exact ⟨p, .bind (cancelAll_yields _) (.bind (note_yields _) (.bind (note_yields _) (.bind hp
    (.bind (note_yields _) (.pure _))))), hest⟩

/-- On a new board nothing moves, all boxes are expanded and all fragments follow. -/
theorem Sound.rebuild (h : s.Sound stage) (trace : List TraceNode) (outcome : MatchOutcome) :
    ∃ s', (s.rebuild trace outcome).Yields s' ∧ s'.Sound (fun _ => .resting false) ∧ s'.Follows ∧
      s'.config = s.config ∧ s'.measure = s.measure ∧
      s'.board.tree.generation = s.board.tree.generation + 1 := by
  obtain ⟨p, hyields, hest⟩ := s.rebuild_yields trace outcome
  exact ⟨_, hyields, ⟨_, .established hest rfl, (fun _ h => by cases h), h.duration, ⟨_, _, _, rfl⟩⟩,
    fun _ b => hest.follows b, rfl, rfl, TreeBuilder.generation_build _ _ _⟩

/-! ## Pointing -/

omit [Scalar α] in
theorem check_nameOf_yields (s : Session α) (b : s.board.tree.Box) :
    (s.check (s.board.tree.nameOf b)).Yields (.ok b) := by
  unfold Session.check
  rw [s.board.tree.locate_nameOf]
  exact .pure _

omit [Scalar α] in
/-- A name is that of a box or is refused. -/
theorem check_yields_cases (s : Session α) (id : BoxId) :
    (∃ b, s.board.tree.nameOf b = id) ∨
      (∀ b, s.board.tree.nameOf b ≠ id) ∧ ∃ e, (s.check id).Yields (.error e) := by
  cases hid : s.board.tree.locate id with
  | ok b => exact .inl ⟨b, (BoxTree.locate_eq_ok_iff.1 hid).symm⟩
  | error fault =>
    refine .inr ⟨fun b hb => ?_, ?_⟩
    · rw [← hb, s.board.tree.locate_nameOf] at hid
      cases hid
    unfold Session.check
    rw [hid]
    cases fault with
    | foreignBox _ generation => exact ⟨_, .bind (note_yields _) (.pure _)⟩
    | outOfRange _ _ => exact ⟨_, .pure _⟩
    | endlessFrame => exact ⟨_, .pure _⟩

theorem hit_yields (s : Session α) (x y : α) :
    ∃ b : Option s.board.tree.Box, (s.hit x y).Yields (b.map s.board.tree.nameOf) :=
  ⟨_, .bind (look_yields _ _) (.pure _)⟩

/-- A toggle of a box that is there turns its stage, and leaves the tree and the lights. -/
theorem Sound.toggle (h : s.Sound stage) (b : s.board.tree.Box) :
    ∃ d s', (s.toggle (s.board.tree.nameOf b)).Yields (d, s') ∧
      s'.Sound (fun id => if id = s.board.tree.nameOf b then (stage id).toggle else stage id) ∧
      SameTree s s' ∧ s'.board.lights = s.board.lights := by
  obtain ⟨q, active, hyields, hsteady, hpieces, -⟩ := h.steady.toggle b
  refine ⟨_, _, .bind hyields (.pure _), ⟨h.tidy, hsteady, h.hovered, h.duration, h.built⟩,
    ⟨rfl, rfl, rfl⟩, Board.lights_withPins fun f => ?_⟩
  unfold Pins.piece
  rw [hpieces]

/-- A click comes to its end: it turns the stage of its box, if it is not refused. -/
theorem Sound.click (h : s.Sound stage) (id : BoxId) :
    ∃ answer s', (s.click id).Yields (answer, s') ∧
      s'.Sound ((Moment.clicked id answer).advance s.span stage) ∧ SameTree s s' ∧
      s'.board.lights = s.board.lights := by
  rcases check_yields_cases s id with ⟨b, rfl⟩ | ⟨hid, e, he⟩
  · obtain ⟨d, s', hyields, hsound, hsame⟩ := h.toggle b
    refine ⟨.ok d, s', .bind (check_nameOf_yields s b) (.bind hyields (.pure _)), ?_, hsame⟩
    rwa [Moment.advance_clicked]
  · refine ⟨.error e, s, .bind he (.pure _), h.congr fun b => ?_, .refl s, rfl⟩
    rw [Moment.advance_clicked]
    exact if_neg (hid b)

theorem Sound.clickAt (h : s.Sound stage) (x y : α) :
    ∃ answer s', (s.clickAt x y).Yields (answer, s') ∧
      s'.Sound ((Moment.clickedAt answer).advance s.span stage) ∧ SameTree s s' ∧
      s'.board.lights = s.board.lights := by
  obtain ⟨b, hb⟩ := hit_yields s x y
  cases b with
  | none => exact ⟨none, s, .bind hb (.pure _), h, .refl s, rfl⟩
  | some b =>
    obtain ⟨d, s', hyields, hsound, hsame⟩ := h.toggle b
    refine ⟨some (_, d), s', .bind hb (.bind hyields (.pure _)), ?_, hsame⟩
    rwa [← Moment.advance_clicked _ (.ok d)] at hsound

theorem inputOf_nameOf {t : BoxTree} (ht : t.Tidy) (b : t.Box) :
    inputOf t (t.nameOf b) = .ok (ht.input b) := by
  unfold inputOf
  rw [t.locate_nameOf]
  exact ht.locatePiece_input b

theorem Sound.highlight (h : s.Sound stage) (b : s.board.tree.Box) (on : Bool) :
    ∃ s', s.highlight (s.board.tree.nameOf b) on = .ok s' ∧ s'.Sound stage ∧ SameTree s s' := by
  have heq : s.highlight (s.board.tree.nameOf b) on =
      .ok (s.withPins (s.board.pins.modifyPiece (h.tidy.input b) ({ · with highlighted := on }))) := by
    unfold Session.highlight
    rw [inputOf_nameOf h.tidy]
    rfl
  exact ⟨_, heq, ⟨h.tidy, h.steady.highlight (h.tidy.input b) on, h.hovered, h.duration, h.built⟩,
    rfl, rfl, rfl⟩

/-- Before anything else the highlight is taken away from the hovered box. -/
theorem Sound.unhighlight (h : s.Sound stage) :
    ∃ s', s'.Sound stage ∧ SameTree s s' ∧
      ∀ {β : Type} (next : Session α → Run α β) (answer : β), (next s').Yields answer →
        (match s.hovered with
          | none => Pure.pure s >>= next
          | some previous => Run.check (s.highlight previous false) >>= next).Yields answer := by
  cases hprevious : s.hovered with
  | none => exact ⟨s, h, .refl s, fun _ _ hnext => .bind (.pure s) hnext⟩
  | some previous =>
    obtain ⟨b, rfl⟩ := h.hovered previous hprevious
    obtain ⟨s', hs', hsound, hsame⟩ := h.highlight b false
    exact ⟨s', hsound, hsame, fun _ _ hnext => .bind (Run.check_yields hs') hnext⟩

theorem Sound.withHovered (h : s.Sound stage) {id : Option BoxId}
    (hid : ∀ id', id = some id' → ∃ b, s.board.tree.nameOf b = id') :
    Sound { s with hovered := id } stage :=
  ⟨h.tidy, h.steady, hid, h.duration, h.built⟩

theorem Sound.hover_yields (h : s.Sound stage) (b : Option s.board.tree.Box) :
    ∃ s', (s.hover (b.map s.board.tree.nameOf)).Yields (.ok (), s') ∧ s'.Sound stage ∧
      SameTree s s' := by
  obtain ⟨s₁, hsound, hsame, hyields⟩ := h.unhighlight
  cases b with
  | none =>
    exact ⟨{ s₁ with hovered := none },
      .bind (.pure none) (hyields _ _ (.bind (.pure s₁) (.pure _))),
      hsound.withHovered (fun _ hid => by cases hid), hsame.config, hsame.measure, hsame.tree⟩
  | some b =>
    obtain ⟨b', hb'⟩ : ∃ b', s₁.board.tree.nameOf b' = s.board.tree.nameOf b := by
      rw [hsame.tree]
      exact ⟨b, rfl⟩
    obtain ⟨s₂, hs₂, hsound', hsame'⟩ := hsound.highlight b' true
    have hsame'' := hsame.trans hsame'
    refine ⟨{ s₂ with hovered := some (s.board.tree.nameOf b) },
      .bind (check_nameOf_yields s b) (.bind (.pure none) (hyields _ _
        (.bind (check_yields (hb' ▸ hs₂)) (.pure _)))),
      hsound'.withHovered fun id hid => ?_, hsame''.config, hsame''.measure, hsame''.tree⟩
    rw [← Option.some.inj hid]
    show ∃ c, s₂.board.tree.nameOf c = s.board.tree.nameOf b
    rw [hsame''.tree]
    exact ⟨b, rfl⟩

theorem Sound.hover (h : s.Sound stage) (id : Option BoxId) :
    ∃ answer s', (s.hover id).Yields (answer, s') ∧ s'.Sound stage ∧ SameTree s s' := by
  cases id with
  | none =>
    obtain ⟨s', hs'⟩ := h.hover_yields none
    exact ⟨_, s', hs'⟩
  | some id =>
    rcases check_yields_cases s id with ⟨b, rfl⟩ | ⟨hid, e, he⟩
    · obtain ⟨s', hs'⟩ := h.hover_yields (some b)
      exact ⟨_, s', hs'⟩
    · exact ⟨.error e, s, .bind he (.pure _), h, .refl s⟩

theorem Sound.hoverAt (h : s.Sound stage) (x y : α) :
    ∃ answer s', (s.hoverAt x y).Yields (answer, s') ∧ s'.Sound stage ∧ SameTree s s' := by
  obtain ⟨b, hb⟩ := hit_yields s x y
  obtain ⟨s', hyields, hs'⟩ := h.hover_yields b
  exact ⟨_, s', .bind hb (.bind hyields (.pure _)), hs'⟩

/-! ## Frames -/

/-- A frame takes every box on, tells each one that arrives once, and mends the pins. -/
theorem Sound.tick (h : s.Sound stage) (dt : Duration) :
    ∃ settled s', (s.tick dt).Yields (settled, s') ∧
      s'.Sound (fun id => (stage id).frame s.span dt.nanos) ∧ SameTree s s' ∧
      s'.board.lights = s.board.lights ∧ s'.Follows ∧
      ∀ b, settled.count (s.board.tree.nameOf b) =
        ((stage (s.board.tree.nameOf b)).arrives s.span dt.nanos).toNat := by
  obtain ⟨done, q, active, hyields, hsteady, hfollows, hlit, hnodup, hdone⟩ := h.steady.tick dt
  rw [h.span_eq] at hsteady
  refine ⟨done, _, .bind hyields (.pure _), ⟨h.tidy, hsteady, h.hovered, h.duration, h.built⟩,
    ⟨rfl, rfl, rfl⟩, Board.lights_withPins hlit, fun _ x => hfollows x, fun b => ?_⟩
  rw [hnodup.count, ← h.span_eq]
  simp only [hdone b]
  cases (stage (s.board.tree.nameOf b)).arrives s.animator.span dt.nanos <;> rfl

/-- Frames are run until nothing moves or the fuel is used up. -/
theorem Sound.settleWithin (h : s.Sound stage) (frame : Duration) (fuel before : Nat) :
    ∃ n s', (Session.settleWithin frame fuel before s).Yields (before + n, s') ∧
      s'.Sound (fun id => (stage id).after s.span (.replicate n (.frame frame.nanos))) ∧
      SameTree s s' ∧ s'.board.lights = s.board.lights ∧ (n = 0 ∧ s' = s ∨ s'.Follows) ∧
      (s'.isSettled = true ∨ n = fuel) := by
  induction fuel generalizing s stage before with
  | zero => exact ⟨0, s, .pure _, h, .refl s, rfl, .inl ⟨rfl, rfl⟩, .inr rfl⟩
  | succ fuel ih =>
    rw [Session.settleWithin]
    by_cases hidle : s.animator.isIdle = true
    · rw [if_pos hidle]
      exact ⟨0, s, .pure _, h, .refl s, rfl, .inl ⟨rfl, rfl⟩, .inl hidle⟩
    · rw [if_neg hidle]
      obtain ⟨settled, s₁, hyields, hsound, hsame, hlights, hfollows, -⟩ := h.tick frame
      obtain ⟨n, s', hyields', hsound', hsame', hlights', hfollows', hend⟩ := ih hsound (before + 1)
      rw [hsame.span] at hsound'
      rw [Nat.add_right_comm] at hyields'
      refine ⟨n + 1, s', .bind hyields hyields', hsound', hsame.trans hsame', hlights'.trans hlights,
        .inr ?_, hend.imp_right (congrArg (· + 1))⟩
      rcases hfollows' with ⟨-, rfl⟩ | hfollows'
      · exact hfollows
      · exact hfollows'

/-- After frames in one go all fragments follow; a box may still be on its way if the greatest
number of frames has been run. -/
theorem Sound.settle (h : s.Sound stage) (frame : Duration) :
    ∃ n s', (s.settle frame).Yields (n, s') ∧
      s'.Sound ((Moment.ranFrames frame n).advance s.span stage) ∧ SameTree s s' ∧
      s'.board.lights = s.board.lights ∧ s'.Follows ∧
      (s'.isSettled = true ∨ n = maxFrames) := by
  obtain ⟨n, s', hyields, hsound, hsame, hlights, hfollows, hend⟩ :=
    h.settleWithin (frame.greatest .millisecond) maxFrames 0
  rw [Nat.zero_add] at hyields
  refine ⟨n, s', hyields, ?_, hsame, hlights, ?_, hend⟩
  · rwa [Moment.advance_ranFrames]
  · rcases hfollows with ⟨rfl, rfl⟩ | hfollows
    · have hidle := hend.resolve_right (by decide)
      exact fun _ => h.steady.follows_of_isIdle hidle
    · exact hfollows

/-! ## Questions -/

theorem Sound.state (h : s.Sound stage) (b : s.board.tree.Box) :
    (s.state (s.board.tree.nameOf b)).Yields (.ok (stage (s.board.tree.nameOf b)).state) :=
  .bind (check_nameOf_yields s b) (.bind (Run.check_yields (h.steady.stateOf b)) (.pure _))

end Session

end ParseBoxes
