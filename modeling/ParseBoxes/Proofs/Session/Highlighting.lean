import ParseBoxes.Proofs.Session.Basis
import ParseBoxes.Session.Canvas

/-!
# One highlight

The highlight is kept twice: the fragments of the board have flags, and the session knows the hovered
box.  The two agree at all times (`Session.Lit`), since only a hover writes either, and it takes the
old flag away before it sets the new one.  What else happens keeps the flags and the hovered box
(`Lit.congr`) or shows a new board without both.
-/

namespace ParseBoxes

variable {α : Type}

open Run

namespace Board

/-- The highlighted fragments, in order. -/
def litPieces (b : Board α) : List b.tree.Piece :=
  b.tree.fragments.nodes.filter fun p => (b.pins.piece p).highlighted

theorem lights_eq (b : Board α) :
    b.lights = b.tree.fragments.nodes.map fun p => (b.pins.piece p).highlighted := by
  refine List.ext_getElem (by simp [lights, Forest.nodes]) fun i _ _ => ?_
  simp [lights, Forest.nodes, Pins.piece]

end Board

namespace BoxTree

/-- The fragment that is to be highlighted while a box is hovered. -/
def litPiece? (t : BoxTree) (hovered : Option BoxId) : Option t.Piece :=
  hovered.bind fun id => (Session.inputOf t id).toOption

def isLit (t : BoxTree) (hovered : Option BoxId) (p : t.Piece) : Bool :=
  t.litPiece? hovered = some p

theorem isLit_none (t : BoxTree) (p : t.Piece) : t.isLit none p = false := rfl

/-- The fragment of the box under the pointer is lit, and no other one. -/
theorem isLit_some {t : BoxTree} {id : BoxId} {q : t.Piece} (h : Session.inputOf t id = .ok q)
    (p : t.Piece) : t.isLit (some id) p = decide (q = p) := by
  simp [isLit, litPiece?, h, Except.toOption]

end BoxTree

namespace Session

/-- Just the fragment of the hovered box is highlighted. -/
def Lit (s : Session α) : Prop :=
  ∀ p, (s.board.pins.piece p).highlighted = s.board.tree.isLit s.hovered p

variable {s s' : Session α}

theorem lit_iff :
    s.Lit ↔ s.board.lights = s.board.tree.fragments.nodes.map (s.board.tree.isLit s.hovered) := by
  rw [Board.lights_eq, List.map_inj_left]
  exact ⟨fun h p _ => h p, fun h p => h p (List.mem_finRange p)⟩

/-- What keeps the tree, the flags and the hovered box keeps the highlight. -/
theorem Lit.congr (h : s.Lit) (hsame : SameTree s s') (hlights : s'.board.lights = s.board.lights)
    (hhovered : s'.hovered = s.hovered) : s'.Lit := by
  rw [lit_iff] at h ⊢
  rw [hlights, hhovered, hsame.tree]
  exact h

/-- All may be dark where the pointer is on no box. -/
theorem Lit.of_dark (hdark : ∀ p, (s.board.pins.piece p).highlighted = false)
    (hhovered : s.hovered = none) : s.Lit := by
  intro p
  rw [hdark, hhovered, BoxTree.isLit_none]

theorem Lit.litPieces_of_none (h : s.Lit) (hhovered : s.hovered = none) :
    s.board.litPieces = [] := by
  refine List.filter_eq_nil_iff.2 fun p _ => ?_
  rw [h p, hhovered, BoxTree.isLit_none]
  exact Bool.false_ne_true

/-- Just the fragment of the box under the pointer is lit. -/
theorem Lit.litPieces_of_some (h : s.Lit) {id : BoxId} {q : s.board.tree.Piece}
    (hhovered : s.hovered = some id) (hq : inputOf s.board.tree id = .ok q) :
    s.board.litPieces = [q] := by
  have hflag : ∀ p, (s.board.pins.piece p).highlighted = decide (p = q) := by
    intro p
    rw [h p, hhovered, BoxTree.isLit_some hq]
    exact decide_eq_decide.2 eq_comm
  have hcount : s.board.tree.fragments.nodes.count q = 1 :=
    List.count_eq_one_of_mem (List.nodup_finRange _) (List.mem_finRange q)
  unfold Board.litPieces
  simp only [hflag]
  rw [List.filter_eq, hcount]
  rfl

/-! ## Hovering -/

/-- The highlight is taken away from the hovered box, whatever is done next. -/
theorem Lit.unhighlight_ensures {β : Type} (h : s.Lit) {next : Session α → Run α β} {P : β → Prop}
    (hnext : ∀ pins, (∀ p, (pins.piece p).highlighted = false) → (next (s.withPins pins)).Ensures P) :
    (match s.hovered with
      | none => Pure.pure s >>= next
      | some previous => Run.check (s.highlight previous false) >>= next).Ensures P := by
  cases hprevious : s.hovered with
  | none =>
    refine .pure_bind (hnext s.board.pins fun p => ?_)
    rw [h p, hprevious]
    rfl
  | some previous =>
    refine .bind (P := fun s' => ∃ pins, s' = s.withPins pins ∧
      ∀ p, (pins.piece p).highlighted = false) ?_ fun s' hs' => ?_
    · unfold Session.highlight
      cases hinput : inputOf s.board.tree previous with
      | error fault => intro j s' j' hrun; cases hrun
      | ok q =>
        intro j s' j' hrun
        cases hrun
        refine ⟨_, rfl, fun p => ?_⟩
        rw [Pins.piece_modifyPiece]
        split
        · rfl
        · next hne =>
          rw [h p, hprevious, BoxTree.isLit_some hinput]
          exact decide_eq_false hne
    · obtain ⟨pins, rfl, hdark⟩ := hs'
      exact hnext pins hdark

/-- On a board without highlight the fragment of a box is highlighted. -/
theorem highlight_ensures_lit {pins : Pins α s.board.tree}
    (hdark : ∀ p, (pins.piece p).highlighted = false) (id : BoxId) :
    (Run.check ((s.withPins pins).highlight id true) : Run α (Session α)).Ensures fun s' =>
      Lit { s' with hovered := some id } := by
  unfold Session.highlight
  cases hinput : inputOf s.board.tree id with
  | error fault =>
    have hfault : inputOf (s.withPins pins).board.tree id = .error fault := hinput
    rw [hfault]
    intro j s' j' hrun
    cases hrun
  | ok q =>
    have hok : inputOf (s.withPins pins).board.tree id = .ok q := hinput
    have hlit : ∀ p, ((pins.modifyPiece q ({ · with highlighted := true })).piece p).highlighted =
        s.board.tree.isLit (some id) p := by
      intro p
      rw [Pins.piece_modifyPiece, BoxTree.isLit_some hinput]
      split
      · next heq => exact (decide_eq_true heq).symm
      · next hne => rw [hdark, decide_eq_false hne]
    rw [hok]
    intro j s' j' hrun
    cases hrun
    exact hlit

/-- The pointer takes the light along, wherever it goes. -/
theorem Lit.hover_ensures (h : s.Lit) (id : Option BoxId) :
    (s.hover id).Ensures fun r => r.2.Lit := by
  unfold Session.hover
  cases id with
  | none =>
    refine .pure_bind (h.unhighlight_ensures fun pins hdark => .pure_bind (.pure ?_))
    exact .of_dark hdark rfl
  | some id =>
    refine .after fun checked => ?_
    cases checked with
    | error e => exact .pure_bind (.pure h)
    | ok b =>
      refine .pure_bind (h.unhighlight_ensures fun pins hdark => ?_)
      exact .bind (highlight_ensures_lit hdark id) fun s' hs' => .pure hs'

/-! ## All else -/

section

variable [Scalar α]

theorem toggle_ensures_hovered (s : Session α) (id : BoxId) :
    (s.toggle id).Ensures fun r => r.2.hovered = s.hovered :=
  .after fun _ => .pure rfl

theorem click_ensures_hovered (s : Session α) (id : BoxId) :
    (s.click id).Ensures fun r => r.2.hovered = s.hovered := by
  unfold Session.click
  refine .after fun checked => ?_
  cases checked with
  | error e => exact .pure rfl
  | ok b => exact .bind (s.toggle_ensures_hovered id) fun r hr => .pure hr

theorem clickAt_ensures_hovered (s : Session α) (x y : α) :
    (s.clickAt x y).Ensures fun r => r.2.hovered = s.hovered := by
  unfold Session.clickAt
  refine .after fun hit => ?_
  cases hit with
  | none => exact .pure rfl
  | some id => exact .bind (s.toggle_ensures_hovered id) fun r hr => .pure hr

theorem tick_ensures_hovered (s : Session α) (dt : Duration) :
    (s.tick dt).Ensures fun r => r.2.hovered = s.hovered :=
  .after fun _ => .pure rfl

theorem settleWithin_ensures_hovered (frame : Duration) (fuel frames : Nat) (s : Session α) :
    (settleWithin frame fuel frames s).Ensures fun r => r.2.hovered = s.hovered := by
  induction fuel generalizing frames s with
  | zero => exact .pure rfl
  | succ fuel ih =>
    rw [settleWithin]
    split
    · exact .pure rfl
    · refine .bind (s.tick_ensures_hovered frame) fun r hr => ?_
      intro j r' j' hrun
      exact (ih (frames + 1) r.2 j r' j' hrun).trans hr

/-- An operation comes to its end and leaves a session whose highlight is on the hovered box. -/
def EndsLit {β : Type} (op : Run α (β × Session α)) : Prop :=
  ∃ answer s' stage, op.Yields (answer, s') ∧ s'.Sound stage ∧ s'.Lit

theorem EndsLit.map {β γ : Type} {op : Run α (β × Session α)} (h : EndsLit op) (f : β → γ) :
    EndsLit (op >>= fun r => Pure.pure (f r.1, r.2)) := by
  obtain ⟨answer, s', stage, hyields, h⟩ := h
  exact ⟨f answer, s', stage, .bind hyields (.pure _), h⟩

variable {stage : BoxId → Stage}

/-- On a new tree nothing is lit, as the pointer is on none of its boxes. -/
theorem rebuild_yields_lit (hs : s.Sound stage) (trace : List TraceNode) (outcome : MatchOutcome) :
    ∃ s' stage', (s.rebuild trace outcome).Yields s' ∧ s'.Sound stage' ∧ s'.Lit := by
  obtain ⟨s', hyields, hsound, -⟩ := hs.rebuild trace outcome
  obtain ⟨p, hyields', hest⟩ := s.rebuild_yields trace outcome
  cases hyields.unique hyields'
  exact ⟨_, _, hyields, hsound, .of_dark hest.unlit rfl⟩

namespace Lit

variable (hl : s.Lit) (hs : s.Sound stage)

include hl hs

/-- A refresh ends lit: with a new tree, or with the session as it was. -/
theorem refresh (engine : Engine) (grammar input start : String) :
    EndsLit (s.refresh engine grammar input start) := by
  let s₁ : Session α := { s with registry := (engine.run s.pristine grammar input start).2 }
  have hs₁ : s₁.Sound stage := ⟨hs.tidy, hs.steady, hs.hovered, hs.duration, hs.built⟩
  have hl₁ : s₁.Lit := hl
  cases hextract : Engine.extract (engine.run s.pristine grammar input start).1 with
  | ok result =>
    obtain ⟨s', stage', hyields, hsound, hlit⟩ := rebuild_yields_lit hs₁ result.2 result.1
    refine ⟨.ok result.1, s', stage', .bind (note_yields _) ?_, hsound, hlit⟩
    simp only [hextract]
    exact .bind hyields (.pure _)
  | error e =>
    refine ⟨.error (.engine e), s₁, stage, .bind (note_yields _) ?_, hs₁, hl₁⟩
    simp only [hextract]
    exact .bind (note_yields _) (.pure _)

theorem click (id : BoxId) : EndsLit (s.click id) := by
  obtain ⟨answer, s', hyields, hsound, hsame, hlights⟩ := hs.click id
  exact ⟨answer, s', _, hyields, hsound,
    hl.congr hsame hlights ((s.click_ensures_hovered id).of_yields hyields)⟩

theorem clickAt (x y : α) : EndsLit (s.clickAt x y) := by
  obtain ⟨answer, s', hyields, hsound, hsame, hlights⟩ := hs.clickAt x y
  exact ⟨answer, s', _, hyields, hsound,
    hl.congr hsame hlights ((s.clickAt_ensures_hovered x y).of_yields hyields)⟩

theorem hover (id : Option BoxId) : EndsLit (s.hover id) := by
  obtain ⟨answer, s', hyields, hsound, -⟩ := hs.hover id
  exact ⟨answer, s', _, hyields, hsound, (hl.hover_ensures id).of_yields hyields⟩

theorem hoverAt (x y : α) : EndsLit (s.hoverAt x y) := by
  obtain ⟨b, hb⟩ := hit_yields s x y
  obtain ⟨answer, s', stage', hyields, hs'⟩ := hl.hover hs (b.map s.board.tree.nameOf)
  exact ⟨_, s', stage', .bind hb (.bind hyields (.pure _)), hs'⟩

theorem tick (dt : Duration) : EndsLit (s.tick dt) := by
  obtain ⟨settled, s', hyields, hsound, hsame, hlights, -⟩ := hs.tick dt
  exact ⟨settled, s', _, hyields, hsound,
    hl.congr hsame hlights ((s.tick_ensures_hovered dt).of_yields hyields)⟩

theorem settle (frame : Duration) : EndsLit (s.settle frame) := by
  obtain ⟨n, s', hyields, hsound, hsame, hlights, -⟩ := hs.settle frame
  exact ⟨n, s', _, hyields, hsound,
    hl.congr hsame hlights ((settleWithin_ensures_hovered _ _ _ s).of_yields hyields)⟩

theorem gesture (g : Gesture α) : EndsLit (s.gesture g) := by
  cases g with
  | click id => exact (hl.click hs id).map (Moment.clicked id)
  | clickAt x y => exact (hl.clickAt hs x y).map Moment.clickedAt
  | hover id => exact (hl.hover hs id).map Moment.hovered
  | hoverAt x y => exact (hl.hoverAt hs x y).map Moment.hoveredAt
  | tick dt => exact (hl.tick hs dt).map (Moment.ticked dt)
  | settle frame => exact (hl.settle hs frame).map (Moment.ranFrames frame)

theorem perform (e : Event α) : EndsLit (s.perform e) := by
  cases e with
  | load trace outcome =>
    obtain ⟨s', stage', hyields, h⟩ := rebuild_yields_lit hs trace outcome
    exact ⟨_, s', stage', .bind hyields (.pure _), h⟩
  | refresh engine grammar input start =>
    exact (hl.refresh hs engine grammar input start).map Moment.refreshed
  | gesture g => exact hl.gesture hs g

end Lit

end

end Session

/-! ## On a canvas -/

namespace Canvas

/-- What can happen to the session of a canvas: its own events, and what the host passes on. -/
inductive Input (α : Type) where
  | event (e : Event α)
  | loadText (text : String)
  | pointerDown (x y : α)
  | pointerMove (x y : α)
  | pointerLeave
  | togglePath (path : List Nat)

variable [Scalar α]

def accept (s : Session α) : Input α → Run α (Session α)
  | .event e => do return (← s.perform e).2
  | .loadText text => do return (← loadText s text).2
  | .pointerDown x y => do return (← pointerDown s x y).2
  | .pointerMove x y => do return (← pointerMove s x y).2
  | .pointerLeave => pointerLeave s
  | .togglePath path => do return (← togglePath s path).2

open Session

variable {s : Session α} {stage : BoxId → Stage}

section

variable (hl : s.Lit) (hs : s.Sound stage)

include hl hs

theorem loadText_endsLit (text : String) : EndsLit (loadText s text) := by
  unfold Canvas.loadText
  cases TraceDocument.parse? text with
  | none => exact ⟨_, s, stage, .pure _, hs, hl⟩
  | some d =>
    obtain ⟨s', stage', hyields, h⟩ := rebuild_yields_lit hs d.nodes d.outcome
    exact ⟨_, s', stage', .bind hyields (.pure _), h⟩

theorem pointerDown_endsLit (x y : α) : EndsLit (pointerDown s x y) := by
  obtain ⟨answer, s', stage', hyields, h⟩ := hl.clickAt hs x y
  cases answer with
  | none => exact ⟨_, s', stage', .bind hyields (.pure _), h⟩
  | some clicked => exact ⟨_, s', stage', .bind hyields (.bind (note_yields _) (.pure _)), h⟩

theorem togglePath_endsLit (path : List Nat) : EndsLit (togglePath s path) := by
  unfold Canvas.togglePath
  cases s.boxAt path with
  | none => exact ⟨_, s, stage, .pure _, hs, hl⟩
  | some id => exact (hl.click hs id).map (Except.mapError CanvasError.session)

/-- Whatever a canvas takes in, a lit session stays lit. -/
theorem accept_yields_lit (i : Input α) :
    ∃ s' stage', (accept s i).Yields s' ∧ s'.Sound stage' ∧ s'.Lit := by
  have hends : ∀ {β : Type} {op : Run α (β × Session α)}, EndsLit op →
      ∃ s' stage', Yields (op >>= fun r => Pure.pure r.2) s' ∧ s'.Sound stage' ∧ s'.Lit := by
    rintro β op ⟨answer, s', stage', hyields, h⟩
    exact ⟨s', stage', .bind hyields (.pure _), h⟩
  cases i with
  | event e => exact hends (hl.perform hs e)
  | loadText text => exact hends (loadText_endsLit hl hs text)
  | pointerDown x y => exact hends (pointerDown_endsLit hl hs x y)
  | pointerMove x y => exact hends ((hl.hoverAt hs x y).map fun id => id.map BoxId.index)
  | pointerLeave => exact hends (hl.hover hs none)
  | togglePath path => exact hends (togglePath_endsLit hl hs path)

end

/-- Session by session, the highlight stays on the hovered box. -/
theorem foldlM_accept_yields_lit (hl : s.Lit) (hs : s.Sound stage) (inputs : List (Input α)) :
    ∃ s' stage', Yields (inputs.foldlM accept s) s' ∧ s'.Sound stage' ∧ s'.Lit := by
  induction inputs generalizing s stage with
  | nil => exact ⟨s, stage, .pure s, hs, hl⟩
  | cons i inputs ih =>
    obtain ⟨s₁, stage₁, hyields, hs₁, hl₁⟩ := accept_yields_lit hl hs i
    obtain ⟨s', stage', hyields', h⟩ := ih hl₁ hs₁
    refine ⟨s', stage', ?_, h⟩
    rw [List.foldlM_cons]
    exact .bind hyields hyields'

/-- **One highlight, on the input of the hovered box.**  Whatever a session has been through, by its
own events or by way of a canvas, and whether it was refused or not: while a box is hovered, it is a
box on show and just the fragment of its input is highlighted; while none is hovered, no fragment
is. -/
theorem highlight_on_hovered_input (measure : Measurer α) (config : Config α)
    (registry : GrammarRegistry) (inputs : List (Input α)) :
    ∃ s, Yields (inputs.foldlM accept (begin measure config registry)) s ∧
      (s.hovered = none → s.board.litPieces = []) ∧
      ∀ id, s.hovered = some id → ∃ b q, s.board.tree.nameOf b = id ∧
        s.board.tree.pieceName q = (s.board.tree.box b).input ∧ s.board.litPieces = [q] := by
  have hbegin : (begin measure config registry).Lit := fun p => absurd p.2 (Nat.not_lt_zero p.1)
  obtain ⟨s, stage, hyields, hs, hl⟩ :=
    foldlM_accept_yields_lit hbegin (sound_begin measure config registry) inputs
  refine ⟨s, hyields, hl.litPieces_of_none, fun id hid => ?_⟩
  obtain ⟨b, rfl⟩ := hs.hovered id hid
  exact ⟨b, hs.tidy.input b, rfl, rfl, hl.litPieces_of_some hid (inputOf_nameOf hs.tidy b)⟩

end Canvas

end ParseBoxes
