import ParseBoxes.Proofs.Session.Runs
import ParseBoxes.Session.Canvas
import Mathlib.Algebra.Group.Nat.Defs

/-!
# Refused operations

An operation that is refused leaves the session as it was (`Run.RefusedIn`).  It is said which
operations are refused and why.  A name of another generation is stale, a name of the present
generation beyond the end of the boxes is unknown, and nothing else can be wrong with a name
(`Session.Refuses`).  Every new board takes the next generation, so names of earlier boards are stale
until the generations come round again.
-/

namespace ParseBoxes

variable {α : Type}

/-- How many boards have been built. -/
def History.rebuilds (h : History) : Nat := h.countP (·.isRebuild)

theorem History.rebuilds_concat (h : History) (m : Moment) :
    rebuilds (h ++ [m]) = h.rebuilds + if m.isRebuild then 1 else 0 := by
  rw [rebuilds, List.countP_append, List.countP_singleton]
  rfl

/-- A counter of 32 bits does not come back in fewer steps than it has values. -/
theorem add_ofNat_ne_self (g : UInt32) {n : Nat} (hpos : 0 < n) (hlt : n < 2 ^ 32) :
    g + UInt32.ofNat n ≠ g := by
  intro h
  have hzero : UInt32.ofNat n = 0 := by simpa using h
  have hnat : (UInt32.ofNat n).toNat = 0 := congrArg UInt32.toNat hzero
  rw [UInt32.toNat_ofNat', Nat.mod_eq_of_lt hlt] at hnat
  omega

namespace Run

variable {ε β : Type} {op : Run α (Except ε β × Session α)} {reasons : ε → Prop} {s s' : Session α}

/-- An operation comes to its end.  It is refused for just these reasons, and then leaves the session
in this state. -/
def RefusedIn (s : Session α) (op : Run α (Except ε β × Session α)) (reasons : ε → Prop) : Prop :=
  ∃ answer s', op.Yields (answer, s') ∧ (∀ e, answer = .error e ↔ reasons e) ∧
    ∀ e, answer = .error e → s' = s

theorem RefusedIn.of_ok {b : β} (h : op.Yields (.ok b, s')) (hno : ∀ e, ¬reasons e) :
    RefusedIn s op reasons := by
  refine ⟨.ok b, s', h, fun e => ⟨fun he => ?_, fun he => absurd he (hno e)⟩, fun e he => ?_⟩
  · cases he
  · cases he

/-- What fails for the one reason that there is, and leaves the session as it was, is refused. -/
theorem RefusedIn.of_error {e : ε} (h : op.Yields (.error e, s)) (he : ∀ e', reasons e' ↔ e = e') :
    RefusedIn s op reasons := by
  refine ⟨.error e, s, h, fun e' => ?_, fun _ _ => rfl⟩
  rw [Except.error.injEq]
  exact (he e').symm

end Run

namespace Session

open Run

/-! ## Names -/

/-- What is wrong with a name. -/
def Refuses (s : Session α) (id : BoxId) (e : SessionError) : Prop :=
  e = .staleBox id ∧ id.generation ≠ s.board.tree.generation ∨
    e = .unknownBox id ∧ id.generation = s.board.tree.generation ∧
      s.board.tree.boxes.size ≤ id.index

variable {s s' : Session α}

theorem not_refuses_nameOf (b : s.board.tree.Box) (e : SessionError) :
    ¬s.Refuses (s.board.tree.nameOf b) e := by
  rintro (⟨-, hne⟩ | ⟨-, -, hle⟩)
  · exact hne rfl
  · exact Nat.not_lt.2 hle b.2

/-- A name is that of a box, or it is refused for the one thing that is wrong with it. -/
theorem check_yields_refusal (s : Session α) (id : BoxId) :
    (∃ b, s.board.tree.nameOf b = id) ∨
      ∃ e, (s.check id).Yields (.error e) ∧ ∀ e', s.Refuses id e' ↔ e = e' := by
  by_cases hgen : id.generation = s.board.tree.generation
  · by_cases hlt : id.index < s.board.tree.boxes.size
    · exact .inl ⟨⟨id.index, hlt⟩, by rw [BoxTree.nameOf, ← hgen]⟩
    · refine .inr ⟨.unknownBox id, ?_, fun e' => ?_⟩
      · unfold Session.check BoxTree.locate
        simp only [hgen, hlt, ↓reduceIte, ↓reduceDIte]
        exact .pure _
      · simp [Refuses, hgen, Nat.le_of_not_lt hlt, eq_comm]
  · refine .inr ⟨.staleBox id, ?_, fun e' => ?_⟩
    · unfold Session.check BoxTree.locate
      simp only [hgen, ↓reduceIte]
      exact .bind (note_yields _) (.pure _)
    · simp [Refuses, hgen, eq_comm]

variable [Scalar α] {stage : BoxId → Stage} {h : History}

/-- The generation tells how many boards have been built, up to its range. -/
theorem Leads.generation (run : Leads s stage h s') :
    s'.board.tree.generation = s.board.tree.generation + UInt32.ofNat h.rebuilds := by
  induction run with
  | nil => exact (UInt32.add_zero _).symm
  | @snoc h s₁ s₂ m run step ih =>
    rw [History.rebuilds_concat]
    cases hm : m.isRebuild with
    | true =>
      rw [step.generation hm, ih, UInt32.add_assoc, if_pos rfl, UInt32.ofNat_add]
      rfl
    | false =>
      rw [step.tree hm, ih]
      rfl

/-- A name of an earlier board is stale until the generations have come round. -/
theorem Leads.refuses_iff (run : Leads s stage h s') {id : BoxId}
    (hid : s.board.tree.contains id = true) (hpos : 0 < h.rebuilds) (hlt : h.rebuilds < 2 ^ 32)
    (e : SessionError) : s'.Refuses id e ↔ e = .staleBox id := by
  obtain ⟨b, rfl⟩ := BoxTree.contains_iff.1 hid
  have hne : s.board.tree.generation ≠ s'.board.tree.generation := by
    rw [run.generation]
    exact (add_ofNat_ne_self _ hpos hlt).symm
  constructor
  · rintro (⟨he, -⟩ | ⟨-, heq, -⟩)
    · exact he
    · exact absurd heq hne
  · exact fun he => .inl ⟨he, hne⟩

/-! ## Operations -/

theorem Sound.click_refusedIn (hs : s.Sound stage) (id : BoxId) :
    RefusedIn s (s.click id) (s.Refuses id) := by
  rcases check_yields_refusal s id with ⟨b, rfl⟩ | ⟨e, hcheck, he⟩
  · obtain ⟨d, s', hyields, -⟩ := hs.toggle b
    exact .of_ok (.bind (check_nameOf_yields s b) (.bind hyields (.pure _))) (not_refuses_nameOf b)
  · exact .of_error (.bind hcheck (.pure _)) he

theorem Sound.hover_refusedIn (hs : s.Sound stage) (id : BoxId) :
    RefusedIn s (s.hover (some id)) (s.Refuses id) := by
  rcases check_yields_refusal s id with ⟨b, rfl⟩ | ⟨e, hcheck, he⟩
  · obtain ⟨s', hyields, -⟩ := hs.hover_yields (some b)
    exact .of_ok hyields (not_refuses_nameOf b)
  · exact .of_error (.bind hcheck (.pure _)) he

theorem Sound.state_refused (hs : s.Sound stage) (id : BoxId) :
    ∃ answer, (s.state id).Yields answer ∧ ∀ e, answer = .error e ↔ s.Refuses id e := by
  rcases check_yields_refusal s id with ⟨b, rfl⟩ | ⟨e, hcheck, he⟩
  · refine ⟨_, hs.state b, fun e => ⟨fun h => ?_, fun h => absurd h (not_refuses_nameOf b e)⟩⟩
    cases h
  · refine ⟨.error e, .bind hcheck (.pure _), fun e' => ?_⟩
    rw [Except.error.injEq]
    exact (he e').symm

theorem Sound.refresh_refusedIn (hs : s.Sound stage) (engine : Engine)
    (grammar input start : String) :
    RefusedIn { s with registry := (engine.run s.pristine grammar input start).2 }
      (s.refresh engine grammar input start) fun e =>
        ∃ reason, e = .engine (.failed reason) ∧
          (engine.run s.pristine grammar input start).1 = .error (.failed reason) := by
  let s₁ : Session α := { s with registry := (engine.run s.pristine grammar input start).2 }
  have hs₁ : s₁.Sound stage := ⟨hs.tidy, hs.steady, hs.hovered, hs.duration, hs.built⟩
  have hrebuilt : ∀ result,
      Engine.extract (engine.run s.pristine grammar input start).1 = .ok result →
        ∃ s', (s.refresh engine grammar input start).Yields (.ok result.1, s') := by
    intro result hextract
    obtain ⟨s', hyields, -⟩ := hs₁.rebuild result.2 result.1
    refine ⟨s', .bind (note_yields _) ?_⟩
    simp only [hextract]
    exact .bind hyields (.pure _)
  cases hanswer : (engine.run s.pristine grammar input start).1 with
  | ok trace =>
    obtain ⟨s', hyields⟩ := hrebuilt (.success, trace) (by rw [hanswer]; rfl)
    exact .of_ok hyields (by simp)
  | error e =>
    cases e with
    | matchFailure trace =>
      obtain ⟨s', hyields⟩ := hrebuilt (.failure, trace) (by rw [hanswer]; rfl)
      exact .of_ok hyields (by simp)
    | failed reason =>
      refine .of_error (e := .engine (.failed reason)) (.bind (note_yields _) ?_) fun e => ?_
      · simp only [hanswer, Engine.extract]
        exact .bind (note_yields _) (.pure _)
      · simp [eq_comm]

theorem Sound.togglePath_refusedIn (hs : s.Sound stage) (path : List Nat) :
    RefusedIn s (Canvas.togglePath s path) fun e => e = .noSuchPath path ∧ s.boxAt path = none := by
  unfold Canvas.togglePath
  cases hpath : s.boxAt path with
  | none =>
    refine .of_error (.pure _) fun e => ?_
    simp [eq_comm]
  | some id =>
    obtain ⟨b, -, rfl⟩ := Option.map_eq_some_iff.1 hpath
    obtain ⟨d, s', hyields, -⟩ := hs.toggle b
    refine .of_ok (.bind (.bind (check_nameOf_yields s b) (.bind hyields (.pure _))) (.pure _)) ?_
    simp

theorem Sound.loadText_refusedIn (hs : s.Sound stage) (text : String) :
    RefusedIn s (Canvas.loadText s text) fun e =>
      e = .malformedTrace ∧ TraceDocument.parse? text = none := by
  unfold Canvas.loadText
  cases hparse : TraceDocument.parse? text with
  | none =>
    refine .of_error (.pure _) fun e => ?_
    simp [eq_comm]
  | some d =>
    obtain ⟨s', hyields, -⟩ := hs.rebuild d.nodes d.outcome
    refine .of_ok (.bind hyields (.pure _)) ?_
    simp

/-- **Refused operations change nothing.**  After any events an operation on a session is refused for
just these reasons, and then leaves the session as it is: a click on, a hover over and a question for
the state of a box, for what is wrong with its name; a click on a path that leads to no box; a text
that is no trace document.  A refresh is refused if the engine fails, and then changes no more than
the registry, to what the engine has made of the pristine one.  All names of boards shown before are
stale, unless all generations have been used since. -/
theorem refused_operations_change_nothing (measure : Measurer α) (config : Config α)
    (registry : GrammarRegistry) (es es' : List (Event α)) :
    ∃ h s h' s', ((begin measure config registry).performAll es).Yields (h, s) ∧
      (s.performAll es').Yields (h', s') ∧
      (∀ id, RefusedIn s' (s'.click id) (s'.Refuses id) ∧
        RefusedIn s' (s'.hover (some id)) (s'.Refuses id) ∧
        ∃ answer, (s'.state id).Yields answer ∧ ∀ e, answer = .error e ↔ s'.Refuses id e) ∧
      (∀ path, RefusedIn s' (Canvas.togglePath s' path) fun e =>
        e = .noSuchPath path ∧ s'.boxAt path = none) ∧
      (∀ text, RefusedIn s' (Canvas.loadText s' text) fun e =>
        e = .malformedTrace ∧ TraceDocument.parse? text = none) ∧
      (∀ engine grammar input start,
        RefusedIn { s' with registry := (engine.run s'.pristine grammar input start).2 }
          (s'.refresh engine grammar input start) fun e =>
            ∃ reason, e = .engine (.failed reason) ∧
              (engine.run s'.pristine grammar input start).1 = .error (.failed reason)) ∧
      ∀ id, s.board.tree.contains id = true → 0 < h'.rebuilds → h'.rebuilds < 2 ^ 32 →
        ∀ e, s'.Refuses id e ↔ e = .staleBox id := by
  have hbegin := sound_begin measure config registry
  obtain ⟨h, s, hyields, run⟩ := hbegin.performAll es
  have hs := run.sound hbegin
  obtain ⟨h', s', hyields', run'⟩ := hs.performAll es'
  have hs' := run'.sound hs
  exact ⟨h, s, h', s', hyields, hyields',
    fun id => ⟨hs'.click_refusedIn id, hs'.hover_refusedIn id, hs'.state_refused id⟩,
    hs'.togglePath_refusedIn, hs'.loadText_refusedIn, hs'.refresh_refusedIn,
    fun id hid hpos hlt e => run'.refuses_iff hid hpos hlt e⟩

end Session

end ParseBoxes
