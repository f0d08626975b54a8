import ParseBoxes.Proofs.Animation.Easing
import ParseBoxes.Proofs.Animation.Steady
import ParseBoxes.Proofs.Layout.Agreement

/-!
# One box on its way

While no other box moves, a box on its way takes the board from one state of rest to another
(`Animator.Alone`).  How large the box is in the end is told by the pins at rest (`Pins.atRest`); the
size that a toggle heads for is the same, but that an expansion does not look at the label
(`width_atRest`, `height_atRest`).
-/

namespace ParseBoxes

variable {α : Type} [Scalar α] {t : BoxTree} {ht : t.Tidy} {measure : Measurer α} {b : t.Box}

/-! ## Boards at rest -/

/-- The pins of a board at rest on which these boxes are collapsed. -/
def Pins.atRest (ht : t.Tidy) (measure : Measurer α) (down : t.Box → Bool) : Pins α t where
  boxes := .ofFn fun c => { hidden := down c, minWidth := some (ht.textWidth measure c) }
  pieces := .replicate _ {}

@[simp]
theorem Pins.box_atRest (ht : t.Tidy) (measure : Measurer α) (down : t.Box → Bool) (c : t.Box) :
    (Pins.atRest ht measure down).box c =
      { hidden := down c, minWidth := some (ht.textWidth measure c) } := by
  simp [Pins.atRest, Pins.box]

namespace Layout

omit [Scalar α] in
theorem Agree.of_box {p q : Pins α t} (h : ∀ c, p.box c = q.box c) (measure : Measurer α)
    (b : t.Box) :
    Agree (p.layout measure) (q.layout measure) b where
  measure := rfl
  pins c _ := .of_box (h c) measure

omit [Scalar α] in
/-- A box that is taken out with its children shown is as if it had been expanded. -/
theorem Agree.of_detached {p q : Pins α t} (hb : q.box b = { minWidth := (p.box b).minWidth })
    (hothers : ∀ c ≠ b, p.box c = q.box c) :
    Agree ⟨p, measure, some ⟨b, false⟩⟩ (q.layout measure) b where
  measure := rfl
  pins c _ := by
    by_cases hc : c = b
    · subst hc
      constructor <;> simp [hidden, explicitWidth, pinnedHeight, isDetached, hb]
    · have hne : ¬b = c := Ne.symm hc
      constructor <;> simp [hidden, explicitWidth, pinnedHeight, isDetached, hne, hothers c hc]

end Layout

/-! ## The end of a toggle -/

namespace Animator

variable {a : Animator α} {p : Pins α t} {down : t.Box → Bool}

/-- The boxes that are collapsed after a toggle. -/
def turned (down : t.Box → Bool) (b c : t.Box) : Bool := if c = b then !down b else down c

theorem nextDirection_of_box_eq (hnone : a.find? (t.nameOf b) = none)
    (hp : p.box b = (Pins.atRest ht measure down).box b) :
    a.nextDirection p b = .fromHidden (down b) := by
  rw [nextDirection, hnone, hp, Pins.box_atRest]

theorem agree_detached (hp : ∀ c, p.box c = (Pins.atRest ht measure down).box c)
    (hdown : down b = true) :
    Layout.Agree ⟨p, measure, some ⟨b, false⟩⟩
      ((Pins.atRest ht measure (turned down b)).layout measure) b := by
  apply Layout.Agree.of_detached
  · simp [hp, turned, hdown]
  · intro c hc
    simp [hp, turned, hc]

/-- The toggle heads for the height that the box has in the end, but for its label. -/
theorem height_atRest (hnone : a.find? (t.nameOf b) = none)
    (hp : ∀ c, p.box c = (Pins.atRest ht measure down).box c) :
    ((Pins.atRest ht measure (turned down b)).layout measure).renderedHeight b =
      ((p.layout measure).labelSize b).height + (a.goal measure p b).2 := by
  have hlabel : ((Pins.atRest ht measure (turned down b)).layout measure).labelSize b =
      (p.layout measure).labelSize b := rfl
  rw [Layout.renderedHeight, Layout.childrenHeight, hlabel, goal, nextDirection_of_box_eq hnone (hp b)]
  cases hdown : down b with
  | true =>
    have hblock := (agree_detached hp hdown).childrenBlock
    simp [Layout.hidden, Layout.pinnedHeight, Layout.isDetached, turned, hdown, Direction.fromHidden,
      hblock]
  | false => simp [Layout.hidden, turned, hdown, Direction.fromHidden]

/-- In the end a box is as wide as its toggle heads for, unless its label asks for more than the
children that an expansion shows. -/
theorem width_atRest {ht : t.Tidy} {measure : Measurer ℚ} {a : Animator ℚ} {p : Pins ℚ t}
    (hnone : a.find? (t.nameOf b) = none)
    (hp : ∀ c, p.box c = (Pins.atRest ht measure down).box c) :
    ((Pins.atRest ht measure (turned down b)).layout measure).renderedWidth b =
      if a.nextDirection p b = .expand then
        max ((p.layout measure).labelSize b).width
          (max (a.goal measure p b).1 (ht.textWidth measure b))
      else max (a.goal measure p b).1 (ht.textWidth measure b) := by
  have hlabel : ((Pins.atRest ht measure (turned down b)).layout measure).labelSize b =
      (p.layout measure).labelSize b := rfl
  rw [Layout.renderedWidth_eq, hlabel, goal, nextDirection_of_box_eq hnone (hp b)]
  cases hdown : down b with
  | true =>
    have hblock := (agree_detached hp hdown).childrenBlock
    simp only [Layout.hidden, Layout.explicitWidth, Layout.isDetached, Pins.box_atRest, turned, hdown,
      Direction.fromHidden, hblock]
    exact max_assoc _ _ _
  | false =>
    simp only [Layout.hidden, Layout.explicitWidth, Layout.isDetached, Pins.box_atRest, turned, hdown,
      Direction.fromHidden]
    rfl

/-! ## On the way -/

/-- No box moves but this one, and these boxes are collapsed or on their way there. -/
structure Alone (ht : t.Tidy) (measure : Measurer α) (b : t.Box) (down : t.Box → Bool)
    (a : Animator α) (p : Pins α t) (stage : BoxId → Stage) : Prop where
  steady : a.Steady ht measure p stage
  heads : ∀ c, (stage (t.nameOf c)).headsDown = down c
  others : ∀ c ≠ b, (stage (t.nameOf c)).isMoving = false

namespace Alone

variable {stage : BoxId → Stage}

/-- Nothing moves just if the box that was toggled does not. -/
theorem isIdle_iff (h : Alone ht measure b down a p stage) :
    a.isIdle = true ↔ a.find? (t.nameOf b) = none := by
  have hb : (stage (t.nameOf b)).isMoving = false ↔ a.find? (t.nameOf b) = none := by
    rw [← Bool.not_eq_true, h.steady.isMoving_iff, ← Option.ne_none_iff_exists', not_not]
  rw [h.steady.isIdle_iff, ← hb]
  constructor
  · intro hall
    exact hall b
  · intro hrest c
    by_cases hc : c = b
    · rw [hc, hrest]
    · exact h.others c hc

theorem box_eq_atRest (h : Alone ht measure b down a p stage)
    (hnone : a.find? (t.nameOf b) = none) (c : t.Box) :
    p.box c = (Pins.atRest ht measure down).box c := by
  rw [Pins.box_atRest, ← h.heads c]
  exact h.steady.box_of_isIdle (h.isIdle_iff.2 hnone) c

/-- A toggle on a board at rest. -/
theorem toggle (h : a.Steady ht measure p stage) (hidle : a.isIdle = true) (b : t.Box) :
    ∃ q active, (a.toggle measure p (t.nameOf b)).Yields
        (a.nextDirection p b, q, { a with active := active }) ∧
      Alone ht measure b (turned (fun c => (stage (t.nameOf c)).headsDown) b)
        { a with active := active } q
        (fun id => if id = t.nameOf b then (stage id).toggle else stage id) ∧
      find? { a with active := active } (t.nameOf b) = some (a.started measure p b
        (Scalar.max (a.goal measure p b).1 (ht.textWidth measure b)) (a.goal measure p b).2) := by
  obtain ⟨q, active, hyields, hsteady, -, hfind⟩ := h.toggle b
  refine ⟨q, active, hyields, ⟨hsteady, fun c => ?_, fun c hc => ?_⟩, hfind⟩
  · by_cases hc : c = b
    · subst hc
      simp [turned, Stage.headsDown_toggle]
    · simp [turned, hc]
  · simpa [hc] using h.isIdle_iff.1 hidle c

theorem tick (h : Alone ht measure b down a p stage) (dt : Duration) :
    ∃ done q active, (a.tick measure p dt).Yields (done, q, { a with active := active }) ∧
      Alone ht measure b down { a with active := active } q
        (fun id => (stage id).frame a.span dt.nanos) ∧
      find? { a with active := active } (t.nameOf b) =
        (a.find? (t.nameOf b)).bind fun tr =>
          if isDone (tr.next dt) then none else some (tr.next dt) := by
  obtain ⟨l, hl⟩ := h.steady.filed
  obtain ⟨done, q, active, hyields, hsteady, -⟩ := h.steady.tick dt
  obtain ⟨r, hyields', -⟩ := h.steady.frame_yields hl dt
  have heq := hyields.unique hyields'
  refine ⟨done, q, active, hyields, ⟨hsteady, fun c => ?_, fun c hc => ?_⟩, ?_⟩
  · rw [Stage.headsDown_frame, h.heads]
  · rw [Stage.frame_of_not_isMoving (Bool.eq_false_iff.1 (h.others c hc))]
    exact h.others c hc
  · rw [(Prod.mk.inj (Prod.mk.inj heq).2).2]
    exact hl.find?_afterFrame dt b

end Alone

end Animator

end ParseBoxes
