import ParseBoxes.Animation.Animator
import ParseBoxes.Proofs.Animation.Pinning

/-!
# What toggles and frames do

Each step of an animator, said as a change of the board.  A toggle changes the toggled box alone
(`toggle_yields`).  One frame of a transition changes the box it runs on, by a rule that looks at the
transition only (`Transition.carry`, `Transition.next`), and lets the fragments of the dependents
follow as long as the box is held (`Advanced`).
-/

namespace ParseBoxes

variable {α : Type} [Scalar α] {t : BoxTree}

/-- What a tween is after one frame; nothing once it has arrived. -/
def Tween.next (dt : Duration) (w : Tween α) : Option (Tween α) :=
  if (w.tick dt).isComplete then none else some (w.tick dt)

namespace Transition

def next (dt : Duration) (tr : Transition α) : Transition α :=
  { tr with width := tr.width.bind (·.next dt), height := tr.height.bind (·.next dt) }

def carryWidth (dt : Duration) (tr : Transition α) (p : BoxPins α) : BoxPins α :=
  match tr.width with
  | none => p
  | some w => { p with explicitWidth := (w.next dt).map (·.value) }

/-- One frame of the block height of a box. -/
def carryHeight (dt : Duration) (tr : Transition α) (p : BoxPins α) : BoxPins α :=
  match tr.height with
  | none => p
  | some h =>
    match h.next dt with
    | none => Animator.release tr.direction p
    | some h => { p with childrenHeight := some h.value }

/-- The pins of a box after one frame of its transition. -/
def carry (dt : Duration) (tr : Transition α) (p : BoxPins α) : BoxPins α :=
  tr.carryHeight dt (tr.carryWidth dt p)

@[simp]
theorem minWidth_carry (dt : Duration) (tr : Transition α) (p : BoxPins α) :
    (tr.carry dt p).minWidth = p.minWidth := by
  have hwidth : (tr.carryWidth dt p).minWidth = p.minWidth := by
    unfold carryWidth
    split <;> rfl
  rw [← hwidth]
  unfold carry carryHeight
  split
  · rfl
  · split <;> rfl

end Transition

namespace BoxTree.Tidy

/-- The width of the text of a box, which is the least width that the box gets. -/
def textWidth (ht : t.Tidy) (measure : Measurer α) (b : t.Box) : α :=
  (((Pins.fresh t).layout measure).inputSize (ht.input b)).width

theorem width_inputSize (ht : t.Tidy) (measure : Measurer α) (p : Pins α t) (b : t.Box) :
    ((p.layout measure).inputSize (ht.input b)).width = ht.textWidth measure b :=
  congrArg Size.width (Layout.inputSize_eq measure p (.fresh t) (ht.input b))

end BoxTree.Tidy

/-- Only a box and fragments of its dependents have changed, and these only in width. -/
structure ChangedAt (ht : t.Tidy) (b : t.Box) (p q : Pins α t) : Prop where
  box : ∀ c ≠ b, q.box c = p.box c
  outside : ∀ x ∉ t.dependents b, q.piece (ht.input x) = p.piece (ht.input x)
  bare : ∀ f, (∀ x, ht.input x ≠ f) → q.piece f = p.piece f
  lit : ∀ f, (q.piece f).highlighted = (p.piece f).highlighted

namespace ChangedAt

variable {ht : t.Tidy} {measure : Measurer α} {b : t.Box} {p q r : Pins α t}

omit [Scalar α] in
theorem refl (p : Pins α t) : ChangedAt ht b p p :=
  ⟨fun _ _ => rfl, fun _ _ => rfl, fun _ _ => rfl, fun _ => rfl⟩

omit [Scalar α] in
theorem trans (hpq : ChangedAt ht b p q) (hqr : ChangedAt ht b q r) : ChangedAt ht b p r where
  box c hc := (hqr.box c hc).trans (hpq.box c hc)
  outside x hx := (hqr.outside x hx).trans (hpq.outside x hx)
  bare f hf := (hqr.bare f hf).trans (hpq.bare f hf)
  lit f := (hqr.lit f).trans (hpq.lit f)

omit [Scalar α] in
theorem modifyBox (change : BoxPins α → BoxPins α) : ChangedAt ht b p (p.modifyBox b change) where
  box c hc := by rw [Pins.box_modifyBox, if_neg (Ne.symm hc)]
  outside _ _ := rfl
  bare _ _ := rfl
  lit _ := rfl

theorem repinned (h : Repinned ht measure (t.dependents b) p q) : ChangedAt ht b p q where
  box c _ := h.box c
  outside _ hx := h.piece_input_of_not_mem hx
  bare f hf := h.outside f fun c _ => hf c
  lit := h.lit

/-- A fragment that follows goes on following unless its box depends on the changed one. -/
theorem follows (h : ChangedAt ht b p q) {x : t.Box} (hx : x ∉ t.dependents b)
    (hp : p.Follows ht measure x) : q.Follows ht measure x := by
  unfold Pins.Follows
  rw [h.outside x hx, Layout.displayedWidth_eq_of_not_mem_dependents ht.linked
    (fun d hd => .of_eq (h.box d hd)) hx]
  exact hp

end ChangedAt

namespace Animator

open Run

variable (ht : t.Tidy) (measure : Measurer α)

/-! ## A toggle -/

/-- The transition that a toggle starts, from the present size of a box towards another one. -/
def started (a : Animator α) (p : Pins α t) (b : t.Box) (width height : α) : Transition α where
  direction := a.nextDirection p b
  dependents := (t.dependents b).map t.nameOf
  width := some (.begin ((p.layout measure).renderedWidth b) width a.duration a.easing)
  height := some (.begin ((p.layout measure).childrenHeight b) height a.duration a.easing)

/-- The board after a toggle: the box is held at its present size. -/
def held (a : Animator α) (p : Pins α t) (b : t.Box) : Pins α t :=
  p.modifyBox b (hold (a.nextDirection p b) ((p.layout measure).renderedWidth b)
    ((p.layout measure).childrenHeight b))

/-- The size that a toggle heads for: that of the children, or of the label alone. -/
def goal (a : Animator α) (p : Pins α t) (b : t.Box) : α × α :=
  match a.nextDirection p b with
  | .expand =>
    let children := (⟨p, measure, some ⟨b, false⟩⟩ : Layout α t).childrenBlock b
    (children.width, children.height)
  | .collapse => (((p.layout measure).labelSize b).width, 0)

/-- The transitions after a toggle of a box with this fragment.  The width never aims below the width
of the text. -/
def sent (a : Animator α) (p : Pins α t) (b : t.Box) (f : t.Piece) : Animator α :=
  { a with
    active := insert (t.nameOf b) (a.started measure p b
      (Scalar.max (a.goal measure p b).1 ((p.layout measure).inputSize f).width)
      (a.goal measure p b).2) a.active }

theorem box_held (a : Animator α) (p : Pins α t) (b : t.Box) :
    (a.held measure p b).box b = hold (a.nextDirection p b) ((p.layout measure).renderedWidth b)
      ((p.layout measure).childrenHeight b) (p.box b) := by
  rw [held, Pins.box_modifyBox, if_pos rfl]

theorem box_held_of_ne (a : Animator α) (p : Pins α t) {b c : t.Box} (hc : c ≠ b) :
    (a.held measure p b).box c = p.box c := by
  rw [held, Pins.box_modifyBox, if_neg (Ne.symm hc)]

/-- A toggle holds the box at its present size and starts from there. -/
theorem toggle_yields_of_locate (a : Animator α) (p : Pins α t) (b : t.Box) {f : t.Piece}
    (hf : t.locatePiece (t.box b).input = .ok f) :
    (a.toggle measure p (t.nameOf b)).Yields
      (a.nextDirection p b, a.held measure p b, a.sent measure p b f) := by
  refine .bind (check_yields (t.locate_nameOf b)) ?_
  refine .bind (Measuring.children_yields measure p b true) ?_
  refine .bind (Measuring.label_yields measure p b) ?_
  refine .bind (Measuring.input_yields_of_locate measure hf) ?_
  refine .bind (look_yields_of_answers (.bind (View.renderedWidth_answers _ b)
    (.bind (View.childrenHeight_answers _ b) (.pure _)))) ?_
  exact .bind (note_yields _) (.pure _)

theorem toggle_yields (a : Animator α) (p : Pins α t) (b : t.Box) :
    (a.toggle measure p (t.nameOf b)).Yields
      (a.nextDirection p b, a.held measure p b,
        { a with
          active := insert (t.nameOf b) (a.started measure p b
            (Scalar.max (a.goal measure p b).1 (ht.textWidth measure b)) (a.goal measure p b).2)
              a.active }) := by
  rw [← ht.width_inputSize measure p b]
  exact toggle_yields_of_locate measure a p b (ht.locatePiece_input b)

/-! ## A frame of one transition -/

/-- One frame of a width: the box is held at the new width while the dependents follow. -/
theorem advanceWidth_yields (dt : Duration) (p : Pins α t) (hp : ∀ c, (p.box c).minWidth ≠ none)
    (b : t.Box) (tr : Transition α) (hdeps : tr.dependents = (t.dependents b).map t.nameOf) :
    ∃ q, (advanceWidth measure dt p b tr.dependents tr.width).Yields (q, (tr.next dt).width) ∧
      (q.box b = tr.carryWidth dt (p.box b)) ∧ ChangedAt ht b p q ∧
      ((tr.next dt).width.isSome → ∀ x ∈ t.dependents b, q.Follows ht measure x) := by
  rw [hdeps]
  unfold Transition.next Transition.carryWidth
  cases tr.width with
  | none => exact ⟨p, .pure _, rfl, .refl p, by simp⟩
  | some w =>
    let r := p.modifyBox b ({ · with explicitWidth := some (w.tick dt).value })
    have hr : ∀ c, r.box c = if b = c
        then { p.box b with explicitWidth := some (w.tick dt).value } else p.box c :=
      fun c => Pins.box_modifyBox _ _ _ _
    have hsized : ∀ c, (r.box c).minWidth ≠ none := by
      intro c
      rw [hr]
      split
      · exact hp b
      · exact hp c
    have hchanged : ChangedAt ht b p r := .modifyBox _
    obtain ⟨q, hq, hre⟩ := Widths.update_yields ht measure r hsized (t.dependents b)
    -- a tween that is over lets go of the width, once the pins have been set by it
    by_cases hdone : (w.tick dt).isComplete = true
    · have hnext : w.next dt = none := by rw [Tween.next, if_pos hdone]
      refine ⟨q.modifyBox b ({ · with explicitWidth := none }), ?_, ?_, ?_, ?_⟩
      · refine .bind hq (.bind (note_yields _) ?_)
        simp only [hdone, ↓reduceIte, Option.bind_some, hnext]
        exact .pure _
      · simp [Pins.box_modifyBox, hre.box, hr, hnext]
      · exact (hchanged.trans (.repinned hre)).trans (.modifyBox _)
      · simp [hnext]
    · have hnext : w.next dt = some (w.tick dt) := by rw [Tween.next, if_neg hdone]
      refine ⟨q, ?_, ?_, hchanged.trans (.repinned hre), fun _ x hx => hre.follows (.inl hx)⟩
      · refine .bind hq (.bind (note_yields _) ?_)
        simp only [hdone, Option.bind_some, hnext]
        exact .pure _
      · simp [hre.box, hr, hnext]

/-- One frame of a block height changes no more than the box. -/
theorem advanceHeight_eq (dt : Duration) (p : Pins α t) (b : t.Box) (tr : Transition α) :
    ∃ change, advanceHeight dt p b tr.direction tr.height =
      (p.modifyBox b change, (tr.next dt).height) ∧
        change (p.box b) = tr.carryHeight dt (p.box b) := by
  unfold advanceHeight Transition.next Transition.carryHeight
  cases tr.height with
  | none =>
    have hid : p.modifyBox b id = p := by
      refine Pins.ext (fun c => ?_) fun _ => rfl
      rw [Pins.box_modifyBox]
      split
      · next heq => rw [heq]; rfl
      · rfl
    exact ⟨id, by rw [hid]; rfl, rfl⟩
  | some h =>
    by_cases hdone : (h.tick dt).isComplete = true
    · simp only [Option.bind_some, Tween.next, hdone, ↓reduceIte]
      exact ⟨_, rfl, rfl⟩
    · simp only [Option.bind_some, Tween.next, hdone]
      exact ⟨_, rfl, rfl⟩

/-- As long as a block height runs, the widths stay. -/
theorem carryHeight_sameWidth (dt : Duration) (tr : Transition α) (p : BoxPins α)
    (h : (tr.next dt).height.isSome) : (tr.carryHeight dt p).SameWidth p := by
  obtain ⟨h', hh⟩ := Option.isSome_iff_exists.1 h
  obtain ⟨w, hw, hnext⟩ := Option.bind_eq_some_iff.1 hh
  rw [Transition.carryHeight, hw]
  simp only [hnext]
  exact ⟨rfl, rfl, rfl⟩

/-- One frame of a transition.  As long as it runs on, the dependents follow. -/
theorem advance_yields (dt : Duration) (p : Pins α t) (hp : ∀ c, (p.box c).minWidth ≠ none)
    (b : t.Box) (tr : Transition α) (hdeps : tr.dependents = (t.dependents b).map t.nameOf) :
    ∃ q, (advance measure dt p (t.nameOf b) tr).Yields (q, tr.next dt) ∧
      q.box b = tr.carry dt (p.box b) ∧ ChangedAt ht b p q ∧
      ((tr.next dt).width.isSome → (tr.next dt).height.isSome →
        ∀ x ∈ t.dependents b, q.Follows ht measure x) := by
  obtain ⟨r, hr, hbox, hchanged, hfollows⟩ := advanceWidth_yields ht measure dt p hp b tr hdeps
  obtain ⟨change, hq, hchange⟩ := advanceHeight_eq dt r b tr
  refine ⟨r.modifyBox b change, ?_, ?_, hchanged.trans (.modifyBox _), ?_⟩
  · refine .bind (check_yields (t.locate_nameOf b)) (.bind hr ?_)
    simp only [hq]
    exact .pure _
  · rw [Pins.box_modifyBox, if_pos rfl, hchange, hbox]
    rfl
  · intro hwidth hheight x hx
    refine (hfollows hwidth x hx).congr (fun c => ?_) rfl
    rw [Pins.box_modifyBox]
    split
    · next heq =>
      rw [hchange, ← heq]
      exact carryHeight_sameWidth dt tr _ hheight
    · exact .rfl

/-! ## A frame of all transitions -/

/-- The transitions on boxes of a tree, filed under the names of the boxes. -/
def file (l : List (t.Box × Transition α)) : List (BoxId × Transition α) :=
  l.map fun e => (t.nameOf e.1, e.2)

def nextAll (dt : Duration) (l : List (t.Box × Transition α)) : List (t.Box × Transition α) :=
  l.map fun e => (e.1, e.2.next dt)

/-- One frame of each of some transitions has gone by.  A fragment that followed its box, or whose
box depends on one of these, does so now, unless its box depends on one that has arrived. -/
structure Advanced (dt : Duration) (l : List (t.Box × Transition α)) (p q : Pins α t) : Prop where
  box : ∀ e ∈ l, q.box e.1 = e.2.carry dt (p.box e.1)
  others : ∀ c, c ∉ l.map (·.1) → q.box c = p.box c
  follows : ∀ x, (∃ e ∈ l, x ∈ t.dependents e.1) ∨ p.Follows ht measure x →
    (∃ e ∈ l, isDone (e.2.next dt) ∧ x ∈ t.dependents e.1) ∨ q.Follows ht measure x
  bare : ∀ f, (∀ x, ht.input x ≠ f) → q.piece f = p.piece f
  lit : ∀ f, (q.piece f).highlighted = (p.piece f).highlighted

theorem Advanced.minWidth {ht : t.Tidy} {measure : Measurer α} {dt : Duration}
    {l : List (t.Box × Transition α)} {p q : Pins α t} (h : Advanced ht measure dt l p q)
    (c : t.Box) : (q.box c).minWidth = (p.box c).minWidth := by
  by_cases hc : c ∈ l.map (·.1)
  · obtain ⟨e, he, rfl⟩ := List.mem_map.1 hc
    rw [h.box e he, Transition.minWidth_carry]
  · rw [h.others c hc]

theorem advanceAll_yields (dt : Duration) (l : List (t.Box × Transition α))
    (hnodup : (l.map (·.1)).Nodup)
    (hdeps : ∀ e ∈ l, e.2.dependents = (t.dependents e.1).map t.nameOf)
    (hstep : ∀ e ∈ l, ¬isDone (e.2.next dt) →
      (e.2.next dt).width.isSome ∧ (e.2.next dt).height.isSome)
    (p : Pins α t) (hp : ∀ c, (p.box c).minWidth ≠ none) :
    ∃ q, (advanceAll measure dt p (file l)).Yields
      (q, file (nextAll dt l)) ∧ Advanced ht measure dt l p q := by
  induction l generalizing p with
  | nil =>
    refine ⟨p, .pure _, ?_, fun _ _ => rfl, ?_, fun _ _ => rfl, fun _ => rfl⟩
    · intro e he
      cases he
    · rintro x (⟨e, he, -⟩ | hx)
      · cases he
      · exact .inr hx
  | cons e l ih =>
    obtain ⟨b, tr⟩ := e
    obtain ⟨hfresh, hnodup⟩ := List.nodup_cons.1 hnodup
    obtain ⟨r, hr, hbox, hchanged, hfollows⟩ :=
      advance_yields ht measure dt p hp b tr (hdeps _ List.mem_cons_self)
    have hsized : ∀ c, (r.box c).minWidth ≠ none := by
      intro c
      by_cases hc : c = b
      · rw [hc, hbox, Transition.minWidth_carry]
        exact hp b
      · rw [hchanged.box c hc]
        exact hp c
    obtain ⟨q, hq, hadv⟩ := ih hnodup (fun e he => hdeps e (List.mem_cons_of_mem _ he))
      (fun e he => hstep e (List.mem_cons_of_mem _ he)) r hsized
    refine ⟨q, .bind hr (.bind hq (.pure _)), ?_, ?_, ?_, ?_, ?_⟩
    · intro e he
      rcases List.mem_cons.1 he with rfl | he
      · rw [hadv.others b hfresh, hbox]
      · have hne : e.1 ≠ b := fun heq => hfresh (List.mem_map.2 ⟨e, he, heq⟩)
        rw [hadv.box e he, hchanged.box _ hne]
    · intro c hc
      rw [List.map_cons, List.mem_cons, not_or] at hc
      rw [hadv.others c hc.2, hchanged.box c hc.1]
    · intro x hx
      -- after its own frame a fragment follows, or it depends on one that comes later
      have hnext : (isDone (tr.next dt) ∧ x ∈ t.dependents b) ∨
          (∃ e ∈ l, x ∈ t.dependents e.1) ∨ r.Follows ht measure x := by
        by_cases hmem : x ∈ t.dependents b
        · by_cases hdone : isDone (tr.next dt) = true
          · exact .inl ⟨hdone, hmem⟩
          · obtain ⟨hwidth, hheight⟩ := hstep (b, tr) List.mem_cons_self hdone
            exact .inr (.inr (hfollows hwidth hheight x hmem))
        · rcases hx with ⟨e, he, hx⟩ | hx
          · rcases List.mem_cons.1 he with rfl | he
            · exact absurd hx hmem
            · exact .inr (.inl ⟨e, he, hx⟩)
          · exact .inr (.inr (hchanged.follows hmem hx))
      rcases hnext with hdone | hnext
      · exact .inl ⟨(b, tr), List.mem_cons_self, hdone⟩
      · rcases hadv.follows x hnext with ⟨e, he, h⟩ | h
        · exact .inl ⟨e, List.mem_cons_of_mem _ he, h⟩
        · exact .inr h
    · exact fun f hf => (hadv.bare f hf).trans (hchanged.bare f hf)
    · exact fun f => (hadv.lit f).trans (hchanged.lit f)

/-- The dependents of boxes that have come to rest follow a last time. -/
theorem settleAll_yields (l : List (t.Box × Transition α))
    (hdeps : ∀ e ∈ l, e.2.dependents = (t.dependents e.1).map t.nameOf)
    (p : Pins α t) (hp : ∀ c, (p.box c).minWidth ≠ none) :
    ∃ q boxes, (settleAll measure p (file l)).Yields q ∧ Repinned ht measure boxes p q ∧
      ∀ x, x ∈ boxes ↔ ∃ e ∈ l, x ∈ t.dependents e.1 := by
  induction l generalizing p with
  | nil => exact ⟨p, [], .pure _, .nil, by simp⟩
  | cons e l ih =>
    obtain ⟨b, tr⟩ := e
    obtain ⟨r, hr, hre⟩ := Widths.update_yields ht measure p hp (t.dependents b)
    obtain ⟨q, boxes, hq, hre', hboxes⟩ := ih (fun e he => hdeps e (List.mem_cons_of_mem _ he)) r
      fun c => by rw [hre.box]; exact hp c
    refine ⟨q, t.dependents b ++ boxes, ?_, hre.trans hre', ?_⟩
    · have hb : tr.dependents = _ := hdeps (b, tr) List.mem_cons_self
      refine .bind ?_ (.bind (note_yields _) hq)
      show (Widths.update measure p tr.dependents).Yields r
      rw [hb]
      exact hr
    · intro x
      simp [hboxes]

omit [Scalar α] in
theorem partition_file (l : List (t.Box × Transition α)) :
    (file l).partition (fun e => isDone e.2) =
      (file (l.filter fun e => isDone e.2), file (l.filter fun e => !isDone e.2)) := by
  rw [List.partition_eq_filter_filter, file, List.filter_map, List.filter_map]
  rfl

/-- One frame: all transitions go on, and then the dependents of those that have arrived follow. -/
theorem tick_yields (a : Animator α) (dt : Duration) (l : List (t.Box × Transition α))
    (hactive : a.active = file l) (hnodup : (l.map (·.1)).Nodup)
    (hdeps : ∀ e ∈ l, e.2.dependents = (t.dependents e.1).map t.nameOf)
    (hstep : ∀ e ∈ l, ¬isDone (e.2.next dt) →
      (e.2.next dt).width.isSome ∧ (e.2.next dt).height.isSome)
    (p : Pins α t) (hp : ∀ c, (p.box c).minWidth ≠ none) :
    ∃ r q boxes, (a.tick measure p dt).Yields
      (((nextAll dt l).filter fun e => isDone e.2).map fun e => t.nameOf e.1, q,
        { a with active := file ((nextAll dt l).filter fun e => !isDone e.2) }) ∧
      Advanced ht measure dt l p r ∧ Repinned ht measure boxes r q ∧
      ∀ x, x ∈ boxes ↔ ∃ e ∈ l, isDone (e.2.next dt) ∧ x ∈ t.dependents e.1 := by
  obtain ⟨r, hr, hadv⟩ := advanceAll_yields ht measure dt l hnodup hdeps hstep p hp
  have hdeps' : ∀ e ∈ (nextAll dt l).filter fun e => isDone e.2,
      e.2.dependents = (t.dependents e.1).map t.nameOf := by
    intro e he
    obtain ⟨e', he', rfl⟩ := List.mem_map.1 (List.mem_of_mem_filter he)
    exact hdeps e' he'
  obtain ⟨q, boxes, hq, hre, hboxes⟩ := settleAll_yields ht measure _ hdeps' r fun c => by
    rw [hadv.minWidth]
    exact hp c
  refine ⟨r, q, boxes, ?_, hadv, hre, fun x => ?_⟩
  · rw [Animator.tick, hactive]
    refine .bind hr ?_
    simp only [partition_file]
    refine .bind hq ?_
    rw [file, List.map_map]
    exact .pure _
  · rw [hboxes]
    simp [nextAll, and_assoc]

end Animator

end ParseBoxes
