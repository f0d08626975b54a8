import ParseBoxes.Animation.Widths
import ParseBoxes.Proofs.Run

/-!
# Pinning the ribbon

What measurements and pinning do to a board whose boxes all have a least width.  Pinning a row of
boxes changes nothing but the fragments of these boxes, and those come to stand at the widths at
which the boxes are displayed (`Repinned`).  Since pins of fragments have no part in widths, each of
these fragments then follows its box (`Follows`), and so does any other that did before.
-/

namespace ParseBoxes

variable {α : Type} [Scalar α] {t : BoxTree}

/-! ## Measurements -/

namespace Measuring

open Run

variable (measure : Measurer α)

omit [Scalar α] in
theorem label_yields (p : Pins α t) (b : t.Box) :
    (label measure b).Yields ((p.layout measure).labelSize b) :=
  .bind (request_yields _ _) (.bind countMeasurement_yields (.pure _))

/-- A block of children is measured on a view on which the box is free, shown or hidden. -/
theorem children_yields (p : Pins α t) (b : t.Box) (shown : Bool) :
    (children measure p b shown).Yields
      ((⟨p, measure, some ⟨b, !shown⟩⟩ : Layout α t).childrenBlock b) :=
  .bind (look_yields_of_answers (View.childrenBlock_answers _ b))
    (.bind countMeasurement_yields (.pure _))

/-- Texts of fragments that are there can be measured. -/
theorem inputs_yields_of_locate {p : Pins α t} {ids : List FragmentId} {pieces : List t.Piece}
    (h : ids.mapM t.locatePiece = .ok pieces) :
    (inputs measure p ids).Yields (pieces.map (p.layout measure).inputSize) := by
  refine .bind (check_yields h) ?_
  exact .bind (look_yields_of_answers (.mapM _ fun f _ => View.inputSize_answers _ f))
    (.bind countMeasurement_yields (.pure _))

theorem input_yields_of_locate {p : Pins α t} {id : FragmentId} {f : t.Piece}
    (h : t.locatePiece id = .ok f) :
    (input measure p id).Yields ((p.layout measure).inputSize f) := by
  have hpieces : [id].mapM t.locatePiece = .ok [f] := by
    rw [List.mapM_cons, h]
    rfl
  exact .bind (inputs_yields_of_locate measure hpieces) (.pure _)

theorem inputs_yields (ht : t.Tidy) (p : Pins α t) (boxes : List t.Box) :
    (inputs measure p (boxes.map fun b => (t.box b).input)).Yields
      (boxes.map fun b => (p.layout measure).inputSize (ht.input b)) := by
  have hlocate : (boxes.map fun b => (t.box b).input).mapM t.locatePiece =
      .ok (boxes.map ht.input) := by
    induction boxes with
    | nil => rfl
    | cons b boxes ih =>
      rw [List.map_cons, List.mapM_cons, ht.locatePiece_input, ih]
      rfl
  have hsizes : (boxes.map fun b => (p.layout measure).inputSize (ht.input b)) =
      (boxes.map ht.input).map (p.layout measure).inputSize := (List.map_map ..).symm
  rw [hsizes]
  exact inputs_yields_of_locate measure hlocate

end Measuring

/-! ## Pins of fragments -/

/-- The fragment of a box stands at the width at which the box is displayed. -/
def Pins.Follows (ht : t.Tidy) (measure : Measurer α) (p : Pins α t) (b : t.Box) : Prop :=
  (p.piece (ht.input b)).minWidth = some ((p.layout measure).displayedWidth b)

/-- A fragment follows its box on any board with the same widths and the same pin. -/
theorem Pins.Follows.congr {ht : t.Tidy} {measure : Measurer α} {p q : Pins α t} {b : t.Box}
    (h : p.Follows ht measure b) (hbox : ∀ c, (q.box c).SameWidth (p.box c))
    (hpiece : (q.piece (ht.input b)).minWidth = (p.piece (ht.input b)).minWidth) :
    q.Follows ht measure b := by
  unfold Pins.Follows
  rw [hpiece, Layout.displayedWidth_eq_of_sameWidth hbox]
  exact h

/-- The fragments of some boxes, and nothing else, have come to stand at the widths at which the
boxes are displayed. -/
structure Repinned (ht : t.Tidy) (measure : Measurer α) (boxes : List t.Box) (p q : Pins α t) :
    Prop where
  box : ∀ b, q.box b = p.box b
  inside : ∀ b ∈ boxes, (q.piece (ht.input b)).minWidth = some ((p.layout measure).displayedWidth b)
  outside : ∀ f, (∀ b ∈ boxes, ht.input b ≠ f) → q.piece f = p.piece f
  lit : ∀ f, (q.piece f).highlighted = (p.piece f).highlighted

namespace Repinned

variable {ht : t.Tidy} {measure : Measurer α} {boxes : List t.Box} {p q : Pins α t}

theorem nil : Repinned ht measure [] p p := by
  refine ⟨fun _ => rfl, ?_, fun _ _ => rfl, fun _ => rfl⟩
  intro b hb
  cases hb

theorem displayedWidth (h : Repinned ht measure boxes p q) (b : t.Box) :
    (q.layout measure).displayedWidth b = (p.layout measure).displayedWidth b :=
  Layout.displayedWidth_eq_of_sameWidth (fun c => .of_eq (h.box c)) b

theorem piece_input_of_not_mem (h : Repinned ht measure boxes p q) {b : t.Box} (hb : b ∉ boxes) :
    q.piece (ht.input b) = p.piece (ht.input b) :=
  h.outside _ fun _ hc heq => hb (ht.input_injective heq ▸ hc)

theorem trans {boxes' : List t.Box} {r : Pins α t} (h : Repinned ht measure boxes p q)
    (h' : Repinned ht measure boxes' q r) : Repinned ht measure (boxes ++ boxes') p r where
  box b := (h'.box b).trans (h.box b)
  inside b hb := by
    by_cases hmem : b ∈ boxes'
    · rw [h'.inside b hmem, h.displayedWidth]
    · rw [h'.piece_input_of_not_mem hmem]
      exact h.inside b ((List.mem_append.1 hb).resolve_right hmem)
  outside f hf := by
    rw [h'.outside f fun b hb => hf b (List.mem_append_right _ hb)]
    exact h.outside f fun b hb => hf b (List.mem_append_left _ hb)
  lit f := (h'.lit f).trans (h.lit f)

/-- Boxes that have been pinned are followed, and those that were followed still are. -/
theorem follows (h : Repinned ht measure boxes p q) {b : t.Box}
    (hb : b ∈ boxes ∨ p.Follows ht measure b) : q.Follows ht measure b := by
  unfold Pins.Follows
  rw [h.displayedWidth]
  by_cases hmem : b ∈ boxes
  · exact h.inside b hmem
  · rw [h.piece_input_of_not_mem hmem]
    exact hb.resolve_left hmem

end Repinned

namespace Widths

open Run

variable (ht : t.Tidy) (measure : Measurer α)

theorem repinned_modifyPiece (p : Pins α t) (b : t.Box) :
    Repinned ht measure [b] p (p.modifyPiece (ht.input b)
      ({ · with minWidth := some ((p.layout measure).displayedWidth b) })) where
  box c := Pins.box_modifyPiece _ _ _ _
  inside c hc := by
    obtain rfl := List.mem_singleton.1 hc
    rw [Pins.piece_modifyPiece, if_pos rfl]
  outside f hf := by
    rw [Pins.piece_modifyPiece, if_neg (hf b List.mem_cons_self)]
  lit f := by
    rw [Pins.piece_modifyPiece]
    split
    · next heq => rw [heq]
    · rfl

/-- Pinning one box after another, to widths that were asked for before. -/
theorem pin_repinned (p q : Pins α t) (hpq : ∀ b, q.box b = p.box b) (boxes : List t.Box) :
    ∃ r, pin q (boxes.map fun b => (b, (p.layout measure).displayedWidth b)) = .ok r ∧
      Repinned ht measure boxes q r := by
  induction boxes generalizing q with
  | nil => exact ⟨q, rfl, .nil⟩
  | cons b boxes ih =>
    have hwidth : (p.layout measure).displayedWidth b = (q.layout measure).displayedWidth b :=
      (Layout.displayedWidth_eq_of_sameWidth (fun c => .of_eq (hpq c)) b).symm
    have hb := repinned_modifyPiece ht measure q b
    obtain ⟨r, hr, hre⟩ := ih _ fun c => (hb.box c).trans (hpq c)
    refine ⟨r, ?_, hb.trans hre⟩
    rw [List.map_cons, pin, ht.locatePiece_input, hwidth]
    exact hr

theorem pinAll_yields (p : Pins α t) (boxes : List t.Box) :
    ∃ q, (pinAll measure p boxes).Yields q ∧ Repinned ht measure boxes p q := by
  obtain ⟨q, hq, hre⟩ := pin_repinned ht measure p p (fun _ => rfl) boxes
  refine ⟨q, ?_, hre⟩
  refine .bind (look_yields_of_answers (.mapM boxes fun b _ => ?_)) (check_yields hq)
  exact .bind (View.displayedWidth_answers _ b) (.pure _)

/-- Where every box has a least width, one view serves for all boxes. -/
theorem updateFrom_yields (p : Pins α t) (hp : ∀ b, (p.box b).minWidth ≠ none)
    (waiting boxes : List t.Box) :
    ∃ q, (updateFrom measure p waiting (boxes.map t.nameOf)).Yields q ∧
      Repinned ht measure (waiting.reverse ++ boxes) p q := by
  induction boxes generalizing waiting with
  | nil =>
    rw [List.map_nil, updateFrom, List.append_nil]
    cases waiting with
    | nil => exact ⟨p, .pure p, .nil⟩
    | cons b waiting => exact pinAll_yields ht measure p (b :: waiting).reverse
  | cons b boxes ih =>
    obtain ⟨q, hq, hre⟩ := ih (b :: waiting)
    rw [List.reverse_cons, List.append_assoc] at hre
    refine ⟨q, ?_, hre⟩
    rw [List.map_cons, updateFrom]
    refine .bind (check_yields (t.locate_nameOf b)) ?_
    cases hb : (p.box b).minWidth with
    | none => exact absurd hb (hp b)
    | some w =>
      exact hq

theorem update_yields (p : Pins α t) (hp : ∀ b, (p.box b).minWidth ≠ none) (boxes : List t.Box) :
    ∃ q, (update measure p (boxes.map t.nameOf)).Yields q ∧ Repinned ht measure boxes p q :=
  updateFrom_yields ht measure p hp [] boxes

/-! ## A new tree -/

omit [Scalar α] in
theorem box_foldl_minWidth (width : t.Box → Size α) (boxes : List t.Box) (p : Pins α t) :
    let q := (boxes.zip (boxes.map width)).foldl
      (fun pins x => pins.modifyBox x.1 ({ · with minWidth := some x.2.width })) p
    (∀ b ∈ boxes, q.box b = { p.box b with minWidth := some (width b).width }) ∧
      (∀ b ∉ boxes, q.box b = p.box b) ∧ ∀ f, q.piece f = p.piece f := by
  induction boxes generalizing p with
  | nil => exact ⟨fun b hb => absurd hb List.not_mem_nil, fun b _ => rfl, fun f => rfl⟩
  | cons c boxes ih =>
    obtain ⟨hbox, hout, hpiece⟩ := ih (p.modifyBox c ({ · with minWidth := some (width c).width }))
    refine ⟨fun b hb => ?_, fun b hb => ?_, fun f => hpiece f⟩
    · by_cases hmem : b ∈ boxes
      · refine (hbox b hmem).trans ?_
        rw [Pins.box_modifyBox]
        split
        · next hcb => subst hcb; rfl
        · rfl
      · obtain rfl : b = c := (List.mem_cons.1 hb).resolve_right hmem
        exact (hout b hmem).trans (by rw [Pins.box_modifyBox, if_pos rfl])
    · have hcb : c ≠ b := fun h => hb (h ▸ List.mem_cons_self)
      have hmem : b ∉ boxes := fun h => hb (List.mem_cons_of_mem c h)
      exact (hout b hmem).trans (by rw [Pins.box_modifyBox, if_neg hcb])

/-- On a new tree every box gets the width of its text as least width, and every fragment of a box
comes to follow its box. -/
structure Established (ht : t.Tidy) (measure : Measurer α) (p : Pins α t) : Prop where
  box : ∀ b, p.box b = { minWidth := some ((p.layout measure).inputSize (ht.input b)).width }
  follows : ∀ b, p.Follows ht measure b
  bare : ∀ f, (∀ b, ht.input b ≠ f) → (p.piece f).minWidth = none
  unlit : ∀ f, (p.piece f).highlighted = false

/-- A new tree gets least widths and pins, without fault. -/
theorem establish_yields :
    ∃ p : Pins α t, (establish measure (.fresh t)).Yields p ∧ Established ht measure p := by
  obtain ⟨p, hp⟩ : ∃ p : Pins α t, p = (t.boxes.nodes.zip (t.boxes.nodes.map fun b =>
      ((Pins.fresh t).layout measure).inputSize (ht.input b))).foldl
        (fun pins x => pins.modifyBox x.1 ({ · with minWidth := some x.2.width }))
        (.fresh t) := ⟨_, rfl⟩
  obtain ⟨hbox, -, hpiece⟩ := box_foldl_minWidth
    (fun b => ((Pins.fresh t).layout measure).inputSize (ht.input b)) t.boxes.nodes (.fresh t)
  rw [← hp] at hbox hpiece
  have hall : ∀ b : t.Box, b ∈ t.boxes.nodes := fun b => List.mem_finRange b
  have hsized : ∀ b, (p.box b).minWidth ≠ none := fun b => by simp [hbox b (hall b)]
  obtain ⟨q, hq, hre⟩ := update_yields ht measure p hsized t.boxes.nodes.reverse
  refine ⟨q, ?_, ?_, ?_, ?_, ?_⟩
  · refine .bind (Measuring.inputs_yields measure ht (.fresh t) t.boxes.nodes) ?_
    rw [← hp]
    exact .bind hq (.bind (note_yields _) (.pure q))
  · intro b
    rw [hre.box, hbox b (hall b), Layout.inputSize_eq measure q (.fresh t), Pins.box_fresh]
  · exact fun b => hre.follows (.inl (by simp [hall]))
  · intro f hf
    rw [hre.outside f fun b _ => hf b, hpiece, Pins.piece_fresh]
  · intro f
    rw [hre.lit, hpiece, Pins.piece_fresh]

end Widths

end ParseBoxes
