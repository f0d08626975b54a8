import ParseBoxes.Proofs.Animation.Continuity
import ParseBoxes.Proofs.Session.Beneath
import ParseBoxes.Proofs.Session.Runs

/-!
# Clicks on two boxes commute

A toggle reads the board: which way the box goes, how large it is, how large its children are.  A
toggle of another box changes none of these.  It leaves every box at the size that it has
(`Animator.sameSize_held`), so also the children that an expansion measures, whether the other box is
one of them, lies in one of them, or is the box around (`Animator.goal_held`).  The pins that two
toggles set are those of two boxes, and transitions are filed by name whichever comes first
(`Animator.insert_comm`).
-/

namespace ParseBoxes

/-! ## The order of names -/

namespace BoxId

theorem before_iff {a b : BoxId} : a.before b = true ↔
    a.generation.toNat < b.generation.toNat ∨
      a.generation.toNat = b.generation.toNat ∧ a.index < b.index := by
  simp [before, UInt32.lt_iff_toNat_lt, UInt32.toNat_inj]

theorem before_asymm {a b : BoxId} (h : a.before b = true) : b.before a = false := by
  rw [Bool.eq_false_iff, ne_eq, before_iff]
  rw [before_iff] at h
  omega

theorem before_trans {a b c : BoxId} (h : a.before b = true) (h' : b.before c = true) :
    a.before c = true := by
  rw [before_iff] at *
  omega

theorem before_total {a b : BoxId} (h : a ≠ b) : a.before b = true ∨ b.before a = true := by
  rw [before_iff, before_iff]
  have hne : ¬(a.generation.toNat = b.generation.toNat ∧ a.index = b.index) := by
    rintro ⟨hg, hi⟩
    cases a
    cases b
    cases UInt32.toNat_inj.1 hg
    cases hi
    exact h rfl
  omega

theorem ne_of_before {a b : BoxId} (h : a.before b = true) : a ≠ b := by
  rintro rfl
  have hasymm := before_asymm h
  rw [h] at hasymm
  cases hasymm

end BoxId

namespace Animator

variable {α : Type} {i j : BoxId} {x y : Transition α}

/-! ## Filing -/

theorem insert_self (z : Transition α) (l : List (BoxId × Transition α)) :
    insert i x ((i, z) :: l) = (i, x) :: l := by
  rw [insert, if_pos rfl]

theorem insert_of_before {e : BoxId × Transition α} (h : i.before e.1 = true)
    (l : List (BoxId × Transition α)) : insert i x (e :: l) = (i, x) :: e :: l := by
  rw [insert, if_neg (BoxId.ne_of_before h).symm, if_pos h]

theorem insert_of_after {e : BoxId × Transition α} (h : e.1.before i = true)
    (l : List (BoxId × Transition α)) : insert i x (e :: l) = e :: insert i x l := by
  rw [insert, if_neg (BoxId.ne_of_before h), if_neg (ne_true_of_eq_false (BoxId.before_asymm h))]

/-- What stands in front after a transition has been filed is that transition or stood there before. -/
theorem exists_insert_eq_cons (h : i.before j = true) {e : BoxId × Transition α}
    (he : i.before e.1 = true) (l : List (BoxId × Transition α)) :
    ∃ e' l', insert j y (e :: l) = e' :: l' ∧ i.before e'.1 = true := by
  obtain ⟨k, z⟩ := e
  by_cases hkj : k = j
  · subst hkj
    exact ⟨_, _, insert_self z l, h⟩
  · rcases BoxId.before_total hkj with hk | hk
    · exact ⟨_, _, insert_of_after hk l, he⟩
    · exact ⟨_, _, insert_of_before hk l, h⟩

theorem insert_comm_of_before (h : i.before j = true) (l : List (BoxId × Transition α)) :
    insert j y (insert i x l) = insert i x (insert j y l) := by
  induction l with
  | nil => exact (insert_of_after (e := (i, x)) h []).trans (insert_of_before (e := (j, y)) h []).symm
  | cons e l ih =>
    obtain ⟨k, z⟩ := e
    by_cases hki : k = i
    · subst hki
      rw [insert_self, insert_of_after h, insert_of_after h, insert_self]
    · rcases BoxId.before_total hki with hk | hk
      · have hkj : k.before j = true := BoxId.before_trans hk h
        rw [insert_of_after hk, insert_of_after hkj, insert_of_after hkj, insert_of_after hk, ih]
      · obtain ⟨e', l', heq, he'⟩ := exists_insert_eq_cons (y := y) h (e := (k, z)) hk l
        rw [insert_of_before hk, insert_of_after h, heq, insert_of_before he']

/-- Transitions of two boxes are filed alike whichever comes first. -/
theorem insert_comm (h : i ≠ j) (l : List (BoxId × Transition α)) :
    insert j y (insert i x l) = insert i x (insert j y l) := by
  rcases BoxId.before_total h with hij | hji
  · exact insert_comm_of_before hij l
  · exact (insert_comm_of_before hji l).symm

theorem find?_insert_of_ne (h : i ≠ j) (l : List (BoxId × Transition α)) :
    (insert i x l).find? (·.1 = j) = l.find? (·.1 = j) := by
  induction l with
  | nil => simp [insert, h]
  | cons e l ih =>
    obtain ⟨k, z⟩ := e
    by_cases hki : k = i
    · subst hki
      simp [insert_self, h]
    · rcases BoxId.before_total hki with hk | hk
      · rw [insert_of_after hk, List.find?_cons, List.find?_cons, ih]
      · rw [insert_of_before hk]
        simp [h]

end Animator

variable {α : Type} [Scalar α] {t : BoxTree}

namespace Layout

/-- A box apart from the one that has been taken out is measured as if nothing had been taken out,
unless the latter lies in it. -/
theorem sameSize_detached {measure : Measurer α} {p : Pins α t} {b c : t.Box} (hidden : Bool)
    (h : ∀ x, x = c ∨ t.boxes.Below c x → x ≠ b) :
    SameSize ⟨p, measure, some ⟨b, hidden⟩⟩ (p.layout measure) c := by
  refine .of_forall rfl fun x hx => .inl ?_
  have hne : ¬b = x := Ne.symm (h x hx)
  constructor <;> simp [Layout.hidden, Layout.explicitWidth, Layout.pinnedHeight, isDetached, hne]

end Layout

namespace Animator

/-! ## Two toggles -/

variable (measure : Measurer α)

variable (a : Animator α) (p : Pins α t) {b c : t.Box} (f : t.Piece)

/-- A toggle of one box does not turn the next one of another box round. -/
theorem nextDirection_sent (h : b ≠ c) :
    (a.sent measure p b f).nextDirection (a.held measure p b) c = a.nextDirection p c := by
  have hname : t.nameOf b ≠ t.nameOf c := mt BoxTree.nameOf_inj.1 h
  unfold nextDirection find?
  rw [sent, find?_insert_of_ne hname, box_held_of_ne measure a p h.symm]

variable [Scalar.LawfulMax α]

/-- The children of a box make the same block after another box has been toggled, whether that one is
among them, in them, or around them. -/
theorem childrenBlock_detached_held (h : b ≠ c) :
    (⟨a.held measure p b, measure, some ⟨c, false⟩⟩ : Layout α t).childrenBlock c =
      (⟨p, measure, some ⟨c, false⟩⟩ : Layout α t).childrenBlock c := by
  refine Layout.childrenBlock_congr ?_ ?_ ?_
  · rfl
  · simp [Layout.hidden]
  · intro x hx
    -- the box that is taken out does not lie in its own child
    have hapart : ∀ y, y = x ∨ t.boxes.Below x y → y ≠ c := by
      rintro y hy rfl
      have hlt : y < x := hx.lt
      rcases hy with rfl | hbelow
      · exact Nat.lt_irrefl _ hlt
      · exact Nat.lt_asymm hlt hbelow.lt
    exact ((Layout.sameSize_detached false hapart).trans (sameSize_held measure a p b x)).trans
      (Layout.sameSize_detached false hapart).symm

theorem goal_sent (h : b ≠ c) :
    (a.sent measure p b f).goal measure (a.held measure p b) c = a.goal measure p c := by
  unfold goal
  rw [nextDirection_sent measure a p f h, childrenBlock_detached_held measure a p h]
  rfl

/-- A transition starts and heads as it would have done without the toggle of another box. -/
theorem started_sent (h : b ≠ c) (width height : α) :
    (a.sent measure p b f).started measure (a.held measure p b) c width height =
      a.started measure p c width height := by
  have hsize := sameSize_held measure a p b c
  unfold started
  rw [nextDirection_sent measure a p f h, hsize.width, hsize.height]
  rfl

theorem box_held_sent (h : b ≠ c) :
    ((a.sent measure p b f).held measure (a.held measure p b) c).box c =
      (a.held measure p c).box c := by
  have hsize := sameSize_held measure a p b c
  rw [box_held, box_held, nextDirection_sent measure a p f h, hsize.width, hsize.height,
    box_held_of_ne measure a p h.symm]

theorem held_comm (h : b ≠ c) (g : t.Piece) :
    (a.sent measure p b f).held measure (a.held measure p b) c =
      (a.sent measure p c g).held measure (a.held measure p c) b := by
  refine Pins.ext (fun x => ?_) fun _ => rfl
  by_cases hb : x = b
  · subst hb
    rw [box_held_of_ne _ _ _ h, box_held_sent measure a p g h.symm]
  · by_cases hc : x = c
    · subst hc
      rw [box_held_of_ne _ _ _ h.symm, box_held_sent measure a p f h]
    · rw [box_held_of_ne _ _ _ hc, box_held_of_ne _ _ _ hb, box_held_of_ne _ _ _ hb,
        box_held_of_ne _ _ _ hc]

/-- After two toggles both transitions are filed as each would be alone. -/
theorem active_sent_sent (h : b ≠ c) (g : t.Piece) :
    ((a.sent measure p b f).sent measure (a.held measure p b) c g).active =
      insert (t.nameOf c) (a.started measure p c
        (Scalar.max (a.goal measure p c).1 ((p.layout measure).inputSize g).width)
        (a.goal measure p c).2) (a.sent measure p b f).active := by
  have hinput := Layout.inputSize_eq measure (a.held measure p b) p g
  rw [sent, goal_sent measure a p f h, hinput, started_sent measure a p f h]

theorem sent_comm (h : b ≠ c) (g : t.Piece) :
    (a.sent measure p b f).sent measure (a.held measure p b) c g =
      (a.sent measure p c g).sent measure (a.held measure p c) b f := by
  have hactive : ((a.sent measure p b f).sent measure (a.held measure p b) c g).active =
      ((a.sent measure p c g).sent measure (a.held measure p c) b f).active := by
    rw [active_sent_sent measure a p f h, active_sent_sent measure a p g h.symm]
    exact insert_comm (mt BoxTree.nameOf_inj.1 h) _
  exact congrArg (Animator.mk _ _) hactive

end Animator

namespace Session

open Run

variable {s : Session α}

/-- The session after a click on a box with this fragment. -/
def sent (s : Session α) (b : s.board.tree.Box) (f : s.board.tree.Piece) : Session α :=
  { s.withPins (s.animator.held s.measure s.board.pins b) with
    animator := s.animator.sent s.measure s.board.pins b f }

theorem click_yields {b : s.board.tree.Box} {f : s.board.tree.Piece}
    (hf : s.board.tree.locatePiece (s.board.tree.box b).input = .ok f) :
    (s.click (s.board.tree.nameOf b)).Yields
      (.ok (s.animator.nextDirection s.board.pins b), s.sent b f) :=
  .bind (check_nameOf_yields s b)
    (.bind (.bind (Animator.toggle_yields_of_locate s.measure s.animator s.board.pins b hf) (.pure _))
      (.pure _))

/-- A second click, on another box, goes the way it would have gone first. -/
theorem click_sent_yields {b c : s.board.tree.Box} (h : b ≠ c) (f : s.board.tree.Piece)
    {g : s.board.tree.Piece}
    (hg : s.board.tree.locatePiece (s.board.tree.box c).input = .ok g) :
    ((s.sent b f).click (s.board.tree.nameOf c)).Yields
      (.ok (s.animator.nextDirection s.board.pins c), (s.sent b f).sent c g) := by
  have hclick := click_yields (s := s.sent b f) (b := c) hg
  have hdirection : (s.sent b f).animator.nextDirection (s.sent b f).board.pins c =
      s.animator.nextDirection s.board.pins c :=
    Animator.nextDirection_sent s.measure s.animator s.board.pins f h
  rw [hdirection] at hclick
  exact hclick

theorem sent_sent_comm [Scalar.LawfulMax α] {b c : s.board.tree.Box} (h : b ≠ c)
    (f g : s.board.tree.Piece) : (s.sent b f).sent c g = (s.sent c g).sent b f := by
  have hpins := Animator.held_comm s.measure s.animator s.board.pins f h g
  have hanimator := Animator.sent_comm s.measure s.animator s.board.pins f h g
  show { s with board := ⟨s.board.tree, _⟩, animator := _ } =
    ({ s with board := ⟨s.board.tree, _⟩, animator := _ } : Session α)
  exact congrArg₂ (fun pins animator =>
    ({ s with board := ⟨s.board.tree, pins⟩, animator := animator } : Session α)) hpins hanimator

/-- **Clicks on two boxes commute**, in every session that can be reached and whatever is on its way:
in either order both boxes are sent the same ways, and the sessions are equal afterwards. -/
theorem clicks_commute [Scalar.LawfulMax α] (measure : Measurer α) (config : Config α)
    (registry : GrammarRegistry) (es : List (Event α)) :
    ∃ h s, ((begin measure config registry).performAll es).Yields (h, s) ∧
      ∀ b c : s.board.tree.Box, b ≠ c → ∃ d e s₁ s₂ s',
        (s.click (s.board.tree.nameOf b)).Yields (.ok d, s₁) ∧
        (s₁.click (s.board.tree.nameOf c)).Yields (.ok e, s') ∧
        (s.click (s.board.tree.nameOf c)).Yields (.ok e, s₂) ∧
        (s₂.click (s.board.tree.nameOf b)).Yields (.ok d, s') := by
  have hbegin := sound_begin measure config registry
  obtain ⟨h, s, hyields, run⟩ := hbegin.performAll es
  have ht := (run.sound hbegin).tidy
  refine ⟨h, s, hyields, fun b c hbc => ?_⟩
  have hb := ht.locatePiece_input b
  have hc := ht.locatePiece_input c
  have hsecond := click_sent_yields hbc.symm (ht.input c) hb
  rw [sent_sent_comm hbc.symm] at hsecond
  exact ⟨_, _, _, _, _, click_yields hb, click_sent_yields hbc (ht.input b) hc, click_yields hc,
    hsecond⟩

/-- A word is on its way down, in doubles, when the word and its first letter are clicked on. -/
theorem word_and_letter_commute :
    ∃ (h : History) (s : Session Float) (b c : s.board.tree.Box) (d e : Direction)
      (s₁ s₂ s' : Session Float),
      ((begin CellMetrics.standard.measurer .standard {}).performAll [.load wordTrace .success,
        .gesture (.click ⟨1, 0⟩), .gesture (.tick (.ofMillis 250))]).Yields (h, s) ∧
      s.board.tree.nameOf b = ⟨1, 0⟩ ∧ s.board.tree.nameOf c = ⟨1, 1⟩ ∧ s.isSettled = false ∧
      (s.click (s.board.tree.nameOf b)).Yields (.ok d, s₁) ∧
      (s₁.click (s.board.tree.nameOf c)).Yields (.ok e, s') ∧
      (s.click (s.board.tree.nameOf c)).Yields (.ok e, s₂) ∧
      (s₂.click (s.board.tree.nameOf b)).Yields (.ok d, s') := by
  obtain ⟨h, s, hyields, hcommute⟩ := clicks_commute
    (CellMetrics.standard : CellMetrics Float).measurer .standard {} [.load wordTrace .success,
      .gesture (.click ⟨1, 0⟩), .gesture (.tick (.ofMillis 250))]
  have hstart : ((begin (CellMetrics.standard : CellMetrics Float).measurer .standard {}).performAll
      [.load wordTrace .success, .gesture (.click ⟨1, 0⟩), .gesture (.tick (.ofMillis 250))]).shows
      (fun r => r.2.board.tree.contains ⟨1, 0⟩ && r.2.board.tree.contains ⟨1, 1⟩ &&
        !r.2.isSettled) = true := by
    decide +kernel
  have hseen := hyields.of_shows hstart
  simp only [Bool.and_eq_true, Bool.not_eq_true', and_assoc] at hseen
  obtain ⟨hb, hc, hmoving⟩ := hseen
  obtain ⟨b, hb⟩ := BoxTree.contains_iff.1 hb
  obtain ⟨c, hc⟩ := BoxTree.contains_iff.1 hc
  have hne : b ≠ c := by
    rintro rfl
    cases hb.trans hc.symm
  obtain ⟨d, e, s₁, s₂, s', hclicks⟩ := hcommute b c hne
  exact ⟨h, s, b, c, d, e, s₁, s₂, s', hyields, hb.symm, hc.symm, hmoving, hclicks⟩

end Session

end ParseBoxes
