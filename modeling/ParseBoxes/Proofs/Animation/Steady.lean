import ParseBoxes.Proofs.Animation.Frames
import ParseBoxes.Proofs.Animation.Stage

/-!
# The invariant of an animator

Transitions, pins and fragments of a board fit together at all times.  Each box is at a stage, which
its transition and its pins show (`Stage.Fits`): at rest nothing holds it; on its way both tweens
run in step, and the box is held where they are.  The fragment of a box follows the box unless the
box depends on one that is on its way (`Steady.follows`): a toggle breaks no more than that, and a
frame mends all of it.

Toggles and frames move the stages as the machine of `Stage` does, each box by itself.
-/

namespace ParseBoxes

variable {α : Type}

/-! ## Tweens in step -/

namespace Tween

/-- A tween over a span of which a part has gone by. -/
structure Runs (span elapsed : Nat) (w : Tween α) : Prop where
  duration : w.duration.nanos = span
  elapsed : w.elapsed.nanos = elapsed

theorem runs_begin (start goal : α) (duration : Duration) (easing : Easing) :
    (begin start goal duration easing).Runs (max duration.nanos 1) 0 := by
  refine ⟨?_, rfl⟩
  unfold begin
  by_cases h : duration.nanos = 0
  · simp [h, Duration.nanosecond]
  · simp only [h, ↓reduceIte]
    omega

/-- A frame lets as much time elapse as is left at most. -/
theorem Runs.tick {span elapsed : Nat} {w : Tween α} (h : w.Runs span elapsed) (dt : Duration) :
    (w.tick dt).Runs span (min (elapsed + dt.nanos) span) := by
  refine ⟨h.duration, ?_⟩
  have hspan : span ≤ Duration.longest.nanos := h.duration ▸ w.duration.nanos_le_longest
  simp only [Tween.tick, Duration.nanos_least, Duration.nanos_add, h.duration, h.elapsed]
  omega

/-- A tween arrives as soon as its whole span has gone by. -/
theorem Runs.next {span elapsed : Nat} {w : Tween α} (h : w.Runs span elapsed) (dt : Duration) :
    w.next dt = if span ≤ elapsed + dt.nanos then none else some (w.tick dt) := by
  have htick := h.tick dt
  unfold Tween.next isComplete
  rw [htick.duration, htick.elapsed]
  have hiff : span ≤ min (elapsed + dt.nanos) span ↔ span ≤ elapsed + dt.nanos := by omega
  simp only [hiff, decide_eq_true_eq]

theorem Runs.tick_of_lt {span elapsed : Nat} {w : Tween α} (h : w.Runs span elapsed) (dt : Duration)
    (hlt : ¬span ≤ elapsed + dt.nanos) : (w.tick dt).Runs span (elapsed + dt.nanos) := by
  have htick := h.tick dt
  rwa [Nat.min_eq_left (Nat.le_of_not_le hlt)] at htick

end Tween

/-! ## Transitions by name -/

namespace Animator

variable {t : BoxTree} {l : List (t.Box × Transition α)}

/-- The transitions of an animator run on boxes of the tree, each on one of its own, and are kept in
the order of the boxes. -/
structure Filed (a : Animator α) (l : List (t.Box × Transition α)) : Prop where
  active : a.active = file l
  sorted : l.Pairwise fun d e => d.1 < e.1

theorem nodup_of_sorted (h : l.Pairwise fun d e => d.1 < e.1) : (l.map (·.1)).Nodup :=
  List.pairwise_map.2 (h.imp fun hlt => Fin.ne_of_lt hlt)

theorem find?_file_eq_some_iff (h : (l.map (·.1)).Nodup) {b : t.Box} {tr : Transition α} :
    ((file l).find? (·.1 = t.nameOf b)).map (·.2) = some tr ↔ (b, tr) ∈ l := by
  induction l with
  | nil => simp [file]
  | cons e l ih =>
    obtain ⟨c, tr'⟩ := e
    obtain ⟨hfresh, hnodup⟩ := List.nodup_cons.1 h
    have ih := ih hnodup
    rw [file] at ih ⊢
    by_cases hc : c = b
    · subst hc
      have hnot : (c, tr) ∉ l := fun hmem => hfresh (List.mem_map.2 ⟨_, hmem, rfl⟩)
      simp [hnot, eq_comm]
    · simp only [List.map_cons, List.find?_cons, BoxTree.nameOf_inj, hc, decide_false, ih,
        List.mem_cons, Prod.mk.injEq, Ne.symm hc, false_and, false_or]

theorem Filed.find?_eq_some_iff {a : Animator α} (h : a.Filed l) {b : t.Box} {tr : Transition α} :
    a.find? (t.nameOf b) = some tr ↔ (b, tr) ∈ l := by
  rw [find?, h.active]
  exact find?_file_eq_some_iff (nodup_of_sorted h.sorted)

theorem mem_nextAll {dt : Duration} {b : t.Box} {tr' : Transition α} :
    (b, tr') ∈ nextAll dt l ↔ ∃ tr, (b, tr) ∈ l ∧ tr.next dt = tr' := by
  simp [nextAll]

theorem pairwise_nextAll (h : l.Pairwise fun d e => d.1 < e.1) (dt : Duration) :
    (nextAll dt l).Pairwise fun d e => d.1 < e.1 :=
  List.pairwise_map.2 h

theorem Filed.afterFrame {a : Animator α} (h : a.Filed l) (dt : Duration) :
    Filed { a with active := file ((nextAll dt l).filter fun e => !isDone e.2) }
      ((nextAll dt l).filter fun e => !isDone e.2) :=
  ⟨rfl, (pairwise_nextAll h.sorted dt).filter _⟩

theorem Filed.find?_afterFrame {a : Animator α} (h : a.Filed l) (dt : Duration) (b : t.Box) :
    find? { a with active := file ((nextAll dt l).filter fun e => !isDone e.2) } (t.nameOf b) =
      (a.find? (t.nameOf b)).bind fun tr =>
        if isDone (tr.next dt) then none else some (tr.next dt) := by
  refine Option.ext fun tr' => ?_
  rw [(h.afterFrame dt).find?_eq_some_iff, Option.bind_eq_some_iff, List.mem_filter, mem_nextAll]
  simp only [h.find?_eq_some_iff, Bool.not_eq_true']
  constructor
  · rintro ⟨⟨tr, htr, rfl⟩, hdone⟩
    exact ⟨tr, htr, by rw [hdone]; rfl⟩
  · rintro ⟨tr, htr, heq⟩
    by_cases hdone : isDone (tr.next dt) = true
    · rw [if_pos hdone] at heq
      cases heq
    · rw [if_neg hdone] at heq
      cases heq
      exact ⟨⟨tr, htr, rfl⟩, Bool.eq_false_iff.2 hdone⟩

/-- An inserted transition takes the place of that under the same name, or a new one in order. -/
theorem insert_file (h : l.Pairwise fun d e => d.1 < e.1) (b : t.Box) (tr : Transition α) :
    ∃ l', insert (t.nameOf b) tr (file l) = file l' ∧ (l'.Pairwise fun d e => d.1 < e.1) ∧
      ∀ e, e ∈ l' ↔ e = (b, tr) ∨ e.1 ≠ b ∧ e ∈ l := by
  induction l with
  | nil => exact ⟨[(b, tr)], rfl, List.pairwise_singleton _ _, by simp⟩
  | cons e l ih =>
    obtain ⟨c, tr'⟩ := e
    obtain ⟨hlt, hsorted⟩ := List.pairwise_cons.1 h
    have hins : insert (t.nameOf b) tr (file ((c, tr') :: l)) =
        if c = b then file ((b, tr) :: l)
        else if b < c then file ((b, tr) :: (c, tr') :: l)
        else (t.nameOf c, tr') :: insert (t.nameOf b) tr (file l) := by
      simp only [← BoxTree.nameOf_inj, ← BoxTree.before_nameOf]
      rfl
    rw [hins]
    by_cases hcb : c = b
    · subst hcb
      refine ⟨(c, tr) :: l, if_pos rfl, List.pairwise_cons.2 ⟨hlt, hsorted⟩, fun e => ?_⟩
      have hne : ∀ e ∈ l, e.1 ≠ c := fun e he => Fin.ne_of_gt (hlt e he)
      grind
    · rw [if_neg hcb]
      by_cases hbc : b < c
      · have hall : ∀ e ∈ (c, tr') :: l, b < e.1 := by
          intro e he
          rcases List.mem_cons.1 he with rfl | he
          · exact hbc
          · exact Fin.lt_trans hbc (hlt e he)
        refine ⟨(b, tr) :: (c, tr') :: l, if_pos hbc, List.pairwise_cons.2 ⟨hall, h⟩, fun e => ?_⟩
        have hne : ∀ e ∈ (c, tr') :: l, e.1 ≠ b := fun e he => Fin.ne_of_gt (hall e he)
        grind
      · obtain ⟨l', hl', hsorted', hmem⟩ := ih hsorted
        refine ⟨(c, tr') :: l', ?_, List.pairwise_cons.2 ⟨?_, hsorted'⟩, fun e => ?_⟩
        · rw [if_neg hbc, hl']
          rfl
        · intro e he
          rcases (hmem e).1 he with rfl | ⟨-, he⟩
          · exact Nat.lt_of_le_of_ne (Nat.le_of_not_lt hbc) fun heq => hcb (Fin.ext heq)
          · exact hlt e he
        · grind

/-- A new transition takes the place of the one on its box and leaves the others. -/
theorem Filed.insert {a : Animator α} (h : a.Filed l) (b : t.Box) (tr : Transition α) :
    ∃ l' : List (t.Box × Transition α),
      Filed { a with active := Animator.insert (t.nameOf b) tr a.active } l' ∧
      find? { a with active := Animator.insert (t.nameOf b) tr a.active } (t.nameOf b) = some tr ∧
      ∀ c ≠ b, find? { a with active := Animator.insert (t.nameOf b) tr a.active } (t.nameOf c) =
        a.find? (t.nameOf c) := by
  obtain ⟨l', hinsert, hsorted, hmem⟩ := insert_file h.sorted b tr
  have hl' : Filed { a with active := Animator.insert (t.nameOf b) tr a.active } l' :=
    ⟨by rw [h.active]; exact hinsert, hsorted⟩
  refine ⟨l', hl', hl'.find?_eq_some_iff.2 ((hmem _).2 (.inl rfl)), fun c hc => ?_⟩
  refine Option.ext fun tr' => ?_
  rw [hl'.find?_eq_some_iff, h.find?_eq_some_iff, hmem]
  simp [hc]

/-- Those that arrive in a frame are those whose next transition is done. -/
theorem Filed.mem_arrived {a : Animator α} (h : a.Filed l) (dt : Duration) (b : t.Box) :
    t.nameOf b ∈ ((nextAll dt l).filter fun e => isDone e.2).map (fun e => t.nameOf e.1) ↔
      ∃ tr, a.find? (t.nameOf b) = some tr ∧ isDone (tr.next dt) = true := by
  simp only [h.find?_eq_some_iff]
  simp [nextAll]

theorem Filed.nodup_arrived {a : Animator α} (h : a.Filed l) (dt : Duration) :
    (((nextAll dt l).filter fun e => isDone e.2).map fun e => t.nameOf e.1).Nodup :=
  List.pairwise_map.2 (((pairwise_nextAll h.sorted dt).filter _).imp fun hlt heq =>
    Fin.ne_of_lt hlt (t.nameOf_inj.1 heq))

end Animator

variable [Scalar α]

namespace Tween

/-- A pin shows a tween: its value or, before the first frame, its start. -/
def Shown (w : Tween α) (pin : Option α) : Prop :=
  pin = some w.value ∨ pin = some w.start ∧ w.elapsed.nanos = 0

/-- Both ends of a tween have been raised to a least number. -/
def Raised (least : α) (w : Tween α) : Prop :=
  (∃ x, w.start = Scalar.max x least) ∧ ∃ x, w.goal = Scalar.max x least

end Tween

/-! ## Stages of boxes -/

/-- A box on its way and the transition that carries it. -/
structure Transition.Carries (span : Nat) (least : α) (d : Direction) (elapsed : Nat)
    (tr : Transition α) (p : BoxPins α) : Prop where
  direction : tr.direction = d
  elapsed_lt : elapsed < span
  hidden : p.hidden = false
  minWidth : p.minWidth = some least
  width : ∃ w, tr.width = some w ∧ w.Runs span elapsed ∧ w.Raised least ∧ w.Shown p.explicitWidth
  height : ∃ h, tr.height = some h ∧ h.Runs span elapsed ∧ h.Shown p.childrenHeight

/-- The transition of a box, if it has one, and its pins show that the box is at a stage. -/
def Stage.Fits (span : Nat) (least : α) (tr : Option (Transition α)) (p : BoxPins α) : Stage → Prop
  | .resting hidden => tr = none ∧ p = { hidden := hidden, minWidth := some least }
  | .moving d elapsed => ∃ tr', tr = some tr' ∧ tr'.Carries span least d elapsed p

namespace Stage.Fits

variable {span : Nat} {least : α} {p : BoxPins α} {s : Stage}

theorem minWidth {tr : Option (Transition α)} (h : s.Fits span least tr p) :
    p.minWidth = some least := by
  cases s with
  | resting hidden => rw [h.2]
  | moving d elapsed =>
    obtain ⟨tr', -, htr⟩ := h
    exact htr.minWidth

theorem exists_carries {tr : Transition α} (h : s.Fits span least (some tr) p) :
    ∃ d elapsed, s = .moving d elapsed ∧ tr.Carries span least d elapsed p := by
  cases s with
  | resting hidden => cases h.1
  | moving d elapsed =>
    obtain ⟨tr', heq, htr⟩ := h
    cases heq
    exact ⟨d, elapsed, rfl, htr⟩

/-- A transition runs on, or both of its tweens have arrived. -/
theorem isDone_next {tr : Transition α} (h : s.Fits span least (some tr) p) (dt : Duration) :
    Animator.isDone (tr.next dt) = s.arrives span dt.nanos ∧
      (¬Animator.isDone (tr.next dt) → (tr.next dt).width.isSome ∧ (tr.next dt).height.isSome) := by
  obtain ⟨d, elapsed, rfl, htr⟩ := h.exists_carries
  obtain ⟨w, hw, hruns, -, -⟩ := htr.width
  obtain ⟨h, hh, hruns', -⟩ := htr.height
  simp only [Animator.isDone, Transition.next, hw, hh, Option.bind_some, hruns.next, hruns'.next,
    arrives]
  by_cases hdone : span ≤ elapsed + dt.nanos <;> simp [hdone]

/-- One frame moves a box on its way to its next stage. -/
theorem frame {tr : Transition α} (h : s.Fits span least (some tr) p) (dt : Duration) :
    (s.frame span dt.nanos).Fits span least
      (if Animator.isDone (tr.next dt) then none else some (tr.next dt)) (tr.carry dt p) := by
  have hdone := (h.isDone_next dt).1
  obtain ⟨d, elapsed, rfl, htr⟩ := h.exists_carries
  obtain ⟨w, hw, hruns, hraised, -⟩ := htr.width
  obtain ⟨h, hh, hruns', -⟩ := htr.height
  rw [hdone]
  unfold Stage.frame arrives Transition.carry Transition.carryWidth Transition.carryHeight
  simp only [hw, hh, hruns.next, hruns'.next]
  by_cases harrive : span ≤ elapsed + dt.nanos
  · simp only [harrive, decide_true, ↓reduceIte]
    refine ⟨rfl, ?_⟩
    simp [Animator.release, htr.hidden, htr.minWidth, htr.direction]
  · simp only [harrive, decide_false, ↓reduceIte, Bool.false_eq_true]
    refine ⟨_, rfl, htr.direction, Nat.lt_of_not_le harrive, htr.hidden, htr.minWidth, ?_, ?_⟩
    · refine ⟨w.tick dt, ?_, hruns.tick_of_lt dt harrive, hraised, .inl rfl⟩
      simp [Transition.next, hw, hruns.next, harrive]
    · refine ⟨h.tick dt, ?_, hruns'.tick_of_lt dt harrive, .inl rfl⟩
      simp [Transition.next, hh, hruns'.next, harrive]

end Stage.Fits

namespace Animator

variable {t : BoxTree} {ht : t.Tidy} {measure : Measurer α} {a : Animator α} {p : Pins α t}
  {stage : BoxId → Stage}

def span (a : Animator α) : Nat := max a.duration.nanos 1

omit [Scalar α] in
theorem span_pos : 0 < a.span := Nat.le_max_right ..

/-- Transitions, pins and fragments of a board fit together, and the boxes are at these stages. -/
structure Steady (ht : t.Tidy) (measure : Measurer α) (a : Animator α) (p : Pins α t)
    (stage : BoxId → Stage) : Prop where
  filed : ∃ l, a.Filed (t := t) l
  dependents : ∀ b tr, a.find? (t.nameOf b) = some tr →
    tr.dependents = (t.dependents b).map t.nameOf
  fits : ∀ b, (stage (t.nameOf b)).Fits a.span (ht.textWidth measure b) (a.find? (t.nameOf b))
    (p.box b)
  follows : ∀ x, (∃ b, (stage (t.nameOf b)).isMoving ∧ x ∈ t.dependents b) ∨ p.Follows ht measure x
  bare : ∀ f, (∀ b, ht.input b ≠ f) → (p.piece f).minWidth = none

namespace Steady

theorem established (h : Widths.Established ht measure p) (ha : a.active = []) :
    a.Steady ht measure p fun _ => .resting false where
  filed := ⟨[], ha, .nil⟩
  dependents b tr htr := by simp [find?, ha] at htr
  fits b := by
    refine ⟨by simp [find?, ha], ?_⟩
    rw [h.box, ht.width_inputSize]
  follows x := .inr (h.follows x)
  bare := h.bare

theorem congr (h : a.Steady ht measure p stage) {stage' : BoxId → Stage}
    (hstage : ∀ b, stage' (t.nameOf b) = stage (t.nameOf b)) :
    a.Steady ht measure p stage' where
  filed := h.filed
  dependents := h.dependents
  fits b := by
    rw [hstage]
    exact h.fits b
  follows x := by
    simp only [hstage]
    exact h.follows x
  bare := h.bare

theorem minWidth_ne_none (h : a.Steady ht measure p stage) (b : t.Box) :
    (p.box b).minWidth ≠ none := by
  rw [(h.fits b).minWidth]
  exact Option.some_ne_none _

/-- A box rests, and nothing holds it, or it is on its way, and a transition carries it. -/
theorem resting_or_moving (h : a.Steady ht measure p stage) (b : t.Box) :
    (∃ hidden, stage (t.nameOf b) = .resting hidden ∧ a.find? (t.nameOf b) = none ∧
      p.box b = { hidden := hidden, minWidth := some (ht.textWidth measure b) }) ∨
    ∃ d elapsed tr, stage (t.nameOf b) = .moving d elapsed ∧ a.find? (t.nameOf b) = some tr ∧
      tr.Carries a.span (ht.textWidth measure b) d elapsed (p.box b) := by
  have hfits := h.fits b
  cases hs : stage (t.nameOf b) with
  | resting hidden =>
    rw [hs] at hfits
    exact .inl ⟨hidden, rfl, hfits.1, hfits.2⟩
  | moving d elapsed =>
    rw [hs] at hfits
    obtain ⟨tr, htr, hcarries⟩ := hfits
    exact .inr ⟨d, elapsed, tr, rfl, htr, hcarries⟩

theorem isMoving_iff (h : a.Steady ht measure p stage) (b : t.Box) :
    (stage (t.nameOf b)).isMoving = true ↔ ∃ tr, a.find? (t.nameOf b) = some tr := by
  rcases h.resting_or_moving b with ⟨hidden, hs, hnone, -⟩ | ⟨d, elapsed, tr, hs, htr, -⟩
  · simp [hs, hnone, Stage.isMoving]
  · simp [hs, htr, Stage.isMoving]

theorem isIdle_iff (h : a.Steady ht measure p stage) :
    a.isIdle = true ↔ ∀ b, (stage (t.nameOf b)).isMoving = false := by
  obtain ⟨l, hl⟩ := h.filed
  have hidle : a.isIdle = true ↔ l = [] := by
    rw [isIdle, hl.active, file, List.isEmpty_iff, List.map_eq_nil_iff]
  have hrest : ∀ b, (stage (t.nameOf b)).isMoving = false ↔ ∀ tr, (b, tr) ∉ l := fun b => by
    rw [Bool.eq_false_iff, ne_eq, h.isMoving_iff]
    simp only [hl.find?_eq_some_iff, not_exists]
  rw [hidle, List.eq_nil_iff_forall_not_mem]
  simp only [hrest, Prod.forall]

theorem follows_of_isIdle (h : a.Steady ht measure p stage) (hidle : a.isIdle = true) (x : t.Box) :
    p.Follows ht measure x := by
  rcases h.follows x with ⟨b, hb, -⟩ | hx
  · exact absurd hb (Bool.eq_false_iff.1 (h.isIdle_iff.1 hidle b))
  · exact hx

/-- At rest the stage of a box decides all its pins. -/
theorem box_of_isIdle (h : a.Steady ht measure p stage) (hidle : a.isIdle = true) (b : t.Box) :
    p.box b = { hidden := (stage (t.nameOf b)).headsDown
                minWidth := some (ht.textWidth measure b) } := by
  rcases h.resting_or_moving b with ⟨hidden, hs, -, hp⟩ | ⟨d, elapsed, tr, hs, -, -⟩
  · rw [hp, hs]
    rfl
  · have hrest := h.isIdle_iff.1 hidle b
    rw [hs] at hrest
    cases hrest

theorem stateOf (h : a.Steady ht measure p stage) (b : t.Box) :
    a.stateOf p (t.nameOf b) = .ok (stage (t.nameOf b)).state := by
  unfold Animator.stateOf
  rcases h.resting_or_moving b with ⟨hidden, hs, hnone, hp⟩ | ⟨d, elapsed, tr, hs, htr, hcarries⟩
  · rw [hs, hnone, t.locate_nameOf]
    show Except.ok (ToggleState.settled (p.box b).hidden) = _
    rw [hp]
    rfl
  · rw [hs, htr, Stage.state, ← hcarries.direction]
    rfl

/-- A toggle turns the stage of one box, and says so. -/
theorem toggle_stage (h : a.Steady ht measure p stage) (b : t.Box) :
    (stage (t.nameOf b)).toggle = .moving (a.nextDirection p b) 0 := by
  unfold nextDirection
  rcases h.resting_or_moving b with ⟨hidden, hs, hnone, hp⟩ | ⟨d, elapsed, tr, hs, htr, hcarries⟩
  · rw [hs, hnone, hp]
    rfl
  · rw [hs, htr, ← hcarries.direction]
    rfl

theorem highlight (h : a.Steady ht measure p stage) (f : t.Piece) (on : Bool) :
    a.Steady ht measure (p.modifyPiece f ({ · with highlighted := on })) stage := by
  have hpiece : ∀ g, ((p.modifyPiece f ({ · with highlighted := on })).piece g).minWidth =
      (p.piece g).minWidth := by
    intro g
    rw [Pins.piece_modifyPiece]
    split
    · next heq => rw [heq]
    · rfl
  refine ⟨h.filed, h.dependents, h.fits, fun x => ?_, fun g hg => (hpiece g).trans (h.bare g hg)⟩
  exact (h.follows x).imp_right fun hx => hx.congr (fun _ => .rfl) (hpiece _)

/-- The children of a toggled box are shown, until a collapse has come to its end. -/
theorem hidden_hold (h : a.Steady ht measure p stage) (b : t.Box) :
    ((p.box b).hidden && (a.nextDirection p b = .collapse : Bool)) = false := by
  unfold nextDirection
  rcases h.resting_or_moving b with ⟨hidden, -, hnone, hp⟩ | ⟨d, elapsed, tr, -, -, hcarries⟩
  · rw [hnone, hp]
    cases hidden <;> rfl
  · rw [hcarries.hidden, Bool.false_and]

theorem toggle (h : a.Steady ht measure p stage) (b : t.Box) :
    ∃ q active, (a.toggle measure p (t.nameOf b)).Yields
      (a.nextDirection p b, q, { a with active := active }) ∧
        Steady ht measure { a with active := active } q
          (fun id => if id = t.nameOf b then (stage id).toggle else stage id) ∧
        q.pieces = p.pieces ∧
        find? { a with active := active } (t.nameOf b) = some (a.started measure p b
          (Scalar.max (a.goal measure p b).1 (ht.textWidth measure b)) (a.goal measure p b).2) := by
  let tr := a.started measure p b
    (Scalar.max (a.goal measure p b).1 (ht.textWidth measure b)) (a.goal measure p b).2
  obtain ⟨l, hl⟩ := h.filed
  obtain ⟨l', hl', hnew, hold⟩ := hl.insert b tr
  refine ⟨_, _, toggle_yields ht measure a p b, ?_, rfl, hnew⟩
  have hchanged : ChangedAt ht b p (a.held measure p b) := .modifyBox _
  refine ⟨⟨l', hl'⟩, ?_, ?_, ?_, ?_⟩
  · intro c tr' htr'
    by_cases hc : c = b
    · subst hc
      rw [← Option.some.inj (hnew.symm.trans htr')]
      rfl
    · exact h.dependents c tr' (hold c hc ▸ htr')
  · intro c
    by_cases hc : c = b
    · subst hc
      rw [if_pos rfl, h.toggle_stage, hnew, held, Pins.box_modifyBox, if_pos rfl]
      refine ⟨tr, rfl, rfl, span_pos, ?_, (h.fits c).minWidth, ?_, ?_⟩
      · exact h.hidden_hold c
      · refine ⟨_, rfl, Tween.runs_begin _ _ _ _, ⟨?_, _, rfl⟩, .inr ⟨rfl, rfl⟩⟩
        exact Layout.exists_renderedWidth_eq_max (h.fits c).minWidth
      · exact ⟨_, rfl, Tween.runs_begin _ _ _ _, .inr ⟨rfl, rfl⟩⟩
    -- the other boxes keep their pins, their transitions and their stages
    · rw [if_neg fun heq => hc (t.nameOf_inj.1 heq), hold c hc, hchanged.box c hc]
      exact h.fits c
  · intro x
    -- where a fragment depends on the box it may lag behind, as that is on its way now
    by_cases hmem : x ∈ t.dependents b
    · refine .inl ⟨b, ?_, hmem⟩
      rw [if_pos rfl, h.toggle_stage]
      rfl
    · rcases h.follows x with ⟨c, hc, hx⟩ | hx
      · have hne : t.nameOf c ≠ t.nameOf b := fun heq => hmem (t.nameOf_inj.1 heq ▸ hx)
        exact .inl ⟨c, by rwa [if_neg hne], hx⟩
      · exact .inr (hchanged.follows hmem hx)
  · intro f hf
    rw [hchanged.bare f hf]
    exact h.bare f hf

/-- What a frame does to the board: each transition carries its box, all fragments come to follow,
and nothing else changes. -/
theorem frame_yields (h : a.Steady ht measure p stage) {l : List (t.Box × Transition α)}
    (hl : a.Filed l) (dt : Duration) :
    ∃ q, (a.tick measure p dt).Yields
        (((nextAll dt l).filter fun e => isDone e.2).map fun e => t.nameOf e.1, q,
          { a with active := file ((nextAll dt l).filter fun e => !isDone e.2) }) ∧
      (∀ b, q.box b = (a.find? (t.nameOf b)).elim (p.box b) fun tr => tr.carry dt (p.box b)) ∧
      (∀ x, q.Follows ht measure x) ∧
      (∀ f, (∀ b, ht.input b ≠ f) → q.piece f = p.piece f) ∧
      ∀ f, (q.piece f).highlighted = (p.piece f).highlighted := by
  have hstep : ∀ e ∈ l, ¬isDone (e.2.next dt) →
      (e.2.next dt).width.isSome ∧ (e.2.next dt).height.isSome := by
    intro e he
    have hfits := h.fits e.1
    rw [hl.find?_eq_some_iff.2 he] at hfits
    exact (hfits.isDone_next dt).2
  obtain ⟨r, q, boxes, hyields, hadv, hre, hboxes⟩ := tick_yields ht measure a dt l hl.active
    (nodup_of_sorted hl.sorted) (fun e he => h.dependents e.1 e.2 (hl.find?_eq_some_iff.2 he)) hstep
    p h.minWidth_ne_none
  refine ⟨q, hyields, fun b => ?_, fun x => ?_, fun f hf => ?_,
    fun f => (hre.lit f).trans (hadv.lit f)⟩
  · rw [hre.box]
    cases hb : a.find? (t.nameOf b) with
    | some tr => exact hadv.box (b, tr) (hl.find?_eq_some_iff.1 hb)
    | none =>
      refine hadv.others b ?_
      have hnot : ¬∃ tr, a.find? (t.nameOf b) = some tr := by simp [hb]
      simpa only [List.mem_map, Prod.exists, exists_and_right, exists_eq_right,
        hl.find?_eq_some_iff] using hnot
  -- what lagged behind depends on a box on its way, so this frame mends it
  · have hx : (∃ e ∈ l, x ∈ t.dependents e.1) ∨ p.Follows ht measure x := by
      refine (h.follows x).imp_left ?_
      rintro ⟨b, hb, hx⟩
      obtain ⟨tr, htr⟩ := (h.isMoving_iff b).1 hb
      exact ⟨(b, tr), hl.find?_eq_some_iff.1 htr, hx⟩
    exact hre.follows ((hadv.follows x hx).imp_left (hboxes x).2)
  · rw [hre.outside f fun b _ => hf b, hadv.bare f hf]

/-- A frame keeps the invariant, brings to rest what has arrived, and makes all fragments follow. -/
theorem tick (h : a.Steady ht measure p stage) (dt : Duration) :
    ∃ done q active, (a.tick measure p dt).Yields (done, q, { a with active := active }) ∧
      Steady ht measure { a with active := active } q
        (fun id => (stage id).frame a.span dt.nanos) ∧
      (∀ x, q.Follows ht measure x) ∧
      (∀ f, (q.piece f).highlighted = (p.piece f).highlighted) ∧ done.Nodup ∧
      ∀ b, t.nameOf b ∈ done ↔ (stage (t.nameOf b)).arrives a.span dt.nanos = true := by
  obtain ⟨l, hl⟩ := h.filed
  have hfits : ∀ b tr, a.find? (t.nameOf b) = some tr → (stage (t.nameOf b)).Fits a.span
      (ht.textWidth measure b) (some tr) (p.box b) := fun b tr htr => htr ▸ h.fits b
  have harrives : ∀ b tr, a.find? (t.nameOf b) = some tr → isDone (tr.next dt) =
      (stage (t.nameOf b)).arrives a.span dt.nanos := fun b tr htr =>
    ((hfits b tr htr).isDone_next dt).1
  obtain ⟨q, hyields, hbox, hfollows, hbare, hlit⟩ := h.frame_yields hl dt
  have hfiled := hl.afterFrame dt
  refine ⟨_, q, _, hyields, ⟨⟨_, hfiled⟩, ?_, ?_, fun x => .inr (hfollows x), ?_⟩, hfollows,
    hlit, hl.nodup_arrived dt, ?_⟩
  · intro b tr htr
    have hmem := List.mem_of_mem_filter (hfiled.find?_eq_some_iff.1 htr)
    obtain ⟨e, he, heq⟩ := List.mem_map.1 hmem
    cases heq
    exact h.dependents e.1 e.2 (hl.find?_eq_some_iff.2 he)
  · intro b
    rw [hbox, hl.find?_afterFrame]
    cases hb : a.find? (t.nameOf b) with
    | some tr => exact (hfits b tr hb).frame dt
    -- a box without a transition is at rest, and a frame does nothing to it
    | none =>
      have hnot : ¬∃ tr, a.find? (t.nameOf b) = some tr := by simp [hb]
      have hrest : (stage (t.nameOf b)).frame a.span dt.nanos = stage (t.nameOf b) :=
        Stage.frame_of_not_isMoving ((h.isMoving_iff b).not.2 hnot)
      have hfit := h.fits b
      rw [hb] at hfit
      rw [hrest]
      exact hfit
  · intro f hf
    rw [hbare f hf]
    exact h.bare f hf
  · intro b
    rw [hl.mem_arrived]
    constructor
    · rintro ⟨tr, htr, hdone⟩
      rwa [← harrives b tr htr]
    · intro harrive
      obtain ⟨tr, htr⟩ := (h.isMoving_iff b).1 (Stage.isMoving_of_arrives harrive)
      exact ⟨tr, htr, (harrives b tr htr).trans harrive⟩

end Steady

end Animator

end ParseBoxes
