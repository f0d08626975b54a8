import ParseBoxes.Proofs.Session.Runs

/-!
# Transitions and board stay in step

Transitions are kept by the names of their boxes, apart from the board on which the boxes stand, and
so is the hovered box.  All the same no name is ever out of date, and the board holds a box just as
long as a transition carries it (`Session.InStep`).  So whatever is asked of a session, no name that
the session itself keeps leads off the board.
-/

namespace ParseBoxes

variable {α : Type}

/-- Both tweens of a transition run, are equally far on, and have not arrived. -/
def Transition.IsRunning (tr : Transition α) : Prop :=
  ∃ w h, tr.width = some w ∧ tr.height = some h ∧ w.elapsed = h.elapsed ∧
    w.elapsed.nanos < w.duration.nanos ∧ h.elapsed.nanos < h.duration.nanos

namespace Animator

theorem mem_animating {a : Animator α} {id : BoxId} :
    id ∈ a.animating ↔ (a.find? id).isSome = true := by
  rw [find?, Option.isSome_map, List.find?_isSome, animating, List.mem_map]
  simp only [decide_eq_true_eq]

theorem Filed.exists_of_mem_active {t : BoxTree} {l : List (t.Box × Transition α)} {a : Animator α}
    (h : a.Filed l) {e : BoxId × Transition α} (he : e ∈ a.active) :
    ∃ b, t.nameOf b = e.1 ∧ a.find? (t.nameOf b) = some e.2 := by
  rw [h.active] at he
  obtain ⟨⟨b, tr⟩, hmem, rfl⟩ := List.mem_map.1 he
  exact ⟨b, rfl, h.find?_eq_some_iff.2 hmem⟩

end Animator

variable [Scalar α]

theorem Tween.Shown.isSome {w : Tween α} {pin : Option α} (h : w.Shown pin) :
    pin.isSome = true := by
  rcases h with rfl | ⟨rfl, -⟩ <;> rfl

/-- A transition that carries a box has two tweens in step, neither of which is over. -/
theorem Transition.Carries.isRunning {span elapsed : Nat} {least : α} {d : Direction}
    {tr : Transition α} {p : BoxPins α} (h : tr.Carries span least d elapsed p) : tr.IsRunning := by
  obtain ⟨w, hw, hruns, -, -⟩ := h.width
  obtain ⟨h', hh, hruns', -⟩ := h.height
  refine ⟨w, h', hw, hh, Duration.ext (hruns.elapsed.trans hruns'.elapsed.symm), ?_, ?_⟩
  · rw [hruns.elapsed, hruns.duration]
    exact h.elapsed_lt
  · rw [hruns'.elapsed, hruns'.duration]
    exact h.elapsed_lt

/-- A box is held in both directions as long as it has a transition. -/
theorem Stage.Fits.isSome_eq {span : Nat} {least : α} {tr : Option (Transition α)} {p : BoxPins α}
    {s : Stage} (h : s.Fits span least tr p) :
    p.explicitWidth.isSome = tr.isSome ∧ p.childrenHeight.isSome = tr.isSome := by
  cases s with
  | resting hidden =>
    obtain ⟨rfl, rfl⟩ := h
    exact ⟨rfl, rfl⟩
  | moving d elapsed =>
    obtain ⟨tr', rfl, hcarries⟩ := h
    obtain ⟨w, -, -, -, hwidth⟩ := hcarries.width
    obtain ⟨h', -, -, hheight⟩ := hcarries.height
    exact ⟨hwidth.isSome, hheight.isSome⟩

namespace Session

open Run

/-- Transitions and the hovered box are named by boxes of the board on show.  The board holds just
the boxes that are on their way, and such a box shows its children. -/
structure InStep (s : Session α) : Prop where
  active : ∀ e ∈ s.animator.active, s.board.tree.contains e.1 = true ∧ e.2.IsRunning
  hovered : ∀ id, s.hovered = some id → s.board.tree.contains id = true
  explicitWidth : ∀ b, s.board.tree.nameOf b ∈ s.animator.animating ↔
    (s.board.pins.box b).explicitWidth.isSome = true
  childrenHeight : ∀ b, s.board.tree.nameOf b ∈ s.animator.animating ↔
    (s.board.pins.box b).childrenHeight.isSome = true
  shown : ∀ b, s.board.tree.nameOf b ∈ s.animator.animating → (s.board.pins.box b).hidden = false

variable {s : Session α} {stage : BoxId → Stage}

theorem Sound.exists_carries (hs : s.Sound stage) {b : s.board.tree.Box} {tr : Transition α}
    (htr : s.animator.find? (s.board.tree.nameOf b) = some tr) :
    ∃ d elapsed, tr.Carries s.animator.span (hs.tidy.textWidth s.measure b) d elapsed
      (s.board.pins.box b) := by
  have hfits := hs.steady.fits b
  rw [htr] at hfits
  obtain ⟨d, elapsed, -, hcarries⟩ := hfits.exists_carries
  exact ⟨d, elapsed, hcarries⟩

theorem Sound.inStep (hs : s.Sound stage) : s.InStep where
  active e he := by
    obtain ⟨l, hl⟩ := hs.steady.filed
    obtain ⟨b, hb, htr⟩ := hl.exists_of_mem_active he
    obtain ⟨d, elapsed, hcarries⟩ := hs.exists_carries htr
    exact ⟨BoxTree.contains_iff.2 ⟨b, hb.symm⟩, hcarries.isRunning⟩
  hovered id hid := by
    obtain ⟨b, hb⟩ := hs.hovered id hid
    exact BoxTree.contains_iff.2 ⟨b, hb.symm⟩
  explicitWidth b := by rw [Animator.mem_animating, (hs.steady.fits b).isSome_eq.1]
  childrenHeight b := by rw [Animator.mem_animating, (hs.steady.fits b).isSome_eq.2]
  shown b hb := by
    obtain ⟨tr, htr⟩ := Option.isSome_iff_exists.1 (Animator.mem_animating.1 hb)
    obtain ⟨d, elapsed, hcarries⟩ := hs.exists_carries htr
    exact hcarries.hidden

/-- The state of any name can be asked for. -/
theorem Sound.exists_state (hs : s.Sound stage) (id : BoxId) :
    ∃ answer, (s.state id).Yields answer := by
  rcases check_yields_cases s id with ⟨b, rfl⟩ | ⟨-, e, he⟩
  · exact ⟨_, hs.state b⟩
  · exact ⟨.error e, .bind he (.pure _)⟩

theorem snapshot_yields (s : Session α) : ∃ frame, s.snapshot.Yields frame :=
  ⟨_, .bind (look_yields _ _) (.pure _)⟩

/-- **Transitions and board stay in step.**  Whatever happens to a session, named by whatever names
and at whatever points: it comes to its end without fault, and so does every question that is asked
then.  At all times transitions and the hovered box are named by boxes on show; a box has a
transition just if its width is held and just if its height is held; and it then shows its children
while both tweens of the transition run, equally far on. -/
theorem transitions_in_step (measure : Measurer α) (config : Config α) (registry : GrammarRegistry)
    (es : List (Event α)) :
    ∃ h s, ((begin measure config registry).performAll es).Yields (h, s) ∧ s.InStep ∧
      (∀ id, ∃ answer, (s.state id).Yields answer) ∧
      (∀ x y, ∃ answer, (s.hit x y).Yields answer) ∧ ∃ frame, s.snapshot.Yields frame := by
  have hbegin := sound_begin measure config registry
  obtain ⟨h, s, hyields, run⟩ := hbegin.performAll es
  have hs := run.sound hbegin
  refine ⟨h, s, hyields, hs.inStep, hs.exists_state, fun x y => ?_, s.snapshot_yields⟩
  obtain ⟨b, hb⟩ := s.hit_yields x y
  exact ⟨_, hb⟩

end Session

end ParseBoxes
