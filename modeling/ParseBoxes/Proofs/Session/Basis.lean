import ParseBoxes.Proofs.Session.Runs

/-!
# What no event changes

A session keeps what it was begun with: the measurer, the settings, and the grammars that its parses
start with (`Session.SameBasis`).  This is so of every result of an event, and needs no invariant.
-/

namespace ParseBoxes

variable {α : Type}

open Run

/-- Two sessions with the same measurer and settings that start their parses with the same
grammars. -/
structure Session.SameBasis (s s' : Session α) : Prop where
  config : s'.config = s.config
  measure : s'.measure = s.measure
  pristine : s'.pristine = s.pristine
  duration : s'.animator.duration = s.animator.duration
  easing : s'.animator.easing = s.animator.easing

theorem Session.SameBasis.refl (s : Session α) : SameBasis s s := ⟨rfl, rfl, rfl, rfl, rfl⟩

theorem Session.SameBasis.symm {s s' : Session α} (h : SameBasis s s') : SameBasis s' s :=
  ⟨h.config.symm, h.measure.symm, h.pristine.symm, h.duration.symm, h.easing.symm⟩

theorem Session.SameBasis.trans {s s' s'' : Session α} (h : SameBasis s s')
    (h' : SameBasis s' s'') : SameBasis s s'' where
  config := h'.config.trans h.config
  measure := h'.measure.trans h.measure
  pristine := h'.pristine.trans h.pristine
  duration := h'.duration.trans h.duration
  easing := h'.easing.trans h.easing

namespace Animator

variable {t : BoxTree} (measure : Measurer α) (a : Animator α)

theorem cancelAll_ensures :
    a.cancelAll.Ensures fun a' => a'.duration = a.duration ∧ a'.easing = a.easing :=
  fun j a' j' hrun => by
    obtain ⟨j₁, hyields⟩ := Session.cancelAll_yields a j
    rw [hrun] at hyields
    cases hyields
    exact ⟨rfl, rfl⟩

variable [Scalar α] (pins : Pins α t)

/-- A toggle does not change the settings of the animator, be it refused or not. -/
theorem toggle_ensures (id : BoxId) : (a.toggle measure pins id).Ensures fun r =>
    r.2.2.duration = a.duration ∧ r.2.2.easing = a.easing := by
  unfold Animator.toggle
  refine .after fun b => .after fun children => .after fun label => .after fun text => ?_
  exact .after fun size => .after fun _ => .pure ⟨rfl, rfl⟩

theorem tick_ensures (dt : Duration) : (a.tick measure pins dt).Ensures fun r =>
    r.2.2.duration = a.duration ∧ r.2.2.easing = a.easing := by
  unfold Animator.tick
  exact .after fun _ => .after fun _ => .pure ⟨rfl, rfl⟩

end Animator

namespace Session

variable [Scalar α] (s : Session α)

/-- A tree built anew is measured and configured as the one before. -/
theorem rebuild_ensures (trace : List TraceNode) (outcome : MatchOutcome) :
    (s.rebuild trace outcome).Ensures (SameBasis s) := by
  unfold Session.rebuild
  refine .bind s.animator.cancelAll_ensures fun animator hpace => ?_
  refine .after fun _ => .after fun _ => .after fun pins => .after fun _ => .pure ?_
  exact ⟨rfl, rfl, rfl, hpace.1, hpace.2⟩

/-- A refresh keeps the basis, whether it ends in a new tree or in an error. -/
theorem refresh_ensures (engine : Engine) (grammar input start : String) :
    (s.refresh engine grammar input start).Ensures fun r => SameBasis s r.2 := by
  let s₁ : Session α := { s with registry := (engine.run s.pristine grammar input start).2 }
  have hs₁ : SameBasis s s₁ := ⟨rfl, rfl, rfl, rfl, rfl⟩
  unfold Session.refresh
  refine .after fun _ => ?_
  cases hextract : Engine.extract (engine.run s.pristine grammar input start).1 with
  | ok result =>
    simp only [hextract]
    exact .bind (s₁.rebuild_ensures result.2 result.1) fun s' hs' => .pure (hs₁.trans hs')
  | error e =>
    simp only [hextract]
    exact .after fun _ => .pure hs₁

theorem toggle_ensures (id : BoxId) : (s.toggle id).Ensures fun r => SameBasis s r.2 := by
  unfold Session.toggle
  refine .bind (s.animator.toggle_ensures s.measure s.board.pins id) fun r hpace => .pure ?_
  exact ⟨rfl, rfl, rfl, hpace.1, hpace.2⟩

theorem click_ensures (id : BoxId) : (s.click id).Ensures fun r => SameBasis s r.2 := by
  unfold Session.click
  refine .after fun checked => ?_
  cases checked with
  | error e => exact .pure (.refl s)
  | ok b => exact .bind (s.toggle_ensures id) fun r hr => .pure hr

theorem clickAt_ensures (x y : α) : (s.clickAt x y).Ensures fun r => SameBasis s r.2 := by
  unfold Session.clickAt
  refine .after fun hit => ?_
  cases hit with
  | none => exact .pure (.refl s)
  | some id => exact .bind (s.toggle_ensures id) fun r hr => .pure hr

omit [Scalar α] in
/-- Light or shade on a fragment is no part of the basis. -/
theorem highlight_ensures (id : BoxId) (on : Bool) :
    (Run.check (s.highlight id on) : Run α (Session α)).Ensures (SameBasis s) := by
  unfold Session.highlight
  cases inputOf s.board.tree id with
  | error fault => intro j s' j' hrun; cases hrun
  | ok p => intro j s' j' hrun; cases hrun; exact ⟨rfl, rfl, rfl, rfl, rfl⟩

omit [Scalar α] in
/-- What goes on from the same basis may first light a box, if there is one to light. -/
theorem highlight?_ensures {β : Type} (id : Option BoxId) (on : Bool) {next : Session α → Run α β}
    {P : β → Prop} (hnext : ∀ s', SameBasis s s' → (next s').Ensures P) :
    (match id with
      | none => Pure.pure s >>= next
      | some id => Run.check (s.highlight id on) >>= next).Ensures P := by
  cases id with
  | none => exact .pure_bind (hnext s (.refl s))
  | some id => exact .bind (s.highlight_ensures id on) hnext

omit [Scalar α] in
/-- The pointer may go to a box or leave all boxes. -/
theorem hover_ensures (id : Option BoxId) : (s.hover id).Ensures fun r => SameBasis s r.2 := by
  have hmoved : ∀ s₁ s₂, SameBasis s s₁ → SameBasis s₁ s₂ →
      SameBasis s { s₂ with hovered := id } := fun _ _ h₁ h₂ => h₁.trans
    ⟨h₂.config, h₂.measure, h₂.pristine, h₂.duration, h₂.easing⟩
  unfold Session.hover
  cases id with
  | none =>
    refine .pure_bind (s.highlight?_ensures s.hovered false fun s₁ h₁ => ?_)
    exact s₁.highlight?_ensures none true fun s₂ h₂ => .pure (hmoved s₁ s₂ h₁ h₂)
  | some id =>
    refine .after fun checked => ?_
    cases checked with
    | error e => exact .pure_bind (.pure (.refl s))
    | ok b =>
      refine .pure_bind (s.highlight?_ensures s.hovered false fun s₁ h₁ => ?_)
      exact s₁.highlight?_ensures (some id) true fun s₂ h₂ => .pure (hmoved s₁ s₂ h₁ h₂)

theorem hoverAt_ensures (x y : α) : (s.hoverAt x y).Ensures fun r => SameBasis s r.2 := by
  unfold Session.hoverAt
  exact .after fun id => .bind (s.hover_ensures id) fun r hr => .pure hr

theorem tick_ensures (dt : Duration) : (s.tick dt).Ensures fun r => SameBasis s r.2 := by
  unfold Session.tick
  refine .bind (s.animator.tick_ensures s.measure s.board.pins dt) fun r hpace => .pure ?_
  exact ⟨rfl, rfl, rfl, hpace.1, hpace.2⟩

/-- Frames that run until all is at rest keep the basis, however many there are. -/
theorem settleWithin_ensures (frame : Duration) (fuel frames : Nat) (s : Session α) :
    (settleWithin frame fuel frames s).Ensures fun r => SameBasis s r.2 := by
  induction fuel generalizing frames s with
  | zero => exact .pure (.refl s)
  | succ fuel ih =>
    rw [settleWithin]
    split
    · exact .pure (.refl s)
    · refine .bind (s.tick_ensures frame) fun r hr => ?_
      intro j r' j' hrun
      exact hr.trans (ih (frames + 1) r.2 j r' j' hrun)

theorem gesture_ensures (g : Gesture α) : (s.gesture g).Ensures fun r => SameBasis s r.2 := by
  cases g with
  | click id => exact .bind (s.click_ensures id) fun r hr => .pure hr
  | clickAt x y => exact .bind (s.clickAt_ensures x y) fun r hr => .pure hr
  | hover id => exact .bind (s.hover_ensures id) fun r hr => .pure hr
  | hoverAt x y => exact .bind (s.hoverAt_ensures x y) fun r hr => .pure hr
  | tick dt => exact .bind (s.tick_ensures dt) fun r hr => .pure hr
  | settle frame => exact .bind (settleWithin_ensures _ _ _ s) fun r hr => .pure hr

/-- Every event keeps the basis. -/
theorem perform_ensures (e : Event α) : (s.perform e).Ensures fun r => SameBasis s r.2 := by
  cases e with
  | load trace outcome => exact .bind (s.rebuild_ensures trace outcome) fun s' hs' => .pure hs'
  | refresh engine grammar input start =>
    exact .bind (s.refresh_ensures engine grammar input start) fun r hr => .pure hr
  | gesture g => exact s.gesture_ensures g

/-- No events change what a session was begun with. -/
theorem performAll_ensures (es : List (Event α)) (s : Session α) :
    (s.performAll es).Ensures fun r => SameBasis s r.2 := by
  induction es generalizing s with
  | nil => exact .pure (.refl s)
  | cons e es ih =>
    refine .bind (s.perform_ensures e) fun r hr => ?_
    exact .bind (ih r.2) fun r' hr' => .pure (hr.trans hr')

end Session

end ParseBoxes
