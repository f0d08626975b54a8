import ParseBoxes.Proofs.Layout.Remembered
import ParseBoxes.Journal

/-!
# Runs without fault

A run yields a result if it comes to its end without fault and with this result, whatever the
journal says when it starts.  So what a run yields depends neither on the measurements taken before
nor on a measure cache, and there is one result at most (`Yields.unique`).
-/

namespace ParseBoxes.Run

variable {α β γ : Type}

/-- Does the run end with such a result if nothing is in the journal? -/
def shows (x : Run α β) (p : β → Bool) : Bool :=
  match x.run {} with
  | .ok (b, _) => p b
  | .error _ => false

/-- The run ends without fault and with this result. -/
def Yields (x : Run α β) (b : β) : Prop := ∀ j, ∃ j', x.run j = .ok (b, j')

namespace Yields

/-- A run yields one result at most. -/
theorem unique {x : Run α β} {b c : β} (hb : x.Yields b) (hc : x.Yields c) : b = c := by
  obtain ⟨_, hb⟩ := hb {}
  obtain ⟨_, hc⟩ := hc {}
  rw [hb] at hc
  exact congrArg Prod.fst (Except.ok.inj hc)

/-- One evaluation tells what a run yields. -/
theorem of_shows {x : Run α β} {b : β} {p : β → Bool} (h : x.Yields b) (hp : x.shows p = true) :
    p b = true := by
  obtain ⟨j, hrun⟩ := h {}
  rw [shows, hrun] at hp
  exact hp

theorem pure (b : β) : Yields (Pure.pure b : Run α β) b := fun j => ⟨j, rfl⟩

/-- A run that goes on from a result yields what the rest yields. -/
theorem bind {x : Run α β} {b : β} {k : β → Run α γ} {c : γ} (hx : x.Yields b)
    (hk : (k b).Yields c) : Yields (x >>= k) c := by
  intro j
  obtain ⟨j₁, hx⟩ := hx j
  obtain ⟨j₂, hk⟩ := hk j₁
  refine ⟨j₂, ?_⟩
  rw [StateT.run_bind, hx]
  exact hk

end Yields

theorem note_yields (n : Notice α) : (note n).Yields () := fun _ => ⟨_, rfl⟩

theorem countMeasurement_yields : (countMeasurement : Run α Unit).Yields () := fun _ => ⟨_, rfl⟩

theorem request_yields (measure : Measurer α) (requests : Array Request) :
    (request measure requests).Yields () := fun _ => ⟨_, rfl⟩

theorem check_yields {x : Except Fault β} {b : β} (h : x = .ok b) :
    (check x : Run α β).Yields b := by
  subst h
  exact fun j => ⟨j, rfl⟩

/-- To look at a layout yields the answer of a fresh view. -/
theorem look_yields {t : BoxTree} (l : Layout α t) (question : View α t β) :
    (look l question).Yields question.fresh :=
  .bind (request_yields _ _) (.pure _)

/-- Where a question is answered by the rules, to look yields that answer. -/
theorem look_yields_of_answers [Scalar α] {t : BoxTree} {l : Layout α t} {question : View α t β}
    {answer : β} (h : View.Answers l question answer) : (look l question).Yields answer :=
  h.fresh ▸ look_yields l question

/-- The run ends with this result, which may be a fault, whatever the journal says when it starts. -/
def Ends (x : Run α β) (r : Except Fault β) : Prop := ∀ j, (x.run j).map (·.1) = r

theorem Yields.ends {x : Run α β} {b : β} (h : x.Yields b) : x.Ends (.ok b) := by
  intro j
  obtain ⟨j', hj⟩ := h j
  rw [hj]
  rfl

namespace Ends

theorem check (r : Except Fault β) : Ends (check r : Run α β) r := by
  intro j
  cases r <;> rfl

/-- What one run ends with decides how the next one goes on; a fault ends both. -/
theorem bind {x : Run α β} {r : Except Fault β} {k : β → Run α γ} {f : β → Except Fault γ}
    (hx : x.Ends r) (hk : ∀ b, r = .ok b → (k b).Ends (f b)) : Ends (x >>= k) (r >>= f) := by
  intro j
  have hj := hx j
  rw [StateT.run_bind]
  cases hrun : x.run j with
  | error fault =>
    rw [hrun] at hj
    rw [← hj]
    rfl
  | ok result =>
    rw [hrun] at hj
    rw [← hj]
    exact hk result.1 hj.symm result.2

end Ends

/-- All results of a run have a property, whatever the journal says when it starts. -/
def Ensures (x : Run α β) (P : β → Prop) : Prop := ∀ j b j', x.run j = .ok (b, j') → P b

namespace Ensures

variable {P : β → Prop} {Q : γ → Prop} {x : Run α β} {k : β → Run α γ}

theorem pure {b : β} (h : P b) : Ensures (Pure.pure b : Run α β) P := by
  intro j c j' hrun
  cases hrun
  exact h

theorem bind (hx : x.Ensures P) (hk : ∀ b, P b → (k b).Ensures Q) : (x >>= k).Ensures Q := by
  intro j c j' hrun
  rw [StateT.run_bind] at hrun
  cases hfirst : x.run j with
  | error fault =>
    rw [hfirst] at hrun
    cases hrun
  | ok r =>
    rw [hfirst] at hrun
    exact hk r.1 (hx j r.1 r.2 hfirst) r.2 c j' hrun

/-- What comes first may have any result. -/
theorem after (hk : ∀ b, (k b).Ensures Q) : (x >>= k).Ensures Q :=
  bind (P := fun _ => True) (fun _ _ _ _ => trivial) fun b _ => hk b

theorem pure_bind {b : β} (hk : (k b).Ensures Q) : (Pure.pure b >>= k).Ensures Q :=
  bind (P := (· = b)) (pure rfl) fun _ hc => hc ▸ hk

/-- What is sure of all results holds of the one that is yielded. -/
theorem of_yields {b : β} (h : x.Ensures P) (hb : x.Yields b) : P b := by
  obtain ⟨j, hj⟩ := hb {}
  exact h {} b j hj

end Ensures

end ParseBoxes.Run
