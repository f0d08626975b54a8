import Mathlib.Data.List.Induction
import ParseBoxes.Toggle

/-!
# Stages

Where one box is in its toggling is told by what has happened to this box alone: it was toggled, or
a frame went by.  A box on its way remembers its direction and the time since it was last toggled;
it comes to rest as soon as this time reaches the span of a toggle.

A stage is a small machine of its own (`after`), and what it does over any row of acts is read off
the row: the parity of the toggles decides where it heads (`headsDown_after`), the time since the
last toggle whether it has arrived (`isMoving_after_iff`), and it arrives once for every toggle that
was given the time (`arrivals_resting`).
-/

namespace ParseBoxes

/-- What happens to one box. -/
inductive Act where
  | toggle
  | frame (nanos : Nat)
deriving DecidableEq

/-- Where one box is in its toggling. -/
inductive Stage where
  | resting (hidden : Bool)
  | moving (direction : Direction) (elapsed : Nat)
deriving DecidableEq

namespace Stage

/-- A box that is toggled starts on its way, or turns round. -/
def toggle : Stage → Stage
  | resting hidden => moving (.fromHidden hidden) 0
  | moving d _ => moving d.reversed 0

/-- A box on its way comes to rest at the end of its span. -/
def frame (span nanos : Nat) : Stage → Stage
  | resting hidden => resting hidden
  | moving d e => if span ≤ e + nanos then resting (d = .collapse) else moving d (e + nanos)

/-- Is this the frame that brings the box to rest? -/
def arrives (span nanos : Nat) : Stage → Bool
  | resting _ => false
  | moving _ e => span ≤ e + nanos

def act (span : Nat) (s : Stage) : Act → Stage
  | .toggle => s.toggle
  | .frame nanos => s.frame span nanos

def after (span : Nat) (s : Stage) (acts : List Act) : Stage := acts.foldl (act span) s

def arrivals (span : Nat) (s : Stage) : List Act → Nat
  | [] => 0
  | .toggle :: acts => arrivals span s.toggle acts
  | .frame nanos :: acts =>
    (s.arrives span nanos).toNat + arrivals span (s.frame span nanos) acts

def state : Stage → ToggleState
  | resting hidden => .settled hidden
  | moving d _ => d.transient

def isMoving : Stage → Bool
  | resting _ => false
  | moving _ _ => true

/-- Is the box collapsed, or on its way there? -/
def headsDown : Stage → Bool
  | resting hidden => hidden
  | moving d _ => d = .collapse

/-! ## Rows of acts -/

/-- The time up to the next toggle. -/
def untilToggle : List Act → Nat
  | [] => 0
  | .toggle :: _ => 0
  | .frame nanos :: acts => nanos + untilToggle acts

/-- The time since the last toggle, if there was one. -/
def sinceToggle (acts : List Act) : Option Nat :=
  if .toggle ∈ acts then some (untilToggle acts.reverse) else none

/-- How many toggles were followed by a whole span before the next toggle. -/
def completed (span : Nat) : List Act → Nat
  | [] => 0
  | .toggle :: acts => (if span ≤ untilToggle acts then 1 else 0) + completed span acts
  | .frame _ :: acts => completed span acts

theorem sinceToggle_concat_toggle (acts : List Act) : sinceToggle (acts ++ [.toggle]) = some 0 := by
  simp [sinceToggle, untilToggle]

theorem sinceToggle_concat_frame (acts : List Act) (nanos : Nat) :
    sinceToggle (acts ++ [.frame nanos]) = (sinceToggle acts).map (nanos + ·) := by
  by_cases h : Act.toggle ∈ acts <;> simp [sinceToggle, untilToggle, h]

/-! ## Runs of a stage -/

section

variable {span : Nat} (s : Stage)

@[simp]
theorem after_nil : s.after span [] = s := rfl

theorem after_append (acts acts' : List Act) :
    s.after span (acts ++ acts') = (s.after span acts).after span acts' := List.foldl_append

theorem after_concat (acts : List Act) (a : Act) :
    s.after span (acts ++ [a]) = (s.after span acts).act span a := after_append s acts [a]

theorem arrivals_append (acts acts' : List Act) :
    s.arrivals span (acts ++ acts') =
      s.arrivals span acts + (s.after span acts).arrivals span acts' := by
  induction acts generalizing s with
  | nil => exact (Nat.zero_add _).symm
  | cons a acts ih =>
    cases a with
    | toggle => exact ih s.toggle
    | frame nanos =>
      show _ + arrivals span _ (acts ++ acts') = _ + arrivals span _ acts + _
      rw [ih (s.frame span nanos), Nat.add_assoc]
      rfl

theorem state_isTransient : s.state.isTransient = s.isMoving := by
  rcases s with h | ⟨d, e⟩
  · cases h <;> rfl
  · cases d <;> rfl

theorem state_headsDown : s.state = .collapsed ∨ s.state = .collapsing ↔ s.headsDown = true := by
  rcases s with h | ⟨d, e⟩
  · cases h <;> simp [state, headsDown, ToggleState.settled]
  · cases d <;> simp [state, headsDown, Direction.transient]

theorem isMoving_of_arrives {s : Stage} {nanos : Nat} (h : s.arrives span nanos = true) :
    s.isMoving = true := by
  cases s with
  | resting hidden => cases h
  | moving d e => rfl

theorem frame_of_not_isMoving {s : Stage} {nanos : Nat} (h : ¬s.isMoving = true) :
    s.frame span nanos = s := by
  cases s with
  | resting hidden => rfl
  | moving d e => exact absurd rfl h

/-! ### Direction -/

theorem headsDown_toggle : s.toggle.headsDown = !s.headsDown := by
  rcases s with h | ⟨d, e⟩
  · cases h <;> rfl
  · cases d <;> rfl

theorem headsDown_frame (nanos : Nat) : (s.frame span nanos).headsDown = s.headsDown := by
  rcases s with h | ⟨d, e⟩
  · rfl
  · by_cases h : span ≤ e + nanos <;> simp [frame, h, headsDown]

/-- Only toggles change where a box heads, and each of them does. -/
theorem headsDown_after (acts : List Act) :
    (s.after span acts).headsDown = (s.headsDown ^^ (acts.count .toggle % 2 = 1 : Bool)) := by
  induction acts generalizing s with
  | nil => simp
  | cons a acts ih =>
    show ((s.act span a).after span acts).headsDown = _
    rw [ih]
    cases a with
    | toggle =>
      have hparity : (((acts.count .toggle + 1) % 2 = 1 : Bool)) =
          !(acts.count .toggle % 2 = 1 : Bool) := by
        rcases Nat.mod_two_eq_zero_or_one (acts.count .toggle) with h | h <;>
          simp [Nat.add_mod, h]
      rw [act, headsDown_toggle, List.count_cons_self, hparity]
      cases s.headsDown <;> simp
    | frame nanos =>
      rw [act, headsDown_frame, List.count_cons_of_ne (by simp)]

/-! ### Time -/

/-- A box that was at rest is on its way just as long as its last toggle has not been given a whole
span, and remembers the time since. -/
theorem after_resting (hspan : 0 < span) (hidden : Bool) (acts : List Act) :
    match (resting hidden).after span acts with
    | moving _ e => sinceToggle acts = some e ∧ e < span
    | resting _ => ∀ e, sinceToggle acts = some e → span ≤ e := by
  induction acts using List.reverseRecOn with
  | nil => simp [sinceToggle]
  | append_singleton acts a ih =>
    rw [after_concat]
    cases a with
    | toggle =>
      rw [sinceToggle_concat_toggle]
      cases (resting hidden).after span acts <;> exact ⟨rfl, hspan⟩
    | frame nanos =>
      rw [sinceToggle_concat_frame]
      cases hs : (resting hidden).after span acts with
      | resting hidden' =>
        rw [hs] at ih
        intro e he
        obtain ⟨e', he', rfl⟩ := Option.map_eq_some_iff.1 he
        exact Nat.le_trans (ih e' he') (Nat.le_add_left _ _)
      | moving d e =>
        rw [hs] at ih
        obtain ⟨he, hlt⟩ := ih
        rw [he]
        -- the frame may use up what is left of the span
        by_cases harrive : span ≤ e + nanos
        · simp only [act, frame, harrive, ↓reduceIte]
          intro e' he'
          obtain rfl := Option.some.inj he'
          exact Nat.le_trans harrive (Nat.le_of_eq (Nat.add_comm _ _))
        · simp only [act, frame, harrive, ↓reduceIte, Option.map_some]
          exact ⟨congrArg some (Nat.add_comm _ _), by omega⟩

/-- A box moves as long as less than the span has gone by since its last toggle. -/
theorem isMoving_after_iff (hspan : 0 < span) (hidden : Bool) (acts : List Act) :
    ((resting hidden).after span acts).isMoving = true ↔
      ∃ e, sinceToggle acts = some e ∧ e < span := by
  have h := after_resting hspan hidden acts
  cases hs : (resting hidden).after span acts with
  | resting hidden' =>
    rw [hs] at h
    simp only [isMoving, Bool.false_eq_true, false_iff, not_exists, not_and, Nat.not_lt]
    exact h
  | moving d e =>
    rw [hs] at h
    simp only [isMoving, true_iff]
    exact ⟨e, h⟩

theorem after_resting_frames (hidden : Bool) (nanos n : Nat) :
    (resting hidden).after span (.replicate n (.frame nanos)) = resting hidden := by
  induction n with
  | zero => rfl
  | succ n ih => exact ih

/-- Frames of one length bring a box to rest just when they cover what is left of its span. -/
theorem isMoving_after_frames_iff (nanos n : Nat) (d : Direction) (elapsed : Nat) :
    ((moving d elapsed).after span (.replicate n (.frame nanos))).isMoving = false ↔
      n ≠ 0 ∧ span ≤ elapsed + n * nanos := by
  induction n generalizing elapsed with
  | zero => exact iff_of_false Bool.noConfusion fun h => h.1 rfl
  | succ n ih =>
    have hstep : (moving d elapsed).after span (.replicate (n + 1) (.frame nanos)) =
        ((moving d elapsed).frame span nanos).after span (.replicate n (.frame nanos)) := rfl
    rw [hstep, frame, Nat.succ_mul]
    by_cases harrive : span ≤ elapsed + nanos
    · rw [if_pos harrive, after_resting_frames]
      refine iff_of_true rfl ⟨Nat.succ_ne_zero n, ?_⟩
      omega
    · rw [if_neg harrive, ih]
      -- one frame alone is too short, so at least one more is needed
      have hmore : span ≤ elapsed + nanos + n * nanos → n ≠ 0 := by
        rintro h rfl
        omega
      constructor
      · rintro ⟨-, h⟩
        exact ⟨Nat.succ_ne_zero n, by omega⟩
      · rintro ⟨-, h⟩
        have h : span ≤ elapsed + nanos + n * nanos := by omega
        exact ⟨hmore h, h⟩

/-- Enough frames bring every box to rest. -/
theorem isMoving_after_replicate (hspan : 0 < span) (nanos n : Nat) (h : span ≤ n * nanos) :
    (s.after span (.replicate n (.frame nanos))).isMoving = false := by
  rcases s with hidden | ⟨d, e⟩
  · rw [after_resting_frames]
    rfl
  · refine (isMoving_after_frames_iff nanos n d e).2 ⟨?_, by omega⟩
    rintro rfl
    omega

/-- Does a box on its way get the rest of its span? -/
def pending (span : Nat) (acts : List Act) : Stage → Nat
  | resting _ => 0
  | moving _ e => if span ≤ e + untilToggle acts then 1 else 0

/-- Besides the toggles of the row, the one that a box is on its way from may come to its end. -/
theorem arrivals_eq (hspan : 0 < span) (acts : List Act) (hs : ∀ d e, s = moving d e → e < span) :
    s.arrivals span acts = s.pending span acts + completed span acts := by
  induction acts generalizing s with
  | nil =>
    rcases s with h | ⟨d, e⟩
    · rfl
    · have : ¬span ≤ e := Nat.not_le.2 (hs d e rfl)
      simp [arrivals, completed, pending, untilToggle, this]
  | cons a acts ih =>
    cases a with
    | toggle =>
      have hnew : ∀ d, (moving d 0).arrivals span acts = completed span (.toggle :: acts) := by
        intro d
        rw [ih (moving d 0) fun _ _ heq => by cases heq; exact hspan]
        simp [pending, completed]
      rcases s with h | ⟨d, e⟩
      · rw [arrivals, toggle, hnew, pending, Nat.zero_add]
      · have : ¬span ≤ e := Nat.not_le.2 (hs d e rfl)
        rw [arrivals, toggle, hnew]
        simp [pending, untilToggle, this]
    | frame nanos =>
      rw [arrivals, completed]
      rcases s with h | ⟨d, e⟩
      · rw [frame, ih _ (fun _ _ heq => by cases heq)]
        simp [arrives, pending]
      · by_cases harrive : span ≤ e + nanos
        · have hpending : span ≤ e + (nanos + untilToggle acts) := by omega
          simp only [arrives, frame, harrive, decide_true, ↓reduceIte, Bool.toNat_true]
          rw [ih _ (fun _ _ heq => by cases heq)]
          simp [pending, untilToggle, hpending]
        · simp only [arrives, frame, harrive, decide_false, ↓reduceIte, Bool.toNat_false]
          rw [ih _ fun _ _ heq => by cases heq; omega]
          rw [pending, pending, untilToggle, Nat.add_assoc, Nat.zero_add]

/-- A box that was at rest comes to rest once for each toggle that is given a whole span. -/
theorem arrivals_resting (hspan : 0 < span) (hidden : Bool) (acts : List Act) :
    (resting hidden).arrivals span acts = completed span acts := by
  rw [arrivals_eq _ hspan acts (fun _ _ heq => by cases heq), pending, Nat.zero_add]

-- the first toggle is turned round too early, the second one is given its span
example : completed 3 [.toggle, .frame 2, .toggle, .frame 1, .frame 2, .frame 5] = 1 := rfl

end

end Stage

end ParseBoxes
