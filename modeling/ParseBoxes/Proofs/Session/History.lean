import Mathlib.Data.List.DropRight
import ParseBoxes.Proofs.Animation.Stage
import ParseBoxes.Session.Basic

/-!
# Histories

A history records what has happened to a session: each event with the answer that was given to it.
So it tells which box a pointer met, which boxes a frame brought to rest, and how many frames were
run.  What it tells of one box is a row of acts (`History.acts`), and
these alone decide the stage of the box.
-/

namespace ParseBoxes

/-- What can happen to a board. -/
inductive Gesture (α : Type) where
  | click (id : BoxId)
  | clickAt (x y : α)
  | hover (id : Option BoxId)
  | hoverAt (x y : α)
  | tick (dt : Duration)
  | settle (frame : Duration)

/-- What can happen to a session. -/
inductive Event (α : Type) where
  | load (trace : List TraceNode) (outcome : MatchOutcome)
  | refresh (engine : Engine) (grammar input start : String)
  | gesture (g : Gesture α)

/-- What has happened to a session: an event and its answer. -/
inductive Moment where
  | loaded
  | refreshed (answer : Except SessionError MatchOutcome)
  | clicked (id : BoxId) (answer : Except SessionError Direction)
  | clickedAt (answer : Option (BoxId × Direction))
  | hovered (answer : Except SessionError Unit)
  | hoveredAt (answer : Option BoxId)
  | ticked (dt : Duration) (settled : List BoxId)
  | ranFrames (frame : Duration) (frames : Nat)

namespace Moment

def isRebuild : Moment → Bool
  | loaded | refreshed (.ok _) => true
  | _ => false

def isSettle : Moment → Bool
  | ranFrames _ _ => true
  | _ => false

/-- Do all fragments follow their boxes now?  A new board and every frame see to it. -/
def mends : Moment → Bool
  | loaded | refreshed (.ok _) | ticked _ _ | ranFrames _ _ => true
  | _ => false

theorem mends_of_isRebuild {m : Moment} (h : m.isRebuild = true) : m.mends = true := by
  cases m with
  | loaded => rfl
  | refreshed answer =>
    cases answer with
    | ok outcome => rfl
    | error e => cases h
  | _ => cases h

def clicked? : Moment → Option BoxId
  | clicked id _ => some id
  | clickedAt (some (id, _)) => some id
  | _ => none

def frames : Moment → List Duration
  | ticked dt _ => [dt]
  | ranFrames frame frames => .replicate frames (frame.greatest .millisecond)
  | _ => []

/-- What a moment means to one box. -/
def acts (id : BoxId) (m : Moment) : List Act :=
  (if m.clicked? = some id then [.toggle] else []) ++ m.frames.map fun dt => .frame dt.nanos

/-- How often a box is reported to have come to rest. -/
def reports (id : BoxId) : Moment → Nat
  | ticked _ settled => settled.count id
  | _ => 0

/-- The stages of all boxes after a moment.  All boxes of a new board are expanded. -/
def advance (span : Nat) (stage : BoxId → Stage) (m : Moment) : BoxId → Stage := fun id =>
  if m.isRebuild then .resting false else (stage id).after span (m.acts id)

section

variable {span : Nat} {stage : BoxId → Stage}

theorem advance_clicked (id : BoxId) (answer : Except SessionError Direction) :
    (clicked id answer).advance span stage =
      fun id' => if id' = id then (stage id').toggle else stage id' := by
  funext id'
  by_cases h : id = id'
  · simp [advance, isRebuild, acts, clicked?, frames, h, Stage.after, Stage.act]
  · simp [advance, isRebuild, acts, clicked?, frames, h, Ne.symm h]

/-- Frames that run take every box on, frame by frame. -/
theorem advance_ranFrames (frame : Duration) (n : Nat) :
    (ranFrames frame n).advance span stage = fun id =>
      (stage id).after span (.replicate n (.frame (frame.greatest .millisecond).nanos)) := by
  funext id
  simp [advance, isRebuild, acts, clicked?, frames]

theorem count_toggle_acts (id : BoxId) (m : Moment) :
    (m.acts id).count .toggle = if m.clicked? = some id then 1 else 0 := by
  have hframes : .toggle ∉ m.frames.map fun dt => Act.frame dt.nanos := by simp
  rw [acts, List.count_append, List.count_eq_zero.2 hframes, Nat.add_zero]
  split <;> rfl

theorem arrivals_acts_of_frames_eq_nil {m : Moment} (hm : m.frames = []) (s : Stage) (id : BoxId) :
    s.arrivals span (m.acts id) = 0 := by
  unfold acts
  rw [hm]
  split <;> rfl

end

end Moment

/-- What has happened to a session, in order. -/
abbrev History := List Moment

namespace History

/-- What has happened to one box. -/
def acts (id : BoxId) (h : History) : List Act := h.flatMap (·.acts id)

def clicks (id : BoxId) (h : History) : Nat := h.countP fun m => m.clicked? = some id

/-- How often a box was reported to have come to rest. -/
def reports (id : BoxId) (h : History) : Nat := h.foldl (fun n m => n + m.reports id) 0

/-- What has happened to the board on show. -/
def sinceRebuild (h : History) : History := h.rtakeWhile fun m => !m.isRebuild

/-- The stages of all boxes in the end. -/
def advance (span : Nat) (stage : BoxId → Stage) (h : History) : BoxId → Stage :=
  h.foldl (Moment.advance span) stage

theorem advance_concat (span : Nat) (stage : BoxId → Stage) (h : History) (m : Moment) :
    advance span stage (h ++ [m]) = m.advance span (advance span stage h) := by
  simp [advance]

theorem acts_concat (id : BoxId) (h : History) (m : Moment) :
    acts id (h ++ [m]) = h.acts id ++ m.acts id := by
  simp [acts]

theorem reports_concat (id : BoxId) (h : History) (m : Moment) :
    reports id (h ++ [m]) = h.reports id + m.reports id := by
  simp [reports]

/-- A box is toggled as often as it is clicked. -/
theorem count_toggle_acts (id : BoxId) (h : History) :
    (h.acts id).count .toggle = h.clicks id := by
  induction h with
  | nil => rfl
  | cons m h ih =>
    rw [acts, List.flatMap_cons, List.count_append, Moment.count_toggle_acts, clicks,
      List.countP_cons]
    rw [acts, clicks] at ih
    rw [ih, Nat.add_comm]
    simp

/-- What has happened since the last new board begins anew with each. -/
theorem sinceRebuild_concat (h : History) (m : Moment) :
    sinceRebuild (h ++ [m]) = if m.isRebuild then [] else h.sinceRebuild ++ [m] := by
  rw [sinceRebuild, List.rtakeWhile_concat]
  cases m.isRebuild <;> rfl

theorem isRebuild_of_mem_sinceRebuild {h : History} {m : Moment} (hm : m ∈ h.sinceRebuild) :
    m.isRebuild = false := by
  simpa using List.mem_rtakeWhile_imp hm

/-- Stages do not remember earlier boards. -/
theorem advance_sinceRebuild (span : Nat) (h : History) :
    advance span (fun _ => .resting false) h.sinceRebuild =
      advance span (fun _ => .resting false) h := by
  induction h using List.reverseRecOn with
  | nil => rfl
  | append_singleton h m ih =>
    rw [sinceRebuild_concat, advance_concat]
    cases hm : m.isRebuild with
    | true => exact funext fun id => (if_pos hm).symm
    | false =>
      rw [if_neg Bool.false_ne_true, advance_concat, ih]

/-- On one board the stage of a box is decided by what has happened to it. -/
theorem advance_of_not_isRebuild (span : Nat) (stage : BoxId → Stage) (h : History)
    (hh : ∀ m ∈ h, m.isRebuild = false) (id : BoxId) :
    advance span stage h id = (stage id).after span (h.acts id) := by
  induction h generalizing stage with
  | nil => rfl
  | cons m h ih =>
    rw [acts, List.flatMap_cons, Stage.after_append]
    show advance span (m.advance span stage) h id = _
    rw [ih (m.advance span stage) fun m' hm' => hh m' (List.mem_cons_of_mem _ hm'), Moment.advance,
      hh m List.mem_cons_self]
    rfl

/-- On one board the parity of its clicks decides where a box heads. -/
theorem headsDown_advance (span : Nat) (stage : BoxId → Stage) (h : History)
    (hh : ∀ m ∈ h, m.isRebuild = false) (id : BoxId) :
    (advance span stage h id).headsDown =
      ((stage id).headsDown ^^ (h.clicks id % 2 = 1 : Bool)) := by
  rw [advance_of_not_isRebuild _ _ _ hh, Stage.headsDown_after, count_toggle_acts]

end History

namespace Session

variable {α : Type} [Scalar α]

def gesture (s : Session α) : Gesture α → Run α (Moment × Session α)
  | .click id => do
    let (answer, s) ← s.click id
    return (.clicked id answer, s)
  | .clickAt x y => do
    let (answer, s) ← s.clickAt x y
    return (.clickedAt answer, s)
  | .hover id => do
    let (answer, s) ← s.hover id
    return (.hovered answer, s)
  | .hoverAt x y => do
    let (answer, s) ← s.hoverAt x y
    return (.hoveredAt answer, s)
  | .tick dt => do
    let (settled, s) ← s.tick dt
    return (.ticked dt settled, s)
  | .settle frame => do
    let (frames, s) ← s.settle frame
    return (.ranFrames frame frames, s)

def perform (s : Session α) : Event α → Run α (Moment × Session α)
  | .load trace outcome => return (.loaded, ← s.rebuild trace outcome)
  | .refresh engine grammar input start => do
    let (answer, s) ← s.refresh engine grammar input start
    return (.refreshed answer, s)
  | .gesture g => s.gesture g

def performAll (s : Session α) : List (Event α) → Run α (History × Session α)
  | [] => return ([], s)
  | e :: es => do
    let (m, s) ← s.perform e
    let (h, s) ← s.performAll es
    return (m :: h, s)

theorem performAll_append (s : Session α) (es es' : List (Event α)) :
    s.performAll (es ++ es') = do
      let (h, s) ← s.performAll es
      let (h', s) ← s.performAll es'
      return (h ++ h', s) := by
  induction es generalizing s with
  | nil => simp [performAll]
  | cons e es ih => simp [performAll, ih]

end Session

end ParseBoxes
