import Mathlib.Data.List.Infix
import Mathlib.Order.RelClasses
import ParseBoxes.Tree.BoxTree
import ParseBoxes.Trace.Visibility
import ParseBoxes.Text.Blank

/-!
# Attempts in their places

An attempt of a trace together with all that it lies in.  What is shown of an attempt depends on
these alone: it survives if it and all that it lies in succeeded, and it has a box if it can be seen
from where it stands or if it consumed a run of blanks.  `survivors` lists a trace in pre-order; the
places of attempts, read from the outside in, order them in the same way (`pairwise_survivors`).
-/

namespace ParseBoxes

/-- An attempt, its place among the attempts beside it, and the same of all that it lies in, from
the inside out. -/
structure Attempt where
  place : Nat
  node : TraceNode
  above : List (Nat × TraceNode)

namespace Attempt

/-- The attempt and all that it lies in, from the inside out. -/
def line (a : Attempt) : List (Nat × TraceNode) := (a.place, a.node) :: a.above

def ofLine : List (Nat × TraceNode) → List Attempt
  | [] => []
  | (place, node) :: above => ⟨place, node, above⟩ :: ofLine above

/-- The attempts that an attempt lies in, the nearest first. -/
def ancestors (a : Attempt) : List Attempt := ofLine a.above

def parent? (a : Attempt) : Option Attempt := a.ancestors.head?

/-- The places on the way from an attempt outwards: no two attempts of a trace share them. -/
def spot (a : Attempt) : List Nat := a.line.map (·.1)

/-- Did the attempt and all that it lies in succeed? -/
def survives (a : Attempt) : Bool := a.line.all (·.2.succeeded)

/-- Is neither the attempt nor anything that it lies in a black hole? -/
def isOpen (a : Attempt) : Bool := a.line.all (!·.2.isBlackhole)

def text (a : Attempt) : String := if a.node.kind = .primitive then a.node.contents else ""

def isBlank (a : Attempt) : Bool := a.text ≠ "" && a.text.toList.all Text.isBlank

def hasBox (a : Attempt) : Bool := a.isOpen && a.node.classify.isVisible || a.isBlank

/-- The nearest attempt with a box that an attempt lies in. -/
def boxAbove? (a : Attempt) : Option Attempt := a.ancestors.find? (·.hasBox)

def fragment (glyph : String) (a : Attempt) : Fragment where
  text := a.text
  display := if a.isBlank then glyph else a.text
  isWhitespace := a.isBlank

/-- The box of an attempt whose fragment has the given index. -/
def box (input : Nat) (a : Attempt) : BoxNode where
  label := a.node.label
  input := ⟨input⟩
  isWhitespace := a.isBlank
  isFailure := false
  isPrimitive := a.node.kind = .primitive

/-- Does an attempt come before another one, an outer one before what lies in it? -/
def Before (a b : Attempt) : Prop := a.spot.reverse < b.spot.reverse

instance : IsTrans Attempt Before := ⟨fun _ _ _ hab hbc => List.lt_trans hab hbc⟩

/-- A list that has with each attempt all that it lies in. -/
def Closed (l : List Attempt) : Prop := ∀ a ∈ l, ∀ b ∈ a.ancestors, b ∈ l

/-- A list in pre-order that has with each attempt all that it lies in. -/
structure InOrder (l : List Attempt) : Prop where
  sorted : l.Pairwise Before
  closed : Closed l

end Attempt

mutual

/-- An attempt that stands in the given place, and all that lie in it, in pre-order. -/
def TraceNode.attempts (place : Nat) (above : List (Nat × TraceNode)) : TraceNode → List Attempt
  | ⟨succeeded, label, kind, source, contents, children⟩ =>
    let n : TraceNode := ⟨succeeded, label, kind, source, contents, children⟩
    ⟨place, n, above⟩ :: TraceNode.forestAttempts 0 ((place, n) :: above) children

/-- Attempts that stand beside each other from the given place on, and all that lie in them. -/
def TraceNode.forestAttempts (place : Nat) (above : List (Nat × TraceNode)) :
    List TraceNode → List Attempt
  | [] => []
  | n :: ns => n.attempts place above ++ TraceNode.forestAttempts (place + 1) above ns

end

/-- The attempts of a trace that survive, in pre-order. -/
def survivors (trace : List TraceNode) : List Attempt :=
  (TraceNode.forestAttempts 0 [] trace).filter (·.survives)

namespace TraceNode

theorem attempts_eq (place : Nat) (above : List (Nat × TraceNode)) (n : TraceNode) :
    n.attempts place above =
      ⟨place, n, above⟩ :: forestAttempts 0 ((place, n) :: above) n.children := by
  cases n
  rw [attempts]

/-! ## Where attempts stand -/

mutual

/-- All attempts of a node lie in it. -/
theorem suffix_of_mem_attempts {place : Nat} {above : List (Nat × TraceNode)} {a : Attempt}
    (n : TraceNode) (ha : a ∈ n.attempts place above) : (place, n) :: above <:+ a.line :=
  match n with
  | ⟨succeeded, label, kind, source, contents, children⟩ => by
    rw [attempts, List.mem_cons] at ha
    rcases ha with rfl | ha
    · exact List.suffix_refl _
    · obtain ⟨j, m, -, hsuffix⟩ := suffix_of_mem_forestAttempts children ha
      exact (List.suffix_cons _ _).trans hsuffix

/-- All attempts of a forest lie in what the forest lies in, no further left than it starts. -/
theorem suffix_of_mem_forestAttempts {place : Nat} {above : List (Nat × TraceNode)} {a : Attempt}
    (ns : List TraceNode) (ha : a ∈ forestAttempts place above ns) :
    ∃ j m, place ≤ j ∧ (j, m) :: above <:+ a.line :=
  match ns with
  | [] => by
    rw [forestAttempts] at ha
    exact absurd ha List.not_mem_nil
  | n :: ns => by
    rw [forestAttempts, List.mem_append] at ha
    rcases ha with ha | ha
    · exact ⟨place, n, Nat.le_refl _, suffix_of_mem_attempts n ha⟩
    · obtain ⟨j, m, hj, hsuffix⟩ := suffix_of_mem_forestAttempts ns ha
      exact ⟨j, m, Nat.le_of_succ_le hj, hsuffix⟩

end

end TraceNode

namespace Attempt

/-- The place of an attempt, from the outside in, starts with that of what it lies in. -/
theorem prefix_of_suffix {a : Attempt} {l : List (Nat × TraceNode)} (h : l <:+ a.line) :
    (l.map (·.1)).reverse <+: a.spot.reverse :=
  List.reverse_prefix.2 (h.map _)

/-- What lies in a node comes before what lies in a node further right. -/
theorem Before.of_suffix {a b : Attempt} {above : List (Nat × TraceNode)} {i j : Nat}
    {n m : TraceNode} (ha : (i, n) :: above <:+ a.line) (hb : (j, m) :: above <:+ b.line)
    (hij : i < j) : a.Before b := by
  obtain ⟨r, hr⟩ := prefix_of_suffix ha
  obtain ⟨s, hs⟩ := prefix_of_suffix hb
  simp only [List.map_cons, List.reverse_cons, List.append_assoc, List.singleton_append] at hr hs
  rw [Before, ← hr, ← hs]
  exact List.append_left_lt (List.cons_lt_cons_iff.2 (.inl hij))

theorem line_injective {a b : Attempt} (h : a.line = b.line) : a = b := by
  cases a
  cases b
  simp_all [line]

theorem mem_ofLine {line : List (Nat × TraceNode)} {a : Attempt} :
    a ∈ ofLine line ↔ a.line <:+ line := by
  induction line with
  | nil => simp [ofLine, Attempt.line]
  | cons e above ih =>
    rw [ofLine, List.mem_cons, ih, List.suffix_cons_iff]
    refine or_congr_left ⟨fun h => by rw [h]; rfl, fun h => line_injective h⟩

theorem mem_ancestors {a b : Attempt} : b ∈ a.ancestors ↔ b.line <:+ a.above := mem_ofLine

theorem mem_ancestors_trans {a b c : Attempt} (hb : b ∈ a.ancestors) (hc : c ∈ b.ancestors) :
    c ∈ a.ancestors := by
  rw [mem_ancestors] at *
  exact hc.trans ((List.suffix_cons _ _).trans hb)

/-- What lies in an attempt comes after it. -/
theorem Before.of_mem_ancestors {a b : Attempt} (h : b ∈ a.ancestors) : b.Before a := by
  obtain ⟨r, hr⟩ := List.reverse_prefix.2 ((mem_ancestors.1 h).map (·.1))
  have hspot : a.spot.reverse = b.spot.reverse ++ (r ++ [a.place]) := by
    rw [← List.append_assoc]
    exact (List.reverse_cons ..).trans (congrArg (· ++ [a.place]) hr.symm)
  have hpos : [] < r ++ [a.place] := by
    cases r with
    | nil => exact List.nil_lt_cons _ _
    | cons k r => exact List.nil_lt_cons _ _
  rw [Before, hspot]
  conv_lhs => rw [← List.append_nil b.spot.reverse]
  exact List.append_left_lt hpos

end Attempt

namespace TraceNode

mutual

theorem pairwise_attempts (place : Nat) (above : List (Nat × TraceNode)) (n : TraceNode) :
    (n.attempts place above).Pairwise Attempt.Before :=
  match n with
  | ⟨succeeded, label, kind, source, contents, children⟩ => by
    rw [attempts, List.pairwise_cons]
    refine ⟨fun a ha => ?_, pairwise_forestAttempts 0 _ children⟩
    obtain ⟨j, m, -, hsuffix⟩ := suffix_of_mem_forestAttempts children ha
    refine .of_mem_ancestors (Attempt.mem_ancestors.2 ?_)
    rcases List.suffix_cons_iff.1 hsuffix with heq | hsuffix
    · exact (List.cons.inj heq).2 ▸ List.suffix_refl _
    · exact (List.suffix_cons _ _).trans hsuffix

theorem pairwise_forestAttempts (place : Nat) (above : List (Nat × TraceNode))
    (ns : List TraceNode) : (forestAttempts place above ns).Pairwise Attempt.Before :=
  match ns with
  | [] => by
    rw [forestAttempts]
    exact .nil
  | n :: ns => by
    rw [forestAttempts, List.pairwise_append]
    refine ⟨pairwise_attempts place above n, pairwise_forestAttempts (place + 1) above ns, ?_⟩
    intro a ha b hb
    obtain ⟨j, m, hj, hsuffix⟩ := suffix_of_mem_forestAttempts ns hb
    exact .of_suffix (suffix_of_mem_attempts n ha) hsuffix hj

end

end TraceNode

/-- The survivors of a trace stand in pre-order. -/
theorem pairwise_survivors (trace : List TraceNode) :
    (survivors trace).Pairwise Attempt.Before :=
  (TraceNode.pairwise_forestAttempts 0 [] trace).filter _

namespace Attempt

theorem Before.spot_ne {a b : Attempt} (h : a.Before b) : a.spot ≠ b.spot := by
  intro heq
  rw [Before, heq] at h
  exact List.lt_irrefl _ h

/-- Nothing survives in what failed. -/
theorem survives_eq_false {a : Attempt} {place : Nat} {n : TraceNode}
    {above : List (Nat × TraceNode)} (ha : (place, n) :: above <:+ a.line)
    (hn : n.succeeded = false) : a.survives = false := by
  have hmem : (place, n) ∈ a.line := ha.subset List.mem_cons_self
  rw [survives, List.all_eq_false]
  exact ⟨_, hmem, by simp [hn]⟩

theorem Before.asymm {a b : Attempt} (h : a.Before b) : ¬ b.Before a := fun h' =>
  List.lt_irrefl _ (List.lt_trans h h')

theorem survives_iff {a : Attempt} :
    a.survives = true ↔ a.node.succeeded = true ∧ ∀ e ∈ a.above, e.2.succeeded = true := by
  simp [survives, line]

end Attempt

end ParseBoxes
