/-!
# Parse traces

A trace is an ordered forest of match attempts.  A node says whether its attempt succeeded, which
kind of grammar expression it evaluated and where that stands in the grammar source, and which input
it consumed; its children are the attempts made on its behalf, in order.
-/

namespace ParseBoxes

/-- The kinds of grammar expression that are told apart. -/
inductive ExprKind where
  /-- `a | b` -/
  | alternation
  /-- `a b` -/
  | sequence
  /-- `a*`, `a+`, `a?` -/
  | repetition
  /-- A literal, a range or a built-in class. -/
  | primitive
  /-- A rule application, a lookahead, anything else. -/
  | other
deriving DecidableEq, Repr

namespace ExprKind

def name : ExprKind → String
  | alternation => "alternation"
  | sequence => "sequence"
  | repetition => "repetition"
  | primitive => "primitive"
  | other => "other"

def ofName? : String → Option ExprKind
  | "alternation" => some alternation
  | "sequence" => some sequence
  | "repetition" => some repetition
  | "primitive" => some primitive
  | "other" => some other
  | _ => none

def title : ExprKind → String
  | alternation => "Alternation"
  | sequence => "Sequence"
  | repetition => "Repetition"
  | primitive => "Primitive"
  | other => "Other"

end ExprKind

/-- Where an expression stands in the grammar source. -/
structure SourceInterval where
  start : UInt64
  stop : UInt64
deriving DecidableEq

/-- One match attempt. -/
structure TraceNode where
  succeeded : Bool
  label : String
  kind : ExprKind
  /-- None for an expression that the grammar's author did not write. -/
  source : Option SourceInterval
  /-- The input consumed. -/
  contents : String
  children : List TraceNode

namespace TraceNode

/-- A successful attempt without a source interval and without children. -/
def leaf (kind : ExprKind) (label contents : String) : TraceNode :=
  ⟨true, label, kind, none, contents, []⟩

/-- The same attempt, of an expression at the given place. -/
def withSource (n : TraceNode) (start stop : UInt64) : TraceNode :=
  { n with source := some ⟨start, stop⟩ }

def failed (n : TraceNode) : TraceNode := { n with succeeded := false }

/-- The same attempt with one more child behind the others. -/
def addChild (n child : TraceNode) : TraceNode := { n with children := n.children ++ [child] }

def withChildren (n : TraceNode) (children : List TraceNode) : TraceNode :=
  { n with children := children }

/-- Was a literal, a range or a built-in class evaluated? -/
def isPrimitive (n : TraceNode) : Bool := n.kind = .primitive

mutual

/-- The number of attempts in a node, itself included. -/
def count : TraceNode → Nat
  | ⟨_, _, _, _, _, children⟩ => forestCount children + 1

def forestCount : List TraceNode → Nat
  | [] => 0
  | n :: ns => n.count + forestCount ns

end

mutual

/-- A node and all nodes below it in pre-order, with their depths. -/
def rows (depth : Nat) : TraceNode → List (Nat × TraceNode)
  | ⟨succeeded, label, kind, source, contents, children⟩ =>
    (depth, ⟨succeeded, label, kind, source, contents, children⟩) :: forestRows (depth + 1) children

/-- All nodes of a forest in pre-order, with their depths. -/
def forestRows (depth : Nat) : List TraceNode → List (Nat × TraceNode)
  | [] => []
  | n :: ns => n.rows depth ++ forestRows depth ns

end

mutual

/-- Are two nodes the same all the way down? -/
def same : TraceNode → TraceNode → Bool
  | ⟨s, l, k, i, c, ns⟩, ⟨s', l', k', i', c', ns'⟩ =>
    s == s' && l == l' && k == k' && i == i' && c == c' && forestSame ns ns'

/-- Are two forests the same all the way down? -/
def forestSame : List TraceNode → List TraceNode → Bool
  | [], [] => true
  | n :: ns, n' :: ns' => n.same n' && forestSame ns ns'
  | _, _ => false

end

end TraceNode

/-- How a match ended. -/
inductive MatchOutcome where
  | success
  | failure
deriving DecidableEq, Repr

namespace MatchOutcome

/-- The name of an outcome in trace documents and reports. -/
def name : MatchOutcome → String
  | success => "success"
  | failure => "failure"

def ofName? : String → Option MatchOutcome
  | "success" => some success
  | "failure" => some failure
  | _ => none

def title : MatchOutcome → String
  | success => "Success"
  | failure => "Failure"

end MatchOutcome

/-- A trace as it is kept: with the outcome of its match, or bare. -/
inductive TraceDocument where
  | recorded (outcome : MatchOutcome) (trace : List TraceNode)
  | bare (trace : List TraceNode)

namespace TraceDocument

/-- A bare trace counts as that of a successful match. -/
def outcome : TraceDocument → MatchOutcome
  | recorded o _ => o
  | bare _ => .success

def nodes : TraceDocument → List TraceNode
  | recorded _ t => t
  | bare t => t

/-- Are two documents of the same form with the same contents? -/
def same : TraceDocument → TraceDocument → Bool
  | recorded o t, recorded o' t' => o == o' && TraceNode.forestSame t t'
  | bare t, bare t' => TraceNode.forestSame t t'
  | _, _ => false

end TraceDocument

end ParseBoxes
