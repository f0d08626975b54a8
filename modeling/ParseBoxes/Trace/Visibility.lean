import ParseBoxes.Trace.Node

/-!
# Which attempts get a box

`classify` decides for one node from its own fields alone; the first rule that applies wins.
`isBlackhole` is a rule of its own as well: it takes the whole subtree out of sight, while the other
rules only take away the node's own box.
-/

namespace ParseBoxes

/-- Why a node gets no box. -/
inductive HiddenReason where
  | failed
  | blackhole
  | structural
  | emptyRepetition
  | synthetic
deriving DecidableEq, Repr

/-- What is shown of a node. -/
inductive Visibility where
  | hidden (reason : HiddenReason)
  /-- A label that cannot be opened. -/
  | leaf
  /-- A box with its children beneath it. -/
  | container
deriving DecidableEq, Repr

namespace Visibility

def isVisible : Visibility → Bool
  | hidden _ => false
  | _ => true

end Visibility

namespace TraceNode

/-- Does the label mark lexical machinery?  Labels that end in an underscore do, and two names. -/
def isBlackhole (n : TraceNode) : Bool :=
  n.label.toList.getLast? == some '_' || n.label == "space" || n.label == "empty"

def classify (n : TraceNode) : Visibility :=
  if !n.succeeded then .hidden .failed
  else if n.isBlackhole then .hidden .blackhole
  else match n.kind with
    | .alternation | .sequence => .hidden .structural
    | .repetition => if n.contents.isEmpty then .hidden .emptyRepetition else .container
    | .primitive => if n.source.isNone then .hidden .synthetic else .leaf
    | .other => if n.source.isNone then .hidden .synthetic else .container

end TraceNode

end ParseBoxes
