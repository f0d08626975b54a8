/-!
# Toggling

A box is expanded or collapsed, or on its way from one to the other.
-/

namespace ParseBoxes

/-- Where a box is between collapsed and expanded. -/
inductive ToggleState where
  | collapsed
  | expanding
  | expanded
  | collapsing
deriving DecidableEq, Repr

namespace ToggleState

def isTransient : ToggleState → Bool
  | expanding | collapsing => true
  | collapsed | expanded => false

/-- The name of a state in reports and snapshots. -/
def name : ToggleState → String
  | collapsed => "collapsed"
  | expanding => "expanding"
  | expanded => "expanded"
  | collapsing => "collapsing"

/-- The state of a box that is not on its way. -/
def settled (hidden : Bool) : ToggleState := if hidden then collapsed else expanded

end ToggleState

/-- Which way a toggle goes. -/
inductive Direction where
  | expand
  | collapse
deriving DecidableEq, Repr

namespace Direction

/-- The other way. -/
def reversed : Direction → Direction
  | expand => collapse
  | collapse => expand

def name : Direction → String
  | expand => "expand"
  | collapse => "collapse"

def title : Direction → String
  | expand => "Expand"
  | collapse => "Collapse"

/-- The state of a box on its way in a direction. -/
def transient : Direction → ToggleState
  | expand => .expanding
  | collapse => .collapsing

/-- The direction in which a box at rest is toggled. -/
def fromHidden (hidden : Bool) : Direction := if hidden then expand else collapse

end Direction

end ParseBoxes
