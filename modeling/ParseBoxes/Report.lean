import ParseBoxes.Session.Basic
import ParseBoxes.Text.Quoted

/-!
# Text reports

A layout and a trace in lines for reading: one line to a box or to an attempt, indented by two
spaces for every level.
-/

namespace ParseBoxes.Report

/-- Numbers are positional and as short as can be. -/
def numberStyle : Decimal.Style where
  tie := .up
  positional := none
  wholePoint := false
  nan := "NaN"
  infinity := "inf"

def number (x : Float) : String := numberStyle.write x

def indent (depth : Nat) : String := String.ofList (List.replicate (2 * depth) ' ')

/-- Rows, each in a line. -/
def ofRows (rows : List String) : String := String.join (rows.map (· ++ "\n"))

/-! ## Layouts -/

def header (outcome : MatchOutcome) (s : Snapshot Float) : String :=
  String.join ["outcome: ", outcome.name, "  boxes: ", toString s.boxes.length, "  size: ",
    number s.width, "x", number s.height]

def boxRow (matched : String) (b : BoxRect Float) : String :=
  String.join [indent b.depth, b.label, " ", Text.quote matched, " ", number b.rect.width, "x",
    number b.rect.height, " @ (", number b.rect.x, ", ", number b.rect.y, ") [",
    String.intercalate " " b.classes.names, "] ", b.state.name]

def matchedBy (t : BoxTree) (box : Nat) : String :=
  if h : box < t.boxes.size then
    match t.locatePiece (t.box ⟨box, h⟩).input with
    | .ok p => t.matchedText p
    | .error _ => ""
  else ""

/-- A frame: the outcome and the size, the ribbon, and all boxes that are laid out. -/
def layoutRows (t : BoxTree) (outcome : MatchOutcome) (s : Snapshot Float) : List String :=
  header outcome s :: ("input: " ++ String.join (s.ribbon.map (·.text)))
    :: s.boxes.map fun b => boxRow (matchedBy t b.id) b

def layout (t : BoxTree) (outcome : MatchOutcome) (s : Snapshot Float) : String :=
  ofRows (layoutRows t outcome s)

/-! ## Visibility -/

def visibility : Visibility → String
  | .leaf => "leaf"
  | .container => "container"
  | .hidden .failed => "hidden (failed)"
  | .hidden .blackhole => "hidden (blackhole)"
  | .hidden .structural => "hidden (structural)"
  | .hidden .emptyRepetition => "hidden (empty repetition)"
  | .hidden .synthetic => "hidden (synthetic)"

def nodeRow (depth : Nat) (n : TraceNode) : String :=
  String.join [indent depth, n.label, " ", n.kind.title, " ", Text.quote n.contents, ": ",
    visibility n.classify]

/-- All attempts of a trace with what is shown of them. -/
def traceRows (nodes : List TraceNode) : List String :=
  (TraceNode.forestRows 0 nodes).map fun (depth, n) => nodeRow depth n

def trace (nodes : List TraceNode) : String := ofRows (traceRows nodes)

end ParseBoxes.Report
