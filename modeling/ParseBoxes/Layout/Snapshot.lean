import ParseBoxes.Layout.View
import ParseBoxes.Toggle
import ParseBoxes.Json.Value
import ParseBoxes.Decimal.Shortest

/-!
# Snapshots

A snapshot is all that is needed to paint one frame: a rectangle for every fragment and for every
box that is laid out.  A box that keeps its children hidden is laid out, the boxes in it are not.
-/

namespace ParseBoxes

/-- The properties of a box that styles refer to. -/
structure BoxClasses where
  failed : Bool
  primitive : Bool
  whitespace : Bool
  collapsed : Bool
deriving DecidableEq

/-- The class names of a box, the common one first. -/
def BoxClasses.names (c : BoxClasses) : List String :=
  "pexpr" :: (if c.failed then ["failed"] else []) ++ (if c.primitive then ["prim"] else [])
    ++ (if c.whitespace then ["whitespace"] else []) ++ (if c.collapsed then ["collapsed"] else [])

/-- A box as it is painted. -/
structure BoxRect (α : Type) where
  id : Nat
  parent : Option Nat
  depth : Nat
  rect : Rect α
  label : String
  fragment : Nat
  classes : BoxClasses
  state : ToggleState
deriving DecidableEq

/-- A fragment as it is painted. -/
structure PieceRect (α : Type) where
  id : Nat
  depth : Nat
  rect : Rect α
  text : String
  whitespace : Bool
  highlighted : Bool
deriving DecidableEq

/-- One frame. -/
structure Snapshot (α : Type) where
  generation : UInt32
  width : α
  height : α
  ribbon : List (PieceRect α)
  boxes : List (BoxRect α)
deriving DecidableEq

namespace View

variable {α : Type} [Scalar α] {t : BoxTree} (l : Layout α t)

/-- Places a fragment and all fragments in it, its own text first; answers with the abscissa behind
it. -/
def placePiece (p : t.Piece) (x height : α) (depth : Nat) (placed : Array (PieceRect α)) :
    View α t (α × Array (PieceRect α)) := do
  let width ← pieceWidth l p
  let f := t.piece p
  let placed := placed.push
    ⟨p, depth, ⟨x, 0, width, height⟩, f.display, f.isWhitespace, (l.pins.piece p).highlighted⟩
  let own ← textSize l p
  let (_, placed) ← (t.fragments.kids p).foldlM
    (fun (x, placed) ⟨c, _⟩ => placePiece c x height (depth + 1) placed) (x + own.width, placed)
  return (x + width, placed)
termination_by t.fragments.size - p

def boxRect (b : t.Box) (depth : Nat) (rect : Rect α) : BoxRect α :=
  let n := t.box b
  let hidden := (l.pins.box b).hidden
  { id := b
    parent := (t.boxes.parent? b).map (·.1.1)
    depth := depth
    rect := rect
    label := n.label
    fragment := n.input.index
    classes := ⟨n.isFailure, n.isPrimitive, n.isWhitespace, hidden⟩
    state := .settled hidden }

/-- Places a box and, unless it hides them, the boxes in it from left to right below its label. -/
def placeBox (b : t.Box) (x y : α) (depth : Nat) (placed : Array (BoxRect α)) :
    View α t (Rect α × Array (BoxRect α)) := do
  let width ← renderedWidth l b
  let height ← renderedHeight l b
  let rect : Rect α := ⟨x, y, width, height⟩
  let placed := placed.push (boxRect l b depth rect)
  if (l.pins.box b).hidden then return (rect, placed)
  else
    let label ← labelSize l b
    let (_, placed) ← (t.boxes.kids b).foldlM
      (fun (x, placed) ⟨c, _⟩ => do
        let (r, placed) ← placeBox c x (y + label.height) (depth + 1) placed
        return (r.right, placed))
      (x, placed)
    return (rect, placed)
termination_by t.boxes.size - b

/-- Places the whole ribbon and all boxes in a row below it. -/
def arrange : View α t (Snapshot α) := do
  let line ← ask l .line "" .input
  let (ribbonWidth, ribbon) ← t.fragments.tops.foldlM
    (fun (x, placed) p => placePiece l p x line.height 0 placed) ((0 : α), #[])
  let (right, height, boxes) ← t.boxes.tops.foldlM
    (fun (x, height, placed) b => do
      let (r, placed) ← placeBox l b x line.height 0 placed
      return (r.right, Scalar.max height r.height, placed))
    ((0 : α), (0 : α), #[])
  return {
    generation := t.generation
    width := Scalar.max ribbonWidth right
    height := line.height + height
    ribbon := ribbon.toList
    boxes := boxes.toList }

end View

namespace Snapshot

variable {α : Type} [Scalar α]

/-- The rectangles of boxes by their places in the tree. -/
def rects (s : Snapshot α) (size : Nat) : Array (Option (Rect α)) :=
  s.boxes.foldl (fun rs b => rs.setIfInBounds b.id (some b.rect)) (Array.replicate size none)

/-- Does the box at this place lie under the point? -/
def covers (rects : Array (Option (Rect α))) (x y : α) (b : Nat) : Bool :=
  match rects[b]? with
  | some (some r) => r.contains x y
  | _ => false

/-- The innermost box under the point among a box that lies there and those in it. -/
def innermost (t : BoxTree) (rects : Array (Option (Rect α))) (x y : α) (b : t.Box) : t.Box :=
  match (t.boxes.kids b).find? fun c => covers rects x y c.1 with
  | some ⟨c, _⟩ => innermost t rects x y c
  | none => b
termination_by t.boxes.size - b

/-- The innermost box under the point, if there is one. -/
def hit? (s : Snapshot α) (t : BoxTree) (x y : α) : Option t.Box :=
  let rects := s.rects t.boxes.size
  (t.boxes.tops.find? fun (b : t.Box) => covers rects x y b).map (innermost t rects x y)

end Snapshot

/-! ## Snapshots in JSON -/

namespace Snapshot

/-- Numbers have a point or an exponent and are positional from 1e-5 to below 1e16. -/
def numberStyle : Decimal.Style where
  tie := .toEven
  positional := some (-5, 15)
  wholePoint := true
  nan := "null"
  infinity := "null"

/-- A number; one that is not finite is null. -/
def number (x : Float) : Json.Value :=
  if x.isFinite then .number (numberStyle.write x).toList else .null

def rectJson (r : Rect Float) : Json.Value :=
  .ofFields [("x", number r.x), ("y", number r.y), ("width", number r.width),
    ("height", number r.height)]

def classesJson (c : BoxClasses) : Json.Value :=
  .ofFields [("failed", .bool c.failed), ("primitive", .bool c.primitive),
    ("whitespace", .bool c.whitespace), ("collapsed", .bool c.collapsed)]

/-- A box with all its fields in their order. -/
def boxJson (b : BoxRect Float) : Json.Value :=
  .ofFields [("id", .ofNat b.id), ("parent", (b.parent.map Json.Value.ofNat).getD .null),
    ("depth", .ofNat b.depth), ("rect", rectJson b.rect), ("label", .ofString b.label),
    ("fragment", .ofNat b.fragment), ("classes", classesJson b.classes),
    ("state", .ofString b.state.name)]

/-- A fragment with all its fields in their order. -/
def pieceJson (p : PieceRect Float) : Json.Value :=
  .ofFields [("id", .ofNat p.id), ("depth", .ofNat p.depth), ("rect", rectJson p.rect),
    ("text", .ofString p.text), ("whitespace", .bool p.whitespace),
    ("highlighted", .bool p.highlighted)]

/-- A snapshot with all its fields in their order. -/
def toJson (s : Snapshot Float) : Json.Value :=
  .ofFields [("generation", .ofNat s.generation.toNat), ("width", number s.width),
    ("height", number s.height), ("ribbon", .array (s.ribbon.map pieceJson)),
    ("boxes", .array (s.boxes.map boxJson))]

end Snapshot

end ParseBoxes
