import ParseBoxes.Measure.Text
import ParseBoxes.Tree.Board

/-!
# The rules of layout

Sizes flow upwards: a box is as wide as its label and as its children side by side, and as high as
its label above the tallest child.  Pins override: a running transition holds a width or a block
height, a collapsed box has no block, and no box is narrower than its least width.  The ribbon is
laid out the same way from texts.  Visibility flows downwards.

The rules here are the plain recursive ones; nothing is remembered between two questions.  A single
number bounds the recursion, so that the layout of a given board can be evaluated.
-/

namespace ParseBoxes

/-- One box taken out of a board to be measured: it is free of transitions, and its children are
hidden or shown as asked. -/
structure Detached (t : BoxTree) where
  root : t.Box
  hidden : Bool

/-- What sizes depend on. -/
structure Layout (α : Type) (t : BoxTree) where
  pins : Pins α t
  measure : Measurer α
  detached : Option (Detached t) := none

namespace Layout

variable {α : Type} [Scalar α] {t : BoxTree} (l : Layout α t)

/-- Is this the box that was taken out? -/
def isDetached (b : t.Box) : Bool :=
  match l.detached with
  | some d => d.root = b
  | none => false

def hidden (b : t.Box) : Bool :=
  match l.detached with
  | some d => if d.root = b then d.hidden else (l.pins.box b).hidden
  | none => (l.pins.box b).hidden

/-- The width that a transition gives to a box. -/
def explicitWidth (b : t.Box) : Option α :=
  if l.isDetached b then none else (l.pins.box b).explicitWidth

/-- The block height that a transition gives to a box. -/
def pinnedHeight (b : t.Box) : Option α :=
  if l.isDetached b then none else (l.pins.box b).childrenHeight

/-- A width that is no less than the least width, if there is one, nor than zero. -/
def atLeast (width : α) (least : Option α) : α := Scalar.max width (least.getD 0)

/-- A number and a row of numbers, which are summed up first. -/
def plusAll (x : α) : List α → α
  | [] => x
  | w :: ws => x + ws.foldl (· + ·) w

/-! ## Boxes -/

def labelSize (b : t.Box) : Size α := l.measure (t.box b).label (t.box b).labelRole

mutual

/-- The extent of the children side by side, nothing if they are hidden. -/
def childrenBlock (b : t.Box) : Size α :=
  if l.hidden b then 0
  else (t.boxes.kids b).foldl
    (fun block ⟨c, _⟩ => block.beside ⟨renderedWidth c, renderedHeight c⟩) 0
termination_by 3 * (t.boxes.size - b)

def renderedWidth (b : t.Box) : α :=
  let natural := match l.explicitWidth b with
    | some w => w
    | none =>
      if l.hidden b then (l.labelSize b).width
      else Scalar.max (l.labelSize b).width (childrenBlock b).width
  atLeast natural (l.pins.box b).minWidth
termination_by 3 * (t.boxes.size - b) + 1

def childrenHeight (b : t.Box) : α :=
  if l.hidden b then 0
  else match l.pinnedHeight b with
    | some h => h
    | none => (childrenBlock b).height
termination_by 3 * (t.boxes.size - b) + 1

def renderedHeight (b : t.Box) : α := (l.labelSize b).height + childrenHeight b
termination_by 3 * (t.boxes.size - b) + 2

end

/-- A box is displayed unless a box above it hides its children.  A loose box is not displayed. -/
def isDisplayed (b : t.Box) : Bool :=
  match t.boxes.parent? b with
  | none => !t.boxes.isLoose b
  | some ⟨p, _⟩ => !l.hidden p && isDisplayed p
termination_by b.1

/-- The width that a box takes up: none inside a collapsed box. -/
def displayedWidth (b : t.Box) : α := if l.isDisplayed b then l.renderedWidth b else 0

/-! ## Ribbon -/

def textSize (p : t.Piece) : Size α := l.measure (t.piece p).display (t.piece p).role

/-- The extent of the texts of a fragment and of all fragments in it. -/
def inputSize (p : t.Piece) : Size α :=
  (t.fragments.kids p).foldl (fun size ⟨c, _⟩ => size.beside (inputSize c)) (l.textSize p)
termination_by t.fragments.size - p

def pieceWidth (p : t.Piece) : α :=
  atLeast (plusAll (l.textSize p).width ((t.fragments.kids p).map fun ⟨c, _⟩ => pieceWidth c))
    (l.pins.piece p).minWidth
termination_by t.fragments.size - p

end Layout

end ParseBoxes
