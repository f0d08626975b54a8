import ParseBoxes.Scalar
import ParseBoxes.Tree.BoxTree

/-!
# Boards

A board is a tree together with the pins of its boxes and fragments: which boxes keep their children
hidden, and which sizes are held at given values.  The tree never changes on a board, so the pins
are tables over its boxes and fragments.
-/

namespace ParseBoxes

variable {α : Type}

/-- What can change of a box. -/
structure BoxPins (α : Type) where
  /-- Set on a collapsed box: its children are not laid out. -/
  hidden : Bool := false
  /-- The least width, that of the input text; none until it has been measured. -/
  minWidth : Option α := none
  /-- The width that a running transition gives to the box. -/
  explicitWidth : Option α := none
  /-- The height that a running transition gives to the block of children. -/
  childrenHeight : Option α := none
deriving DecidableEq

/-- What can change of a fragment. -/
structure PiecePins (α : Type) where
  /-- The least width, that of the box above. -/
  minWidth : Option α := none
  highlighted : Bool := false
deriving DecidableEq

/-- The pins of all boxes and fragments of a tree. -/
structure Pins (α : Type) (t : BoxTree) where
  boxes : Vector (BoxPins α) t.boxes.size
  pieces : Vector (PiecePins α) t.fragments.size
deriving DecidableEq

namespace Pins

variable {t : BoxTree}

def fresh (t : BoxTree) : Pins α t := ⟨.replicate _ {}, .replicate _ {}⟩

def box (p : Pins α t) (b : t.Box) : BoxPins α := p.boxes[b]

def piece (p : Pins α t) (f : t.Piece) : PiecePins α := p.pieces[f]

def modifyBox (p : Pins α t) (b : t.Box) (change : BoxPins α → BoxPins α) : Pins α t :=
  { p with boxes := p.boxes.set b (change (p.box b)) }

def modifyPiece (p : Pins α t) (f : t.Piece) (change : PiecePins α → PiecePins α) : Pins α t :=
  { p with pieces := p.pieces.set f (change (p.piece f)) }

@[ext]
theorem ext {p q : Pins α t} (hb : ∀ b, p.box b = q.box b) (hf : ∀ f, p.piece f = q.piece f) :
    p = q := by
  cases p; cases q
  simp only [mk.injEq]
  exact ⟨Vector.ext fun i h => hb ⟨i, h⟩, Vector.ext fun i h => hf ⟨i, h⟩⟩

@[simp]
theorem box_fresh (b : t.Box) : (fresh t : Pins α t).box b = {} := by
  simp [fresh, box]

@[simp]
theorem piece_fresh (f : t.Piece) : (fresh t : Pins α t).piece f = {} := by
  simp [fresh, piece]

/-- A change of the pins of one box leaves those of the others. -/
theorem box_modifyBox (p : Pins α t) (b c : t.Box) (change : BoxPins α → BoxPins α) :
    (p.modifyBox b change).box c = if b = c then change (p.box b) else p.box c := by
  simp only [modifyBox, box, Fin.getElem_fin, Vector.getElem_set, Fin.ext_iff]

@[simp]
theorem piece_modifyBox (p : Pins α t) (b : t.Box) (change : BoxPins α → BoxPins α) (f : t.Piece) :
    (p.modifyBox b change).piece f = p.piece f := rfl

theorem piece_modifyPiece (p : Pins α t) (f g : t.Piece) (change : PiecePins α → PiecePins α) :
    (p.modifyPiece f change).piece g = if f = g then change (p.piece f) else p.piece g := by
  simp only [modifyPiece, piece, Fin.getElem_fin, Vector.getElem_set, Fin.ext_iff]

@[simp]
theorem box_modifyPiece (p : Pins α t) (f : t.Piece) (change : PiecePins α → PiecePins α)
    (b : t.Box) : (p.modifyPiece f change).box b = p.box b := rfl

end Pins

/-- A tree with its pins. -/
structure Board (α : Type) where
  tree : BoxTree
  pins : Pins α tree

namespace Board

def ofTree (t : BoxTree) : Board α := ⟨t, .fresh t⟩

def withPins (b : Board α) (pins : Pins α b.tree) : Board α := ⟨b.tree, pins⟩

/-- The pins of a tree on a larger one that has the same boxes and fragments in front; what is new
is not pinned. -/
def grow (b : Board α) (t : BoxTree) : Board α where
  tree := t
  pins := ⟨.ofFn fun i => (b.pins.boxes[i.1]?).getD {}, .ofFn fun i => (b.pins.pieces[i.1]?).getD {}⟩

end Board

end ParseBoxes
