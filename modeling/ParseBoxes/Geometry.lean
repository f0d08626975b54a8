import ParseBoxes.Scalar

/-!
# Sizes and rectangles
-/

namespace ParseBoxes

/-- The extent of a piece of text or of a block of boxes. -/
structure Size (α : Type) where
  width : α
  height : α
deriving DecidableEq, BEq

/-- An axis-parallel rectangle; `x`, `y` is its upper left corner. -/
structure Rect (α : Type) where
  x : α
  y : α
  width : α
  height : α
deriving DecidableEq, BEq

variable {α : Type} [Scalar α]

instance : Zero (Size α) where
  zero := ⟨0, 0⟩

namespace Size

/-- Two extents side by side: widths add up, the taller one decides the height. -/
def beside (s t : Size α) : Size α :=
  ⟨s.width + t.width, Scalar.max s.height t.height⟩

@[simp]
theorem width_zero : (0 : Size α).width = 0 := rfl

@[simp]
theorem width_beside (s t : Size α) : (s.beside t).width = s.width + t.width := rfl

@[simp]
theorem height_beside (s t : Size α) : (s.beside t).height = Scalar.max s.height t.height := rfl

end Size

namespace Rect

/-- The right edge, the first abscissa outside. -/
def right (r : Rect α) : α := r.x + r.width

/-- The lower edge, the first ordinate outside. -/
def bottom (r : Rect α) : α := r.y + r.height

/-- Left and upper edge belong to a rectangle, right and lower edge do not. -/
def contains (r : Rect α) (x y : α) : Bool :=
  Scalar.le r.x x && Scalar.lt x r.right && Scalar.le r.y y && Scalar.lt y r.bottom

end Rect

end ParseBoxes
