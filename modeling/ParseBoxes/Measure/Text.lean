import ParseBoxes.Geometry
import ParseBoxes.Text.Columns
import ParseBoxes.Tree.BoxTree

/-!
# Measuring text

A measurer gives the extent of a text in a role.  It is a function: the same text in the same role
has the same extent whenever it is asked.
-/

namespace ParseBoxes

/-- What a text is used for, which decides how it is set. -/
inductive TextRole where
  | label
  /-- The label of a primitive. -/
  | primitiveLabel
  /-- Input text in the ribbon. -/
  | input
  /-- The glyph in place of white space in the ribbon. -/
  | whitespace
deriving DecidableEq, Repr

namespace BoxNode

def labelRole (b : BoxNode) : TextRole := if b.isPrimitive then .primitiveLabel else .label

end BoxNode

namespace Fragment

def role (f : Fragment) : TextRole := if f.isWhitespace then .whitespace else .input

end Fragment

/-- The extents of texts. -/
abbrev Measurer (α : Type) := String → TextRole → Size α

/-- The cells of a monospace grid. -/
structure CellMetrics (α : Type) where
  charWidth : α
  lineHeight : α
  /-- The space on each side of a label. -/
  labelPadding : α
deriving BEq

namespace CellMetrics

variable {α : Type} [Scalar α]

/-- Cells of eight by sixteen, and four around a label. -/
def standard : CellMetrics α := ⟨Scalar.ofNat 8, Scalar.ofNat 16, Scalar.ofNat 4⟩

/-- The measurer of a monospace grid: one cell to a column, and padding around labels. -/
def measurer (m : CellMetrics α) : Measurer α := fun text role =>
  let width := Scalar.ofNat (Text.columns text) * m.charWidth
  match role with
  | .label | .primitiveLabel =>
    ⟨width + Scalar.ofNat 2 * m.labelPadding, m.lineHeight + Scalar.ofNat 2 * m.labelPadding⟩
  | .input | .whitespace => ⟨width, m.lineHeight⟩

end CellMetrics

end ParseBoxes
