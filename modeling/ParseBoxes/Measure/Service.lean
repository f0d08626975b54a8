import ParseBoxes.Journal

/-!
# Measurements

A measurement looks at one box or at some fragments by themselves, whatever transitions the board
shows at the moment.  Each is taken on a fresh view and counted.
-/

namespace ParseBoxes.Measuring

variable {α : Type} [Scalar α] {t : BoxTree} (measure : Measurer α)

def label (b : t.Box) : Run α (Size α) := do
  let n := t.box b
  Run.request measure #[⟨.label b, n.label, n.labelRole⟩]
  Run.countMeasurement
  return measure n.label n.labelRole

/-- The extent of a box's block of children if they were shown, or if they were hidden. -/
def children (pins : Pins α t) (b : t.Box) (shown : Bool) : Run α (Size α) := do
  let l : Layout α t := ⟨pins, measure, some ⟨b, !shown⟩⟩
  let size ← Run.look l (View.childrenBlock l b)
  Run.countMeasurement
  return size

/-- The extent of a named box's block of children.  A block that is to be hidden takes no space,
whatever box it is asked of. -/
def childrenOf (pins : Pins α t) (id : BoxId) (shown : Bool) : Run α (Size α) := do
  match t.locate id with
  | .ok b => children measure pins b shown
  | .error fault => do
    if shown then throw fault
    Run.countMeasurement
    return 0

/-- The extents of the whole texts of fragments, taken on one view. -/
def inputs (pins : Pins α t) (ids : List FragmentId) : Run α (List (Size α)) := do
  let pieces ← Run.check (ids.mapM t.locatePiece)
  let l : Layout α t := ⟨pins, measure, none⟩
  let sizes ← Run.look l (pieces.mapM (View.inputSize l))
  Run.countMeasurement
  return sizes

/-- The extent of the whole text of a fragment. -/
def input (pins : Pins α t) (id : FragmentId) : Run α (Size α) := do
  return (← inputs measure pins [id]).headD 0

end ParseBoxes.Measuring
