import ParseBoxes.Measure.Service

/-!
# Keeping the ribbon under the boxes

The fragment of a box is pinned to the width at which the box is displayed, so that text stands
below the box it belongs to.  When a box changes, the pins of the boxes that depend on it are set
anew.  A box that has no least width yet gets the width of its text.

Pins of fragments never act back on boxes, so one view serves for all boxes up to the next that
needs a least width.
-/

namespace ParseBoxes.Widths

variable {α : Type} [Scalar α] {t : BoxTree} (measure : Measurer α)

/-- Pins the fragment of each box to the width of the box. -/
def pin (pins : Pins α t) : List (t.Box × α) → Except Fault (Pins α t)
  | [] => return pins
  | (b, width) :: rest => do
    let p ← t.locatePiece (t.box b).input
    pin (pins.modifyPiece p ({ · with minWidth := some width })) rest

/-- Pins the fragments of boxes to the widths at which one view shows the boxes. -/
def pinAll (pins : Pins α t) (boxes : List t.Box) : Run α (Pins α t) := do
  let l : Layout α t := ⟨pins, measure, none⟩
  let widths ← Run.look l (boxes.mapM fun b => return (b, ← View.displayedWidth l b))
  Run.check (pin pins widths)

/-- Gives a box the width of its text as least width. -/
def giveMinWidth (pins : Pins α t) (b : t.Box) : Run α (Pins α t) := do
  let text ← Measuring.input measure pins (t.box b).input
  return pins.modifyBox b ({ · with minWidth := some text.width })

/-- Goes on with named boxes; `waiting` are boxes, last first, whose widths the next view shows. -/
def updateFrom (pins : Pins α t) (waiting : List t.Box) : List BoxId → Run α (Pins α t)
  | [] => if waiting.isEmpty then return pins else pinAll measure pins waiting.reverse
  | id :: rest => do
    let b ← Run.check (t.locate id)
    match (pins.box b).minWidth with
    | some _ => updateFrom pins (b :: waiting) rest
    | none => do
      let pins ← pinAll measure pins (b :: waiting).reverse
      let pins ← giveMinWidth measure pins b
      updateFrom pins [] rest

/-- Sets the pins of named boxes anew, in order. -/
def update (pins : Pins α t) (ids : List BoxId) : Run α (Pins α t) :=
  updateFrom measure pins [] ids

/-- Gives every box its least width and pins all fragments, those of children before those of their
parents. -/
def establish (pins : Pins α t) : Run α (Pins α t) := do
  let boxes := t.boxes.nodes
  let sizes ← Measuring.inputs measure pins (boxes.map fun b => (t.box b).input)
  let pins := (boxes.zip sizes).foldl
    (fun pins (b, size) => pins.modifyBox b ({ · with minWidth := some size.width })) pins
  let pins ← update measure pins (boxes.reverse.map t.nameOf)
  Run.note (.widthsInitialized boxes.length)
  return pins

end ParseBoxes.Widths
