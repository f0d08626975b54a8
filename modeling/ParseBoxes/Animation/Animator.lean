import ParseBoxes.Animation.Widths
import ParseBoxes.Tween

/-!
# Transitions

A toggled box gets its new size by and by.  While its transition runs, the box is held at a width
and its block of children at a height, both carried by tweens from the size the box had to the size
it will have; at the end it is released.  A box toggled on its way turns round.  Children are shown
from the beginning of an expansion and hidden at the end of a collapse.
-/

namespace ParseBoxes

/-- A box on its way. -/
structure Transition (α : Type) where
  direction : Direction
  /-- The boxes whose widths may change with that of the box. -/
  dependents : List BoxId
  /-- The width on its way; none once it has arrived. -/
  width : Option (Tween α)
  /-- The height of the block of children on its way; none once it has arrived. -/
  height : Option (Tween α)

/-- All boxes on their way, in the order of their names. -/
structure Animator (α : Type) where
  duration : Duration
  easing : Easing
  active : List (BoxId × Transition α) := []

namespace Animator

variable {α : Type} [Scalar α]

/-- How long a toggle takes where nothing else is said. -/
def standardDuration : Duration := .ofMillis 500

def idle (duration : Duration) (easing : Easing) : Animator α := ⟨duration, easing, []⟩

def isIdle (a : Animator α) : Bool := a.active.isEmpty

def animating (a : Animator α) : List BoxId := a.active.map (·.1)

def find? (a : Animator α) (id : BoxId) : Option (Transition α) :=
  (a.active.find? (·.1 = id)).map (·.2)

/-- The state of a named box; only a box at rest is looked up in the tree. -/
def stateOf (a : Animator α) {t : BoxTree} (pins : Pins α t) (id : BoxId) :
    Except Fault ToggleState := do
  match a.find? id with
  | some tr => return tr.direction.transient
  | none => return .settled (pins.box (← t.locate id)).hidden

/-- Puts a transition in its place among the others, instead of one of the same box. -/
def insert (id : BoxId) (tr : Transition α) :
    List (BoxId × Transition α) → List (BoxId × Transition α)
  | [] => [(id, tr)]
  | (id', tr') :: rest =>
    if id' = id then (id, tr) :: rest
    else if id.before id' then (id, tr) :: (id', tr') :: rest
    else (id', tr') :: insert id tr rest

/-- Forgets all transitions; the board they ran on is no longer needed. -/
def cancelAll (a : Animator α) : Run α (Animator α) := do
  unless a.isIdle do Run.note (.cancelled a.active.length)
  return { a with active := [] }

/-! ## Toggling -/

section

variable {t : BoxTree} (measure : Measurer α)

/-- The direction in which a toggle sends a box. -/
def nextDirection (a : Animator α) (pins : Pins α t) (b : t.Box) : Direction :=
  match a.find? (t.nameOf b) with
  | some tr => tr.direction.reversed
  | none => .fromHidden (pins.box b).hidden

/-- Holds a box at the size it is shown with.  An expansion shows the children at once. -/
def hold (direction : Direction) (width height : α) (p : BoxPins α) : BoxPins α :=
  { p with
    explicitWidth := some width
    childrenHeight := some height
    hidden := p.hidden && direction = .collapse }

/-- Sends a box on its way, or turns it round. -/
def toggle (a : Animator α) (pins : Pins α t) (id : BoxId) :
    Run α (Direction × Pins α t × Animator α) := do
  let b ← Run.check (t.locate id)
  let direction := a.nextDirection pins b
  let children ← Measuring.children measure pins b true
  let label ← Measuring.label measure b
  let text ← Measuring.input measure pins (t.box b).input
  let (goalWidth, goalHeight) := match direction with
    | .expand => (children.width, children.height)
    | .collapse => (label.width, 0)
  let goalWidth := Scalar.max goalWidth text.width
  let dependents := (t.dependents b).map t.nameOf
  let l : Layout α t := ⟨pins, measure, none⟩
  let (width, height) ← Run.look l do
    return (← View.renderedWidth l b, ← View.childrenHeight l b)
  let pins := pins.modifyBox b (hold direction width height)
  Run.note (.toggled id direction width goalWidth height goalHeight dependents.length)
  let tr : Transition α := {
    direction := direction
    dependents := dependents
    width := some (.begin width goalWidth a.duration a.easing)
    height := some (.begin height goalHeight a.duration a.easing) }
  return (direction, pins, { a with active := insert id tr a.active })

/-! ## Frames -/

/-- One frame of a width.  The dependents follow while the box is held at the new width, also when
this is the last one; then the box is released. -/
def advanceWidth (dt : Duration) (pins : Pins α t) (b : t.Box) (dependents : List BoxId) :
    Option (Tween α) → Run α (Pins α t × Option (Tween α))
  | none => return (pins, none)
  | some width => do
    let width := width.tick dt
    let pins := pins.modifyBox b ({ · with explicitWidth := some width.value })
    let pins ← Widths.update measure pins dependents
    Run.note (.widthFrame (t.nameOf b) width.value)
    if width.isComplete then return (pins.modifyBox b ({ · with explicitWidth := none }), none)
    else return (pins, some width)

/-- The end of a block height: the block is released, and hidden after a collapse. -/
def release (direction : Direction) (p : BoxPins α) : BoxPins α :=
  { p with childrenHeight := none, hidden := p.hidden || direction = .collapse }

def advanceHeight (dt : Duration) (pins : Pins α t) (b : t.Box) (direction : Direction) :
    Option (Tween α) → Pins α t × Option (Tween α)
  | none => (pins, none)
  | some height =>
    let height := height.tick dt
    if height.isComplete then (pins.modifyBox b (release direction), none)
    else (pins.modifyBox b ({ · with childrenHeight := some height.value }), some height)

/-- One frame of one transition, its width before its height. -/
def advance (dt : Duration) (pins : Pins α t) (id : BoxId) (tr : Transition α) :
    Run α (Pins α t × Transition α) := do
  let b ← Run.check (t.locate id)
  let (pins, width) ← advanceWidth measure dt pins b tr.dependents tr.width
  let (pins, height) := advanceHeight dt pins b tr.direction tr.height
  return (pins, { tr with width := width, height := height })

/-- Has a transition come to its end? -/
def isDone (tr : Transition α) : Bool := tr.width.isNone && tr.height.isNone

/-- One frame of all transitions, one after another. -/
def advanceAll (dt : Duration) (pins : Pins α t) :
    List (BoxId × Transition α) → Run α (Pins α t × List (BoxId × Transition α))
  | [] => return (pins, [])
  | (id, tr) :: rest => do
    let (pins, tr) ← advance measure dt pins id tr
    let (pins, rest) ← advanceAll dt pins rest
    return (pins, (id, tr) :: rest)

/-- Lets the dependents of boxes that have come to rest follow a last time. -/
def settleAll (pins : Pins α t) : List (BoxId × Transition α) → Run α (Pins α t)
  | [] => return pins
  | (id, tr) :: rest => do
    let pins ← Widths.update measure pins tr.dependents
    Run.note (.settled id tr.direction)
    settleAll pins rest

/-- One frame; answers with the boxes that have come to rest. -/
def tick (a : Animator α) (pins : Pins α t) (dt : Duration) :
    Run α (List BoxId × Pins α t × Animator α) := do
  let (pins, active) ← advanceAll measure dt pins a.active
  let (done, running) := active.partition fun e => isDone e.2
  let pins ← settleAll measure pins done
  return (done.map (·.1), pins, { a with active := running })

end

end Animator

end ParseBoxes
