import ParseBoxes.Animation.Animator
import ParseBoxes.Config.Basic
import ParseBoxes.Layout.Snapshot
import ParseBoxes.Session.Engine
import ParseBoxes.Tree.Builder

/-!
# Sessions

A session shows one trace at a time.  It rebuilds its board when a trace is loaded or an input is
parsed anew, answers the pointer, and runs the transitions frame by frame.  An operation that is
refused changes nothing.
-/

namespace ParseBoxes

/-- Why an operation is refused. -/
inductive SessionError where
  /-- The box belongs to an earlier tree. -/
  | staleBox (id : BoxId)
  /-- The tree has no such box. -/
  | unknownBox (id : BoxId)
  /-- The engine failed. -/
  | engine (e : EngineError)

namespace SessionError

def message : SessionError → String
  | staleBox id => "box " ++ toString id ++ " belongs to a previous tree"
  | unknownBox id => "no box with id " ++ toString id
  | engine e => "parsing engine failed: " ++ e.message

def source? : SessionError → Option String
  | engine e => some e.message
  | _ => none

end SessionError

/-- A session. -/
structure Session (α : Type) where
  config : Config α
  measure : Measurer α
  /-- The grammars that every parse starts with. -/
  pristine : GrammarRegistry
  /-- The grammars as the last parse left them. -/
  registry : GrammarRegistry
  board : Board α
  animator : Animator α
  clock : FrameClock
  /-- The box whose input is highlighted. -/
  hovered : Option BoxId
  /-- How the match on show ended. -/
  outcome : Option MatchOutcome

namespace Session

variable {α : Type} [Scalar α]

def begin (measure : Measurer α) (config : Config α) (registry : GrammarRegistry) : Session α where
  config := config
  measure := measure
  pristine := registry
  registry := registry
  board := .ofTree (.empty 0)
  animator := .idle config.toggleDuration config.easing
  clock := {}
  hovered := none
  outcome := none

def layout (s : Session α) : Layout α s.board.tree := ⟨s.board.pins, s.measure, none⟩

def withPins (s : Session α) (pins : Pins α s.board.tree) : Session α :=
  { s with board := s.board.withPins pins }

/-! ## Rebuilding -/

/-- Shows another trace.  Whatever was going on is over. -/
def rebuild (s : Session α) (trace : List TraceNode) (outcome : MatchOutcome) :
    Run α (Session α) := do
  let animator ← s.animator.cancelAll
  let generation := s.board.tree.generation + 1
  Run.note (.building generation trace.length)
  let tree := TreeBuilder.build ⟨s.config.glyph⟩ trace generation
  Run.note (.built tree.boxes.size tree.fragments.size)
  let pins ← Widths.establish s.measure (.fresh tree)
  Run.note (.rebuilt generation outcome tree.boxes.size)
  return { s with
    board := ⟨tree, pins⟩
    animator := animator
    hovered := none
    outcome := some outcome }

/-- Parses an input anew and shows the trace, also that of a failed match.  The engine starts with
the pristine registry; if it fails, the trace on show stays. -/
def refresh (s : Session α) (engine : Engine) (grammar input start : String) :
    Run α (Except SessionError MatchOutcome × Session α) := do
  Run.note (.refreshing start input.utf8ByteSize)
  let (answer, registry) := engine.run s.pristine grammar input start
  let s := { s with registry := registry }
  match Engine.extract answer with
  | .ok (outcome, trace) => return (.ok outcome, ← s.rebuild trace outcome)
  | .error e => do
    Run.note (.engineFailed e.message)
    return (.error (.engine e), s)

/-! ## Pointing -/

/-- The box of a name, or why there is none. -/
def check (s : Session α) (id : BoxId) : Run α (Except SessionError s.board.tree.Box) := do
  match s.board.tree.locate id with
  | .ok b => return .ok b
  | .error (.foreignBox _ generation) => do
    Run.note (.staleBox id generation)
    return .error (.staleBox id)
  | .error _ => return .error (.unknownBox id)

/-- The innermost box under a point. -/
def hit (s : Session α) (x y : α) : Run α (Option BoxId) := do
  let snapshot ← Run.look s.layout (View.arrange s.layout)
  return (snapshot.hit? s.board.tree x y).map s.board.tree.nameOf

def toggle (s : Session α) (id : BoxId) : Run α (Direction × Session α) := do
  let (direction, pins, animator) ← s.animator.toggle s.measure s.board.pins id
  return (direction, { s.withPins pins with animator := animator })

def click (s : Session α) (id : BoxId) : Run α (Except SessionError Direction × Session α) := do
  match ← s.check id with
  | .error e => return (.error e, s)
  | .ok _ => do
    let (direction, s) ← s.toggle id
    return (.ok direction, s)

/-- Toggles the innermost box under a point, if there is one. -/
def clickAt (s : Session α) (x y : α) : Run α (Option (BoxId × Direction) × Session α) := do
  match ← s.hit x y with
  | none => return (none, s)
  | some id => do
    let (direction, s) ← s.toggle id
    return (some (id, direction), s)

def inputOf (t : BoxTree) (id : BoxId) : Except Fault t.Piece := do
  t.locatePiece (t.box (← t.locate id)).input

/-- Switches the highlight of a named box's fragment. -/
def highlight (s : Session α) (id : BoxId) (on : Bool) : Except Fault (Session α) := do
  let p ← inputOf s.board.tree id
  return s.withPins (s.board.pins.modifyPiece p ({ · with highlighted := on }))

/-- Moves the highlight to the fragment of a box, or takes it away. -/
def hover (s : Session α) (id : Option BoxId) : Run α (Except SessionError Unit × Session α) := do
  let refused ← match id with
    | none => pure none
    | some id => do
      match ← s.check id with
      | .error e => pure (some e)
      | .ok _ => pure none
  match refused with
  | some e => return (.error e, s)
  | none => do
    let s ← match s.hovered with
      | none => pure s
      | some previous => Run.check (s.highlight previous false)
    let s ← match id with
      | none => pure s
      | some id => Run.check (s.highlight id true)
    return (.ok (), { s with hovered := id })

/-- Moves the highlight to the innermost box under a point. -/
def hoverAt (s : Session α) (x y : α) : Run α (Option BoxId × Session α) := do
  let id ← s.hit x y
  let (_, s) ← s.hover id
  return (id, s)

/-! ## Frames -/

/-- One frame; answers with the boxes that have come to rest. -/
def tick (s : Session α) (dt : Duration) : Run α (List BoxId × Session α) := do
  let s := { s with clock := s.clock.advance dt }
  let (settled, pins, animator) ← s.animator.tick s.measure s.board.pins dt
  return (settled, { s.withPins pins with animator := animator })

def maxFrames : Nat := 100000

/-- Up to `fuel` frames until nothing moves; `frames` have been run before. -/
def settleWithin (frame : Duration) : Nat → Nat → Session α → Run α (Nat × Session α)
  | 0, frames, s => return (frames, s)
  | fuel + 1, frames, s =>
    if s.animator.isIdle then return (frames, s)
    else do
      let (_, s) ← s.tick frame
      settleWithin frame fuel (frames + 1) s

/-- Runs frames of one length, a millisecond at least, until nothing moves; answers with their
number. -/
def settle (s : Session α) (frame : Duration) : Run α (Nat × Session α) :=
  settleWithin (frame.greatest .millisecond) maxFrames 0 s

def isSettled (s : Session α) : Bool := s.animator.isIdle

/-! ## Questions -/

def state (s : Session α) (id : BoxId) : Run α (Except SessionError ToggleState) := do
  match ← s.check id with
  | .error e => return .error e
  | .ok _ => return .ok (← Run.check (s.animator.stateOf s.board.pins id))

/-- The name of the box that a path leads to. -/
def boxAt (s : Session α) (path : List Nat) : Option BoxId :=
  (s.board.tree.atPath path).map s.board.tree.nameOf

/-- Writes the states of boxes on their way over those that the pins show. -/
def markTransient (active : List (BoxId × Transition α)) (b : BoxRect α) : BoxRect α :=
  match active.find? fun e => e.1.index = b.id with
  | some (_, tr) => { b with state := tr.direction.transient }
  | none => b

/-- The frame on show. -/
def snapshot (s : Session α) : Run α (Snapshot α) := do
  let snapshot ← Run.look s.layout (View.arrange s.layout)
  return { snapshot with boxes := snapshot.boxes.map (markTransient s.animator.active) }

end Session

end ParseBoxes
