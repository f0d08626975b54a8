import ParseBoxes.Session.Basic
import ParseBoxes.Trace.Json

/-!
# Sessions on a canvas

A canvas drives a session with what its host gives it: trace documents as text, positions of the
pointer, paths, and frame lengths in milliseconds.
-/

namespace ParseBoxes

/-- Why a canvas refuses an operation. -/
inductive CanvasError where
  /-- The text is no trace document. -/
  | malformedTrace
  | noSuchPath (path : List Nat)
  | session (e : SessionError)

namespace CanvasError

def message : CanvasError → String
  | malformedTrace => "malformed trace"
  | noSuchPath path =>
    "no box at path [" ++ String.intercalate ", " (path.map toString) ++ "]"
  | session e => e.message

end CanvasError

/-- What a pressed pointer did. -/
structure PointerOutcome where
  box : Nat
  direction : Direction
deriving DecidableEq

namespace Canvas

def loadText {α : Type} [Scalar α] (s : Session α) (text : String) :
    Run α (Except CanvasError MatchOutcome × Session α) := do
  match TraceDocument.parse? text with
  | none => return (.error .malformedTrace, s)
  | some d => return (.ok d.outcome, ← s.rebuild d.nodes d.outcome)

variable {α : Type} [Scalar α]

def pointerDown (s : Session α) (x y : α) : Run α (Option PointerOutcome × Session α) := do
  match ← s.clickAt x y with
  | (none, s) => return (none, s)
  | (some (id, direction), s) => do
    Run.note (.pointerDown id direction x y)
    return (some ⟨id.index, direction⟩, s)

/-- Highlights the input of what lies under the pointer. -/
def pointerMove (s : Session α) (x y : α) : Run α (Option Nat × Session α) := do
  let (id, s) ← s.hoverAt x y
  return (id.map (·.index), s)

def pointerLeave (s : Session α) : Run α (Session α) := do
  return (← s.hover none).2

def togglePath (s : Session α) (path : List Nat) :
    Run α (Except CanvasError Direction × Session α) := do
  match s.boxAt path with
  | none => return (.error (.noSuchPath path), s)
  | some id => do
    let (result, s) ← s.click id
    return (result.mapError .session, s)

/-- The duration of so many seconds, to the nearest nanosecond, a tie to the even one. -/
def ofSeconds (x : Float) : Except Fault Duration :=
  let d := Decimal.Dyadic.ofFloat x
  let num := d.mantissa * 1000000000 * (if 0 ≤ d.exponent then Nat.pow 2 d.exponent.toNat else 1)
  let den := if 0 ≤ d.exponent then 1 else Nat.pow 2 (-d.exponent).toNat
  let nanos := Decimal.roundHalfEven num den
  if h : nanos < Nat.pow 2 64 * 1000000000 then .ok ⟨nanos, h⟩ else .error .endlessFrame

/-- The duration of so many milliseconds; what is not a positive finite number counts as nothing. -/
def ofMilliseconds (ms : Float) : Except Fault Duration :=
  if ms.isFinite && ms > 0 then ofSeconds (ms / 1000) else .ok 0

/-- One frame; answers with the number of boxes that have come to rest. -/
def tickMilliseconds (s : Session Float) (ms : Float) : Run Float (Nat × Session Float) := do
  let dt ← Run.check (ofMilliseconds ms)
  let (settled, s) ← s.tick dt
  return (settled.length, s)

/-- The whole pixels that a length takes. -/
def pixels (x : Float) : UInt32 :=
  if x.isFinite && x > 0 then
    let c := x.ceil
    if c < 4294967295.0 then c.toUInt32 else 4294967295
  else 0

/-- The extent of a canvas that a frame fits on and that is not smaller than the present one. -/
def extent (width height : UInt32) (s : Snapshot Float) : UInt32 × UInt32 :=
  (max width (pixels s.width), max height (pixels s.height))

end Canvas

end ParseBoxes
