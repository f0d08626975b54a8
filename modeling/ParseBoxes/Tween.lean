import ParseBoxes.Duration

/-!
# Tweens

A tween carries a number from a start to a goal over a fixed duration.  It advances only when it is
ticked: no clock is read anywhere, so a run is determined by the frame lengths given to it.
-/

namespace ParseBoxes

/-- How progress in time becomes progress in value. -/
inductive Easing where
  | linear
  | cubicInOut
deriving DecidableEq, Repr

namespace Easing

variable {α : Type} [Scalar α]

/-- The cubic ease, slow at both ends. -/
def cubic (t : α) : α :=
  if Scalar.lt t (Scalar.ofNat 1 / Scalar.ofNat 2) then
    Scalar.ofNat 4 * t * t * t
  else
    let u := Scalar.ofNat 2 * t - Scalar.ofNat 2
    Scalar.ofNat 1 / Scalar.ofNat 2 * u * u * u + Scalar.ofNat 1

def apply : Easing → α → α
  | linear, t => t
  | cubicInOut, t => cubic t

/-- The name of an easing in configuration files. -/
def name : Easing → String
  | linear => "linear"
  | cubicInOut => "cubic-in-out"

def ofName? : String → Option Easing
  | "linear" => some linear
  | "cubic-in-out" => some cubicInOut
  | _ => none

end Easing

/-- A number on its way from `start` to `goal`. -/
structure Tween (α : Type) where
  start : α
  goal : α
  duration : Duration
  elapsed : Duration
  easing : Easing
deriving DecidableEq

namespace Tween

variable {α : Type} [Scalar α]

/-- A tween at its start.  A zero duration counts as one nanosecond. -/
def begin (start goal : α) (duration : Duration) (easing : Easing) : Tween α where
  start := start
  goal := goal
  duration := if duration.nanos = 0 then .nanosecond else duration
  elapsed := 0
  easing := easing

/-- Advances by one frame, no further than the duration. -/
def tick (t : Tween α) (dt : Duration) : Tween α :=
  { t with elapsed := (t.elapsed + dt).least t.duration }

def rewind (t : Tween α) : Tween α :=
  { t with elapsed := 0 }

def isComplete (t : Tween α) : Bool := t.duration.nanos ≤ t.elapsed.nanos

/-- `x` held between `lo` and `hi`. -/
def clamp (x lo hi : α) : α :=
  let y := if Scalar.lt x lo then lo else x
  if Scalar.lt hi y then hi else y

/-- The share of the duration that has elapsed. -/
def progress (t : Tween α) : α :=
  clamp (t.elapsed.seconds / t.duration.seconds) 0 (Scalar.ofNat 1)

/-- The current value: the goal itself once complete, else a point between start and goal. -/
def value (t : Tween α) : α :=
  if t.isComplete then t.goal
  else t.start + (t.goal - t.start) * t.easing.apply t.progress

end Tween

/-- Time as told by the frames: their sum and their number. -/
structure FrameClock where
  now : Duration := 0
  frames : Nat := 0
deriving DecidableEq

def FrameClock.advance (c : FrameClock) (dt : Duration) : FrameClock :=
  ⟨c.now + dt, c.frames + 1⟩

end ParseBoxes
