/-!
# The numbers a layout is computed in

Sizes, positions and tween values are computed by the same formulas over any `Scalar`: over `Float`
when the program runs, over exact rationals when a property needs arithmetic laws.  The class fixes
only operations, in the order in which a formula applies them; it promises no law.  One law of the
maximum, which doubles obey as well, is a class of its own (`Scalar.LawfulMax`).
-/

namespace ParseBoxes

/-- The arithmetic that sizes, positions and tween values need. -/
class Scalar (α : Type) extends Zero α, Add α, Sub α, Mul α, Div α where
  /-- The number nearest to a count. -/
  ofNat : Nat → α
  /-- The greater of two numbers; where one of them is no number, the other. -/
  max : α → α → α
  lt : α → α → Bool
  le : α → α → Bool

namespace Scalar

/-- A double that is no number never wins, and of two equal numbers, which may differ in the sign of
zero, the second is taken. -/
def floatMax (a b : Float) : Float :=
  if b.isNaN then a else if b < a then a else b

instance : Scalar Float where
  ofNat n := if n < UInt64.size then (UInt64.ofNat n).toFloat else Float.ofNat n
  max := floatMax
  lt a b := a < b
  le a b := a ≤ b

/-- To take the larger of two numbers once more makes no difference, NaN included. -/
theorem floatMax_floatMax (a b : Float) : floatMax (floatMax a b) b = floatMax a b := by
  unfold floatMax
  by_cases hb : b.isNaN = true
  · simp only [hb, ↓reduceIte]
  · by_cases hlt : b < a <;> simp only [hb, hlt, ↓reduceIte, Bool.false_eq_true, ite_self]

/-- To take the same bound twice is to take it once. -/
class LawfulMax (α : Type) [Scalar α] : Prop where
  max_max : ∀ a b : α, max (max a b) b = max a b

instance : LawfulMax Float := ⟨floatMax_floatMax⟩

end Scalar

end ParseBoxes
