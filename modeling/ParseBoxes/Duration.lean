import ParseBoxes.Scalar

/-!
# Lengths of time

A duration is a whole number of nanoseconds below a fixed bound; adding saturates at the bound.
-/

namespace ParseBoxes

/-- A length of time in nanoseconds. -/
structure Duration where
  nanos : Nat
  nanos_lt : nanos < Nat.pow 2 64 * 1000000000
deriving DecidableEq

namespace Duration

/-- The longest duration: one nanosecond less than 2^64 seconds. -/
def longest : Duration := ⟨Nat.pow 2 64 * 1000000000 - 1, by decide⟩

/-- The duration of so many nanoseconds, or the longest one. -/
def ofNanos (n : Nat) : Duration :=
  ⟨min n longest.nanos, Nat.lt_of_le_of_lt (Nat.min_le_right _ _) longest.nanos_lt⟩

def ofMillis (ms : UInt64) : Duration :=
  ⟨ms.toNat * 1000000,
    Nat.lt_of_lt_of_le (Nat.mul_lt_mul_of_pos_right ms.toNat_lt (by decide)) (by decide)⟩

instance : Zero Duration where
  zero := ⟨0, by decide⟩

instance : Inhabited Duration := ⟨0⟩

/-- The shortest duration that is not zero. -/
def nanosecond : Duration := ⟨1, by decide⟩

def millisecond : Duration := ⟨1000000, by decide⟩

/-- The sum, or the longest duration where the sum is longer. -/
instance : Add Duration where
  add d e := ofNanos (d.nanos + e.nanos)

def least (d e : Duration) : Duration := if d.nanos ≤ e.nanos then d else e

def greatest (d e : Duration) : Duration := if d.nanos ≤ e.nanos then e else d

def wholeSeconds (d : Duration) : Nat := d.nanos / 1000000000

/-- The nanoseconds beyond the whole seconds. -/
def subsecNanos (d : Duration) : Nat := d.nanos % 1000000000

def seconds {α : Type} [Scalar α] (d : Duration) : α :=
  Scalar.ofNat d.wholeSeconds + Scalar.ofNat d.subsecNanos / Scalar.ofNat 1000000000

@[ext]
theorem ext {d e : Duration} (h : d.nanos = e.nanos) : d = e := by
  cases d; cases e; cases h; rfl

@[simp]
theorem nanos_zero : (0 : Duration).nanos = 0 := rfl

/-- Durations add up as far as the longest one. -/
theorem nanos_add (d e : Duration) : (d + e).nanos = min (d.nanos + e.nanos) longest.nanos := rfl

theorem nanos_le_longest (d : Duration) : d.nanos ≤ longest.nanos := by
  have := d.nanos_lt
  exact Nat.le_sub_one_of_lt this

@[simp]
theorem nanos_least (d e : Duration) : (d.least e).nanos = min d.nanos e.nanos := by
  unfold least; split <;> omega

end Duration

end ParseBoxes
