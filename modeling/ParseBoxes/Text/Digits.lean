/-!
# Digits

Numbers written in digits, to any base up to sixteen.
-/

namespace ParseBoxes.Digits

def isDecimal (c : Char) : Bool := '0' ≤ c && c ≤ '9'

/-- The digits of base sixteen, letters in both cases. -/
def isHex (c : Char) : Bool := isDecimal c || 'a' ≤ c && c ≤ 'f' || 'A' ≤ c && c ≤ 'F'

/-- The value of a digit; letters count on from nine. -/
def value (c : Char) : Nat :=
  if c ≤ '9' then c.toNat - 48 else if 'a' ≤ c then c.toNat - 87 else c.toNat - 55

def hex? (c : Char) : Option Nat := if isHex c then some (value c) else none

def toNat (base : Nat) (ds : List Char) : Nat := ds.foldl (fun n c => n * base + value c) 0

@[simp]
theorem toNat_nil (base : Nat) : toNat base [] = 0 := rfl

/-- One more digit moves all others up by a place. -/
theorem toNat_concat (base : Nat) (ds : List Char) (c : Char) :
    toNat base (ds ++ [c]) = toNat base ds * base + value c := by
  simp [toNat]

/-! ## Decimal spellings -/

theorem isDecimal_of_mem_toDigits {n : Nat} {c : Char} (h : c ∈ Nat.toDigits 10 n) :
    isDecimal c = true :=
  Nat.isDigit_of_mem_toDigits (by decide) (by decide) h

theorem value_digitChar {n : Nat} (h : n < 10) : value n.digitChar = n := by
  have hdigit : n.digitChar ≤ '9' := by
    rw [Char.le_def, UInt32.le_iff_toNat_le, Char.toNat_val, Nat.toNat_digitChar_of_lt_ten h]
    show 48 + n ≤ 57
    omega
  rw [value, if_pos hdigit, Nat.toNat_digitChar_of_lt_ten h]
  omega

/-- The decimal spelling of a number denotes it. -/
theorem toNat_toDigits (n : Nat) : toNat 10 (Nat.toDigits 10 n) = n := by
  induction n using Nat.strongRecOn with
  | ind n ih =>
    by_cases h : n < 10
    · rw [Nat.toDigits_of_lt_base h, ← List.nil_append [n.digitChar], toNat_concat, value_digitChar h,
        toNat_nil, Nat.zero_mul, Nat.zero_add]
    · rw [Nat.toDigits_of_base_le (by decide) (by omega), toNat_concat, ih (n / 10) (by omega),
        value_digitChar (by omega)]
      omega

/-- No zero stands in front of another digit. -/
theorem toDigits_of_head?_zero {n : Nat} (h : (Nat.toDigits 10 n).head? = some '0') :
    Nat.toDigits 10 n = ['0'] := by
  have hzero : n = 0 := by
    induction n using Nat.strongRecOn with
    | ind n ih =>
      by_cases hlt : n < 10
      · rw [Nat.toDigits_of_lt_base hlt] at h
        simpa using h
      · have hhead := List.head?_eq_some_head (Nat.toDigits_ne_nil : Nat.toDigits 10 (n / 10) ≠ [])
        rw [Nat.toDigits_of_base_le (by decide) (by omega), List.head?_append, hhead,
          Option.some_or] at h
        have := ih (n / 10) (by omega) (hhead.trans h)
        omega
  rw [hzero, Nat.toDigits_zero]

end ParseBoxes.Digits
