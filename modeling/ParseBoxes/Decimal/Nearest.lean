/-!
# The double nearest to a fraction

Doubles are read from and taken apart into whole numbers: a finite double is `m · 2 ^ q`.  Reading
rounds an exact fraction once, to the nearest double, a tie to the one with an even `m`.
-/

namespace ParseBoxes.Decimal

/-- A magnitude `mantissa · 2 ^ exponent`. -/
structure Dyadic where
  mantissa : Nat
  exponent : Int
deriving DecidableEq

def leastExponent : Int := -1074

def greatestExponent : Int := 971

def Dyadic.ofFloat (x : Float) : Dyadic :=
  let bits : Nat := x.toBits.toNat
  let fraction : Nat := bits % Nat.pow 2 52
  let biased : Nat := bits / Nat.pow 2 52 % Nat.pow 2 11
  if biased = 0 then ⟨fraction, leastExponent⟩
  else ⟨fraction + Nat.pow 2 52, (biased : Int) - 1075⟩

/-- The double of a magnitude whose mantissa is below 2^53 and, unless the exponent is the least
one, not below 2^52. -/
def Dyadic.toFloat (d : Dyadic) : Float :=
  if d.mantissa < Nat.pow 2 52 then Float.ofBits (UInt64.ofNat d.mantissa)
  else if greatestExponent < d.exponent then Float.ofBits 0x7ff0000000000000
  else
    Float.ofBits <| UInt64.ofNat <|
      (d.exponent + 1075).toNat * Nat.pow 2 52 + (d.mantissa - Nat.pow 2 52)

/-- A quotient rounded to the nearest whole number, a tie to the even one. -/
def roundHalfEven (num den : Nat) : Nat :=
  let quotient := num / den
  let twice := 2 * (num % den)
  if twice < den then quotient
  else if den < twice then quotient + 1
  else quotient + quotient % 2

/-- `num / den / 2 ^ q`, rounded. -/
private def mantissaAt (num den : Nat) (q : Int) : Nat :=
  if 0 ≤ q then roundHalfEven num (den * Nat.pow 2 q.toNat)
  else roundHalfEven (num * Nat.pow 2 (-q).toNat) den

/-- The double nearest to `num / den`. -/
def ofFraction (num den : Nat) : Float :=
  if num = 0 then 0.0
  else
    let size : Int := (num.log2 : Int) - (den.log2 : Int)
    -- the fraction lies between 2 ^ (size - 1) and 2 ^ (size + 1)
    let narrow := max (size - 53) leastExponent
    let q := if Nat.pow 2 53 ≤ mantissaAt num den narrow then narrow + 1 else narrow
    let m := mantissaAt num den q
    if m = Nat.pow 2 53 then Dyadic.toFloat ⟨Nat.pow 2 52, q + 1⟩ else Dyadic.toFloat ⟨m, q⟩

/-- The double nearest to `digits · 10 ^ exponent`.  Exponents that decide the answer alone are cut
off before any power is taken. -/
def nearest (digits : Nat) (exponent : Int) : Float :=
  if digits = 0 then 0.0
  else
    let size : Int := (digits.log2 : Int) / 3 + 1
    if 400 < exponent then Float.ofBits 0x7ff0000000000000
    else if size + exponent < -400 then 0.0
    else if 0 ≤ exponent then ofFraction (digits * Nat.pow 10 exponent.toNat) 1
    else ofFraction digits (Nat.pow 10 (-exponent).toNat)

end ParseBoxes.Decimal
