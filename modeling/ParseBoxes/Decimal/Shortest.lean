import ParseBoxes.Decimal.Nearest

/-!
# Shortest decimals

The shortest decimal that reads back as a given double, and the styles it is written in.  On the
grid of one digit, then two, and so on, the value's two neighbours are tested; the first grid with
a neighbour inside the rounding interval of the double gives the digits.  A style then decides only
how these digits are laid out.
-/

namespace ParseBoxes.Decimal

/-- Which of two equally near decimals is taken. -/
inductive Tie where
  | toEven
  | up
deriving DecidableEq

/-- A decimal `digits · 10 ^ exponent`. -/
structure Scaled where
  digits : Nat
  exponent : Int
deriving DecidableEq

/-- The reals that round to a double, as multiples of a unit `num / den`, and whether the two ends
are among them. -/
structure Interval where
  low : Nat
  value : Nat
  high : Nat
  num : Nat
  den : Nat
  closed : Bool

/-- The interval of a positive double.  Below a power of two the spacing halves. -/
def Interval.ofDyadic (d : Dyadic) : Interval where
  low :=
    4 * d.mantissa - (if d.mantissa = Nat.pow 2 52 ∧ d.exponent ≠ leastExponent then 1 else 2)
  value := 4 * d.mantissa
  high := 4 * d.mantissa + 2
  num := if 2 ≤ d.exponent then Nat.pow 2 (d.exponent - 2).toNat else 1
  den := if 2 ≤ d.exponent then 1 else Nat.pow 2 (2 - d.exponent).toNat
  closed := d.mantissa % 2 = 0

namespace Interval

/-- Does `point` units lie in the interval?  Both sides are given over one denominator. -/
private def holds (closed : Bool) (low point high : Nat) : Bool :=
  if closed then low ≤ point && point ≤ high else low < point && point < high

/-- The multiple of `10 ^ p` next to the value, if one lies in the interval. -/
def onGrid? (i : Interval) (tie : Tie) (p : Int) : Option Nat :=
  let scaleUp := i.num * (if 0 ≤ p then 1 else Nat.pow 10 (-p).toNat)
  let scaleDown := i.den * (if 0 ≤ p then Nat.pow 10 p.toNat else 1)
  let value := i.value * scaleUp
  let below := value / scaleDown
  let inside (c : Nat) := holds i.closed (i.low * scaleUp) (c * scaleDown) (i.high * scaleUp)
  match inside below, inside (below + 1) with
  | false, false => none
  | true, false => some below
  | false, true => some (below + 1)
  | true, true =>
    let twice := 2 * (value % scaleDown)
    if twice < scaleDown then some below
    else if scaleDown < twice then some (below + 1)
    else match tie with
      | .up => some (below + 1)
      | .toEven => some (below + below % 2)

/-- The first hit on the grids `10 ^ p`, `10 ^ (p - 1)`, …, `10 ^ (p - n)`. -/
def search (i : Interval) (tie : Tie) : Nat → Int → Scaled
  | 0, p => ⟨(i.onGrid? tie p).getD 0, p⟩
  | n + 1, p =>
    match i.onGrid? tie p with
    | some c => ⟨c, p⟩
    | none => i.search tie n (p - 1)

/-- Is the value at least `10 ^ p`? -/
private def reaches (i : Interval) (p : Int) : Bool :=
  if 0 ≤ p then i.den * Nat.pow 10 p.toNat ≤ i.value * i.num
  else i.den ≤ i.value * i.num * Nat.pow 10 (-p).toNat

/-- The greatest `p` with `10 ^ p` at most the value, looked for near a guess that is off by one at
most on either side. -/
private def magnitude (i : Interval) (guess : Int) : Int :=
  if i.reaches (guess + 1) then guess + 1 else if i.reaches guess then guess else guess - 1

end Interval

/-- Moves trailing zeros into the exponent; a decimal of at most 18 digits has no more than 18. -/
def Scaled.strip (s : Scaled) : Scaled :=
  go 18 s
where go : Nat → Scaled → Scaled
  | 0, s => s
  | n + 1, s => if s.digits % 10 = 0 then go n ⟨s.digits / 10, s.exponent + 1⟩ else s

/-- The shortest decimal of a positive finite double. -/
def shortest (tie : Tie) (x : Float) : Scaled :=
  let d := Dyadic.ofFloat x
  let i := Interval.ofDyadic d
  let guess := ((d.mantissa.log2 : Int) + d.exponent) * 30103 / 100000
  (i.search tie 17 (i.magnitude guess)).strip

/-- How a double is written. -/
structure Style where
  tie : Tie
  /-- The exponents of the leading digit that are written positionally; all of them if none. -/
  positional : Option (Int × Int)
  /-- Do whole numbers keep a point and a zero? -/
  wholePoint : Bool
  nan : String
  infinity : String

/-- `n` zeros. -/
private def zeros (n : Nat) : String := String.ofList (List.replicate n '0')

/-- Digits laid out around the point. -/
private def Style.positionally (style : Style) (digits : String) (exponent : Int) : String :=
  let length : Int := digits.length
  if 0 ≤ exponent then
    digits ++ zeros exponent.toNat ++ (if style.wholePoint then ".0" else "")
  else if 0 < length + exponent then
    let whole := (length + exponent).toNat
    String.ofList (digits.toList.take whole) ++ "." ++ String.ofList (digits.toList.drop whole)
  else
    "0." ++ zeros (-(length + exponent)).toNat ++ digits

/-- One digit before the point, the others behind it, and the exponent with its sign. -/
private def scientifically (digits : String) (leading : Int) : String :=
  let mantissa := match digits.toList with
    | [] => ""
    | [d] => String.ofList [d]
    | d :: rest => String.ofList (d :: '.' :: rest)
  mantissa ++ "e" ++ (if 0 ≤ leading then "+" ++ toString leading.toNat
    else "-" ++ toString (-leading).toNat)

def Style.write (style : Style) (x : Float) : String :=
  if x.isNaN then style.nan
  else
    let sign := if x.toBits.toNat < Nat.pow 2 63 then "" else "-"
    if x.isInf then sign ++ style.infinity
    else if x == 0.0 then sign ++ (if style.wholePoint then "0.0" else "0")
    else
      let s := shortest style.tie x
      let digits := toString s.digits
      let leading : Int := s.exponent + digits.length - 1
      let positional := match style.positional with
        | none => true
        | some (first, last) => first ≤ leading && leading ≤ last
      sign ++ (if positional then style.positionally digits s.exponent
        else scientifically digits leading)

/-! ## Characters -/

section

variable {style : Style} {c : Char} (hdigit : c.isDigit = false) (hmark : c ∉ ['.', 'e', '+', '-'])

include hdigit

theorem not_mem_toString (n : Nat) : c ∉ (toString n).toList := by
  rw [Nat.toString_eq_repr, Nat.toList_repr]
  intro hc
  rw [Nat.isDigit_of_mem_toDigits (by decide) (by decide) hc] at hdigit
  cases hdigit

private theorem not_mem_zeros (n : Nat) : c ∉ (zeros n).toList := by
  rw [zeros, String.toList_ofList]
  intro hc
  rw [List.eq_of_mem_replicate hc] at hdigit
  cases hdigit

include hmark

private theorem not_mem_positionally {digits : String} (hds : c ∉ digits.toList) (exponent : Int) :
    c ∉ (style.positionally digits exponent).toList := by
  have hzero : c ≠ '0' := by
    rintro rfl
    cases hdigit
  have hpoint : c ≠ '.' := fun h => hmark (h ▸ List.mem_cons_self)
  have htake : ∀ n, c ∉ digits.toList.take n := fun n h => hds (List.mem_of_mem_take h)
  have hdrop : ∀ n, c ∉ digits.toList.drop n := fun n h => hds (List.mem_of_mem_drop h)
  simp only [Style.positionally]
  split
  · split <;> simp [hds, hzero, hpoint, not_mem_zeros hdigit]
  split
  · simp [htake, hdrop, hpoint]
  · simp [hds, hzero, hpoint, not_mem_zeros hdigit]

private theorem not_mem_scientifically {digits : String} (hds : c ∉ digits.toList) (leading : Int) :
    c ∉ (scientifically digits leading).toList := by
  have hmarks : c ≠ '.' ∧ c ≠ 'e' ∧ c ≠ '+' ∧ c ≠ '-' := by simpa using hmark
  obtain ⟨hpoint, he, hplus, hminus⟩ := hmarks
  have hleading : ∀ n : Nat, c ∉ (toString n).toList := not_mem_toString hdigit
  unfold scientifically
  split <;> split <;> simp_all

/-- No character stands in a number but digits, a point, signs and the mark of an exponent. -/
theorem Style.not_mem_write (hnan : c ∉ style.nan.toList) (hinfinity : c ∉ style.infinity.toList)
    (x : Float) : c ∉ (style.write x).toList := by
  have hzero : c ≠ '0' := by
    rintro rfl
    cases hdigit
  have hsign : c ∉ (if x.toBits.toNat < Nat.pow 2 63 then "" else "-").toList := by
    have hminus : c ≠ '-' := fun h => hmark (by simp [h])
    split <;> simp [hminus]
  simp only [Style.write]
  generalize shortest style.tie x = d
  have hdigits := not_mem_toString hdigit d.digits
  split
  · exact hnan
  split
  · simp [hsign, hinfinity]
  split
  · have hpoint : c ≠ '.' := fun h => hmark (by simp [h])
    rw [String.toList_append, List.mem_append, not_or]
    refine ⟨hsign, ?_⟩
    split <;> simp [hzero, hpoint]
  · rw [String.toList_append, List.mem_append, not_or]
    refine ⟨hsign, ?_⟩
    generalize hpositional : (match style.positional with
      | none => true
      | some (first, last) => _) = positional
    cases positional with
    | true => exact not_mem_positionally hdigit hmark hdigits _
    | false => exact not_mem_scientifically hdigit hmark hdigits _

end

end ParseBoxes.Decimal
