import ParseBoxes.Decimal.Nearest
import ParseBoxes.Text.Digits

/-!
# Spelled numbers

A number is kept as it is spelled; what it denotes is the reader's question.  `natural?` accepts the
spellings of counts below 2^64.  `real?` gives the double of any spelling: the leading digits that
fit into 64 bits are taken as a whole number, and one multiplication or division by a power of ten
places the point; a number beyond the doubles denotes none.
-/

namespace ParseBoxes.Json.Number

open Digits (isDecimal)

private def scanDigits (cs : List Char) : Option (List Char × List Char) :=
  match cs.takeWhile isDecimal with
  | [] => none
  | ds => some (ds, cs.dropWhile isDecimal)

/-- The digits before the point: no zero stands before another digit. -/
private def scanWhole : List Char → Option (List Char × List Char)
  | '0' :: rest => if (rest.head?.map isDecimal).getD false then none else some (['0'], rest)
  | cs => scanDigits cs

/-- The point and the digits behind it, if there is a point. -/
private def scanFraction : List Char → Option (List Char × List Char)
  | '.' :: rest => (scanDigits rest).map fun (ds, r) => ('.' :: ds, r)
  | cs => some ([], cs)

private def scanExponent : List Char → Option (List Char × List Char)
  | e :: rest =>
    if e = 'e' || e = 'E' then
      match rest with
      | s :: rest' =>
        if s = '+' || s = '-' then (scanDigits rest').map fun (ds, r) => (e :: s :: ds, r)
        else (scanDigits rest).map fun (ds, r) => (e :: ds, r)
      | [] => none
    else some ([], e :: rest)
  | [] => some ([], [])

def scan (cs : List Char) : Option (List Char × List Char) := do
  let (sign, cs) := match cs with
    | '-' :: rest => (['-'], rest)
    | cs => ([], cs)
  let (whole, cs) ← scanWhole cs
  let (fraction, cs) ← scanFraction cs
  let (exponent, cs) ← scanExponent cs
  return (sign ++ whole ++ fraction ++ exponent, cs)

/-- May this character go on with a number behind its digits? -/
def goesOn (c : Char) : Bool := isDecimal c || c = '.' || c = 'e' || c = 'E'

private theorem scanDigits_append {ds rest : List Char} (hne : ds ≠ [])
    (hds : ∀ c ∈ ds, isDecimal c = true) (hrest : ∀ c ∈ rest.head?, isDecimal c = false) :
    scanDigits (ds ++ rest) = some (ds, rest) := by
  have htake : rest.takeWhile isDecimal = [] := by
    cases rest with
    | nil => rfl
    | cons c rest => simp [hrest c rfl]
  have hdrop : rest.dropWhile isDecimal = rest := by
    cases rest with
    | nil => rfl
    | cons c rest => simp [hrest c rfl]
  rw [scanDigits, List.takeWhile_append_of_pos hds, List.dropWhile_append_of_pos hds, htake, hdrop,
    List.append_nil]
  split
  · contradiction
  · rfl

private theorem scanWhole_append {ds rest : List Char} (hne : ds ≠ [])
    (hds : ∀ c ∈ ds, isDecimal c = true) (hzero : ds.head? = some '0' → ds = ['0'])
    (hrest : ∀ c ∈ rest.head?, isDecimal c = false) :
    scanWhole (ds ++ rest) = some (ds, rest) := by
  by_cases h : ds.head? = some '0'
  · rw [hzero h, List.singleton_append, scanWhole, if_neg]
    cases rest with
    | nil => simp
    | cons c rest => simp [hrest c rfl]
  · obtain ⟨d, ds, rfl⟩ := List.exists_cons_of_ne_nil hne
    have hd : d ≠ '0' := by simpa using h
    rw [← scanDigits_append hne hds hrest, List.cons_append]
    unfold scanWhole
    split
    · rename_i heq
      exact absurd (List.cons.inj heq).1 hd
    · rfl

/-- Digits without a needless zero in front are read to their end. -/
theorem scan_append {ds rest : List Char} (hne : ds ≠ []) (hds : ∀ c ∈ ds, isDecimal c = true)
    (hzero : ds.head? = some '0' → ds = ['0']) (hrest : ∀ c ∈ rest.head?, goesOn c = false) :
    scan (ds ++ rest) = some (ds, rest) := by
  have hsign : (match ds ++ rest with
      | '-' :: cs => (['-'], cs)
      | cs => ([], cs)) = (([], ds ++ rest) : List Char × List Char) := by
    obtain ⟨d, ds, rfl⟩ := List.exists_cons_of_ne_nil hne
    split
    · rename_i heq
      have hd := hds d List.mem_cons_self
      rw [(List.cons.inj heq).1] at hd
      cases hd
    · rfl
  have hwhole : scanWhole (ds ++ rest) = some (ds, rest) := by
    refine scanWhole_append hne hds hzero fun c hc => ?_
    have := hrest c hc
    simp_all [goesOn]
  have hfraction : scanFraction rest = some ([], rest) := by
    unfold scanFraction
    split
    · have := hrest '.' rfl
      cases this
    · rfl
  have hexponent : scanExponent rest = some ([], rest) := by
    cases rest with
    | nil => rfl
    | cons c rest =>
      have := hrest c rfl
      simp_all [goesOn, scanExponent]
  simp [scan, hsign, hwhole, hfraction, hexponent]

/-- The count that a spelling denotes: digits only, below 2^64. -/
def natural? (spelling : List Char) : Option UInt64 :=
  if spelling.all isDecimal && !spelling.isEmpty then
    let n := Digits.toNat 10 spelling
    if n < Nat.pow 2 64 then some (UInt64.ofNat n) else none
  else none

/-- Takes digits into a whole number below 2^64 for as long as it stays below. -/
private def accumulate : Nat → List Char → Nat × List Char
  | n, [] => (n, [])
  | n, c :: rest =>
    let next := n * 10 + Digits.value c
    if next < Nat.pow 2 64 then accumulate next rest else (n, c :: rest)

/-- `10 ^ k` as a double, for `k` up to 308. -/
private def power (k : Nat) : Float := Decimal.nearest 1 k

/-- A whole number below 2^64 and a power of ten, multiplied out in doubles.  Each turn brings an
exponent below -308 nearer to zero by 308; two turns leave zero of any such number. -/
private def place (fuel : Nat) (f : Float) (exponent : Int) : Option Float :=
  if exponent.natAbs ≤ 308 then
    if 0 ≤ exponent then
      let g := f * power exponent.natAbs
      if g.isInf then none else some g
    else some (f / power exponent.natAbs)
  else if f == 0.0 then some f
  else if 0 ≤ exponent then none
  else match fuel with
    | 0 => some f
    | fuel + 1 => place fuel (f / power 308) (exponent + 308)

/-- An exponent beyond this bound decides alone whether a number is zero or too large. -/
private def exponentBound : Nat := Nat.pow 2 31 - 1

/-- A number's parts: the digits before and behind the point, if there is one, and the exponent's
sign and digits, if there is one. -/
private structure Parts where
  negative : Bool
  whole : List Char
  fraction : Option (List Char)
  exponent : Option (Bool × List Char)

/-- Takes a spelled number apart. -/
private def parts (spelling : List Char) : Parts :=
  let (negative, cs) := match spelling with
    | '-' :: rest => (true, rest)
    | cs => (false, cs)
  let whole := cs.takeWhile isDecimal
  let (fraction, cs) := match cs.dropWhile isDecimal with
    | '.' :: rest => (some (rest.takeWhile isDecimal), rest.dropWhile isDecimal)
    | cs => (none, cs)
  let exponent := match cs with
    | _ :: '-' :: rest => some (false, rest)
    | _ :: '+' :: rest => some (true, rest)
    | _ :: rest => some (true, rest)
    | [] => none
  ⟨negative, whole, fraction, exponent⟩

/-- The double that a spelling denotes, if it is within the doubles. -/
def real? (spelling : List Char) : Option Float := do
  let p := parts spelling
  let (significand, dropped) := accumulate 0 p.whole
  let (significand, taken) := match p.fraction with
    | none => (significand, 0)
    | some ds =>
      let (n, unread) := accumulate significand ds
      (n, ds.length - unread.length)
  let start : Int := (dropped.length : Int) - taken
  let whole := (UInt64.ofNat significand).toFloat
  let signed (f : Float) : Float := if p.negative then -f else f
  match p.fraction, p.exponent, dropped with
  | none, none, [] => return signed whole
  | _, none, _ => return signed (← place 4 whole start)
  | _, some (up, ds), _ =>
    let e := Digits.toNat 10 ds
    if exponentBound < e then
      if significand ≠ 0 && up then none else return signed 0.0
    else return signed (← place 4 whole (if up then start + e else start - e))

private theorem le_foldl (ds : List Char) (n : Nat) :
    n ≤ ds.foldl (fun n c => n * 10 + Digits.value c) n := by
  induction ds generalizing n with
  | nil => exact Nat.le_refl n
  | cons c ds ih =>
    have := ih (n * 10 + Digits.value c)
    rw [List.foldl_cons]
    omega

private theorem accumulate_of_lt {ds : List Char} {n : Nat}
    (h : ds.foldl (fun n c => n * 10 + Digits.value c) n < Nat.pow 2 64) :
    (accumulate n ds).2 = [] := by
  induction ds generalizing n with
  | nil => rfl
  | cons c ds ih =>
    have hlt := Nat.lt_of_le_of_lt (le_foldl ds (n * 10 + Digits.value c)) h
    rw [accumulate, if_pos hlt]
    exact ih h

private theorem parts_of_digits {ds : List Char} (hne : ds ≠ [])
    (hds : ∀ c ∈ ds, isDecimal c = true) : parts ds = ⟨false, ds, none, none⟩ := by
  have htake : ds.takeWhile isDecimal = ds := by
    simpa using @List.takeWhile_append_of_pos Char isDecimal ds [] hds
  have hdrop : ds.dropWhile isDecimal = [] := by
    simpa using @List.dropWhile_append_of_pos Char isDecimal ds [] hds
  unfold parts
  split
  rename_i negative cs hsign
  split at hsign
  · rename_i rest
    have hminus := hds '-' List.mem_cons_self
    cases hminus
  · cases hsign
    simp [htake, hdrop]

/-- Digits denote the count that they spell if it is small enough. -/
theorem natural?_of_digits {ds : List Char} (hne : ds ≠ []) (hds : ∀ c ∈ ds, isDecimal c = true)
    (hlt : Digits.toNat 10 ds < Nat.pow 2 64) :
    natural? ds = some (UInt64.ofNat (Digits.toNat 10 ds)) := by
  have hguard : (ds.all isDecimal && !ds.isEmpty) = true := by
    simp_all
  rw [natural?, if_pos hguard]
  exact if_pos hlt

/-- Digits that denote a count denote a double too. -/
theorem real?_isSome_of_digits {ds : List Char} (hne : ds ≠ [])
    (hds : ∀ c ∈ ds, isDecimal c = true) (hlt : Digits.toNat 10 ds < Nat.pow 2 64) :
    (real? ds).isSome = true := by
  have hdropped : (accumulate 0 ds).2 = [] := accumulate_of_lt hlt
  simp [real?, parts_of_digits hne hds, hdropped]

end ParseBoxes.Json.Number
