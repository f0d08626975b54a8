import ParseBoxes.Decimal.Nearest
import ParseBoxes.Text.Digits

/-!
# Numbers and times in TOML

Underscores may stand between digits.  Whole numbers fit into 64 bits with a sign, also those
written to another base.  A time is checked but not kept: nothing depends on when it is.
-/

namespace ParseBoxes.Toml

open Digits (isDecimal)

/-- Further digits, with single underscores between digits. -/
def moreDigits (among : Char → Bool) : List Char → List Char × List Char
  | '_' :: c :: rest =>
    if among c then
      let (ds, r) := moreDigits among rest
      (c :: ds, r)
    else ([], '_' :: c :: rest)
  | c :: rest =>
    if among c then
      let (ds, r) := moreDigits among rest
      (c :: ds, r)
    else ([], c :: rest)
  | [] => ([], [])

def digits? (among : Char → Bool) : List Char → Option (List Char × List Char)
  | c :: rest =>
    if among c then
      let (ds, r) := moreDigits among rest
      some (c :: ds, r)
    else none
  | [] => none

/-- A sign, if there is one: is it a minus? -/
def sign : List Char → Bool × List Char
  | '-' :: rest => (true, rest)
  | '+' :: rest => (false, rest)
  | cs => (false, cs)

/-- The digits of a whole number: no zero stands before another digit. -/
def whole? : List Char → Option (List Char × List Char)
  | '0' :: rest => some (['0'], rest)
  | cs => digits? isDecimal cs

def fits (n : Int) : Bool := -Nat.pow 2 63 ≤ n && n < Nat.pow 2 63

/-- A whole number to another base, behind the two characters that name it. -/
def based? (base : Nat) (among : Char → Bool) (cs : List Char) : Option (Int × List Char) := do
  let (ds, r) ← digits? among cs
  let n : Int := Digits.toNat base ds
  if fits n then some (n, r) else none

def integer? : List Char → Option (Int × List Char)
  | '0' :: 'x' :: rest => based? 16 Digits.isHex rest
  | '0' :: 'o' :: rest => based? 8 (fun c => '0' ≤ c && c ≤ '7') rest
  | '0' :: 'b' :: rest => based? 2 (fun c => c = '0' || c = '1') rest
  | cs => do
    let (negative, cs) := sign cs
    let (ds, r) ← whole? cs
    let n : Int := Digits.toNat 10 ds
    let n := if negative then -n else n
    if fits n then some (n, r) else none

/-- The exponent of a number with a point or an exponent. -/
def exponent? : List Char → Option (Int × List Char)
  | c :: rest =>
    if c = 'e' || c = 'E' then do
      let (negative, cs) := sign rest
      let (ds, r) ← digits? isDecimal cs
      let n : Int := Digits.toNat 10 ds
      return (if negative then -n else n, r)
    else none
  | [] => none

/-- A number with a point, an exponent or both.  A positive one must be within the doubles. -/
def point? (cs : List Char) : Option (Float × List Char) := do
  let (negative, cs) := sign cs
  let (ds, cs) ← whole? cs
  let (fraction, e, r) ← match cs with
    | '.' :: rest => do
      let (fs, cs) ← digits? isDecimal rest
      match exponent? cs with
      | some (e, r) => pure (fs, e, r)
      | none => pure (fs, 0, cs)
    | cs => do
      let (e, r) ← exponent? cs
      pure ([], e, r)
  let x := Decimal.nearest (Digits.toNat 10 (ds ++ fraction)) (e - fraction.length)
  if negative then some (-x, r) else if x.isInf then none else some (x, r)

/-- The numbers that are written as words. -/
def word? (cs : List Char) : Option (Float × List Char) :=
  let (negative, cs) := sign cs
  let signed (x : Float) : Float := if negative then -x else x
  match cs with
  | 'i' :: 'n' :: 'f' :: rest => some (signed (1.0 / 0.0), rest)
  | 'n' :: 'a' :: 'n' :: rest => some (signed (0.0 / 0.0), rest)
  | _ => none

/-! ## Times -/

/-- A number of two digits between two bounds. -/
def pair? (least greatest : Nat) : List Char → Option (Nat × List Char)
  | a :: b :: rest =>
    let n := Digits.toNat 10 [a, b]
    if isDecimal a && isDecimal b && least ≤ n && n ≤ greatest then some (n, rest) else none
  | _ => none

/-- A character that must stand here. -/
def exactly? (c : Char) : List Char → Option (List Char)
  | d :: rest => if c = d then some rest else none
  | [] => none

/-- The number of days of a month. -/
def daysOf (year month : Nat) : Nat :=
  if month = 2 then if year % 4 = 0 && (year % 100 ≠ 0 || year % 400 = 0) then 29 else 28
  else if month = 4 || month = 6 || month = 9 || month = 11 then 30
  else 31

/-- A day: a year of four digits, a month and a day of the month. -/
def date? : List Char → Option (List Char)
  | a :: b :: c :: d :: rest =>
    if [a, b, c, d].all isDecimal then do
      let (month, cs) ← pair? 1 12 (← exactly? '-' rest)
      let (_, cs) ← pair? 1 (daysOf (Digits.toNat 10 [a, b, c, d]) month) (← exactly? '-' cs)
      return cs
    else none
  | _ => none

def secondPart : List Char → List Char
  | '.' :: c :: rest => if isDecimal c then rest.dropWhile isDecimal else '.' :: c :: rest
  | cs => cs

def clock? (cs : List Char) : Option (List Char) := do
  let (_, cs) ← pair? 0 23 cs
  let (_, cs) ← pair? 0 59 (← exactly? ':' cs)
  let (_, cs) ← pair? 0 60 (← exactly? ':' cs)
  return secondPart cs

def offset? : List Char → Option (List Char)
  | c :: rest =>
    if c = 'Z' || c = 'z' then some rest
    else if c = '+' || c = '-' then do
      let (_, cs) ← pair? 0 23 rest
      let (_, cs) ← pair? 0 59 (← exactly? ':' cs)
      return cs
    else none
  | [] => none

/-- The time of day behind a date, if there is one. -/
def clockAfterDate : List Char → List Char
  | c :: rest =>
    if c = 'T' || c = 't' || c = ' ' then
      match clock? rest with
      | some cs => (offset? cs).getD cs
      | none => c :: rest
    else c :: rest
  | [] => []

/-- A date, a time of day or both; gives what follows. -/
def moment? (cs : List Char) : Option (List Char) :=
  match date? cs with
  | some rest => some (clockAfterDate rest)
  | none => clock? cs

end ParseBoxes.Toml
