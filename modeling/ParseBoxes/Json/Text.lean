import ParseBoxes.Text.Digits

/-!
# Spelled text

Between its quotation marks a JSON string is a spelling: characters stand for themselves or are
escaped.  `scan` cuts a spelling off the input and refuses ill-formed escapes and bare control
characters; `decode` gives the text it denotes, and none where half of a surrogate pair stands
alone; `encode` spells a text, escaping only what has to be.
-/

namespace ParseBoxes.Json.Text

/-- The number spelled by four hexadecimal digits. -/
def hexUnit? (a b c d : Char) : Option Nat := do
  return (((← Digits.hex? a) * 16 + (← Digits.hex? b)) * 16 + (← Digits.hex? c)) * 16 + (← Digits.hex? d)

/-- Characters that may not stand in a string unescaped. -/
def isControl (c : Char) : Bool := c.toNat < 0x20

/-- The character that a one-letter escape denotes. -/
def escaped? : Char → Option Char
  | '"' => some '"'
  | '\\' => some '\\'
  | '/' => some '/'
  | 'b' => some '\x08'
  | 'f' => some '\x0c'
  | 'n' => some '\n'
  | 'r' => some '\r'
  | 't' => some '\t'
  | _ => none

/-- Cuts a spelling off the input behind an opening quotation mark, closing mark included. -/
def scan : List Char → Option (List Char × List Char)
  | [] => none
  | '"' :: rest => some ([], rest)
  | '\\' :: 'u' :: a :: b :: c :: d :: rest =>
    if (hexUnit? a b c d).isSome then
      (scan rest).map fun (s, r) => ('\\' :: 'u' :: a :: b :: c :: d :: s, r)
    else none
  | '\\' :: e :: rest =>
    if (escaped? e).isSome then (scan rest).map fun (s, r) => ('\\' :: e :: s, r) else none
  | c :: rest =>
    if isControl c || c = '\\' then none else (scan rest).map fun (s, r) => (c :: s, r)

/-- Is this unit the first half of a surrogate pair? -/
def isHighSurrogate (u : Nat) : Bool := 0xd800 ≤ u && u < 0xdc00

/-- Is this unit the second half of a surrogate pair? -/
def isLowSurrogate (u : Nat) : Bool := 0xdc00 ≤ u && u < 0xe000

/-- The text that a spelling denotes. -/
def decode : List Char → Option (List Char)
  | [] => some []
  | '\\' :: 'u' :: a :: b :: c :: d :: rest =>
    match hexUnit? a b c d with
    | none => none
    | some u =>
      if isLowSurrogate u then none
      else if isHighSurrogate u then
        match rest with
        | '\\' :: 'u' :: a' :: b' :: c' :: d' :: rest' =>
          match hexUnit? a' b' c' d' with
          | none => none
          | some v =>
            if isLowSurrogate v then
              (decode rest').map (Char.ofNat ((u - 0xd800) * 0x400 + (v - 0xdc00) + 0x10000) :: ·)
            else none
        | _ => none
      else (decode rest).map (Char.ofNat u :: ·)
  | '\\' :: e :: rest =>
    match escaped? e with
    | none => none
    | some c => (decode rest).map (c :: ·)
  | c :: rest => if c = '\\' then none else (decode rest).map (c :: ·)

/-- The lower-case hexadecimal digit of a number below 16. -/
def hexDigit (n : Nat) : Char :=
  if n < 10 then Char.ofNat (48 + n) else Char.ofNat (87 + n)

/-- One character as it is spelled: quotation mark, backslash and control characters are escaped. -/
def encodeChar (c : Char) : List Char :=
  match c with
  | '"' => ['\\', '"']
  | '\\' => ['\\', '\\']
  | '\x08' => ['\\', 'b']
  | '\x0c' => ['\\', 'f']
  | '\n' => ['\\', 'n']
  | '\r' => ['\\', 'r']
  | '\t' => ['\\', 't']
  | c => if isControl c then
      ['\\', 'u', '0', '0', hexDigit (c.toNat / 16), hexDigit (c.toNat % 16)]
    else [c]

/-- The spelling of a text. -/
def encode (cs : List Char) : List Char := cs.flatMap encodeChar

end ParseBoxes.Json.Text
