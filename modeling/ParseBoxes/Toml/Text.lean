import ParseBoxes.Text.Digits

/-!
# Text in TOML

The four kinds of strings and the keys.  Strings between double quotation marks know escapes, those
between apostrophes do not; tripled marks enclose strings of several lines.  Line ends in a string
count as one character however they are written.
-/

namespace ParseBoxes.Toml

def isBlank (c : Char) : Bool := c = ' ' || c = '\t'

/-- A text without the blanks at its front. -/
def skipBlanks (cs : List Char) : List Char := cs.dropWhile isBlank

/-- What follows a line end. -/
def newline? : List Char → Option (List Char)
  | '\n' :: rest => some rest
  | '\r' :: '\n' :: rest => some rest
  | _ => none

/-- Characters that may stand anywhere in a line, comments included. -/
def isPrintable (c : Char) : Bool := c = '\t' || ' ' ≤ c && c ≤ '~' || '\x7f' < c

def skipComment : List Char → List Char
  | '#' :: rest => rest.dropWhile isPrintable
  | cs => cs

/-! ## Escapes -/

/-- The character with the code given by hexadecimal digits. -/
def scalar? (digits : List Char) : Option Char :=
  let n := Digits.toNat 16 digits
  if digits.all Digits.isHex && n.isValidChar then some (Char.ofNat n) else none

/-- What stands behind a backslash: the character it denotes, and what follows. -/
def escape? : List Char → Option (Char × List Char)
  | 'b' :: rest => some ('\x08', rest)
  | 'f' :: rest => some ('\x0c', rest)
  | 'n' :: rest => some ('\n', rest)
  | 'r' :: rest => some ('\r', rest)
  | 't' :: rest => some ('\t', rest)
  | '\\' :: rest => some ('\\', rest)
  | '"' :: rest => some ('"', rest)
  | 'u' :: a :: b :: c :: d :: rest => (scalar? [a, b, c, d]).map (·, rest)
  | 'U' :: a :: b :: c :: d :: e :: f :: g :: h :: rest =>
    (scalar? [a, b, c, d, e, f, g, h]).map (·, rest)
  | _ => none

theorem length_of_escape {cs r : List Char} {c : Char} (h : escape? cs = some (c, r)) :
    r.length < cs.length := by
  unfold escape? at h
  split at h <;> first
    | (simp only [Option.some.injEq, Prod.mk.injEq] at h; rw [← h.2]; simp)
    | (obtain ⟨x, -, hx⟩ := Option.map_eq_some_iff.1 h
       simp only [Prod.mk.injEq] at hx; rw [← hx.2]; simp only [List.length_cons]; omega)
    | simp at h

/-! ## Strings -/

/-- The rest of a string of one line, behind its opening mark. -/
def basic? (cs : List Char) : Option (List Char × List Char) :=
  match cs with
  | [] => none
  | '"' :: rest => some ([], rest)
  | '\\' :: rest =>
    match h : escape? rest with
    | none => none
    | some (c, rest') =>
      have := length_of_escape h
      (basic? rest').map fun (s, r) => (c :: s, r)
  | c :: rest => if isPrintable c then (basic? rest).map fun (s, r) => (c :: s, r) else none
termination_by cs.length
decreasing_by all_goals simp only [List.length_cons]; omega

/-- The rest of a string of one line without escapes. -/
def literal? : List Char → Option (List Char × List Char)
  | [] => none
  | '\x27' :: rest => some ([], rest)
  | c :: rest => if isPrintable c then (literal? rest).map fun (s, r) => (c :: s, r) else none

/-- Does a line end follow, with nothing but blanks before it? -/
def endsLine (cs : List Char) : Bool := (newline? (skipBlanks cs)).isSome

/-- The rest of a string of several lines.  Up to two of its own marks may stand right before the
closing ones.  A backslash at the end of a line takes away the line end and all blanks and line ends
behind it; `skipping` says that this is going on. -/
def basicLines? (skipping : Bool) (cs : List Char) : Option (List Char × List Char) :=
  match cs with
  | [] => none
  | '"' :: '"' :: '"' :: '"' :: '"' :: rest => some (['"', '"'], rest)
  | '"' :: '"' :: '"' :: '"' :: rest => some (['"'], rest)
  | '"' :: '"' :: '"' :: rest => some ([], rest)
  | '\\' :: rest =>
    if endsLine rest then basicLines? true rest
    else match h : escape? rest with
      | none => none
      | some (c, rest') =>
        have := length_of_escape h
        (basicLines? false rest').map fun (s, r) => (c :: s, r)
  | '\r' :: '\n' :: rest =>
    if skipping then basicLines? true rest
    else (basicLines? false rest).map fun (s, r) => ('\n' :: s, r)
  | c :: rest =>
    if skipping && (isBlank c || c = '\n') then basicLines? true rest
    else if isPrintable c || c = '\n' then (basicLines? false rest).map fun (s, r) => (c :: s, r)
    else none
termination_by cs.length
decreasing_by all_goals simp only [List.length_cons]; omega

/-- The rest of a string of several lines without escapes. -/
def literalLines? : List Char → Option (List Char × List Char)
  | [] => none
  | '\x27' :: '\x27' :: '\x27' :: '\x27' :: '\x27' :: rest => some (['\x27', '\x27'], rest)
  | '\x27' :: '\x27' :: '\x27' :: '\x27' :: rest => some (['\x27'], rest)
  | '\x27' :: '\x27' :: '\x27' :: rest => some ([], rest)
  | '\r' :: '\n' :: rest => (literalLines? rest).map fun (s, r) => ('\n' :: s, r)
  | c :: rest =>
    if isPrintable c || c = '\n' then (literalLines? rest).map fun (s, r) => (c :: s, r) else none

def dropNewline (cs : List Char) : List Char := (newline? cs).getD cs

def string? : List Char → Option (String × List Char)
  | '"' :: '"' :: '"' :: rest =>
    (basicLines? false (dropNewline rest)).map fun (s, r) => (String.ofList s, r)
  | '"' :: rest => (basic? rest).map fun (s, r) => (String.ofList s, r)
  | '\x27' :: '\x27' :: '\x27' :: rest =>
    (literalLines? (dropNewline rest)).map fun (s, r) => (String.ofList s, r)
  | '\x27' :: rest => (literal? rest).map fun (s, r) => (String.ofList s, r)
  | _ => none

/-! ## Keys -/

/-- Characters of keys without quotation marks. -/
def isBare (c : Char) : Bool :=
  'a' ≤ c && c ≤ 'z' || 'A' ≤ c && c ≤ 'Z' || Digits.isDecimal c || c = '-' || c = '_'

def simpleKey? : List Char → Option (String × List Char)
  | '"' :: rest => (basic? rest).map fun (s, r) => (String.ofList s, r)
  | '\x27' :: rest => (literal? rest).map fun (s, r) => (String.ofList s, r)
  | cs => match cs.takeWhile isBare with
    | [] => none
    | k => some (String.ofList k, cs.dropWhile isBare)

/-- How many levels of keys, arrays and tables may be nested, less one. -/
def levelLimit : Nat := 79

/-- Keys with dots between them and blanks around them, at most as many as the fuel. -/
def dottedKey? : Nat → List Char → Option (List String × List Char)
  | 0, _ => none
  | fuel + 1, cs => do
    let (k, cs) ← simpleKey? (skipBlanks cs)
    match skipBlanks cs with
    | '.' :: rest =>
      let (ks, cs) ← dottedKey? fuel rest
      return (k :: ks, cs)
    | cs => return ([k], cs)

def key? (cs : List Char) : Option (List String × List Char) := dottedKey? levelLimit cs

end ParseBoxes.Toml
