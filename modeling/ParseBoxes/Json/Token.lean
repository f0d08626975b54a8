import ParseBoxes.Json.Text
import ParseBoxes.Json.Number

/-!
# Tokens of JSON

A text is cut into tokens before its structure is looked at.  Numbers and strings keep their
spelling, so that writing a token gives back the characters it was cut from.
-/

namespace ParseBoxes.Json

/-- A token; `text` and `number` hold spellings. -/
inductive Token where
  | arrayOpen
  | arrayClose
  | objectOpen
  | objectClose
  | comma
  | colon
  | null
  | bool (b : Bool)
  | number (spelling : List Char)
  | text (spelling : List Char)
deriving DecidableEq, Repr

namespace Token

def chars : Token → List Char
  | arrayOpen => ['[']
  | arrayClose => [']']
  | objectOpen => ['\x7b']
  | objectClose => ['\x7d']
  | comma => [',']
  | colon => [':']
  | null => "null".toList
  | bool true => "true".toList
  | bool false => "false".toList
  | number s => s
  | text s => '"' :: s ++ ['"']

end Token

/-- Characters between tokens that mean nothing. -/
def isSpace (c : Char) : Bool := c = ' ' || c = '\t' || c = '\n' || c = '\r'

/-- The first token of a text that does not begin with a space, and what follows it. -/
def scanToken : List Char → Option (Token × List Char)
  | '[' :: rest => some (.arrayOpen, rest)
  | ']' :: rest => some (.arrayClose, rest)
  | '\x7b' :: rest => some (.objectOpen, rest)
  | '\x7d' :: rest => some (.objectClose, rest)
  | ',' :: rest => some (.comma, rest)
  | ':' :: rest => some (.colon, rest)
  | 'n' :: 'u' :: 'l' :: 'l' :: rest => some (.null, rest)
  | 't' :: 'r' :: 'u' :: 'e' :: rest => some (.bool true, rest)
  | 'f' :: 'a' :: 'l' :: 's' :: 'e' :: rest => some (.bool false, rest)
  | '"' :: rest => (Text.scan rest).map fun (s, r) => (.text s, r)
  | cs => (Number.scan cs).map fun (s, r) => (.number s, r)

/-- The tokens of a text, if it is made of tokens and spaces. -/
def tokens? (text : List Char) : Option (List Token) :=
  go (text.length + 1) text
where
  /-- Every turn takes at least one character, so the length of the text bounds their number. -/
  go : Nat → List Char → Option (List Token)
    | 0, _ => none
    | _ + 1, [] => some []
    | n + 1, c :: rest =>
      if isSpace c then go n rest
      else match scanToken (c :: rest) with
        | none => none
        | some (t, rest') => (go n rest').map (t :: ·)

end ParseBoxes.Json
