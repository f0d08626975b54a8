import ParseBoxes.Json.Token

/-!
# JSON values

A value keeps the order of its members, repeated keys included, and the spellings of its scalars: a
reader decides what they denote.  `Value.ofTokens?` reads with a stack of open arrays and objects, so
its depth is bounded by no call stack; `Value.tokens` writes.
-/

namespace ParseBoxes.Json

/-- A JSON value.  Keys and strings are spellings. -/
inductive Value where
  | null
  | bool (b : Bool)
  | number (spelling : List Char)
  | text (spelling : List Char)
  | array (items : List Value)
  | object (members : List (List Char × Value))

namespace Value

def ofString (s : String) : Value := .text (Text.encode s.toList)

def ofNat (n : Nat) : Value := .number (toString n).toList

def ofFields (fields : List (String × Value)) : Value :=
  .object (fields.map fun (k, v) => (Text.encode k.toList, v))

/-! ## Writing -/

mutual

def tokens : Value → List Token
  | null => [.null]
  | bool b => [.bool b]
  | number s => [.number s]
  | text s => [.text s]
  | array items => .arrayOpen :: itemTokens items ++ [.arrayClose]
  | object members => .objectOpen :: memberTokens members ++ [.objectClose]

/-- The tokens of an array's items with a comma between any two. -/
def itemTokens : List Value → List Token
  | [] => []
  | [v] => v.tokens
  | v :: vs => v.tokens ++ .comma :: itemTokens vs

/-- The tokens of an object's members with a comma between any two. -/
def memberTokens : List (List Char × Value) → List Token
  | [] => []
  | [(k, v)] => .text k :: .colon :: v.tokens
  | (k, v) :: ms => .text k :: .colon :: v.tokens ++ .comma :: memberTokens ms

end

/-- The text of a value without any space. -/
def compact (v : Value) : String := String.ofList (v.tokens.flatMap Token.chars)

/-- A new line and two spaces for every level. -/
def lineBreak (depth : Nat) : List Char := '\n' :: List.replicate (2 * depth) ' '

mutual

/-- A value with one item or member to a line. -/
def prettyChars (depth : Nat) : Value → List Char
  | array (v :: vs) =>
    '[' :: lineBreak (depth + 1) ++ prettyItems (depth + 1) (v :: vs) ++ lineBreak depth ++ [']']
  | object (m :: ms) =>
    '\x7b' :: lineBreak (depth + 1) ++ prettyMembers (depth + 1) (m :: ms) ++ lineBreak depth
      ++ ['\x7d']
  | v => v.tokens.flatMap Token.chars

def prettyItems (depth : Nat) : List Value → List Char
  | [] => []
  | [v] => prettyChars depth v
  | v :: vs => prettyChars depth v ++ ',' :: lineBreak depth ++ prettyItems depth vs

def prettyMembers (depth : Nat) : List (List Char × Value) → List Char
  | [] => []
  | [(k, v)] => (Token.text k).chars ++ ':' :: ' ' :: prettyChars depth v
  | (k, v) :: ms =>
    (Token.text k).chars ++ ':' :: ' ' :: prettyChars depth v ++ ',' :: lineBreak depth
      ++ prettyMembers depth ms

end

def pretty (v : Value) : String := String.ofList (v.prettyChars 0)

/-! ## Reading -/

/-- An array or object whose end has not been read; what it holds so far stands last first. -/
inductive Frame where
  | array (done : List Value)
  /-- `key` is the key of the member being read. -/
  | object (done : List (List Char × Value)) (key : List Char)

/-- What the next token may be. -/
inductive Expecting where
  /-- A value; the innermost array may also end. -/
  | valueOrEnd
  /-- A value. -/
  | value
  /-- The first key of an object, or its end. -/
  | keyOrEnd (done : List (List Char × Value))
  /-- A key. -/
  | key (done : List (List Char × Value))
  /-- The colon behind a key. -/
  | colon (done : List (List Char × Value)) (key : List Char)
  /-- A comma or the end of the innermost array or object, which has just got a value. -/
  | commaOrEnd
  /-- Nothing more: the outermost value is complete. -/
  | nothing (result : Value)

/-- A value is complete: it goes into the innermost open array or object. -/
def deliver (v : Value) : List Frame → Expecting × List Frame
  | [] => (.nothing v, [])
  | .array done :: stack => (.commaOrEnd, .array (v :: done) :: stack)
  | .object done key :: stack => (.commaOrEnd, .object ((key, v) :: done) [] :: stack)

def beginValue (t : Token) (stack : List Frame) : Option (Expecting × List Frame) :=
  match t with
  | .null => some (deliver .null stack)
  | .bool b => some (deliver (.bool b) stack)
  | .number s => some (deliver (.number s) stack)
  | .text s => some (deliver (.text s) stack)
  | .arrayOpen => some (.valueOrEnd, .array [] :: stack)
  | .objectOpen => some (.keyOrEnd [], stack)
  | _ => none

/-- One token. -/
def step : Expecting × List Frame → Token → Option (Expecting × List Frame)
  | (.valueOrEnd, .array done :: stack), .arrayClose => some (deliver (.array done.reverse) stack)
  | (.valueOrEnd, stack), t => beginValue t stack
  | (.value, stack), t => beginValue t stack
  | (.keyOrEnd done, stack), .objectClose => some (deliver (.object done.reverse) stack)
  | (.keyOrEnd done, stack), .text k => some (.colon done k, stack)
  | (.key done, stack), .text k => some (.colon done k, stack)
  | (.colon done k, stack), .colon => some (.value, .object done k :: stack)
  | (.commaOrEnd, .array done :: stack), .comma => some (.value, .array done :: stack)
  | (.commaOrEnd, .array done :: stack), .arrayClose => some (deliver (.array done.reverse) stack)
  | (.commaOrEnd, .object done _ :: stack), .comma => some (.key done, stack)
  | (.commaOrEnd, .object done _ :: stack), .objectClose =>
    some (deliver (.object done.reverse) stack)
  | _, _ => none

def run : Expecting × List Frame → List Token → Option (Expecting × List Frame)
  | s, [] => some s
  | s, t :: ts => (step s t).bind (run · ts)

def ofTokens? (ts : List Token) : Option Value :=
  match run (.value, []) ts with
  | some (.nothing v, _) => some v
  | _ => none

def parse? (text : List Char) : Option Value := (tokens? text).bind ofTokens?

/-! ## Plain values -/

mutual

/-- How many arrays and objects stand open at the deepest point of a value. -/
def depth : Value → Nat
  | array items => itemsDepth items + 1
  | object members => membersDepth members + 1
  | _ => 0

def itemsDepth : List Value → Nat
  | [] => 0
  | v :: vs => max v.depth (itemsDepth vs)

def membersDepth : List (List Char × Value) → Nat
  | [] => 0
  | (_, v) :: ms => max v.depth (membersDepth ms)

end

mutual

/-- Does every spelling in a value denote something? -/
def isPlain : Value → Bool
  | number s => (Number.real? s).isSome
  | text s => (Text.decode s).isSome
  | array items => arePlain items
  | object members => arePlainMembers members
  | _ => true

def arePlain : List Value → Bool
  | [] => true
  | v :: vs => v.isPlain && arePlain vs

/-- Are all members plain, and their keys too? -/
def arePlainMembers : List (List Char × Value) → Bool
  | [] => true
  | (k, v) :: ms => (Text.decode k).isSome && v.isPlain && arePlainMembers ms

end

def string? : Value → Option String
  | text s => (Text.decode s).map String.ofList
  | _ => none

def natural? : Value → Option UInt64
  | number s => Number.natural? s
  | _ => none

def real? : Value → Option Float
  | number s => Number.real? s
  | _ => none

end Value

end ParseBoxes.Json
