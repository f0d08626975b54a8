import ParseBoxes.Toml.Text
import ParseBoxes.Toml.Number

/-!
# Items of TOML

An item is what a key stands for.  Tables remember how they came to be, because only some of them may
be added to later.
-/

namespace ParseBoxes.Toml

/-- How a table came to be. -/
inductive Origin where
  /-- By its own header. -/
  | header
  /-- By the header of a table in it. -/
  | implied
  /-- By a key of several parts. -/
  | dotted
  /-- Written between braces. -/
  | inline
deriving DecidableEq

/-- What a key stands for. -/
inductive Item where
  | text (s : String)
  | integer (n : Int)
  | real (x : Float)
  | bool (b : Bool)
  | moment
  | array (items : List Item)
  | table (origin : Origin) (entries : List (String × Item))
  /-- Tables under one header each; the last one comes first. -/
  | tables (elements : List (List (String × Item)))

/-- The entries of a table, in order. -/
abbrev Entries := List (String × Item)

namespace Entries

def get? (es : Entries) (key : String) : Option Item := (es.find? (·.1 = key)).map (·.2)

/-- Puts an item in the place of that of the same key, or at the end. -/
def put (es : Entries) (key : String) (item : Item) : Entries :=
  if (get? es key).isSome then es.map fun e => if e.1 = key then (key, item) else e
  else es ++ [(key, item)]

/-- Adds an item under a key of several parts.  On the way, tables are entered that came from such
keys or were implied by headers; the last table must come from such a key, and the key be new. -/
def add (origin : Origin) (nested : Bool) (es : Entries) :
    List String → String → Item → Option Entries
  | [], key, item =>
    if (origin = .dotted) = nested && (get? es key).isNone then some (es ++ [(key, item)]) else none
  | p :: path, key, item =>
    match get? es p with
    | none => (add .dotted true [] path key item).map fun sub => put es p (.table .dotted sub)
    | some (.table .implied sub) =>
      (add .implied true sub path key item).map fun sub => put es p (.table .implied sub)
    | some (.table .dotted sub) =>
      (add .dotted true sub path key item).map fun sub => put es p (.table .dotted sub)
    | some (.tables (last :: earlier)) =>
      (add .header true last path key item).map fun sub => put es p (.tables (sub :: earlier))
    | _ => none

/-- A key of several parts and its item. -/
abbrev Pair := List String × String × Item

def addAll (origin : Origin) (es : Entries) (pairs : List Pair) : Option Entries :=
  pairs.foldlM (fun es (path, key, item) => add origin false es path key item) es

end Entries

/-! ## Reading items -/

/-- Items with commas between them, each read by `item?`; `sep` is what may stand around them. -/
def items? {β : Type} (item? : List Char → Option (β × List Char)) :
    Nat → List Char → Option (List β × List Char)
  | 0, _ => none
  | fuel + 1, cs =>
    match item? cs with
    | none => some ([], cs)
    | some (x, ',' :: rest) =>
      match items? item? fuel rest with
      | some ([], _) => some ([x], ',' :: rest)
      | some (xs, r) => some (x :: xs, r)
      | none => none
    | some (x, cs) => some ([x], cs)

/-- Takes away blanks, comments and line ends. -/
def skipLines : Nat → List Char → Option (List Char)
  | 0, _ => none
  | fuel + 1, cs =>
    match skipBlanks cs with
    | '#' :: rest => (newline? (rest.dropWhile isPrintable)).bind (skipLines fuel)
    | '\n' :: rest => skipLines fuel rest
    | '\r' :: '\n' :: rest => skipLines fuel rest
    | '\r' :: _ => none
    | cs => some cs

/-- A pair of a key and an item with the sign between them. -/
def keyed? (item? : List Char → Option (Item × List Char)) (cs : List Char) :
    Option (Entries.Pair × List Char) := do
  let (path, cs) ← key? cs
  match cs with
  | '=' :: rest =>
    let (item, cs) ← item? (skipBlanks rest)
    return ((path.dropLast, path.getLastD "", item), cs)
  | _ => none

/-- An item whose arrays and inline tables are nested no deeper than `levels`. -/
def item? : Nat → List Char → Option (Item × List Char)
  | levels, cs =>
    match cs with
    | '"' :: _ | '\x27' :: _ => (string? cs).map fun (s, r) => (.text s, r)
    | 't' :: 'r' :: 'u' :: 'e' :: rest => some (.bool true, rest)
    | 'f' :: 'a' :: 'l' :: 's' :: 'e' :: rest => some (.bool false, rest)
    | '[' :: rest =>
      match levels with
      | 0 => none
      | levels + 1 => do
        let fuel := rest.length + 1
        let (xs, cs) ← items? (fun cs => do
          let (x, cs) ← item? levels (← skipLines fuel cs)
          return (x, ← skipLines fuel cs)) fuel rest
        let cs := match xs, cs with
          | _ :: _, ',' :: cs => cs
          | _, cs => cs
        match ← skipLines fuel cs with
        | ']' :: cs => return (.array xs, cs)
        | _ => none
    | '\x7b' :: rest =>
      match levels with
      | 0 => none
      | levels + 1 => do
        let (pairs, cs) ← items? (fun cs => do
          let (p, cs) ← keyed? (item? levels) cs
          return (p, skipBlanks cs)) (rest.length + 1) rest
        match skipBlanks cs with
        | '\x7d' :: cs => return (.table .inline (← Entries.addAll .inline [] pairs), cs)
        | _ => none
    | cs =>
      match moment? cs with
      | some r => some (.moment, r)
      | none =>
        match point? cs with
        | some (x, r) => some (.real x, r)
        | none =>
          match word? cs with
          | some (x, r) => some (.real x, r)
          | none => (integer? cs).map fun (n, r) => (.integer n, r)

end ParseBoxes.Toml
