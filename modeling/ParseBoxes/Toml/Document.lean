import ParseBoxes.Toml.Item

/-!
# Documents in TOML

A document is a row of sections: pairs of the top table first, then tables, each under its header.
Reading collects the sections; then they are put together, and what is defined twice is refused.
-/

namespace ParseBoxes.Toml

/-- Where the pairs of a section belong. -/
inductive Place where
  | top
  /-- A table with a header of its own. -/
  | table (path : List String) (key : String)
  /-- One more table in a row of tables. -/
  | element (path : List String) (key : String)

/-- A header, if there is one, and the pairs below it. -/
structure Section where
  place : Place
  pairs : List Entries.Pair

/-! ## Reading -/

/-- The end of a line, with blanks and a comment before it; the text may end there too. -/
def lineEnd? (cs : List Char) : Option (List Char) :=
  match skipComment (skipBlanks cs) with
  | [] => some []
  | cs => newline? cs

/-- The header of a table or of an element of a row of tables, and the rest of its line. -/
def header? : List Char → Option (Place × List Char)
  | '[' :: '[' :: rest => do
    let (path, cs) ← key? rest
    match cs with
    | ']' :: ']' :: cs => return (.element path.dropLast (path.getLastD ""), ← lineEnd? cs)
    | _ => none
  | '[' :: rest => do
    let (path, cs) ← key? rest
    match cs with
    | ']' :: cs => return (.table path.dropLast (path.getLastD ""), ← lineEnd? cs)
    | _ => none
  | _ => none

/-- Reads on line by line.  `done` are the sections that are complete, `pairs` the pairs of the
current one; both stand last first. -/
def lines? : Nat → List Section → Place → List Entries.Pair → List Char → Option (List Section)
  | 0, _, _, _, _ => none
  | fuel + 1, done, place, pairs, cs =>
    match skipBlanks cs with
    | [] => some (⟨place, pairs.reverse⟩ :: done).reverse
    | '#' :: rest => (lineEnd? ('#' :: rest)).bind (lines? fuel done place pairs)
    | '\n' :: rest => lines? fuel done place pairs rest
    | '\r' :: '\n' :: rest => lines? fuel done place pairs rest
    | '[' :: rest => do
      let (next, cs) ← header? ('[' :: rest)
      lines? fuel (⟨place, pairs.reverse⟩ :: done) next [] cs
    | cs => do
      let (pair, cs) ← keyed? (item? levelLimit) cs
      lines? fuel done place (pair :: pairs) (← lineEnd? cs)

/-- A text without a byte order mark at its front. -/
def skipMark : List Char → List Char
  | '\ufeff' :: rest => rest
  | cs => cs

def sections? (text : String) : Option (List Section) :=
  let cs := skipMark text.toList
  lines? (cs.length + 1) [] .top [] cs

/-! ## Putting together -/

namespace Entries

/-- Changes the table that a header path leads to; tables that are missing on the way are implied. -/
def within (change : Entries → Option Entries) : List String → Entries → Option Entries
  | [], es => change es
  | p :: path, es =>
    match get? es p with
    | none => (within change path []).map fun sub => put es p (.table .implied sub)
    | some (.table .inline _) => none
    | some (.table origin sub) =>
      (within change path sub).map fun sub => put es p (.table origin sub)
    | some (.tables (last :: earlier)) =>
      (within change path last).map fun sub => put es p (.tables (sub :: earlier))
    | some _ => none

/-- Adds a section: a table may have been implied before, but not defined. -/
def addSection (es : Entries) (s : Section) : Option Entries :=
  match s.place with
  | .top => addAll .header es s.pairs
  | .table path key =>
    within (fun parent => do
      let start ← match get? parent key with
        | none => some []
        | some (.table .implied sub) => some sub
        | some _ => none
      return put parent key (.table .header (← addAll .header start s.pairs))) path es
  | .element path key =>
    within (fun parent => do
      let earlier ← match get? parent key with
        | none => some []
        | some (.tables elements) => some elements
        | some _ => none
      return put parent key (.tables ((← addAll .header [] s.pairs) :: earlier))) path es

end Entries

def parse? (text : String) : Option Entries := do
  (← sections? text).foldlM Entries.addSection []

end ParseBoxes.Toml
