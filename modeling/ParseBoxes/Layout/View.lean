import ParseBoxes.Layout.Rules

/-!
# Views

A view answers questions about one layout by the rules of `Layout`, and remembers every answer, so
that no label and no text is measured twice.  What it asks of the measurer is kept in order.
-/

namespace ParseBoxes

/-- What a request to the measurer is about. -/
inductive Subject where
  /-- The label of a box. -/
  | label (box : Nat)
  /-- The text of a fragment. -/
  | text (fragment : Nat)
  /-- The height of a line. -/
  | line
deriving DecidableEq

/-- A request to the measurer. -/
structure Request where
  subject : Subject
  text : String
  role : TextRole
deriving DecidableEq

/-- The answers that a view remembers, and the requests that it has made. -/
structure Memo (α : Type) (t : BoxTree) where
  labels : Vector (Option (Size α)) t.boxes.size
  blocks : Vector (Option (Size α)) t.boxes.size
  widths : Vector (Option α) t.boxes.size
  displayed : Vector (Option Bool) t.boxes.size
  texts : Vector (Option (Size α)) t.fragments.size
  inputs : Vector (Option (Size α)) t.fragments.size
  pieces : Vector (Option α) t.fragments.size
  requests : Array Request

namespace Memo

def blank (α : Type) (t : BoxTree) : Memo α t where
  labels := .replicate _ none
  blocks := .replicate _ none
  widths := .replicate _ none
  displayed := .replicate _ none
  texts := .replicate _ none
  inputs := .replicate _ none
  pieces := .replicate _ none
  requests := #[]

end Memo

/-- A question to a view. -/
abbrev View (α : Type) (t : BoxTree) := StateM (Memo α t)

namespace View

variable {α : Type} [Scalar α] {t : BoxTree}

/-- One table of a memo. -/
structure Table (α : Type) (t : BoxTree) (size : Nat) (β : Type) where
  read : Memo α t → Vector (Option β) size
  modify : Memo α t → (Vector (Option β) size → Vector (Option β) size) → Memo α t

/-- Answers from a table; a question asked for the first time is worked out and written down. -/
def remember {size : Nat} {β : Type} (table : Table α t size β) (i : Fin size)
    (answer : View α t β) : View α t β := do
  match (table.read (← get)).get i with
  | some known => return known
  | none =>
    let found ← answer
    modify (table.modify · (·.set i (some found) i.2))
    return found

def labels : Table α t t.boxes.size (Size α) :=
  ⟨(·.labels), fun m f => { m with labels := f m.labels }⟩

def blocks : Table α t t.boxes.size (Size α) :=
  ⟨(·.blocks), fun m f => { m with blocks := f m.blocks }⟩

def widths : Table α t t.boxes.size α :=
  ⟨(·.widths), fun m f => { m with widths := f m.widths }⟩

def displayed : Table α t t.boxes.size Bool :=
  ⟨(·.displayed), fun m f => { m with displayed := f m.displayed }⟩

def texts : Table α t t.fragments.size (Size α) :=
  ⟨(·.texts), fun m f => { m with texts := f m.texts }⟩

def inputs : Table α t t.fragments.size (Size α) :=
  ⟨(·.inputs), fun m f => { m with inputs := f m.inputs }⟩

def pieces : Table α t t.fragments.size α :=
  ⟨(·.pieces), fun m f => { m with pieces := f m.pieces }⟩

variable (l : Layout α t)

def ask (subject : Subject) (text : String) (role : TextRole) : View α t (Size α) := do
  modify fun m => { m with requests := m.requests.push ⟨subject, text, role⟩ }
  return l.measure text role

/-! ## Boxes -/

def labelSize (b : t.Box) : View α t (Size α) :=
  remember labels b (ask l (.label b) (t.box b).label (t.box b).labelRole)

mutual

/-- The extent of the children side by side.  That of hidden children is known beforehand. -/
def childrenBlock (b : t.Box) : View α t (Size α) :=
  if l.hidden b then return 0
  else remember blocks b <|
    (t.boxes.kids b).foldlM (fun block ⟨c, _⟩ => do
      let width ← renderedWidth c
      let height ← renderedHeight c
      return block.beside ⟨width, height⟩) 0
termination_by 3 * (t.boxes.size - b)

def renderedWidth (b : t.Box) : View α t α :=
  remember widths b do
    let natural ← match l.explicitWidth b with
      | some w => pure w
      | none => do
        let label ← labelSize l b
        if l.hidden b then pure label.width
        else pure (Scalar.max label.width (← childrenBlock b).width)
    return Layout.atLeast natural (l.pins.box b).minWidth
termination_by 3 * (t.boxes.size - b) + 1

def childrenHeight (b : t.Box) : View α t α :=
  if l.hidden b then return 0
  else match l.pinnedHeight b with
    | some h => return h
    | none => return (← childrenBlock b).height
termination_by 3 * (t.boxes.size - b) + 1

def renderedHeight (b : t.Box) : View α t α := do
  let label ← labelSize l b
  return label.height + (← childrenHeight b)
termination_by 3 * (t.boxes.size - b) + 2

end

def isDisplayed (b : t.Box) : View α t Bool :=
  remember displayed b <|
    match t.boxes.parent? b with
    | none => return !t.boxes.isLoose b
    | some ⟨p, _⟩ => if l.hidden p then return false else isDisplayed p
termination_by b.1

def displayedWidth (b : t.Box) : View α t α := do
  if ← isDisplayed l b then renderedWidth l b else return 0

/-! ## Ribbon -/

def textSize (p : t.Piece) : View α t (Size α) :=
  remember texts p (ask l (.text p) (t.piece p).display (t.piece p).role)

/-- The extent of the texts of a fragment and of all fragments in it. -/
def inputSize (p : t.Piece) : View α t (Size α) :=
  remember inputs p do
    let own ← textSize l p
    (t.fragments.kids p).foldlM (fun size ⟨c, _⟩ => do
      return size.beside (← inputSize c)) own
termination_by t.fragments.size - p

def pieceWidth (p : t.Piece) : View α t α :=
  remember pieces p do
    let own ← textSize l p
    let inner ← (t.fragments.kids p).mapM fun ⟨c, _⟩ => pieceWidth c
    return Layout.atLeast (Layout.plusAll own.width inner) (l.pins.piece p).minWidth
termination_by t.fragments.size - p

end View

end ParseBoxes
