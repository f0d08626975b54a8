import ParseBoxes.Tree.Forest
import ParseBoxes.Tree.Id

/-!
# Box trees

A tree holds the boxes of one build and the ribbon of input fragments they stand for, as two forests.
It is fixed once built: what changes later are the pins of its boxes and fragments.
-/

namespace ParseBoxes

/-- A box: what is shown of one attempt of a trace. -/
structure BoxNode where
  label : String
  /-- The fragment that holds the text of the box. -/
  input : FragmentId
  isWhitespace : Bool := false
  isFailure : Bool := false
  isPrimitive : Bool := false
deriving DecidableEq

/-- A fragment: the text that one attempt itself consumed, without that of its children. -/
structure Fragment where
  text : String
  /-- The text shown in place of `text`. -/
  display : String
  isWhitespace : Bool
deriving DecidableEq

namespace Fragment

/-- A fragment that shows the glyph, if there is one, and else its text. -/
def ofText (text : String) (glyph : Option String) : Fragment where
  text := text
  display := glyph.getD text
  isWhitespace := glyph.isSome

end Fragment

/-- The boxes and fragments of one build. -/
structure BoxTree where
  generation : UInt32
  boxes : Forest BoxNode
  fragments : Forest Fragment

namespace BoxTree

/-- A box of the tree. -/
abbrev Box (t : BoxTree) := Fin t.boxes.size

/-- A fragment of the tree. -/
abbrev Piece (t : BoxTree) := Fin t.fragments.size

def empty (generation : UInt32) : BoxTree := ⟨generation, .empty, .empty⟩

/-! ## Names -/

def nameOf (t : BoxTree) (b : t.Box) : BoxId := ⟨t.generation, b⟩

def pieceName (t : BoxTree) (p : t.Piece) : FragmentId := ⟨p⟩

def contains (t : BoxTree) (id : BoxId) : Bool :=
  id.generation = t.generation && id.index < t.boxes.size

/-- The box of a name.  The generation is looked at first. -/
def locate (t : BoxTree) (id : BoxId) : Except Fault t.Box :=
  if id.generation = t.generation then
    if h : id.index < t.boxes.size then .ok ⟨id.index, h⟩
    else .error (.outOfRange t.boxes.size id.index)
  else .error (.foreignBox id t.generation)

def find? (t : BoxTree) (id : BoxId) : Option t.Box := (t.locate id).toOption

/-- The fragment of a name. -/
def locatePiece (t : BoxTree) (id : FragmentId) : Except Fault t.Piece :=
  if h : id.index < t.fragments.size then .ok ⟨id.index, h⟩
  else .error (.outOfRange t.fragments.size id.index)

def box (t : BoxTree) (b : t.Box) : BoxNode := t.boxes.get b

def piece (t : BoxTree) (p : t.Piece) : Fragment := t.fragments.get p

theorem locate_nameOf (t : BoxTree) (b : t.Box) : t.locate (t.nameOf b) = .ok b := by
  simp [locate, nameOf]

/-- A name leads to the box it is the name of. -/
theorem locate_eq_ok_iff {t : BoxTree} {id : BoxId} {b : t.Box} :
    t.locate id = .ok b ↔ id = t.nameOf b := by
  constructor
  · intro h
    unfold locate at h
    split at h
    · next hg =>
      split at h
      · cases h; cases id; cases hg; rfl
      · cases h
    · cases h
  · rintro rfl; exact t.locate_nameOf b

@[simp]
theorem nameOf_inj {t : BoxTree} {b c : t.Box} : t.nameOf b = t.nameOf c ↔ b = c := by
  simp [nameOf, Fin.ext_iff]

@[simp]
theorem before_nameOf {t : BoxTree} {b c : t.Box} :
    (t.nameOf b).before (t.nameOf c) = true ↔ b < c := by
  show (decide (t.generation < t.generation) ||
    decide (t.generation = t.generation) && decide (b.1 < c.1)) = true ↔ b.1 < c.1
  simp

theorem contains_iff {t : BoxTree} {id : BoxId} : t.contains id = true ↔ ∃ b, id = t.nameOf b := by
  simp only [contains, Bool.and_eq_true, decide_eq_true_eq]
  constructor
  · rintro ⟨hg, hi⟩
    refine ⟨⟨id.index, hi⟩, ?_⟩
    cases id; cases hg; rfl
  · rintro ⟨b, rfl⟩; exact ⟨rfl, b.2⟩

/-! ## Growth -/

/-- Adds a fragment behind the last child of its parent, or at the end of the ribbon. -/
def pushPiece (t : BoxTree) (parent : Option t.Piece) (f : Fragment) : BoxTree :=
  { t with fragments := t.fragments.push parent f }

/-- Adds a box behind the last child of its parent, or at the end of the top row. -/
def pushBox (t : BoxTree) (parent : Option t.Box) (b : BoxNode) : BoxTree :=
  { t with boxes := t.boxes.push parent b }

/-- Adds a fragment below a named one; answers with the name of the new fragment.  The new fragment
counts towards the size when a name is refused. -/
def addPiece (t : BoxTree) (parent : Option FragmentId) (f : Fragment) :
    Except Fault (FragmentId × BoxTree) :=
  match t.fragments.attach (parent.map (·.index)) f with
  | .ok fragments => .ok (⟨t.fragments.size⟩, { t with fragments := fragments })
  | .error index => .error (.outOfRange (t.fragments.size + 1) index)

/-- Adds a box below a named one; answers with the name of the new box.  The new box counts towards
the size when a name is refused. -/
def addBox (t : BoxTree) (parent : Option BoxId) (b : BoxNode) : Except Fault (BoxId × BoxTree) := do
  match parent with
  | some p => if p.generation ≠ t.generation then throw (.foreignBox p t.generation)
  | none => pure ()
  match t.boxes.attach (parent.map (·.index)) b with
  | .ok boxes => return (⟨t.generation, t.boxes.size⟩, { t with boxes := boxes })
  | .error index => throw (.outOfRange (t.boxes.size + 1) index)

/-! ## Walks -/

/-- A box, its ancestors from the nearest on, and all boxes below it in pre-order. -/
def dependents (t : BoxTree) (b : t.Box) : List t.Box :=
  b :: t.boxes.ancestors b ++ t.boxes.descendants b

/-- The box that a path of child indices leads to. -/
def atPath (t : BoxTree) (path : List Nat) : Option t.Box := t.boxes.atPath path

/-- The text matched by a fragment and all fragments in it. -/
def matchedText (t : BoxTree) (p : t.Piece) : String := t.fragments.gather (·.text) p

/-- The text shown for a fragment and all fragments in it. -/
def displayText (t : BoxTree) (p : t.Piece) : String := t.fragments.gather (·.display) p

def inputText (t : BoxTree) : String :=
  t.fragments.tops.foldl (fun s p => s ++ t.matchedText p) ""

end BoxTree

end ParseBoxes
