/-!
# Names of boxes and fragments

A box is named by its place in its tree and by the generation of that tree, so that a name from an
earlier tree is told from one of the current tree.  A fragment is named by its place alone.
-/

namespace ParseBoxes

/-- The name of a box. -/
structure BoxId where
  generation : UInt32
  index : Nat
deriving DecidableEq

namespace BoxId

/-- Names in the order of their generations, within one generation in the order of their places. -/
def before (a b : BoxId) : Bool :=
  a.generation < b.generation || a.generation = b.generation && a.index < b.index

instance : ToString BoxId where
  toString id := "B" ++ toString id.index ++ "@" ++ toString id.generation.toNat

end BoxId

/-- The name of a fragment: its place in the tree it is used with. -/
structure FragmentId where
  index : Nat
deriving DecidableEq

instance : ToString FragmentId where
  toString id := "F" ++ toString id.index

/-- A breach of a caller's duty. -/
inductive Fault where
  /-- A box was named to a tree of another generation. -/
  | foreignBox (id : BoxId) (generation : UInt32)
  /-- An index beyond the end of the boxes or of the fragments. -/
  | outOfRange (size index : Nat)
  /-- A frame length that is beyond all durations. -/
  | endlessFrame
deriving DecidableEq

def Fault.message : Fault → String
  | foreignBox id generation =>
    "assertion \x60left == right\x60 failed: box " ++ toString id ++ " used with tree generation "
      ++ toString generation.toNat
  | outOfRange size index =>
    "index out of bounds: the len is " ++ toString size ++ " but the index is " ++ toString index
  | endlessFrame =>
    "cannot convert float seconds to Duration: value is either too big or NaN"

end ParseBoxes
