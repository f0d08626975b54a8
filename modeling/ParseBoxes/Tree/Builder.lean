import ParseBoxes.Tree.BoxTree
import ParseBoxes.Trace.Visibility
import ParseBoxes.Text.Blank

/-!
# Building a tree from a trace

Every successful attempt gets a fragment, nested as the attempts are.  Attempts that are shown get a
box too, and so does every run of white space; the box of an attempt lies in that of the nearest
attempt above it that has one.  Below a black hole nothing is shown but white space.
-/

namespace ParseBoxes

/-- Builds trees that show the glyph in place of white space. -/
structure TreeBuilder where
  glyph : String := "·"

namespace TreeBuilder

/-- A tree in the making, with the size it had when a part of it was named: names stay good because
trees only grow. -/
structure Grown (t : BoxTree) where
  tree : BoxTree
  boxes_le : t.boxes.size ≤ tree.boxes.size
  fragments_le : t.fragments.size ≤ tree.fragments.size

namespace Grown

def here (t : BoxTree) : Grown t := ⟨t, Nat.le_refl _, Nat.le_refl _⟩

def box {t : BoxTree} (g : Grown t) (b : t.Box) : g.tree.Box := b.castLE g.boxes_le

/-- A fragment that was there is still there. -/
def piece {t : BoxTree} (g : Grown t) (p : t.Piece) : g.tree.Piece := p.castLE g.fragments_le

def after {t : BoxTree} (g : Grown t) (g' : Grown g.tree) : Grown t :=
  ⟨g'.tree, Nat.le_trans g.boxes_le g'.boxes_le, Nat.le_trans g.fragments_le g'.fragments_le⟩

end Grown

/-- The text that an attempt itself consumed. -/
def ownText (n : TraceNode) : String := if n.isPrimitive then n.contents else ""

def fragmentOf (b : TreeBuilder) (n : TraceNode) : Fragment :=
  .ofText (ownText n) (if Text.isBlankRun (ownText n) then some b.glyph else none)

/-- Does an attempt get a box, given whether boxes are shown at its place? -/
def getsBox (shown : Bool) (n : TraceNode) : Bool :=
  shown && !n.isBlackhole && n.classify.isVisible || Text.isBlankRun (ownText n)

def boxOf (n : TraceNode) (input : FragmentId) : BoxNode where
  label := n.label
  input := input
  isWhitespace := Text.isBlankRun (ownText n)
  isFailure := !n.succeeded
  isPrimitive := n.isPrimitive

def withPiece (t : BoxTree) (parent : Option t.Piece) (f : Fragment) :
    { g : Grown t // t.fragments.size < g.tree.fragments.size } :=
  ⟨⟨t.pushPiece parent f, Nat.le_refl _, by simp [BoxTree.pushPiece]⟩, by simp [BoxTree.pushPiece]⟩

def withBox (t : BoxTree) (parent : Option t.Box) (b : BoxNode) :
    { g : Grown t // t.boxes.size < g.tree.boxes.size } :=
  ⟨⟨t.pushBox parent b, by simp [BoxTree.pushBox], Nat.le_refl _⟩, by simp [BoxTree.pushBox]⟩

mutual

/-- Adds what is shown of an attempt and all below it: its fragment under `ribbon`, boxes into
`container`. -/
def addNode (b : TreeBuilder) (t : BoxTree) (container : Option t.Box) (ribbon : Option t.Piece)
    (shown : Bool) : TraceNode → Grown t
  | ⟨succeeded, label, kind, source, contents, children⟩ =>
    let n : TraceNode := ⟨succeeded, label, kind, source, contents, children⟩
    if succeeded then
      let ⟨g, hg⟩ := withPiece t ribbon (b.fragmentOf n)
      let piece : g.tree.Piece := ⟨t.fragments.size, hg⟩
      let shownBelow := shown && !n.isBlackhole
      if getsBox shown n then
        let ⟨g', hg'⟩ := withBox g.tree (container.map g.box) (boxOf n ⟨t.fragments.size⟩)
        (g.after g').after (b.addNodes g'.tree (some ⟨g.tree.boxes.size, hg'⟩) (some (g'.piece piece))
          shownBelow children)
      else
        g.after (b.addNodes g.tree (container.map g.box) (some piece) shownBelow children)
    else .here t

/-- Adds what is shown of attempts, one behind the other. -/
def addNodes (b : TreeBuilder) (t : BoxTree) (container : Option t.Box) (ribbon : Option t.Piece)
    (shown : Bool) : List TraceNode → Grown t
  | [] => .here t
  | n :: ns =>
    let g := b.addNode t container ribbon shown n
    g.after (b.addNodes g.tree (container.map g.box) (ribbon.map g.piece) shown ns)

end

def build (b : TreeBuilder) (trace : List TraceNode) (generation : UInt32) : BoxTree :=
  (b.addNodes (.empty generation) none none true trace).tree

end TreeBuilder

end ParseBoxes
