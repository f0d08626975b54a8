import ParseBoxes.Proofs.Tree.Links
import ParseBoxes.Tree.Builder

/-!
# Built trees

A build grows a tree in two kinds of steps: a fragment alone, or a fragment and the box that stands
for it.  What both steps keep holds of every built tree (`TreeBuilder.build_induction`).  So every
built tree is `Tidy`: links agree, and every box has a fragment of its own.
-/

namespace ParseBoxes

namespace TreeBuilder

variable {P : BoxTree → Prop}

/-- Both kinds of steps by which a build grows a tree keep a property. -/
structure Kept (P : BoxTree → Prop) : Prop where
  piece : ∀ (t : BoxTree) (ribbon : Option t.Piece) (f : Fragment), P t → P (t.pushPiece ribbon f)
  box : ∀ (t : BoxTree) (ribbon : Option t.Piece) (f : Fragment)
    (container : Option (t.pushPiece ribbon f).Box) (n : TraceNode), P t →
      P ((t.pushPiece ribbon f).pushBox container (boxOf n ⟨t.fragments.size⟩))

mutual

/-- What pushes keep is kept by a node, with all in it. -/
theorem Kept.addNode (h : Kept P) (b : TreeBuilder) (t : BoxTree) (container : Option t.Box)
    (ribbon : Option t.Piece) (shown : Bool) (n : TraceNode) (ht : P t) :
    P (b.addNode t container ribbon shown n).tree :=
  match n with
  | ⟨succeeded, label, kind, source, contents, children⟩ => by
    unfold TreeBuilder.addNode
    by_cases hs : succeeded = true
    · simp only [hs, ↓reduceIte]
      split
      · exact h.addNodes b _ _ _ _ children (h.box t ribbon _ _ _ ht)
      · exact h.addNodes b _ _ _ _ children (h.piece t ribbon _ ht)
    · simp only [hs, Bool.false_eq_true, ↓reduceIte]
      exact ht

theorem Kept.addNodes (h : Kept P) (b : TreeBuilder) (t : BoxTree) (container : Option t.Box)
    (ribbon : Option t.Piece) (shown : Bool) (ns : List TraceNode) (ht : P t) :
    P (b.addNodes t container ribbon shown ns).tree :=
  match ns with
  | [] => by unfold TreeBuilder.addNodes; exact ht
  | n :: ns => by
    unfold TreeBuilder.addNodes
    exact h.addNodes b _ _ _ _ ns (h.addNode b t container ribbon shown n ht)

end

/-- What the empty tree has and both steps keep holds of every built tree. -/
theorem build_induction (h : Kept P) (b : TreeBuilder) (trace : List TraceNode)
    (generation : UInt32) (hempty : P (.empty generation)) : P (b.build trace generation) :=
  h.addNodes b _ _ _ _ trace hempty

theorem generation_build (b : TreeBuilder) (trace : List TraceNode) (generation : UInt32) :
    (b.build trace generation).generation = generation := by
  have hkept : Kept fun t => t.generation = generation :=
    ⟨fun _ _ _ h => h, fun _ _ _ _ _ h => h⟩
  exact build_induction hkept b trace generation rfl

theorem linked_fragments_build (b : TreeBuilder) (trace : List TraceNode) (generation : UInt32) :
    (b.build trace generation).fragments.Linked := by
  have hkept : Kept fun t => t.fragments.Linked :=
    ⟨fun _ ribbon f h => h.push ribbon f, fun _ ribbon f _ _ h => h.push ribbon f⟩
  exact build_induction hkept b trace generation .empty

end TreeBuilder

namespace BoxTree

/-- Links agree, and every box has a fragment of its own. -/
structure Tidy (t : BoxTree) : Prop where
  linked : t.boxes.Linked
  input_lt : ∀ b, (t.box b).input.index < t.fragments.size
  input_inj : ∀ b c, (t.box b).input = (t.box c).input → b = c

namespace Tidy

theorem empty (generation : UInt32) : (BoxTree.empty generation).Tidy where
  linked := .empty
  input_lt b := absurd b.2 (Nat.not_lt_zero b.1)
  input_inj b := absurd b.2 (Nat.not_lt_zero b.1)

theorem pushPiece {t : BoxTree} (h : t.Tidy) (ribbon : Option t.Piece) (f : Fragment) :
    (t.pushPiece ribbon f).Tidy where
  linked := h.linked
  input_lt b := by
    have := h.input_lt b
    show (t.box b).input.index < (t.fragments.push ribbon f).size
    rw [Forest.size_push]
    omega
  input_inj := h.input_inj

/-- A new box may stand for the fragment that was added right before it. -/
theorem pushBoth {t : BoxTree} (h : t.Tidy) (ribbon : Option t.Piece) (f : Fragment)
    (container : Option (t.pushPiece ribbon f).Box) (node : BoxNode)
    (hnode : node.input.index = t.fragments.size) :
    ((t.pushPiece ribbon f).pushBox container node).Tidy := by
  have hold : ∀ (b : t.Box) (hb : b.1 < ((t.pushPiece ribbon f).pushBox container node).boxes.size),
      ((t.pushPiece ribbon f).pushBox container node).box ⟨b, hb⟩ = t.box b :=
    fun b hb => Forest.get_push_of_lt (f := t.boxes) container node b hb
  have hnew : ∀ hb : t.boxes.size < ((t.pushPiece ribbon f).pushBox container node).boxes.size,
      ((t.pushPiece ribbon f).pushBox container node).box ⟨t.boxes.size, hb⟩ = node :=
    fun hb => Forest.get_push_last (f := t.boxes) container node hb
  have hcases : ∀ b : ((t.pushPiece ribbon f).pushBox container node).Box,
      b.1 < t.boxes.size ∨ b.1 = t.boxes.size := fun b =>
    Nat.lt_succ_iff_lt_or_eq.1 (Nat.lt_of_lt_of_eq b.2 (Forest.size_push _ _ _))
  refine ⟨h.linked.push container node, ?_, ?_⟩
  · rintro ⟨b, hb⟩
    show _ < (t.fragments.push ribbon f).size
    rw [Forest.size_push]
    rcases hcases ⟨b, hb⟩ with hlt | rfl
    · have := h.input_lt ⟨b, hlt⟩
      rw [hold ⟨b, hlt⟩]
      omega
    · rw [hnew]
      omega
  · rintro ⟨b, hb⟩ ⟨c, hc⟩ heq
    rcases hcases ⟨b, hb⟩ with hbl | rfl <;> rcases hcases ⟨c, hc⟩ with hcl | rfl
    · rw [hold ⟨b, hbl⟩, hold ⟨c, hcl⟩] at heq
      exact Fin.ext (Fin.mk.inj (h.input_inj _ _ heq))
    · rw [hold ⟨b, hbl⟩, hnew] at heq
      exact absurd (heq ▸ h.input_lt ⟨b, hbl⟩) (by omega)
    · rw [hold ⟨c, hcl⟩, hnew] at heq
      exact absurd (heq ▸ h.input_lt ⟨c, hcl⟩) (by omega)
    · rfl

theorem build (b : TreeBuilder) (trace : List TraceNode) (generation : UInt32) :
    (b.build trace generation).Tidy :=
  TreeBuilder.build_induction
    ⟨fun _ ribbon f h => h.pushPiece ribbon f,
      fun _ ribbon f container _ h => h.pushBoth ribbon f container _ rfl⟩
    b trace generation (.empty generation)

def input {t : BoxTree} (h : t.Tidy) (b : t.Box) : t.Piece := ⟨(t.box b).input.index, h.input_lt b⟩

theorem locatePiece_input {t : BoxTree} (h : t.Tidy) (b : t.Box) :
    t.locatePiece (t.box b).input = .ok (h.input b) := by
  simp [locatePiece, h.input_lt, input]

/-- No two boxes have one fragment. -/
theorem input_injective {t : BoxTree} (h : t.Tidy) {b c : t.Box} (heq : h.input b = h.input c) :
    b = c := by
  refine h.input_inj b c ?_
  cases hb : (t.box b).input
  cases hc : (t.box c).input
  have := Fin.mk.inj heq
  simp_all

end Tidy

/-- What depends on a box is the box, what it lies below and what lies below it. -/
theorem mem_dependents {t : BoxTree} (h : t.boxes.Linked) {b c : t.Box} :
    c ∈ t.dependents b ↔ c = b ∨ t.boxes.Below c b ∨ t.boxes.Below b c := by
  simp only [dependents, List.cons_append, List.mem_cons, List.mem_append, h.mem_ancestors,
    Forest.mem_descendants]

end BoxTree

end ParseBoxes
