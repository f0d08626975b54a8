import Mathlib.Data.List.Chain
import Mathlib.Data.List.Nodup
import ParseBoxes.Proofs.Layout.Remembered

/-!
# The boxes that a change reaches

A tree grown push by push (`BoxTree.Grown`) is linked, and every node has its children in the order
in which they were added.  So the way up from a node goes from parent to parent
(`Linked.isChain_ancestors`), a walk down lists a node before all that lies in it, child by child
(`descendants_eq`), and no walk meets a node twice: the subtrees of two siblings have no node in
common (`Linked.disjoint_subtree`).

The dependents of a box are therefore a list without repetition, and the relation is symmetric.
They are all that a change of one box reaches: whatever changes of the pins of the box and of all
fragments, every other box keeps both its widths.
-/

namespace ParseBoxes

namespace Forest

variable {ν : Type} {f : Forest ν}

/-! ## Down -/

/-- A node and all that lies in it, the node first, then child by child. -/
def subtree (f : Forest ν) (i : Fin f.size) : List (Fin f.size) :=
  i :: (f.kids i).flatMap fun ⟨c, _⟩ => f.subtree c
termination_by f.size - i

theorem subtree_eq (i : Fin f.size) :
    f.subtree i = i :: ((f.kids i).map (·.1)).flatMap f.subtree := by
  rw [subtree, List.flatMap_map]

/-- The stack of a walk holds subtrees that are still to be listed. -/
theorem walk_eq_flatMap (l : List (Fin f.size)) : f.walk l = l.flatMap f.subtree := by
  fun_induction walk f l with
  | case1 => rfl
  | case2 i rest ih =>
    rw [ih, List.flatMap_append, List.flatMap_cons, subtree_eq i, List.cons_append]

theorem descendants_eq (i : Fin f.size) :
    f.descendants i = ((f.kids i).map (·.1)).flatMap f.subtree :=
  walk_eq_flatMap _

theorem mem_subtree {i j : Fin f.size} : j ∈ f.subtree i ↔ j = i ∨ f.Below i j := by
  rw [subtree_eq, List.mem_cons, ← descendants_eq, mem_descendants]

/-! ## Up -/

namespace Linked

variable (hf : f.Linked)

include hf

theorem parent_unique {p q c : Fin f.size} (hp : f.HasChild p c) (hq : f.HasChild q c) : p = q :=
  Option.some.inj ((hf.parent?_iff.2 hp).symm.trans (hf.parent?_iff.2 hq))

/-- The way up goes from parent to parent. -/
theorem isChain_ancestors (i : Fin f.size) :
    (i :: f.ancestors i).IsChain fun c p => f.HasChild p c := by
  fun_induction ancestors f i with
  | case1 i h => exact .singleton i
  | case2 i p hlt h ih =>
    have hparent : f.HasChild p i := hf.parent?_iff.1 (by rw [h]; rfl)
    exact .cons_cons hparent ih

/-- Of two nodes above a third one, one is above the other. -/
theorem comparable {b c x : Fin f.size} (hb : x = b ∨ f.Below b x) (hc : x = c ∨ f.Below c x) :
    c = b ∨ f.Below b c ∨ f.Below c b := by
  have hup : ∀ {a : Fin f.size}, x = a ∨ f.Below a x →
      Relation.ReflTransGen (fun c p => f.HasChild p c) x a := by
    rintro a (rfl | ha)
    · exact .refl
    · exact (Relation.transGen_swap.2 ha).to_reflTransGen
  have hdown : ∀ {a d : Fin f.size}, Relation.ReflTransGen (fun c p => f.HasChild p c) a d →
      a = d ∨ f.Below d a := by
    intro a d h
    rcases Relation.reflTransGen_iff_eq_or_transGen.1 h with rfl | h
    · exact .inl rfl
    · exact .inr (Relation.transGen_swap.1 h)
  have hunique : Relator.RightUnique fun c p => f.HasChild p c := fun _ _ _ => hf.parent_unique
  rcases Relation.ReflTransGen.total_of_right_unique hunique (hup hb) (hup hc) with h | h
  · rcases hdown h with rfl | h
    · exact .inl rfl
    · exact .inr (.inr h)
  · exact (hdown h).imp_right .inl

/-- What lies in one child of a node does not lie in another one. -/
theorem disjoint_subtree {i b c : Fin f.size} (hb : f.HasChild i b) (hc : f.HasChild i c)
    (hne : b ≠ c) : (f.subtree b).Disjoint (f.subtree c) := by
  -- a child that lay in its sibling would lie in its own parent's child, hence in its parent
  have hnot : ∀ {b c : Fin f.size}, f.HasChild i b → f.HasChild i c → ¬ f.Below b c := by
    intro b c hb hc h
    obtain ⟨p, hp, hbp⟩ := below_iff_parent.1 h
    have hlt : i < b := hb.lt
    rw [hf.parent_unique hp hc] at hbp
    rcases hbp with rfl | hbi
    · exact Nat.lt_irrefl _ hlt
    · exact Nat.lt_asymm hlt hbi.lt
  intro x hxb hxc
  rcases hf.comparable (mem_subtree.1 hxb) (mem_subtree.1 hxc) with heq | h | h
  · exact hne heq.symm
  · exact hnot hb hc h
  · exact hnot hc hb h

end Linked

/-! ## Without repetition -/

/-- Every node has its children in the order in which they were added. -/
def Ordered (f : Forest ν) : Prop :=
  ∀ i : Fin f.size, (f.entry i).children.toList.Pairwise (· < ·)

namespace Ordered

theorem empty : (empty : Forest ν).Ordered := fun i => absurd i.2 (Nat.not_lt_zero i.1)

theorem push (hf : f.Ordered) (parent : Option (Fin f.size)) (value : ν) :
    (f.push parent value).Ordered := by
  rintro ⟨i, hi⟩
  have hi' : i < f.size + 1 := by simpa using hi
  rcases Nat.lt_succ_iff_lt_or_eq.1 hi' with hlt | rfl
  · rw [entry_push_of_lt parent value ⟨i, hlt⟩ hi]
    by_cases hp : parent = some ⟨i, hlt⟩
    · simp only [hp, ↓reduceIte, Array.toList_push, List.pairwise_append, List.pairwise_singleton,
        List.mem_singleton, forall_eq, true_and]
      exact ⟨hf ⟨i, hlt⟩, fun c hc => (f.child_lt i hlt c (Array.mem_toList_iff.1 hc)).2⟩
    · simp only [hp, ↓reduceIte]
      exact hf ⟨i, hlt⟩
  · rw [entry_push_last]
    exact .nil

theorem kids_lt (hf : f.Ordered) (i : Fin f.size) : ((f.kids i).map (·.1)).Pairwise (· < ·) := by
  unfold kids
  rw [List.pairwise_map, List.pairwise_pmap]
  exact (hf i).imp fun hlt _ _ => hlt

/-- A walk through a node meets no node twice. -/
theorem nodup_subtree (hf : f.Ordered) (hl : f.Linked) (i : Fin f.size) :
    (f.subtree i).Nodup := by
  induction i using kids_induction with
  | h i ih =>
    rw [subtree_eq, List.nodup_cons]
    constructor
    · rw [← descendants_eq, mem_descendants]
      intro h
      exact Nat.lt_irrefl _ h.lt
    · refine List.nodup_flatMap.2 ⟨fun c hc => ih c hc, ?_⟩
      refine (hf.kids_lt i).imp_of_mem fun hb hc hlt => ?_
      exact hl.disjoint_subtree hb hc (Fin.ne_of_lt hlt)

theorem nodup_descendants (hf : f.Ordered) (hl : f.Linked) (i : Fin f.size) :
    (f.descendants i).Nodup := by
  have hnodup := hf.nodup_subtree hl i
  rw [subtree_eq, ← descendants_eq] at hnodup
  exact (List.nodup_cons.1 hnodup).2

end Ordered

theorem Linked.nodup_ancestors (hf : f.Linked) (i : Fin f.size) : (f.ancestors i).Nodup := by
  fun_induction ancestors f i with
  | case1 => exact .nil
  | case2 i p hlt h ih =>
    rw [List.nodup_cons, hf.mem_ancestors]
    exact ⟨fun h => Nat.lt_irrefl _ h.lt, ih⟩

end Forest

namespace BoxTree

/-- Trees grown push by push: every fragment and every box is added at the top or below one that is
there. -/
inductive Grown : BoxTree → Prop
  | empty (generation : UInt32) : Grown (.empty generation)
  | pushPiece {t : BoxTree} (parent : Option t.Piece) (f : Fragment) :
      Grown t → Grown (t.pushPiece parent f)
  | pushBox {t : BoxTree} (parent : Option t.Box) (node : BoxNode) :
      Grown t → Grown (t.pushBox parent node)

namespace Grown

variable {t : BoxTree}

theorem linked (ht : t.Grown) : t.boxes.Linked := by
  induction ht with
  | empty => exact .empty
  | pushPiece _ _ _ ih => exact ih
  | pushBox parent node _ ih => exact ih.push parent node

theorem ordered (ht : t.Grown) : t.boxes.Ordered := by
  induction ht with
  | empty => exact .empty
  | pushPiece _ _ _ ih => exact ih
  | pushBox parent node _ ih => exact ih.push parent node

/-- Every build is a row of pushes. -/
theorem build (b : TreeBuilder) (trace : List TraceNode) (generation : UInt32) :
    (b.build trace generation).Grown :=
  TreeBuilder.build_induction
    ⟨fun _ ribbon f h => .pushPiece ribbon f h,
      fun _ ribbon f container _ h => .pushBox container _ (.pushPiece ribbon f h)⟩
    b trace generation (.empty generation)

/-- What lies above a box comes before it, what lies in it comes behind it. -/
theorem nodup_dependents (ht : t.Grown) (b : t.Box) : (t.dependents b).Nodup := by
  have habove : ∀ c ∈ t.boxes.ancestors b, c < b := fun c hc => (ht.linked.mem_ancestors.1 hc).lt
  have hbelow : ∀ c ∈ t.boxes.descendants b, b < c := fun c hc => (Forest.mem_descendants.1 hc).lt
  rw [dependents, List.cons_append, List.nodup_cons, List.mem_append, List.nodup_append]
  refine ⟨?_, ht.linked.nodup_ancestors b, ht.ordered.nodup_descendants ht.linked b, ?_⟩
  · rintro (h | h)
    · exact Nat.lt_irrefl _ (habove b h)
    · exact Nat.lt_irrefl _ (hbelow b h)
  · rintro c hc d hd rfl
    exact Nat.lt_asymm (habove c hc) (hbelow c hd)

end Grown

variable {α : Type} [Scalar α] {t : BoxTree}

/-- Whatever changes of the pins of a box and of all fragments, a view gives the same two widths to
every box that is not among the dependents of the changed one.  The dependents are the box, the way
up from it and what lies in it in pre-order; none comes twice, and boxes depend on each other or not
at all. -/
theorem dependents_complete (ht : t.Grown) (measure : Measurer α) (b : t.Box) :
    (∀ p q : Pins α t, (∀ c, c ≠ b → p.box c = q.box c) → ∀ x ∉ t.dependents b,
      View.fresh (View.displayedWidth (p.layout measure) x) =
          View.fresh (View.displayedWidth (q.layout measure) x) ∧
        View.fresh (View.renderedWidth (p.layout measure) x) =
          View.fresh (View.renderedWidth (q.layout measure) x)) ∧
    (∃ up down, t.dependents b = b :: up ++ down ∧
      (b :: up).IsChain (fun c p => t.boxes.HasChild p c) ∧ (∀ x, x ∈ up ↔ t.boxes.Below x b) ∧
      t.boxes.subtree b = b :: down) ∧
    (t.dependents b).Nodup ∧ ∀ x, x ∈ t.dependents b ↔ b ∈ t.dependents x := by
  refine ⟨?_, ?_, ht.nodup_dependents b, fun x => ?_⟩
  · intro p q hpq x hx
    have hsame : ∀ d, d ≠ b → (p.box d).SameWidth (q.box d) := fun d hd => .of_eq (hpq d hd)
    constructor
    · rw [(View.displayedWidth_answers (p.layout measure) x).fresh,
        (View.displayedWidth_answers (q.layout measure) x).fresh]
      exact Layout.displayedWidth_eq_of_not_mem_dependents ht.linked hsame hx
    · rw [(View.renderedWidth_answers (p.layout measure) x).fresh,
        (View.renderedWidth_answers (q.layout measure) x).fresh]
      exact Layout.renderedWidth_eq_of_not_mem_dependents ht.linked hsame hx
  · refine ⟨t.boxes.ancestors b, t.boxes.descendants b, rfl, ht.linked.isChain_ancestors b,
      fun x => ht.linked.mem_ancestors, ?_⟩
    rw [Forest.subtree_eq, Forest.descendants_eq]
  · rw [mem_dependents ht.linked, mem_dependents ht.linked, eq_comm]
    exact or_congr_right or_comm

/-- A box that holds another one, which holds a third, and behind that a fourth. -/
def fourBoxes : BoxTree :=
  let one := (empty 0).pushBox none ⟨"expr", ⟨0⟩, false, false, false⟩
  let two := one.pushBox (some ⟨0, by decide⟩) ⟨"term", ⟨0⟩, false, false, false⟩
  let three := two.pushBox (some ⟨1, by decide⟩) ⟨"digit", ⟨0⟩, false, false, true⟩
  three.pushBox (some ⟨0, by decide⟩) ⟨"plus", ⟨0⟩, false, false, true⟩

/-- To collapse the second of the four boxes leaves the fourth one alone. -/
theorem fourth_box_left_alone :
    fourBoxes.Grown ∧
      fourBoxes.dependents ⟨1, by decide⟩ = [⟨1, by decide⟩, ⟨0, by decide⟩, ⟨2, by decide⟩] ∧
      View.fresh (View.renderedWidth (((Pins.fresh fourBoxes).modifyBox ⟨1, by decide⟩
          fun pins => { pins with hidden := true }).layout
          (CellMetrics.standard : CellMetrics Float).measurer) ⟨3, by decide⟩) =
        View.fresh (View.renderedWidth ((Pins.fresh fourBoxes).layout
          (CellMetrics.standard : CellMetrics Float).measurer) ⟨3, by decide⟩) := by
  have hgrown : fourBoxes.Grown :=
    .pushBox _ _ (.pushBox _ _ (.pushBox _ _ (.pushBox _ _ (.empty 0))))
  have hdeps : fourBoxes.dependents ⟨1, by decide⟩ =
      [⟨1, by decide⟩, ⟨0, by decide⟩, ⟨2, by decide⟩] := by
    decide +kernel
  obtain ⟨hwidths, -⟩ := dependents_complete hgrown
    (CellMetrics.standard : CellMetrics Float).measurer ⟨1, by decide⟩
  refine ⟨hgrown, hdeps, (hwidths _ _ ?_ _ ?_).2⟩
  · intro c hc
    rw [Pins.box_modifyBox, if_neg (Ne.symm hc)]
  · rw [hdeps]
    decide

end BoxTree

end ParseBoxes
