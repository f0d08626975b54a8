import Mathlib.Data.List.Sort
import ParseBoxes.Proofs.Tree.Homes

/-!
# The text of a tree

The fragments in a fragment stand for the successful attempts made on behalf of its attempt, in the
same order (`BoxTree.kids_map_pieceWho`).  So a fragment gives back all that its attempt consumed if
attempts consume by way of primitives, whatever is hidden of them (`BoxTree.matchedText_eq_contents`).
-/

namespace ParseBoxes

namespace Forest

variable {ν : Type} {f : Forest ν}

/-- What is gathered over a node is its own and what is gathered over its children, in order. -/
theorem gather_eq (pick : ν → String) (i : Fin f.size) :
    f.gather pick i =
      pick (f.get i) ++ String.join (((f.kids i).map (·.1)).map (f.gather pick)) := by
  have hfold : ∀ (l : List { c : Fin f.size // i < c }) (s : String),
      l.foldl (fun s c => s ++ f.gather pick c.1) s =
        s ++ String.join ((l.map (·.1)).map (f.gather pick)) := by
    intro l
    induction l with
    | nil => simp
    | cons c l ih =>
      intro s
      rw [List.foldl_cons, ih, List.map_cons, List.map_cons, String.join_cons, String.append_assoc]
  rw [gather]
  exact hfold _ _

end Forest

/-! ## Attempts beside each other -/

namespace Attempt

/-- Attempts that stand beside each other from the given place on. -/
def beside (place : Nat) (above : List (Nat × TraceNode)) : List TraceNode → List Attempt
  | [] => []
  | n :: ns => ⟨place, n, above⟩ :: beside (place + 1) above ns

/-- The attempts made on behalf of an attempt. -/
def inner (a : Attempt) : List Attempt := beside 0 a.line a.node.children

variable {place : Nat} {above : List (Nat × TraceNode)} {ns : List TraceNode} {a c : Attempt}

theorem map_node_beside (place : Nat) (above : List (Nat × TraceNode)) (ns : List TraceNode) :
    (beside place above ns).map (·.node) = ns := by
  induction ns generalizing place with
  | nil => rfl
  | cons n ns ih => rw [beside, List.map_cons, ih]

theorem of_mem_beside (h : a ∈ beside place above ns) : a.above = above ∧ place ≤ a.place := by
  induction ns generalizing place with
  | nil => cases h
  | cons n ns ih =>
    rcases List.mem_cons.1 h with rfl | h
    · exact ⟨rfl, Nat.le_refl _⟩
    · exact ⟨(ih h).1, Nat.le_of_succ_le (ih h).2⟩

theorem pairwise_beside (place : Nat) (above : List (Nat × TraceNode)) (ns : List TraceNode) :
    (beside place above ns).Pairwise Before := by
  induction ns generalizing place with
  | nil => exact .nil
  | cons n ns ih =>
    refine .cons (fun a ha => ?_) (ih _)
    obtain ⟨rfl, hplace⟩ := of_mem_beside ha
    exact .of_suffix (List.suffix_refl _) (List.suffix_refl _) hplace

theorem parent?_of_mem_inner (h : c ∈ a.inner) : c.parent? = some a := by
  rw [parent?, ancestors, (of_mem_beside h).1]
  rfl

theorem parent?_of_mem_beside_nil (h : c ∈ beside place [] ns) : c.parent? = none := by
  rw [parent?, ancestors, (of_mem_beside h).1]
  rfl

instance : Std.Irrefl Before := ⟨fun _ h => h.asymm h⟩

instance : Std.Antisymm Before := ⟨fun _ _ h h' => absurd h' h.asymm⟩

end Attempt

namespace TraceNode

open Attempt

theorem beside_subset (place : Nat) (above : List (Nat × TraceNode)) (ns : List TraceNode) :
    beside place above ns ⊆ forestAttempts place above ns := by
  induction ns generalizing place with
  | nil => exact List.nil_subset _
  | cons n ns ih =>
    rw [beside, forestAttempts, attempts_eq]
    exact List.cons_subset_cons _ (List.Subset.trans (ih _) (List.subset_append_right _ _))

mutual

/-- What is made on behalf of an attempt in a node is in the node. -/
theorem inner_subset_attempts {place : Nat} {above : List (Nat × TraceNode)} {a : Attempt}
    (n : TraceNode) (ha : a ∈ n.attempts place above) : a.inner ⊆ n.attempts place above :=
  match n with
  | ⟨succeeded, label, kind, source, contents, children⟩ => by
    rw [attempts, List.mem_cons] at ha
    rw [attempts]
    refine List.Subset.trans ?_ (List.subset_cons_self _ _)
    rcases ha with rfl | ha
    · exact beside_subset 0 _ children
    · exact inner_subset_forestAttempts children ha

theorem inner_subset_forestAttempts {place : Nat} {above : List (Nat × TraceNode)} {a : Attempt}
    (ns : List TraceNode) (ha : a ∈ forestAttempts place above ns) :
    a.inner ⊆ forestAttempts place above ns :=
  match ns with
  | [] => by
    rw [forestAttempts] at ha
    exact absurd ha List.not_mem_nil
  | n :: ns => by
    rw [forestAttempts, List.mem_append] at ha
    rw [forestAttempts]
    rcases ha with ha | ha
    · exact List.Subset.trans (inner_subset_attempts n ha) (List.subset_append_left _ _)
    · exact List.Subset.trans (inner_subset_forestAttempts ns ha) (List.subset_append_right _ _)

end

mutual

/-- Every attempt in a node is the node itself or made on behalf of another one. -/
theorem exists_inner_of_mem_attempts {place : Nat} {above : List (Nat × TraceNode)} {c : Attempt}
    (n : TraceNode) (hc : c ∈ n.attempts place above) :
    c = ⟨place, n, above⟩ ∨ ∃ a : Attempt, c ∈ a.inner :=
  match n with
  | ⟨succeeded, label, kind, source, contents, children⟩ => by
    rw [attempts, List.mem_cons] at hc
    rcases hc with rfl | hc
    · exact .inl rfl
    · rcases exists_inner_of_mem_forestAttempts children hc with hc | hc
      · exact .inr ⟨⟨place, ⟨succeeded, label, kind, source, contents, children⟩, above⟩, hc⟩
      · exact .inr hc

/-- An attempt of a forest stands at its top or right in another one. -/
theorem exists_inner_of_mem_forestAttempts {place : Nat} {above : List (Nat × TraceNode)}
    {c : Attempt} (ns : List TraceNode) (hc : c ∈ forestAttempts place above ns) :
    c ∈ beside place above ns ∨ ∃ a : Attempt, c ∈ a.inner :=
  match ns with
  | [] => by
    rw [forestAttempts] at hc
    exact absurd hc List.not_mem_nil
  | n :: ns => by
    rw [forestAttempts, List.mem_append] at hc
    rcases hc with hc | hc
    · exact (exists_inner_of_mem_attempts n hc).imp_left fun h => List.mem_cons.2 (.inl h)
    · exact (exists_inner_of_mem_forestAttempts ns hc).imp_left (List.mem_cons_of_mem _)

end

end TraceNode

/-! ## Survivors beside each other -/

namespace Attempt

variable {trace : List TraceNode} {a c : Attempt}

theorem mem_inner_of_parent? (hc : c ∈ survivors trace) (h : c.parent? = some a) : c ∈ a.inner := by
  rcases TraceNode.exists_inner_of_mem_forestAttempts trace (List.mem_filter.1 hc).1 with
    htop | ⟨b, hb⟩
  · cases h.symm.trans (parent?_of_mem_beside_nil htop)
  · cases h.symm.trans (parent?_of_mem_inner hb)
    exact hb

theorem mem_beside_of_parent? (hc : c ∈ survivors trace) (h : c.parent? = none) :
    c ∈ beside 0 [] trace := by
  rcases TraceNode.exists_inner_of_mem_forestAttempts trace (List.mem_filter.1 hc).1 with
    htop | ⟨b, hb⟩
  · exact htop
  · cases h.symm.trans (parent?_of_mem_inner hb)

/-- The survivors under a survivor are the successful attempts made on its behalf. -/
theorem mem_survivors_and_parent?_iff (ha : a ∈ survivors trace) :
    c ∈ survivors trace ∧ c.parent? = some a ↔ c ∈ a.inner ∧ c.node.succeeded = true := by
  constructor
  · rintro ⟨hc, h⟩
    exact ⟨mem_inner_of_parent? hc h, (survives_iff.1 (List.mem_filter.1 hc).2).1⟩
  · rintro ⟨hc, hsucceeded⟩
    obtain ⟨ha, hsurvives⟩ := List.mem_filter.1 ha
    refine ⟨List.mem_filter.2 ⟨TraceNode.inner_subset_forestAttempts trace ha hc, ?_⟩,
      parent?_of_mem_inner hc⟩
    refine survives_iff.2 ⟨hsucceeded, ?_⟩
    rw [(of_mem_beside hc).1]
    simpa [survives] using hsurvives

theorem mem_survivors_and_parent?_eq_none_iff :
    c ∈ survivors trace ∧ c.parent? = none ↔ c ∈ beside 0 [] trace ∧ c.node.succeeded = true := by
  constructor
  · rintro ⟨hc, h⟩
    exact ⟨mem_beside_of_parent? hc h, (survives_iff.1 (List.mem_filter.1 hc).2).1⟩
  · rintro ⟨hc, hsucceeded⟩
    refine ⟨List.mem_filter.2 ⟨TraceNode.beside_subset 0 [] trace hc, ?_⟩,
      parent?_of_mem_beside_nil hc⟩
    refine survives_iff.2 ⟨hsucceeded, ?_⟩
    simp [(of_mem_beside hc).1]

end Attempt

/-! ## Text of survivors -/

/-- What the successful ones of attempts beside each other consumed. -/
def consumed (ns : List TraceNode) : String :=
  String.join ((ns.filter (·.succeeded)).map (·.contents))

/-- Attempts consume by way of primitives: nothing that survives lies in a primitive, and all other
survivors consumed what the successful attempts made on their behalf consumed. -/
structure ConsumedByLeaves (trace : List TraceNode) : Prop where
  leaf : LeafPrimitives trace
  inner : ∀ a ∈ survivors trace, a.node.kind ≠ .primitive →
    a.node.contents = consumed a.node.children

instance (trace : List TraceNode) : Decidable (ConsumedByLeaves trace) :=
  decidable_of_iff (LeafPrimitives trace ∧ ∀ a ∈ survivors trace, a.node.kind ≠ .primitive →
    a.node.contents = consumed a.node.children) ⟨fun h => ⟨h.1, h.2⟩, fun h => ⟨h.1, h.2⟩⟩

namespace Attempt

theorem join_contents_beside (place : Nat) (above : List (Nat × TraceNode)) (ns : List TraceNode) :
    String.join (((beside place above ns).filter (·.node.succeeded)).map (·.node.contents)) =
      consumed ns := by
  conv_rhs => rw [← map_node_beside place above ns]
  rw [consumed, List.filter_map, List.map_map]
  rfl

end Attempt

namespace BoxTree

open Attempt

variable {glyph : String} {trace : List TraceNode} {generation : UInt32}

theorem inputText_eq (t : BoxTree) : t.inputText = String.join (t.fragments.tops.map t.matchedText) := by
  rw [inputText, String.join, List.foldl_map]

/-- The fragments in a fragment stand for the successful attempts made on behalf of its own. -/
theorem kids_map_pieceWho (p : (ofAttempts glyph (survivors trace) generation).Piece) :
    (((ofAttempts glyph (survivors trace) generation).fragments.kids p).map (·.1)).map pieceWho =
      (pieceWho p).inner.filter (·.node.succeeded) := by
  have hangs := hangs_parent? (TreeBuilder.inOrder_survivors trace)
  refine List.Pairwise.eq_of_mem_iff
    (List.pairwise_map.2 ((Forest.pairwise_kids_ofRow p).imp hangs.lt_iff.1))
    ((pairwise_beside 0 _ _).filter _) fun c => ?_
  rw [List.mem_map, List.mem_filter, ← mem_survivors_and_parent?_iff (pieceWho_mem p)]
  constructor
  · rintro ⟨q, hq, rfl⟩
    exact ⟨pieceWho_mem q, hangs.hasChild_iff.1 hq⟩
  · rintro ⟨hc, hparent⟩
    obtain ⟨q, rfl⟩ := hangs.exists_who (·.fragment glyph) hc
    exact ⟨q, hangs.hasChild_iff.2 hparent, rfl⟩

theorem tops_map_pieceWho :
    (ofAttempts glyph (survivors trace) generation).fragments.tops.map pieceWho =
      (beside 0 [] trace).filter (·.node.succeeded) := by
  have hangs := hangs_parent? (TreeBuilder.inOrder_survivors trace)
  have hsorted : (ofAttempts glyph (survivors trace) generation).fragments.tops.Pairwise (· < ·) :=
    Forest.pairwise_tops_ofRow
  refine List.Pairwise.eq_of_mem_iff (List.pairwise_map.2 (hsorted.imp hangs.lt_iff.1))
    ((pairwise_beside 0 _ _).filter _) fun c => ?_
  rw [List.mem_map, List.mem_filter, ← mem_survivors_and_parent?_eq_none_iff]
  constructor
  · rintro ⟨q, hq, rfl⟩
    exact ⟨pieceWho_mem q, hangs.mem_tops_iff.1 hq⟩
  · rintro ⟨hc, hparent⟩
    obtain ⟨q, rfl⟩ := hangs.exists_who (·.fragment glyph) hc
    exact ⟨q, hangs.mem_tops_iff.2 hparent, rfl⟩

/-- A fragment gives back all that its attempt consumed. -/
theorem matchedText_eq_contents (h : ConsumedByLeaves trace)
    (p : (ofAttempts glyph (survivors trace) generation).Piece) :
    (ofAttempts glyph (survivors trace) generation).matchedText p = (pieceWho p).node.contents := by
  induction p using Forest.kids_induction with
  | h p ih =>
    have htext : ((ofAttempts glyph (survivors trace) generation).fragments.get p).text =
        (pieceWho p).text := congrArg Fragment.text (piece_ofAttempts p)
    rw [matchedText, Forest.gather_eq, htext, Attempt.text]
    split
    · next hkind =>
      -- a primitive has the text itself, and nothing lies in it
      have hkids : ((ofAttempts glyph (survivors trace) generation).fragments.kids p).map (·.1) =
          [] := by
        refine List.eq_nil_iff_forall_not_mem.2 fun c hc => ?_
        have hparent := (hangs_parent? (TreeBuilder.inOrder_survivors trace)).hasChild_iff.1 hc
        exact h.leaf _ (pieceWho_mem c) _ (mem_of_parent? hparent) hkind
      rw [hkids]
      simp
    · next hkind =>
      have hkids : (((ofAttempts glyph (survivors trace) generation).fragments.kids p).map
          (·.1)).map ((ofAttempts glyph (survivors trace) generation).fragments.gather (·.text)) =
          ((pieceWho p).inner.filter (·.node.succeeded)).map (·.node.contents) := by
        rw [← kids_map_pieceWho p, List.map_map (f := pieceWho)]
        exact List.map_congr_left ih
      rw [hkids, Attempt.inner, join_contents_beside, h.inner _ (pieceWho_mem p) hkind,
        String.empty_append]

end BoxTree

namespace TreeBuilder

open Attempt

/-- **No text is lost, doubled or moved**: where attempts consume by way of primitives, the text of
the whole tree is what the trace consumed, and the text of each box is what the attempt consumed
that the box stands for. -/
theorem text_build (b : TreeBuilder) (trace : List TraceNode) (generation : UInt32)
    (h : ConsumedByLeaves trace) :
    (b.build trace generation).inputText = consumed trace ∧
    ∀ c : (b.build trace generation).Box, ∃ p a,
      (b.build trace generation).locatePiece ((b.build trace generation).box c).input = .ok p ∧
      (boxed (survivors trace))[c.1]? = some a ∧
      (b.build trace generation).box c = a.box p ∧
      (b.build trace generation).matchedText p = a.node.contents := by
  have hl := inOrder_survivors trace
  have ht := BoxTree.Tidy.build b trace generation
  revert ht
  rw [(drawn_build b trace generation).eq]
  intro ht
  constructor
  · have htops : (BoxTree.ofAttempts b.glyph (survivors trace) generation).fragments.tops.map
        BoxTree.pieceWho = (beside 0 [] trace).filter (·.node.succeeded) := BoxTree.tops_map_pieceWho
    rw [BoxTree.inputText_eq, ← join_contents_beside 0 [] trace, ← htops, List.map_map]
    apply congrArg String.join
    exact List.map_congr_left fun p _ => BoxTree.matchedText_eq_contents h p
  · intro c
    refine ⟨ht.input c, BoxTree.boxWho c, ht.locatePiece_input c, getElem?_who c, ?_, ?_⟩
    · have hinput : (ht.input c).1 = index (survivors trace) (BoxTree.boxWho c) := by
        show ((BoxTree.ofAttempts b.glyph (survivors trace) generation).box c).input.index = _
        rw [BoxTree.box_ofAttempts]
        rfl
      rw [hinput]
      exact BoxTree.box_ofAttempts c
    · rw [BoxTree.matchedText_eq_contents h, BoxTree.pieceWho_input hl ht]

/-- Two words in a row without a box of its own, with white space in a black hole and an attempt
that failed between them. -/
def spacedTrace : List TraceNode :=
  [⟨true, "Line", .other, some ⟨0, 9⟩, "ab cd",
    [⟨true, "word spaces_ word", .sequence, some ⟨2, 9⟩, "ab cd",
      [.withSource (.leaf .primitive "word" "ab") 2 4,
        .failed (.leaf .primitive "comma" ","),
        ⟨true, "spaces_", .other, some ⟨5, 7⟩, " ", [.leaf .primitive "blank" " "]⟩,
        .withSource (.leaf .primitive "word" "cd") 8 9]⟩]⟩]

theorem text_build_spaced :
    ConsumedByLeaves spacedTrace ∧
    (build {} spacedTrace 1).inputText = "ab cd" ∧
    (build {} spacedTrace 1).boxes.size = 4 ∧
    ∀ c : (build {} spacedTrace 1).Box, ∃ p a,
      (build {} spacedTrace 1).locatePiece ((build {} spacedTrace 1).box c).input = .ok p ∧
      (boxed (survivors spacedTrace))[c.1]? = some a ∧
      (build {} spacedTrace 1).box c = a.box p ∧
      (build {} spacedTrace 1).matchedText p = a.node.contents := by
  have h : ConsumedByLeaves spacedTrace := by decide +kernel
  have htext := text_build {} spacedTrace 1 h
  have hconsumed : consumed spacedTrace = "ab cd" := by decide +kernel
  exact ⟨h, htext.1.trans hconsumed, by decide +kernel, htext.2⟩

end TreeBuilder

end ParseBoxes
