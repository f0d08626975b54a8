import ParseBoxes.Proofs.Tree.Attempts
import ParseBoxes.Proofs.Tree.Row
import ParseBoxes.Tree.Builder

/-!
# The tree that a trace declares

Fragments stand for the survivors of a trace and boxes for those of them that have a box, both in
pre-order; a fragment hangs under that of the attempt around it, a box under that of the nearest
attempt around it that has one (`BoxTree.ofAttempts`).  A build draws exactly this tree: what it has
drawn at any time is the tree of the attempts met so far (`TreeBuilder.Drawn`).
-/

namespace ParseBoxes

namespace Attempt

/-- Where an attempt stands in a list. -/
def index (l : List Attempt) (a : Attempt) : Nat := l.findIdx (·.spot = a.spot)

/-- Attempts with their values, and where those stand that they hang under. -/
def row {ν : Type} (value : Attempt → ν) (up : Attempt → Option Attempt) (l : List Attempt) :
    List (ν × Option Nat) :=
  l.map fun a => (value a, (up a).map (index l))

def boxed (l : List Attempt) : List Attempt := l.filter (·.hasBox)

def fragmentRow (glyph : String) (l : List Attempt) : List (Fragment × Option Nat) :=
  row (·.fragment glyph) parent? l

def boxRow (l : List Attempt) : List (BoxNode × Option Nat) :=
  row (fun a => a.box (index l a)) boxAbove? (boxed l)

end Attempt

/-- The tree of a list of attempts. -/
def BoxTree.ofAttempts (glyph : String) (l : List Attempt) (generation : UInt32) : BoxTree where
  generation := generation
  boxes := .ofRow (Attempt.boxRow l)
  fragments := .ofRow (Attempt.fragmentRow glyph l)

namespace Attempt

variable {ν : Type} {value : Attempt → ν} {up : Attempt → Option Attempt} {glyph : String}
  {l : List Attempt} {a : Attempt}

/-- An attempt keeps its index when more attempts come behind. -/
theorem index_append (h : a ∈ l) (m : List Attempt) : index (l ++ m) a = index l a := by
  have hlt : l.findIdx (·.spot = a.spot) < l.length :=
    List.findIdx_lt_length_of_exists ⟨a, h, by simp⟩
  rw [index, List.findIdx_append, if_pos hlt, index]

/-- A new attempt has the next index. -/
theorem index_concat (h : ∀ x ∈ l, x.spot ≠ a.spot) : index (l ++ [a]) a = l.length := by
  have hnot : l.findIdx (·.spot = a.spot) = l.length :=
    List.findIdx_eq_length_of_false fun x hx => by simp [h x hx]
  rw [index, List.findIdx_append, hnot, if_neg (Nat.lt_irrefl _)]
  simp

theorem map_index_append {o : Option Attempt} (h : ∀ b ∈ o, b ∈ l) (m : List Attempt) :
    o.map (index (l ++ m)) = o.map (index l) :=
  Option.map_congr fun b hb => index_append (h b hb) m

theorem mem_boxed : a ∈ boxed l ↔ a ∈ l ∧ a.hasBox = true := List.mem_filter

theorem boxed_append (l m : List Attempt) : boxed (l ++ m) = boxed l ++ boxed m :=
  List.filter_append ..

theorem mem_of_parent? {b : Attempt} (hb : b ∈ a.parent?) : b ∈ a.ancestors :=
  List.mem_of_mem_head? hb

theorem mem_of_boxAbove? {b : Attempt} (hb : b ∈ a.boxAbove?) :
    b ∈ a.ancestors ∧ b.hasBox = true :=
  ⟨List.mem_of_find?_eq_some hb, List.find?_some hb⟩

/-- Where all that an attempt lies in is listed, so is the attempt of the box above it. -/
theorem mem_boxed_of_boxAbove? (ha : ∀ b ∈ a.ancestors, b ∈ l) {b : Attempt}
    (hb : b ∈ a.boxAbove?) : b ∈ boxed l :=
  mem_boxed.2 ⟨ha b (mem_of_boxAbove? hb).1, (mem_of_boxAbove? hb).2⟩

/-! ## One attempt more -/

theorem Closed.concat (hl : Closed l) (ha : ∀ b ∈ a.ancestors, b ∈ l) : Closed (l ++ [a]) := by
  intro x hx y hy
  rcases List.mem_append.1 hx with hx | hx
  · exact List.mem_append_left _ (hl x hx y hy)
  · obtain rfl := List.mem_singleton.1 hx
    exact List.mem_append_left _ (ha y hy)

theorem row_congr {value' : Attempt → ν} (h : ∀ x ∈ l, value x = value' x) :
    row value up l = row value' up l :=
  List.map_congr_left fun x hx => by rw [h x hx]

/-- One more attempt gives one more node at the end of a row. -/
theorem row_concat (hl : ∀ x ∈ l, ∀ b ∈ up x, b ∈ l) (ha : ∀ b ∈ up a, b ∈ l) :
    row value up (l ++ [a]) = row value up l ++ [(value a, (up a).map (index l))] := by
  rw [row, List.map_append, List.map_singleton, map_index_append ha]
  congr 1
  exact List.map_congr_left fun x hx => by rw [map_index_append (hl x hx)]

/-- One more attempt gives one more fragment, in that of its parent. -/
theorem fragmentRow_concat (hl : Closed l) (ha : ∀ b ∈ a.ancestors, b ∈ l) :
    fragmentRow glyph (l ++ [a]) =
      fragmentRow glyph l ++ [(a.fragment glyph, a.parent?.map (index l))] :=
  row_concat (fun x hx b hb => hl x hx b (mem_of_parent? hb))
    fun b hb => ha b (mem_of_parent? hb)

/-- One more attempt with a box gives one more box, in the nearest box above it. -/
theorem boxRow_concat_of_hasBox (hl : Closed l) (ha : ∀ b ∈ a.ancestors, b ∈ l)
    (hfresh : ∀ x ∈ l, x.spot ≠ a.spot) (hbox : a.hasBox = true) :
    boxRow (l ++ [a]) =
      boxRow l ++ [(a.box l.length, a.boxAbove?.map (index (boxed l)))] := by
  have hboxed : boxed (l ++ [a]) = boxed l ++ [a] := by
    rw [boxed_append]
    simp [boxed, hbox]
  rw [boxRow, hboxed, row_concat
    (fun x hx b hb => mem_boxed_of_boxAbove? (hl x (mem_boxed.1 hx).1) hb)
    (fun b hb => mem_boxed_of_boxAbove? ha hb), index_concat hfresh]
  congr 1
  exact row_congr fun x hx => by rw [index_append (mem_boxed.1 hx).1]

/-- An attempt without a box adds nothing to the row of boxes. -/
theorem boxRow_concat_of_not_hasBox (hbox : a.hasBox = false) :
    boxRow (l ++ [a]) = boxRow l := by
  have hboxed : boxed (l ++ [a]) = boxed l := by
    rw [boxed_append]
    simp [boxed, hbox]
  rw [boxRow, hboxed]
  exact row_congr fun x hx => by rw [index_append (mem_boxed.1 hx).1]

end Attempt

/-! ## What a builder reads off a node -/

namespace TreeBuilder

open Attempt

section

variable (place : Nat) (n : TraceNode) (line : List (Nat × TraceNode))

theorem ownText_eq : ownText n = (Attempt.mk place n line).text := by
  simp [ownText, text, TraceNode.isPrimitive]

theorem isBlankRun_ownText : Text.isBlankRun (ownText n) = (Attempt.mk place n line).isBlank := by
  rw [ownText_eq place n line, Bool.eq_iff_iff]
  simp [Text.isBlankRun, isBlank]

/-- The builder makes the fragment of an attempt. -/
theorem fragmentOf_eq (b : TreeBuilder) :
    b.fragmentOf n = (Attempt.mk place n line).fragment b.glyph := by
  rw [fragmentOf, isBlankRun_ownText place n line, ownText_eq place n line, Fragment.ofText,
    fragment]
  cases (Attempt.mk place n line).isBlank <;> rfl

theorem boxOf_eq (hn : n.succeeded = true) (i : Nat) :
    boxOf n ⟨i⟩ = (Attempt.mk place n line).box i := by
  simp [boxOf, box, hn, isBlankRun_ownText place n line, TraceNode.isPrimitive]

/-- The builder gives a box just to the attempts that have one. -/
theorem getsBox_eq {shown : Bool} (hshown : shown = line.all (!·.2.isBlackhole)) :
    getsBox shown n = (Attempt.mk place n line).hasBox := by
  rw [getsBox, isBlankRun_ownText place n line, hasBox, isOpen, Attempt.line, List.all_cons,
    hshown, Bool.and_comm (!n.isBlackhole)]

end

variable {b : TreeBuilder} {place : Nat} {n : TraceNode} {line : List (Nat × TraceNode)}

/-- A tree is that of the attempts met, which lie in attempts met. -/
structure Drawn (b : TreeBuilder) (generation : UInt32) (l : List Attempt) (t : BoxTree) :
    Prop where
  generation : t.generation = generation
  boxes : t.boxes = .ofRow (boxRow l)
  fragments : t.fragments = .ofRow (fragmentRow b.glyph l)
  closed : Closed l

/-- What a builder knows where it stands in a trace: the tree is that of the attempts met, and the
fragment, the box and the sight that it hands down are those of the line that it has gone down. -/
structure At (b : TreeBuilder) (generation : UInt32) (line : List (Nat × TraceNode))
    (l : List Attempt) (t : BoxTree) (container : Option t.Box) (ribbon : Option t.Piece)
    (shown : Bool) : Prop where
  drawn : b.Drawn generation l t
  met : ∀ a ∈ ofLine line, a ∈ l
  succeeded : ∀ e ∈ line, e.2.succeeded = true
  ribbon : ribbon.map (·.1) = (ofLine line).head?.map (index l)
  container : container.map (·.1) = ((ofLine line).find? (·.hasBox)).map (index (boxed l))
  shown : shown = line.all (!·.2.isBlackhole)

variable {generation : UInt32} {l : List Attempt} {t : BoxTree} {container : Option t.Box}
  {ribbon : Option t.Piece} {shown : Bool}

theorem map_box (g : Grown t) (container : Option t.Box) :
    (container.map g.box).map (·.1) = container.map (·.1) := by
  rw [Option.map_map]
  rfl

theorem map_piece (g : Grown t) (ribbon : Option t.Piece) :
    (ribbon.map g.piece).map (·.1) = ribbon.map (·.1) := by
  rw [Option.map_map]
  rfl

/-- Where a builder stands stays the same while attempts are met. -/
theorem At.met_more (h : b.At generation line l t container ribbon shown) {m : List Attempt}
    {g : Grown t} (hg : b.Drawn generation (l ++ m) g.tree) :
    b.At generation line (l ++ m) g.tree (container.map g.box) (ribbon.map g.piece) shown where
  drawn := hg
  met a ha := List.mem_append_left _ (h.met a ha)
  succeeded := h.succeeded
  ribbon := by
    rw [map_index_append fun a ha => h.met a (List.mem_of_mem_head? ha), ← h.ribbon, map_piece]
  container := by
    have hold : ∀ a ∈ (ofLine line).find? (·.hasBox), a ∈ boxed l := fun a ha =>
      mem_boxed.2 ⟨h.met a (List.mem_of_find?_eq_some ha), List.find?_some ha⟩
    rw [boxed_append, map_index_append hold, ← h.container, map_box]
  shown := h.shown

theorem Drawn.eq (h : b.Drawn generation l t) : t = .ofAttempts b.glyph l generation := by
  obtain ⟨rfl, hboxes, hfragments, -⟩ := h
  rw [BoxTree.ofAttempts, ← hboxes, ← hfragments]

theorem Drawn.size_fragments (h : b.Drawn generation l t) : t.fragments.size = l.length := by
  rw [h.fragments, Forest.size_ofRow, fragmentRow, row, List.length_map]

theorem Drawn.size_boxes (h : b.Drawn generation l t) : t.boxes.size = (boxed l).length := by
  rw [h.boxes, Forest.size_ofRow, boxRow, row, List.length_map]

theorem Drawn.pushPiece (h : b.Drawn generation l t) {a : Attempt} (ha : ∀ x ∈ a.ancestors, x ∈ l)
    (hribbon : ribbon.map (·.1) = a.parent?.map (index l)) (hbox : a.hasBox = false)
    {f : Fragment} (hf : f = a.fragment b.glyph) :
    b.Drawn generation (l ++ [a]) (t.pushPiece ribbon f) where
  generation := h.generation
  boxes := by
    rw [boxRow_concat_of_not_hasBox hbox]
    exact h.boxes
  fragments := by
    rw [fragmentRow_concat h.closed ha, ← hf]
    exact Forest.push_eq_ofRow h.fragments hribbon f
  closed := h.closed.concat ha

/-- A fragment and a box pushed for an attempt that has both keep the tree drawn. -/
theorem Drawn.pushBoth (h : b.Drawn generation l t) {a : Attempt} (ha : ∀ x ∈ a.ancestors, x ∈ l)
    (hfresh : ∀ x ∈ l, x.spot ≠ a.spot) (hribbon : ribbon.map (·.1) = a.parent?.map (index l))
    {f : Fragment} {container : Option (t.pushPiece ribbon f).Box}
    (hcontainer : container.map (·.1) = a.boxAbove?.map (index (boxed l)))
    (hbox : a.hasBox = true) (hf : f = a.fragment b.glyph)
    {node : BoxNode} (hnode : node = a.box t.fragments.size) :
    b.Drawn generation (l ++ [a]) ((t.pushPiece ribbon f).pushBox container node) where
  generation := h.generation
  boxes := by
    rw [boxRow_concat_of_hasBox h.closed ha hfresh hbox, ← h.size_fragments, ← hnode]
    exact Forest.push_eq_ofRow h.boxes hcontainer node
  fragments := by
    rw [fragmentRow_concat h.closed ha, ← hf]
    exact Forest.push_eq_ofRow h.fragments hribbon f
  closed := h.closed.concat ha

/-! ## The build -/

/-- The attempts of a forest that survive. -/
def left (place : Nat) (line : List (Nat × TraceNode)) (ns : List TraceNode) : List Attempt :=
  (TraceNode.forestAttempts place line ns).filter (·.survives)

/-- No two attempts stand at one spot. -/
def Apart (l : List Attempt) : Prop := l.Pairwise fun x y => x.spot ≠ y.spot

/-- Nothing is left of an attempt that has failed, nor of those in it. -/
theorem filter_attempts_of_failed (hn : n.succeeded = false) :
    (n.attempts place line).filter (·.survives) = [] := by
  rw [List.filter_eq_nil_iff]
  intro a ha
  rw [survives_eq_false (TraceNode.suffix_of_mem_attempts n ha) hn]
  exact Bool.false_ne_true

/-- An attempt that has succeeded in others that have is left, and what is left of those in it. -/
theorem filter_attempts_of_succeeded (hline : ∀ e ∈ line, e.2.succeeded = true)
    (hn : n.succeeded = true) :
    (n.attempts place line).filter (·.survives) =
      ⟨place, n, line⟩ :: left 0 ((place, n) :: line) n.children := by
  rw [TraceNode.attempts_eq, List.filter_cons, if_pos (survives_iff.2 ⟨hn, hline⟩), left]

theorem left_cons (n : TraceNode) (ns : List TraceNode) :
    left place line (n :: ns) =
      (n.attempts place line).filter (·.survives) ++ left (place + 1) line ns := by
  rw [left, TraceNode.forestAttempts, List.filter_append, left]

/-- Where a builder stands below an attempt that it has just drawn. -/
theorem At.below (h : b.At generation line l t container ribbon shown) (hn : n.succeeded = true)
    {t' : BoxTree} (ht' : b.Drawn generation (l ++ [⟨place, n, line⟩]) t')
    (hfresh : ∀ x ∈ l, x.spot ≠ (Attempt.mk place n line).spot)
    {container' : Option t'.Box} {ribbon' : Option t'.Piece}
    (hribbon : ribbon'.map (·.1) = some l.length)
    (hcontainer : container'.map (·.1) = if (Attempt.mk place n line).hasBox then
      some (boxed l).length else container.map (·.1)) :
    b.At generation ((place, n) :: line) (l ++ [⟨place, n, line⟩]) t' container' ribbon'
      (shown && !n.isBlackhole) where
  drawn := ht'
  met a ha := by
    rcases List.mem_cons.1 ha with rfl | ha
    · exact List.mem_append_right _ (List.mem_singleton.2 rfl)
    · exact List.mem_append_left _ (h.met a ha)
  succeeded e he := by
    rcases List.mem_cons.1 he with rfl | he
    · exact hn
    · exact h.succeeded e he
  ribbon := by
    rw [hribbon, ofLine, List.head?_cons, Option.map_some, index_concat hfresh]
  container := by
    rw [hcontainer, ofLine, List.find?_cons, boxed_append]
    cases hbox : (Attempt.mk place n line).hasBox with
    | true =>
      have hlast : boxed [Attempt.mk place n line] = [⟨place, n, line⟩] := by simp [boxed, hbox]
      have hapart : ∀ x ∈ boxed l, x.spot ≠ (Attempt.mk place n line).spot :=
        fun x hx => hfresh x (mem_boxed.1 hx).1
      simp only [hlast, ↓reduceIte, Option.map_some, index_concat hapart]
    | false =>
      -- the box above stays the nearest one
      have hold : ∀ a ∈ (ofLine line).find? (·.hasBox), a ∈ boxed l := fun a ha =>
        mem_boxed.2 ⟨h.met a (List.mem_of_find?_eq_some ha), List.find?_some ha⟩
      simp only [Bool.false_eq_true, ↓reduceIte]
      rw [map_index_append hold, h.container]
  shown := by
    rw [h.shown, List.all_cons, Bool.and_comm]

mutual

/-- A node is met, and all in it: the tree is drawn for what is left of their attempts too. -/
theorem drawn_addNode {line : List (Nat × TraceNode)} {l : List Attempt} {t : BoxTree}
    {container : Option t.Box} {ribbon : Option t.Piece} {shown : Bool}
    (h : b.At generation line l t container ribbon shown) (place : Nat) (n : TraceNode)
    (hapart : Apart (l ++ (n.attempts place line).filter (·.survives))) :
    b.Drawn generation (l ++ (n.attempts place line).filter (·.survives))
      (b.addNode t container ribbon shown n).tree :=
  match n with
  | ⟨false, label, kind, source, contents, children⟩ => by
    rw [filter_attempts_of_failed rfl, List.append_nil, TreeBuilder.addNode]
    exact h.drawn
  | ⟨true, label, kind, source, contents, children⟩ => by
    let n : TraceNode := ⟨true, label, kind, source, contents, children⟩
    let a : Attempt := ⟨place, n, line⟩
    have hn : n.succeeded = true := rfl
    rw [filter_attempts_of_succeeded h.succeeded hn, List.append_cons] at hapart ⊢
    -- the attempt of the node is new, so those in it find it at the next index
    have hfresh : ∀ x ∈ l, x.spot ≠ a.spot := fun x hx =>
      (List.pairwise_append.1 (List.pairwise_append.1 hapart).1).2.2 x hx a
        (List.mem_singleton.2 rfl)
    rw [TreeBuilder.addNode]
    simp only [↓reduceIte]
    split
    · next hbox =>
      have ha : a.hasBox = true := (getsBox_eq place n line h.shown).symm.trans hbox
      have hcontainer := (map_box (Grown.here t) container).trans h.container
      have hdrawn := h.drawn.pushBoth (a := a) h.met hfresh h.ribbon hcontainer ha
        (fragmentOf_eq place n line b) (boxOf_eq place n line hn t.fragments.size)
      refine drawn_addNodes (h.below hn hdrawn hfresh ?_ ?_) 0 children hapart
      · exact congrArg some h.drawn.size_fragments
      · rw [if_pos ha]
        exact congrArg some h.drawn.size_boxes
    · next hbox =>
      have ha : a.hasBox = false :=
        (getsBox_eq place n line h.shown).symm.trans (Bool.eq_false_iff.2 hbox)
      have hdrawn := h.drawn.pushPiece (a := a) h.met h.ribbon ha (fragmentOf_eq place n line b)
      refine drawn_addNodes (h.below hn hdrawn hfresh ?_ ?_) 0 children hapart
      · exact congrArg some h.drawn.size_fragments
      · rw [if_neg (ne_true_of_eq_false ha)]
        exact map_box (withPiece t ribbon (b.fragmentOf n)).1 container

theorem drawn_addNodes {line : List (Nat × TraceNode)} {l : List Attempt} {t : BoxTree}
    {container : Option t.Box} {ribbon : Option t.Piece} {shown : Bool}
    (h : b.At generation line l t container ribbon shown) (place : Nat) (ns : List TraceNode)
    (hapart : Apart (l ++ left place line ns)) :
    b.Drawn generation (l ++ left place line ns)
      (b.addNodes t container ribbon shown ns).tree :=
  match ns with
  | [] => by
    unfold TreeBuilder.addNodes
    rw [left, TraceNode.forestAttempts, List.filter_nil, List.append_nil]
    exact h.drawn
  | n :: ns => by
    unfold TreeBuilder.addNodes
    rw [left_cons, ← List.append_assoc] at hapart ⊢
    have hfirst := drawn_addNode h place n (List.pairwise_append.1 hapart).1
    exact drawn_addNodes (h.met_more hfirst) (place + 1) ns hapart

end

/-- The tree that is built is drawn for all attempts that survive. -/
theorem drawn_build (b : TreeBuilder) (trace : List TraceNode) (generation : UInt32) :
    b.Drawn generation (survivors trace) (b.build trace generation) := by
  have hempty : b.Drawn generation [] (.empty generation) :=
    ⟨rfl, Forest.ofRow_nil.symm, Forest.ofRow_nil.symm, fun a ha => absurd ha List.not_mem_nil⟩
  have hstart : b.At generation [] [] (.empty generation) none none true :=
    ⟨hempty, fun a ha => ha, fun e he => absurd he List.not_mem_nil, rfl, rfl, rfl⟩
  have hapart : Apart ([] ++ left 0 [] trace) :=
    (pairwise_survivors trace).imp fun hbefore => hbefore.spot_ne
  exact drawn_addNodes hstart 0 trace hapart

theorem inOrder_survivors (trace : List TraceNode) : InOrder (survivors trace) :=
  ⟨pairwise_survivors trace, (drawn_build {} trace 0).closed⟩

/-- **A build draws the tree that its trace declares**: that of the survivors in pre-order, among
which are with each one all that it lies in. -/
theorem build_eq_ofAttempts (b : TreeBuilder) (trace : List TraceNode) (generation : UInt32) :
    InOrder (survivors trace) ∧
      b.build trace generation = .ofAttempts b.glyph (survivors trace) generation :=
  ⟨inOrder_survivors trace, (drawn_build b trace generation).eq⟩

end TreeBuilder

end ParseBoxes
