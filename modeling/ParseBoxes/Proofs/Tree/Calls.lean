import ParseBoxes.Proofs.Tree.Paths

/-!
# Trees built call by call

A tree is filled by calls that add a fragment or a box and return its name (`BoxTree.Call`).  When
parents and inputs are names that earlier calls have returned, no call is refused, and the tree is
grown push by push (`Filling.Sound`); the names that come back are those of its fragments and boxes
in order, and each of these records what its call has given.  What is known of grown trees then holds
whatever the order of the calls.
-/

namespace ParseBoxes

namespace Forest

variable {ν : Type}

/-- A forest says the same thing forwards and backwards: every node occurs once, in the row of the
parent that it records or else at the top, and behind its parent. -/
structure EachOnce (f : Forest ν) : Prop where
  lt : ∀ p c, f.HasChild p c → p < c
  once : ∀ i, (f.tops ++ f.nodes.flatMap fun p => (f.kids p).map (·.1)).count i = 1
  recorded : ∀ p i, (f.parent? i).map (·.1) = some p ↔ i ∈ (f.kids p).map (·.1)
  top : ∀ i, f.parent? i = none ↔ i ∈ f.tops

theorem Rooted.eachOnce {f : Forest ν} (hf : f.Rooted) : f.EachOnce where
  lt _ _ h := h.lt
  once := hf.count_places
  recorded _ _ := hf.linked.parent?_iff
  top i := (hf.mem_tops i).symm

theorem attach_map (f : Forest ν) (q : Option (Fin f.size)) (value : ν) :
    f.attach (q.map (·.1)) value = .ok (f.push q value) := by
  cases q with
  | none => rfl
  | some p => exact f.attach_of_lt p value

/-! ## What a forest records -/

/-- The nodes of a forest in order, each with what it holds and the index of its parent. -/
def rows (f : Forest ν) : List (ν × Option Nat) :=
  f.nodes.map fun i => (f.get i, (f.parent? i).map (·.1.1))

/-- The index of the node that stands above a place. -/
def Place.above : Place → Option Nat
  | .under p => some p
  | .top | .loose => none

theorem parent?_map_val (f : Forest ν) (i : Fin f.size) :
    (f.parent? i).map (·.1.1) = (f.entry i).place.above := by
  unfold parent?
  split
  · next p h => simp [h, Place.above]
  · next h => simp [h, Place.above]
  · next h => simp [h, Place.above]

theorem above_ofParent (parent : Option Nat) : (Place.ofParent parent).above = parent := by
  cases parent <;> rfl

/-- What is told of the nodes after a push: the same of those before it, and something of one more. -/
theorem map_nodes_push {β : Type} (f : Forest ν) (parent : Option (Fin f.size)) (value : ν)
    {g : Fin f.size → β} {h : Fin (f.push parent value).size → β} {x : β}
    (hold : ∀ i : Fin f.size, ∀ hi, h ⟨i.1, hi⟩ = g i) (hlast : ∀ hi, h ⟨f.size, hi⟩ = x) :
    (f.push parent value).nodes.map h = f.nodes.map g ++ [x] := by
  have key : ∀ {m : Nat} (hm : m = f.size + 1) {h : Fin m → β},
      (∀ i : Fin f.size, ∀ hi, h ⟨i.1, hi⟩ = g i) → (∀ hi, h ⟨f.size, hi⟩ = x) →
      (List.finRange m).map h = f.nodes.map g ++ [x] := by
    intro m hm h hold hlast
    subst hm
    rw [List.finRange_succ_last, List.map_append, List.map_map, List.map_singleton]
    congr 1
    · exact List.map_congr_left fun i _ => hold i _
    · exact congrArg ([·]) (hlast _)
  exact key (f.size_push parent value) hold hlast

/-- What holds of all that is in a forest, and of what is pushed, holds of all after the push. -/
theorem forall_get_push {P : ν → Prop} {f : Forest ν} (hold : ∀ i, P (f.get i))
    (parent : Option (Fin f.size)) {value : ν} (hvalue : P value) :
    ∀ i, P ((f.push parent value).get i) := by
  rintro ⟨i, hi⟩
  have hi' : i < f.size + 1 := by simpa using hi
  rcases Nat.lt_succ_iff_lt_or_eq.1 hi' with hlt | rfl
  · rw [get_push_of_lt parent value ⟨i, hlt⟩ hi]
    exact hold ⟨i, hlt⟩
  · rw [get_push_last parent value hi]
    exact hvalue

/-- A push records what was given, behind what is recorded already. -/
theorem rows_push (f : Forest ν) (parent : Option (Fin f.size)) (value : ν) :
    (f.push parent value).rows = f.rows ++ [(value, parent.map (·.1))] := by
  refine map_nodes_push f parent value (fun i hi => ?_) fun hi => ?_
  · rw [get_push_of_lt parent value i hi, parent?_map_val, parent?_map_val,
      entry_push_of_lt parent value i hi]
  · rw [get_push_last parent value hi, parent?_map_val, entry_push_last parent value hi,
      above_ofParent]

end Forest

namespace BoxTree

namespace Grown

variable {t : BoxTree}

/-- The forests of a grown tree are decided by what was pushed, in order. -/
theorem exists_rows (ht : t.Grown) :
    (∃ row, t.boxes = .ofRow row) ∧ ∃ row, t.fragments = .ofRow row := by
  induction ht with
  | empty => exact ⟨⟨[], Forest.ofRow_nil.symm⟩, [], Forest.ofRow_nil.symm⟩
  | pushPiece parent f _ ih =>
    obtain ⟨hboxes, row, hrow⟩ := ih
    exact ⟨hboxes, _, Forest.push_eq_ofRow hrow rfl f⟩
  | pushBox parent node _ ih =>
    obtain ⟨⟨row, hrow⟩, hfragments⟩ := ih
    exact ⟨⟨_, Forest.push_eq_ofRow hrow rfl node⟩, hfragments⟩

theorem rooted_boxes (ht : t.Grown) : t.boxes.Rooted := by
  obtain ⟨⟨row, hrow⟩, -⟩ := ht.exists_rows
  rw [hrow]
  exact Forest.rooted_ofRow

theorem rooted_fragments (ht : t.Grown) : t.fragments.Rooted := by
  obtain ⟨-, row, hrow⟩ := ht.exists_rows
  rw [hrow]
  exact Forest.rooted_ofRow

end Grown

/-! ## Calls -/

/-- A call that adds a fragment or a box. -/
inductive Call where
  | piece (parent : Option FragmentId) (text : String) (glyph : Option String)
  | box (parent : Option BoxId) (node : BoxNode)

namespace Call

/-- What a call gives for a fragment: what it holds, and the name of its parent. -/
def pieceRow? : Call → Option (Fragment × Option FragmentId)
  | .piece parent text glyph => some (⟨text, glyph.getD text, glyph.isSome⟩, parent)
  | .box .. => none

/-- What a call gives for a box: what it holds, and the name of its parent. -/
def boxRow? : Call → Option (BoxNode × Option BoxId)
  | .piece .. => none
  | .box parent node => some (node, parent)

end Call

/-- What a tree records of a fragment: what it holds, and the name of its parent. -/
def pieceRow (t : BoxTree) (p : t.Piece) : Fragment × Option FragmentId :=
  (t.piece p, (t.fragments.parent? p).map fun q => t.pieceName q.1)

/-- What a tree records of a box: what it holds, and the name of its parent. -/
def boxRow (t : BoxTree) (b : t.Box) : BoxNode × Option BoxId :=
  (t.box b, (t.boxes.parent? b).map fun p => t.nameOf p.1)

/-- What a tree records of its fragments, by the names of their parents. -/
theorem map_pieceRow (t : BoxTree) :
    t.fragments.nodes.map t.pieceRow =
      t.fragments.rows.map (Prod.map id (Option.map FragmentId.mk)) := by
  rw [Forest.rows, List.map_map]
  refine List.map_congr_left fun p _ => ?_
  exact congrArg (Prod.mk _) (Option.map_map ..).symm

/-- What a tree records of its boxes, by the names of their parents. -/
theorem map_boxRow (t : BoxTree) :
    t.boxes.nodes.map t.boxRow =
      t.boxes.rows.map (Prod.map id (Option.map (BoxId.mk t.generation))) := by
  rw [Forest.rows, List.map_map]
  refine List.map_congr_left fun b _ => ?_
  exact congrArg (Prod.mk _) (Option.map_map ..).symm

/-- A tree that is being filled, and the names that the calls have returned. -/
structure Filling where
  tree : BoxTree
  pieces : List FragmentId
  boxes : List BoxId

namespace Filling

def fresh (generation : UInt32) : Filling := ⟨.empty generation, [], []⟩

def perform (r : Filling) : Call → Except Fault Filling
  | .piece parent text glyph => do
    let (id, tree) ← r.tree.addPiece parent (.ofText text glyph)
    return { r with tree := tree, pieces := r.pieces ++ [id] }
  | .box parent node => do
    let (id, tree) ← r.tree.addBox parent node
    return { r with tree := tree, boxes := r.boxes ++ [id] }

def performAll (r : Filling) (calls : List Call) : Except Fault Filling := calls.foldlM perform r

/-- Parent and input of a call are names that have been returned. -/
def Known (r : Filling) : Call → Prop
  | .piece parent _ _ => ∀ p ∈ parent, p ∈ r.pieces
  | .box parent node => (∀ p ∈ parent, p ∈ r.boxes) ∧ node.input ∈ r.pieces

/-- Parents and inputs of all calls are names that earlier calls have returned. -/
def KnownAll (r : Filling) : List Call → Prop
  | [] => True
  | call :: calls => r.Known call ∧ ∀ r', r.perform call = .ok r' → r'.KnownAll calls

instance decidableKnown (r : Filling) : (call : Call) → Decidable (r.Known call)
  | .piece parent _ _ => inferInstanceAs (Decidable (∀ p ∈ parent, p ∈ r.pieces))
  | .box parent node =>
    inferInstanceAs (Decidable ((∀ p ∈ parent, p ∈ r.boxes) ∧ node.input ∈ r.pieces))

instance decidableKnownAll : (r : Filling) → (calls : List Call) → Decidable (r.KnownAll calls)
  | _, [] => isTrue trivial
  | r, call :: calls =>
    match h : r.perform call with
    | .ok r₁ =>
      have := decidableKnownAll r₁ calls
      decidable_of_iff (r.Known call ∧ r₁.KnownAll calls)
        (and_congr_right fun _ => ⟨fun hall r' hr' => Except.ok.inj (h.symm.trans hr') ▸ hall,
          fun hall => hall r₁ h⟩)
    | .error _ =>
      decidable_of_iff (r.Known call)
        (iff_self_and.2 fun _ r' hr' => by rw [h] at hr'; cases hr')

/-- After these calls the tree is grown, the names that have been returned are those of its fragments
and boxes in order, these record what the calls have given, and every box has its input in the
tree. -/
structure Sound (generation : UInt32) (calls : List Call) (r : Filling) : Prop where
  grown : r.tree.Grown
  generation : r.tree.generation = generation
  pieces : r.pieces = r.tree.fragments.nodes.map r.tree.pieceName
  boxes : r.boxes = r.tree.boxes.nodes.map r.tree.nameOf
  pieceRows : r.tree.fragments.nodes.map r.tree.pieceRow = calls.filterMap Call.pieceRow?
  boxRows : r.tree.boxes.nodes.map r.tree.boxRow = calls.filterMap Call.boxRow?
  inputs : ∀ b, (r.tree.box b).input ∈ r.pieces

variable {generation : UInt32} {calls : List Call} {r : Filling}

theorem sound_fresh (generation : UInt32) : (fresh generation).Sound generation [] where
  grown := .empty generation
  generation := rfl
  pieces := rfl
  boxes := rfl
  pieceRows := rfl
  boxRows := rfl
  inputs b := absurd b.2 (Nat.not_lt_zero b.1)

/-- A parent among names that stand for nodes is that of a node. -/
theorem exists_eq_map {β γ : Type} {name : γ → β} {l : List γ} {parent : Option β}
    (h : ∀ p ∈ parent, p ∈ l.map name) : ∃ q : Option γ, parent = q.map name := by
  cases parent with
  | none => exact ⟨none, rfl⟩
  | some p =>
    obtain ⟨q, -, hq⟩ := List.mem_map.1 (h p rfl)
    exact ⟨some q, congrArg some hq.symm⟩

theorem addPiece_eq (t : BoxTree) (q : Option t.Piece) (f : Fragment) :
    t.addPiece (q.map t.pieceName) f = .ok (⟨t.fragments.size⟩, t.pushPiece q f) := by
  have hindex : (q.map t.pieceName).map (·.index) = q.map (·.1) := by cases q <;> rfl
  unfold addPiece
  rw [hindex, Forest.attach_map]
  rfl

/-- A box is added under a parent that is there, and gets the next name. -/
theorem addBox_eq (t : BoxTree) (q : Option t.Box) (node : BoxNode) :
    t.addBox (q.map t.nameOf) node = .ok (⟨t.generation, t.boxes.size⟩, t.pushBox q node) := by
  have hindex : (q.map t.nameOf).map (·.index) = q.map (·.1) := by cases q <;> rfl
  unfold addBox
  rw [hindex, Forest.attach_map]
  cases q with
  | none => rfl
  | some p =>
    show (if t.generation ≠ t.generation then _ else _) = _
    rw [if_neg (not_not.2 rfl)]
    rfl

/-- A pushed fragment is recorded behind the others. -/
theorem map_pieceRow_pushPiece (t : BoxTree) (q : Option t.Piece) (f : Fragment) :
    (t.pushPiece q f).fragments.nodes.map (t.pushPiece q f).pieceRow =
      t.fragments.nodes.map t.pieceRow ++ [(f, q.map t.pieceName)] := by
  rw [map_pieceRow, map_pieceRow, pushPiece, Forest.rows_push, List.map_append]
  cases q <;> rfl

/-- A pushed box is recorded behind the others. -/
theorem map_boxRow_pushBox (t : BoxTree) (q : Option t.Box) (node : BoxNode) :
    (t.pushBox q node).boxes.nodes.map (t.pushBox q node).boxRow =
      t.boxes.nodes.map t.boxRow ++ [(node, q.map t.nameOf)] := by
  rw [map_boxRow, map_boxRow, pushBox, Forest.rows_push, List.map_append]
  cases q <;> rfl

/-- A call by known names is not refused and keeps the tree sound. -/
theorem Sound.perform (hr : r.Sound generation calls) {call : Call} (hknown : r.Known call) :
    ∃ r', r.perform call = .ok r' ∧ r'.Sound generation (calls ++ [call]) := by
  cases call with
  | piece parent text glyph =>
    rw [Known, hr.pieces] at hknown
    obtain ⟨q, rfl⟩ := exists_eq_map hknown
    refine ⟨⟨r.tree.pushPiece q (.ofText text glyph), r.pieces ++ [⟨r.tree.fragments.size⟩],
      r.boxes⟩, ?_, .pushPiece q _ hr.grown, hr.generation, ?_, hr.boxes, ?_, ?_, fun b => ?_⟩
    · rw [Filling.perform, addPiece_eq]
      rfl
    · rw [hr.pieces]
      exact (Forest.map_nodes_push _ q _ (fun _ _ => rfl) fun _ => rfl).symm
    · rw [map_pieceRow_pushPiece, hr.pieceRows, List.filterMap_append]
      rfl
    · rw [List.filterMap_append]
      exact hr.boxRows.trans (List.append_nil _).symm
    · exact List.mem_append_left _ (hr.inputs b)
  | box parent node =>
    obtain ⟨hparent, hinput⟩ := hknown
    rw [hr.boxes] at hparent
    obtain ⟨q, rfl⟩ := exists_eq_map hparent
    refine ⟨⟨r.tree.pushBox q node, r.pieces,
      r.boxes ++ [⟨r.tree.generation, r.tree.boxes.size⟩]⟩, ?_, .pushBox q node hr.grown,
      hr.generation, hr.pieces, ?_, ?_, ?_, ?_⟩
    · rw [Filling.perform, addBox_eq]
      rfl
    · rw [hr.boxes]
      exact (Forest.map_nodes_push _ q _ (fun _ _ => rfl) fun _ => rfl).symm
    · rw [List.filterMap_append]
      exact hr.pieceRows.trans (List.append_nil _).symm
    · rw [map_boxRow_pushBox, hr.boxRows, List.filterMap_append]
      rfl
    · exact Forest.forall_get_push (P := fun n => n.input ∈ r.pieces) hr.inputs q hinput

/-- Calls by known names are not refused, and what they make of a sound tree is sound. -/
theorem Sound.performAll (hr : r.Sound generation calls) {more : List Call}
    (hknown : r.KnownAll more) :
    ∃ r', r.performAll more = .ok r' ∧ r'.Sound generation (calls ++ more) := by
  induction more generalizing r calls with
  | nil =>
    refine ⟨r, rfl, ?_⟩
    rwa [List.append_nil]
  | cons call more ih =>
    obtain ⟨r₁, hfirst, hr₁⟩ := hr.perform hknown.1
    obtain ⟨r', hrest, hr'⟩ := ih hr₁ (hknown.2 r₁ hfirst)
    refine ⟨r', ?_, ?_⟩
    · rw [Filling.performAll, List.foldlM_cons, hfirst]
      exact hrest
    · rwa [List.append_assoc] at hr'

end Filling

/-- **A tree built call by call holds together.**  Whatever calls fill a fresh tree, as long as
parents and inputs are names that earlier calls have returned: no call is refused; the names that
come back are those of the fragments and of the boxes in order; these hold what their calls have
given, and record the parents that their calls have named; in both forests every node occurs
once, behind its parent, in the row of the parent that it records or else at the top.  The way up
from a box goes from parent to parent and ends in the top row, the walk down is the rest of the
subtree in pre-order, and both are no longer than there are boxes on that side.  A box is met on the
walk down from another just if it meets that one on its way up.  For every box there is exactly one
path that leads to it. -/
theorem filled_tree_holds_together (generation : UInt32) (calls : List Call)
    (hknown : (Filling.fresh generation).KnownAll calls) :
    ∃ r, (Filling.fresh generation).performAll calls = .ok r ∧
      r.pieces = r.tree.fragments.nodes.map r.tree.pieceName ∧
      r.boxes = r.tree.boxes.nodes.map r.tree.nameOf ∧
      r.tree.fragments.nodes.map r.tree.pieceRow = calls.filterMap Call.pieceRow? ∧
      r.tree.boxes.nodes.map r.tree.boxRow = calls.filterMap Call.boxRow? ∧
      (∀ b, ∃ p, r.tree.locatePiece (r.tree.box b).input = .ok p) ∧
      r.tree.fragments.EachOnce ∧ r.tree.boxes.EachOnce ∧
      (∀ b, (b :: r.tree.boxes.ancestors b).IsChain
          (fun c p => (r.tree.boxes.parent? c).map (·.1) = some p) ∧
        (∃ top ∈ r.tree.boxes.tops, (b :: r.tree.boxes.ancestors b).getLast? = some top) ∧
        (r.tree.boxes.ancestors b).length ≤ b) ∧
      (∀ b, r.tree.boxes.subtree b = b :: r.tree.boxes.descendants b ∧
        (r.tree.boxes.descendants b).Nodup ∧
        (r.tree.boxes.descendants b).length < r.tree.boxes.size - b) ∧
      (∀ b c, c ∈ r.tree.boxes.descendants b ↔ b ∈ r.tree.boxes.ancestors c) ∧
      ∀ b, ∃! path, r.tree.atPath path = some b := by
  obtain ⟨r, hperform, hr⟩ := (Filling.sound_fresh generation).performAll hknown
  have hboxes := hr.grown.rooted_boxes
  have hfragments := hr.grown.rooted_fragments
  refine ⟨r, hperform, hr.pieces, hr.boxes, hr.pieceRows, hr.boxRows, ?_, hfragments.eachOnce,
    hboxes.eachOnce, ?_, ?_, ?_, hboxes.exists_unique_path⟩
  · intro b
    have hinput := hr.inputs b
    rw [hr.pieces] at hinput
    obtain ⟨p, -, hp⟩ := List.mem_map.1 hinput
    refine ⟨p, ?_⟩
    rw [← hp]
    exact dif_pos p.2
  · intro b
    refine ⟨?_, hboxes.getLast_ancestors b, Forest.length_ancestors_le b⟩
    exact (hboxes.linked.isChain_ancestors b).imp fun c p hp => hboxes.linked.parent?_iff.2 hp
  · intro b
    refine ⟨?_, hboxes.ordered.nodup_descendants hboxes.linked b, hboxes.length_descendants_lt b⟩
    rw [Forest.subtree_eq, Forest.descendants_eq]
  · intro b c
    rw [Forest.mem_descendants, hboxes.linked.mem_ancestors]

/-- Calls for a box that holds two boxes, the first of which holds a third. -/
def nestedCalls : List Call :=
  let box (label : String) (input : Nat) : BoxNode := { label := label, input := ⟨input⟩ }
  [.piece none "" none, .box none (box "root" 0), .piece (some ⟨0⟩) "" none,
    .box (some ⟨3, 0⟩) (box "a" 1), .piece (some ⟨1⟩) "x" none, .box (some ⟨3, 1⟩) (box "c" 2),
    .piece (some ⟨0⟩) " " (some "·"), .box (some ⟨3, 0⟩) (box "b" 3)]

/-- The boxes lie in each other as told, and each has one path. -/
theorem nested_calls_hold_together :
    (Filling.fresh 3).KnownAll nestedCalls ∧
      ∃ r, (Filling.fresh 3).performAll nestedCalls = .ok r ∧
        r.boxes = [⟨3, 0⟩, ⟨3, 1⟩, ⟨3, 2⟩, ⟨3, 3⟩] ∧
        (r.tree.boxes.nodes.map r.tree.boxRow).map (·.2) =
          [none, some ⟨3, 0⟩, some ⟨3, 1⟩, some ⟨3, 0⟩] ∧ r.tree.boxes.EachOnce ∧
        ∀ b, ∃! path, r.tree.atPath path = some b := by
  have hknown : (Filling.fresh 3).KnownAll nestedCalls := by decide +kernel
  have hnames : ((Filling.fresh 3).performAll nestedCalls).map (·.boxes) =
      .ok [⟨3, 0⟩, ⟨3, 1⟩, ⟨3, 2⟩, ⟨3, 3⟩] := by decide +kernel
  obtain ⟨r, hperform, -, -, -, hrows, -, -, honce, -, -, -, hpaths⟩ :=
    filled_tree_holds_together 3 nestedCalls hknown
  rw [hperform] at hnames
  refine ⟨hknown, r, hperform, Except.ok.inj hnames, ?_, honce, hpaths⟩
  rw [hrows]
  rfl

end BoxTree

end ParseBoxes
