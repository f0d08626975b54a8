import ParseBoxes.Proofs.Layout.Dependents
import ParseBoxes.Proofs.Report.Lines
import ParseBoxes.Proofs.Session.Listing
import ParseBoxes.Proofs.Tree.Attempts

/-!
# The rows of reports

The report of a frame has two rows and one for each displayed box, in pre-order
(`Session.Sound.layout_in_lines`); that of a trace has one for each attempt
(`Report.trace_in_lines`).  In what a row puts behind a label nothing breaks a line, so a row is a
line if the label does not break it.
-/

namespace ParseBoxes

namespace Forest

variable {ν : Type} {f : Forest ν}

/-- Subtrees in order of their nodes make a list in order, if each lies ahead of the next. -/
theorem pairwise_flatMap_subtree_lt {cs : List (Fin f.size)} (hcs : cs.Pairwise f.Ahead)
    (h : ∀ c ∈ cs, (f.subtree c).Pairwise (· < ·)) : (cs.flatMap f.subtree).Pairwise (· < ·) := by
  refine List.pairwise_flatMap.2 ⟨h, hcs.imp fun hahead j hj k hk => ?_⟩
  have hlt := hahead j (mem_subtree.1 hj)
  rcases mem_subtree.1 hk with rfl | hbelow
  · exact hlt
  · exact Fin.lt_trans hlt hbelow.lt

namespace Preordered

theorem pairwise_subtree_lt (hf : f.Preordered) (i : Fin f.size) :
    (f.subtree i).Pairwise (· < ·) := by
  induction i using kids_induction with
  | h i ih =>
    rw [subtree_eq, List.pairwise_cons, ← descendants_eq]
    refine ⟨fun j hj => (mem_descendants.1 hj).lt, ?_⟩
    rw [descendants_eq]
    exact pairwise_flatMap_subtree_lt (hf.siblings.kids i) ih

/-- A walk through all nodes meets them in the order of their numbers. -/
theorem walk_tops (hf : f.Preordered) : f.walk f.tops = f.nodes := by
  have hpairwise : (f.walk f.tops).Pairwise (· < ·) := by
    rw [walk_eq_flatMap]
    exact pairwise_flatMap_subtree_lt hf.siblings.tops fun i _ => hf.pairwise_subtree_lt i
  refine hpairwise.eq_of_mem_iff (List.pairwise_lt_finRange _) fun i => ?_
  rw [mem_walk]
  exact iff_of_true (hf.exists_top i) (List.mem_finRange i)

end Preordered

end Forest

/-! ## Traces -/

theorem Attempt.length_ancestors (a : Attempt) : a.ancestors.length = a.above.length := by
  have hlength : ∀ line, (ofLine line).length = line.length := by
    intro line
    induction line with
    | nil => rfl
    | cons e line ih => exact congrArg (· + 1) ih
  exact hlength a.above

namespace TraceNode

mutual

theorem length_attempts (place : Nat) (above : List (Nat × TraceNode)) :
    ∀ n : TraceNode, (n.attempts place above).length = n.count
  | ⟨_, _, _, _, _, children⟩ => by
    rw [attempts, count, List.length_cons, length_forestAttempts 0 _ children]

/-- There are as many attempts as nodes in a trace. -/
theorem length_forestAttempts (place : Nat) (above : List (Nat × TraceNode)) :
    ∀ ns : List TraceNode, (forestAttempts place above ns).length = forestCount ns
  | [] => by rw [forestAttempts, forestCount, List.length_nil]
  | n :: ns => by
    rw [forestAttempts, forestCount, List.length_append, length_attempts place above n,
      length_forestAttempts (place + 1) above ns]

end

mutual

theorem rows_eq (place : Nat) (above : List (Nat × TraceNode)) : ∀ n : TraceNode,
    n.rows above.length = (n.attempts place above).map fun a => (a.ancestors.length, a.node)
  | ⟨_, _, _, _, _, children⟩ => by
    rw [rows, attempts, List.map_cons, Attempt.length_ancestors]
    exact congrArg _ (forestRows_eq 0 (_ :: above) children)

/-- The rows are those of the attempts in their places, at depths that tell how many attempts they
lie in. -/
theorem forestRows_eq (place : Nat) (above : List (Nat × TraceNode)) : ∀ ns : List TraceNode,
    forestRows above.length ns =
      (forestAttempts place above ns).map fun a => (a.ancestors.length, a.node)
  | [] => by rw [forestRows, forestAttempts, List.map_nil]
  | n :: ns => by
    rw [forestRows, forestAttempts, List.map_append, rows_eq place above n,
      forestRows_eq (place + 1) above ns]

end

end TraceNode

namespace Report

@[simp]
theorem unbroken_title (k : ExprKind) : Unbroken k.title := by cases k <;> decide

@[simp]
theorem unbroken_visibility (v : Visibility) : Unbroken (visibility v) := by
  unfold visibility
  split <;> decide

/-- What a row says of an attempt behind its label. -/
def nodeRest (n : TraceNode) : String :=
  String.join [" ", n.kind.title, " ", Text.quote n.contents, ": ", visibility n.classify]

theorem nodeRow_eq (depth : Nat) (n : TraceNode) :
    nodeRow depth n = indent depth ++ (n.label ++ nodeRest n) := by
  simp only [nodeRow, nodeRest, String.join_cons]

@[simp]
theorem unbroken_nodeRest (n : TraceNode) : Unbroken (nodeRest n) := by
  simp only [nodeRest, unbroken_join, List.forall_mem_cons, unbroken_title, unbroken_quote,
    unbroken_visibility, List.not_mem_nil, false_implies, implies_true, and_true, true_and]
  decide

/-- The rows of a trace are its lines if no label breaks a line. -/
theorem trace_in_lines (nodes : List TraceNode) : ∃ rest : Attempt → String,
    LinesIff (∀ a ∈ TraceNode.forestAttempts 0 [] nodes, Unbroken a.node.label) (trace nodes)
      ((TraceNode.forestAttempts 0 [] nodes).map fun a =>
        indent a.ancestors.length ++ (a.node.label ++ rest a)) := by
  refine ⟨fun a => nodeRest a.node, ?_⟩
  have hrows : traceRows nodes = (TraceNode.forestAttempts 0 [] nodes).map fun a =>
      indent a.ancestors.length ++ (a.node.label ++ nodeRest a.node) := by
    simp only [traceRows, nodeRow_eq]
    exact (congrArg _ (TraceNode.forestRows_eq 0 [] nodes)).trans (List.map_map ..)
  rw [trace, hrows]
  refine .ofRows ?_
  rw [List.forall_mem_map]
  exact forall₂_congr fun a _ => unbroken_row_iff _ _ (unbroken_nodeRest a.node)

/-! ## Frames -/

theorem unbroken_names (c : BoxClasses) : Unbroken (String.intercalate " " c.names) := by
  obtain ⟨failed, primitive, whitespace, collapsed⟩ := c
  cases failed <;> cases primitive <;> cases whitespace <;> cases collapsed <;> decide

theorem unbroken_stateName (s : ToggleState) : Unbroken s.name := by cases s <;> decide

/-- What a row says of a box behind its label. -/
def boxRest (matched : String) (b : BoxRect Float) : String :=
  String.join [" ", Text.quote matched, " ", number b.rect.width, "x", number b.rect.height, " @ (",
    number b.rect.x, ", ", number b.rect.y, ") [", String.intercalate " " b.classes.names, "] ",
    b.state.name]

theorem boxRow_eq (matched : String) (b : BoxRect Float) :
    boxRow matched b = indent b.depth ++ (b.label ++ boxRest matched b) := by
  simp only [boxRow, boxRest, String.join_cons]

theorem unbroken_boxRest (matched : String) (b : BoxRect Float) : Unbroken (boxRest matched b) := by
  simp only [boxRest, unbroken_join, List.forall_mem_cons, unbroken_quote, unbroken_number,
    unbroken_names, unbroken_stateName, List.not_mem_nil, false_implies, implies_true, and_true,
    true_and]
  decide

theorem unbroken_header (outcome : MatchOutcome) (s : Snapshot Float) :
    Unbroken (header outcome s) := by
  have houtcome : Unbroken outcome.name := by cases outcome <;> decide
  simp only [header, unbroken_join, List.forall_mem_cons, houtcome, unbroken_toString,
    unbroken_number, List.not_mem_nil, false_implies, implies_true, and_true, true_and]
  decide

end Report

/-- The text of the ribbon. -/
def BoxTree.shownText (t : BoxTree) : String :=
  String.join ((t.fragments.walk t.fragments.tops).map fun p => (t.piece p).display)

namespace Session

/-- The boxes that no box above them hides, in pre-order. -/
def displayed {α : Type} (s : Session α) : List s.board.tree.Box :=
  (s.board.tree.boxes.walk s.board.tree.boxes.tops).filter fun b =>
    (s.board.tree.boxes.ancestors b).all fun a => !(s.board.pins.box a).hidden

variable {α : Type} [Scalar α]

/-- The boxes that no box above hides are those that the layout shows, in the same order. -/
theorem Sound.displayed_eq {s : Session α} {stage : BoxId → Stage} (hs : s.Sound stage) :
    s.displayed = s.layout.shownBoxes := by
  rw [displayed, hs.nested.boxes.walk_tops, Layout.shownBoxes]
  refine List.filter_congr fun b _ => ?_
  rw [Bool.eq_iff_iff, List.all_eq_true]
  simp only [Bool.not_eq_true']
  exact (Layout.isDisplayed_iff hs.tidy.linked hs.nested.boxes b).symm

theorem Sound.join_ribbon {s : Session α} {stage : BoxId → Stage} (hs : s.Sound stage) :
    String.join (s.frame.ribbon.map (·.text)) = s.board.tree.shownText := by
  rw [BoxTree.shownText, hs.nested.fragments.walk_tops,
    ← s.layout.map_fst_placedPieces hs.nested.fragments, List.map_map]
  exact congrArg String.join (List.map_map ..)

/-- The header, the ribbon and a row for each displayed box; behind the labels stands `rest`. -/
def reportRows (s : Session Float) (outcome : MatchOutcome) (rest : s.board.tree.Box → String) :
    List String :=
  Report.header outcome s.frame :: ("input: " ++ s.board.tree.shownText) ::
    s.displayed.map fun b => Report.indent (s.board.tree.boxes.ancestors b).length ++
      ((s.board.tree.box b).label ++ rest b)

theorem length_reportRows (s : Session Float) (outcome : MatchOutcome)
    (rest : s.board.tree.Box → String) :
    (s.reportRows outcome rest).length = 2 + s.displayed.length := by
  rw [reportRows, List.length_cons, List.length_cons, List.length_map]
  omega

/-- Nothing on the ribbon and no label of a displayed box breaks a line. -/
def Unbroken (s : Session α) : Prop :=
  Report.Unbroken s.board.tree.shownText ∧
    ∀ b ∈ s.displayed, Report.Unbroken (s.board.tree.box b).label

/-- A report of a frame has the rows of the displayed boxes, and nothing behind labels breaks them.
-/
theorem Sound.exists_layoutRows {s : Session Float} {stage : BoxId → Stage} (hs : s.Sound stage)
    (outcome : MatchOutcome) : ∃ rest : s.board.tree.Box → String,
      (∀ b ∈ s.displayed, Report.Unbroken (rest b)) ∧
      Report.layoutRows s.board.tree outcome s.frame = s.reportRows outcome rest := by
  have hlist : s.layout.placedBoxes.map (·.1) = s.displayed := by
    rw [hs.displayed_eq]
    exact Layout.map_fst_placedBoxes hs.tidy.linked hs.nested.boxes
  have hnodup : (s.layout.placedBoxes.map (·.1)).Nodup := by
    rw [hlist, hs.displayed_eq]
    exact (List.nodup_finRange _).filter _
  -- No box is placed twice, so what its row says is a matter of the box alone.
  obtain ⟨rest, hrest⟩ := Forest.Flow.exists_table (fun e => Report.boxRest
    (Report.matchedBy s.board.tree e.1) (markTransient s.animator.active (s.layout.boxRect e))) ""
    hnodup
  refine ⟨rest, fun b hb => ?_, ?_⟩
  · rw [← hlist] at hb
    obtain ⟨e, he, rfl⟩ := List.mem_map.1 hb
    rw [← hrest e he]
    exact Report.unbroken_boxRest _ _
  · have hrows : (s.frame.boxes.map fun r =>
        Report.boxRow (Report.matchedBy s.board.tree r.id) r) = s.layout.placedBoxes.map fun e =>
          Report.indent (s.board.tree.boxes.ancestors e.1).length ++
            ((s.board.tree.box e.1).label ++ rest e.1) := by
      show ((s.layout.placedBoxes.map s.layout.boxRect).map _).map _ = _
      rw [List.map_map, List.map_map]
      refine List.map_congr_left fun e he => ?_
      have hdepth := Layout.depth_of_mem_placedBoxes hs.tidy.linked hs.nested.boxes he
      obtain ⟨state, hmark⟩ := exists_markTransient_eq s.animator.active (s.layout.boxRect e)
      rw [← hrest e he, ← hdepth, Function.comp_apply, Function.comp_apply, hmark,
        Report.boxRow_eq]
      rfl
    rw [Report.layoutRows, reportRows, hs.join_ribbon, ← hlist, List.map_map, hrows]
    rfl

/-- The rows of a frame are its lines if labels and ribbon do not break them. -/
theorem Sound.layout_in_lines {s : Session Float} {stage : BoxId → Stage} (hs : s.Sound stage)
    (outcome : MatchOutcome) : ∃ rest : s.board.tree.Box → String,
      Report.LinesIff s.Unbroken (Report.layout s.board.tree outcome s.frame)
        (s.reportRows outcome rest) := by
  obtain ⟨rest, hrest, hrows⟩ := hs.exists_layoutRows outcome
  refine ⟨rest, ?_⟩
  rw [Report.layout, hrows]
  refine .ofRows ?_
  have hinput : Report.Unbroken "input: " := by decide
  have hlabels := forall₂_congr fun b hb => Report.unbroken_row_iff
    (s.board.tree.boxes.ancestors b).length (s.board.tree.box b).label (hrest b hb)
  rw [reportRows, List.forall_mem_cons, List.forall_mem_cons, List.forall_mem_map, hlabels,
    Report.unbroken_append, iff_true_intro (Report.unbroken_header _ _), iff_true_intro hinput,
    true_and, true_and, Unbroken]

end Session

end ParseBoxes
