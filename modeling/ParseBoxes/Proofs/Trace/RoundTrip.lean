import ParseBoxes.Proofs.Json.Writing
import ParseBoxes.Trace.Json

/-!
# Trace documents are read back

What is written of a document lies no deeper than what it was read from
(`Trace.Reader.depth_le_of_document?`), and the text of a document that does not lie too deep gives
that document again.  So a document that has been read can be written and read for ever.
-/

namespace ParseBoxes

open Json (Value)

/-! ## Writing -/

theorem ExprKind.ofName?_name (k : ExprKind) : ofName? k.name = some k := by
  cases k <;> rfl

theorem MatchOutcome.ofName?_name (o : MatchOutcome) : ofName? o.name = some o := by
  cases o <;> rfl

namespace TraceNode

theorem forestToJson_eq_map (ns : List TraceNode) : forestToJson ns = ns.map toJson := by
  induction ns with
  | nil => rfl
  | cons n ns ih => rw [forestToJson, ih, List.map_cons]

/-- The place of an expression as it is written. -/
def sourceToJson : Option SourceInterval → Value
  | none => .null
  | some s => .ofFields [("start", .ofNat s.start.toNat), ("end", .ofNat s.stop.toNat)]

theorem toJson_eq (n : TraceNode) :
    n.toJson = .ofFields [
      ("succeeded", .bool n.succeeded),
      ("displayString", .ofString n.label),
      ("expr", .ofFields [("kind", .ofString n.kind.name), ("sourceInterval", sourceToJson n.source)]),
      ("interval", .ofFields [("contents", .ofString n.contents)]),
      ("children", .array (n.children.map toJson))] := by
  obtain ⟨succeeded, label, kind, source, contents, children⟩ := n
  rw [← forestToJson_eq_map]
  cases source <;> rfl

theorem written_sourceToJson (source : Option SourceInterval) : (sourceToJson source).Written := by
  cases source with
  | none => exact .null
  | some s =>
    refine .ofFields _ ?_
    simp only [List.forall_mem_cons]
    exact ⟨.ofNat s.start, .ofNat s.stop, List.forall_mem_nil _⟩

mutual

theorem written_toJson (n : TraceNode) : n.toJson.Written := by
  match n with
  | ⟨succeeded, label, kind, source, contents, children⟩ =>
    have hexpr : (Value.ofFields [("kind", .ofString kind.name),
        ("sourceInterval", sourceToJson source)]).Written := by
      refine .ofFields _ ?_
      simp only [List.forall_mem_cons]
      exact ⟨.ofString kind.name, written_sourceToJson source, List.forall_mem_nil _⟩
    have hinterval : (Value.ofFields [("contents", .ofString contents)]).Written := by
      refine .ofFields _ ?_
      simp only [List.forall_mem_cons]
      exact ⟨.ofString contents, List.forall_mem_nil _⟩
    rw [toJson_eq]
    refine .ofFields _ ?_
    simp only [List.forall_mem_cons]
    exact ⟨.bool succeeded, .ofString label, hexpr, hinterval,
      .array _ (written_forestToJson children), List.forall_mem_nil _⟩

theorem written_forestToJson (ns : List TraceNode) : ∀ v ∈ ns.map toJson, v.Written := by
  match ns with
  | [] => intro v hv; cases hv
  | n :: ns =>
    intro v hv
    rcases List.mem_cons.1 hv with rfl | hv
    · exact written_toJson n
    · exact written_forestToJson ns v hv

end

/-- A node is written two levels deeper than its children, and two levels deep at least. -/
theorem depth_toJson (n : TraceNode) :
    n.toJson.depth =
      max (sourceToJson n.source).depth (Value.itemsDepth (n.children.map toJson)) + 2 := by
  rw [toJson_eq]
  simp only [Value.ofFields, Value.ofString, List.map_cons, List.map_nil, Value.depth,
    Value.membersDepth]
  omega

theorem depth_toJson_lt {c n : TraceNode} (h : c ∈ n.children) :
    c.toJson.depth < n.toJson.depth := by
  have hle := Value.itemsDepth_le_iff.1 (Nat.le_refl _) _ (List.mem_map_of_mem (f := toJson) h)
  rw [depth_toJson n]
  omega

end TraceNode

/-! ## Reading what was written -/

namespace Trace.Reader

open TraceNode

theorem kind?_ofString_name (k : ExprKind) : kind? (.ofString k.name) = some k := by
  have hname : (Value.ofString k.name).name? = some k.name := Value.string?_ofString k.name
  rw [kind?, hname, Option.bind_some, ExprKind.ofName?_name]

theorem outcome?_ofString_name (o : MatchOutcome) : outcome? (.ofString o.name) = some o := by
  have hname : (Value.ofString o.name).name? = some o.name := Value.string?_ofString o.name
  rw [outcome?, hname, Option.bind_some, MatchOutcome.ofName?_name]

theorem source?_sourceToJson (source : Option SourceInterval) :
    source? (sourceToJson source) = some source := by
  cases source with
  | none => rfl
  | some s =>
    rw [sourceToJson, source?]
    · simp [Value.fields?_ofFields]
    · exact Value.noConfusion

theorem expr?_toJson (kind : ExprKind) (source : Option SourceInterval) :
    expr? (.ofFields [("kind", .ofString kind.name), ("sourceInterval", sourceToJson source)]) =
      some (kind, source) := by
  simp [expr?, Value.fields?_ofFields, kind?_ofString_name, source?_sourceToJson]

theorem contents?_toJson (s : String) :
    contents? (.ofFields [("contents", .ofString s)]) = some s := by
  simp [contents?, Value.fields?_ofFields]

/-- A node is read from what was written of it, if that is not too deep. -/
theorem node?_toJson {fuel : Nat} {n : TraceNode} (h : n.toJson.depth ≤ fuel) :
    node? fuel n.toJson = some n := by
  -- the reader goes down along the fuel, and children are written less deep than their node
  induction fuel generalizing n with
  | zero =>
    rw [toJson_eq] at h
    cases h
  | succ fuel ih =>
    have hchildren : (n.children.map toJson).mapM (node? fuel) = some n.children := by
      refine Json.mapM_map_eq_some fun c hc => ih ?_
      have := depth_toJson_lt hc
      omega
    have hfields : n.toJson.fields? nodeFields = some [
        some (.bool n.succeeded), some (.ofString n.label),
        some (.ofFields [("kind", .ofString n.kind.name), ("sourceInterval", sourceToJson n.source)]),
        some (.ofFields [("contents", .ofString n.contents)]),
        some (.array (n.children.map toJson))] := by
      rw [toJson_eq]
      simp [Value.fields?_ofFields, nodeFields]
    simp only [node?, hfields, hchildren, assemble?, Value.bool?, Value.string?_ofString,
      expr?_toJson, contents?_toJson, Option.bind_eq_bind, Option.bind_some, Option.pure_def]
    cases n
    rfl

theorem nodes?_toJson {ns : List TraceNode}
    (h : Value.itemsDepth (ns.map toJson) ≤ TraceDocument.maxDepth) :
    nodes? (.array (ns.map toJson)) = some ns :=
  Json.mapM_map_eq_some fun _ hn =>
    node?_toJson (Value.itemsDepth_le_iff.1 h _ (List.mem_map_of_mem hn))

/-- A document is read in the form in which it was written. -/
theorem document?_toJson {d : TraceDocument} (h : d.toJson.depth ≤ TraceDocument.maxDepth) :
    document? d.toJson = some d := by
  cases d with
  | bare ns =>
    rw [TraceDocument.toJson, forestToJson_eq_map] at h ⊢
    rw [document?, nodes?_toJson (Nat.le_of_succ_le h), Option.map_some]
    exact fun _ => Value.noConfusion
  | recorded outcome ns =>
    rw [TraceDocument.toJson, forestToJson_eq_map] at h ⊢
    have htrace : (Value.array (ns.map toJson)).depth ≤ 126 :=
      Value.depth_ofFields_le_iff.1 h ("trace", _) (by simp)
    rw [Value.depth_array] at htrace
    have hnodes : nodes? (.array (ns.map toJson)) = some ns := by
      refine nodes?_toJson ?_
      rw [TraceDocument.maxDepth]
      omega
    have hfields : (Value.ofFields [("outcome", .ofString outcome.name),
        ("trace", .array (ns.map toJson))]).fields? [["outcome"], ["trace"]] =
        some [some (.ofString outcome.name), some (.array (ns.map toJson))] :=
      Value.fields?_ofFields _ _
    rw [Value.ofFields, Value.fields?] at hfields
    rw [Value.ofFields, document?, hfields]
    simp only [Option.bind_eq_bind, Option.bind_some, outcome?_ofString_name, hnodes, Option.pure_def]

/-! ## Depth of what was read -/

theorem depth_le_of_source? {v : Value} {source : Option SourceInterval}
    (h : source? v = some source) : (sourceToJson source).depth ≤ v.depth := by
  unfold source? at h
  split at h
  · cases h
    exact Nat.zero_le _
  · obtain ⟨fields, hfields, h⟩ := Option.bind_eq_some_iff.1 h
    split at h
    · have hdeeper := Value.depth_lt_of_fields? hfields List.mem_cons_self
      have hone : (sourceToJson source).depth ≤ 1 := by
        cases source with
        | none => exact Nat.zero_le 1
        | some s => exact Nat.le_refl 1
      omega
    · cases h

theorem depth_lt_of_expr? {v : Value} {kind : ExprKind} {source : Option SourceInterval}
    (h : expr? v = some (kind, source)) : (sourceToJson source).depth < v.depth := by
  unfold expr? at h
  obtain ⟨fields, hfields, h⟩ := Option.bind_eq_some_iff.1 h
  split at h
  · obtain ⟨kind, -, h⟩ := Option.bind_eq_some_iff.1 h
    split at h
    · cases h
      exact Nat.lt_of_le_of_lt (Nat.zero_le _) (Value.depth_lt_of_fields? hfields List.mem_cons_self)
    · obtain ⟨source, hsource, h⟩ := Option.bind_eq_some_iff.1 h
      cases h
      exact Nat.lt_of_le_of_lt (depth_le_of_source? hsource)
        (Value.depth_lt_of_fields? hfields (by simp))
  · cases h

theorem assemble?_eq_some {fields : List (Option Value)} {children : List TraceNode} {n : TraceNode}
    (h : assemble? fields children = some n) :
    ∃ expr, some expr ∈ fields ∧ expr? expr = some (n.kind, n.source) ∧ n.children = children := by
  unfold assemble? at h
  split at h
  · simp only [Option.bind_eq_bind, Option.bind_eq_some_iff] at h
    obtain ⟨succeeded, -, h⟩ := h
    -- with or without a label, and with or without an interval
    split at h <;>
    · obtain ⟨label, -, h⟩ := Option.bind_eq_some_iff.1 h
      obtain ⟨⟨kind, source⟩, hexpr, h⟩ := Option.bind_eq_some_iff.1 h
      split at h <;>
      · obtain ⟨contents, -, h⟩ := Option.bind_eq_some_iff.1 h
        cases h
        exact ⟨_, by simp, hexpr, rfl⟩
  · cases h

/-- The children of a node are read from an array among its fields, if there is one. -/
theorem node?_eq_some {fuel : Nat} {v : Value} {n : TraceNode} (h : node? (fuel + 1) v = some n) :
    ∃ fields expr, v.fields? nodeFields = some fields ∧ some expr ∈ fields ∧
      expr? expr = some (n.kind, n.source) ∧
      (n.children = [] ∨ ∃ items, some (.array items) ∈ fields ∧
        items.mapM (node? fuel) = some n.children) := by
  unfold node? at h
  obtain ⟨fields, hfields, h⟩ := Option.bind_eq_some_iff.1 h
  split at h
  · rename_i items
    obtain ⟨children, hitems, h⟩ := Option.bind_eq_some_iff.1 h
    obtain ⟨expr, hmem, hexpr, hchildren⟩ := assemble?_eq_some h
    exact ⟨_, expr, hfields, hmem, hexpr, .inr ⟨items, by simp, hchildren ▸ hitems⟩⟩
  · obtain ⟨children, hnone, h⟩ := Option.bind_eq_some_iff.1 h
    obtain ⟨expr, hmem, hexpr, hchildren⟩ := assemble?_eq_some h
    cases hnone
    exact ⟨_, expr, hfields, hmem, hexpr, .inl hchildren⟩
  · cases h

/-- A node is written no deeper than what it was read from. -/
theorem depth_le_of_node? {fuel : Nat} {v : Value} {n : TraceNode} (h : node? fuel v = some n) :
    n.toJson.depth ≤ v.depth := by
  induction fuel generalizing v n with
  | zero => cases h
  | succ fuel ih =>
    obtain ⟨fields, expr, hfields, hmem, hexpr, hchildren⟩ := node?_eq_some h
    have hsource := depth_lt_of_expr? hexpr
    have hdeeper := Value.depth_lt_of_fields? hfields hmem
    -- without children an empty array is written, no deeper than the expression beside it
    have hitems : Value.itemsDepth (n.children.map toJson) + 2 ≤ v.depth := by
      rcases hchildren with hnil | ⟨items, hmem', hread⟩
      · rw [hnil, List.map_nil, Value.itemsDepth]
        omega
      · have hdeeper' := Value.depth_lt_of_fields? hfields hmem'
        have hle : Value.itemsDepth (n.children.map toJson) ≤ Value.itemsDepth items := by
          refine Value.itemsDepth_le_iff.2 (List.forall_mem_map.2 fun c hc => ?_)
          obtain ⟨item, hitem, hc⟩ := Json.exists_of_mem_mapM hread hc
          exact Nat.le_trans (ih hc) (Value.itemsDepth_le_iff.1 (Nat.le_refl _) item hitem)
        rw [Value.depth_array] at hdeeper'
        omega
    rw [depth_toJson]
    omega

/-- What is read as nodes lies deeper than they are written. -/
theorem itemsDepth_lt_of_nodes? {v : Value} {ns : List TraceNode} (h : nodes? v = some ns) :
    Value.itemsDepth (ns.map toJson) < v.depth := by
  unfold nodes? at h
  split at h
  · rename_i items
    refine Nat.lt_succ_of_le (Value.itemsDepth_le_iff.2 (List.forall_mem_map.2 fun n hn => ?_))
    obtain ⟨item, hitem, hn⟩ := Json.exists_of_mem_mapM h hn
    exact Nat.le_trans (depth_le_of_node? hn) (Value.itemsDepth_le_iff.1 (Nat.le_refl _) item hitem)
  · cases h

/-- A document is written no deeper than what it was read from. -/
theorem depth_le_of_document? {v : Value} {d : TraceDocument} (h : document? v = some d) :
    d.toJson.depth ≤ v.depth := by
  unfold document? at h
  split at h
  · rename_i ms
    obtain ⟨fields, hfields, h⟩ := Option.bind_eq_some_iff.1 h
    split at h
    · obtain ⟨outcome, -, h⟩ := Option.bind_eq_some_iff.1 h
      obtain ⟨ns, hns, h⟩ := Option.bind_eq_some_iff.1 h
      cases h
      have htrace : (Value.array (ns.map toJson)).depth ≤ Value.membersDepth ms := by
        have hdeeper := Value.depth_lt_of_fields? (v := .object ms) hfields
          (List.mem_cons_of_mem _ List.mem_cons_self)
        have hlower := itemsDepth_lt_of_nodes? hns
        rw [Value.depth_object] at hdeeper
        rw [Value.depth_array]
        omega
      rw [TraceDocument.toJson, forestToJson_eq_map, Value.depth_object, Value.depth_ofFields_le_iff]
      simp only [List.forall_mem_cons]
      exact ⟨Nat.zero_le _, htrace, List.forall_mem_nil _⟩
    · cases h
  · obtain ⟨ns, hns, rfl⟩ := Option.map_eq_some_iff.1 h
    rw [TraceDocument.toJson, forestToJson_eq_map, Value.depth_array]
    exact itemsDepth_lt_of_nodes? hns

end Trace.Reader

namespace TraceDocument

open Trace.Reader

theorem written_toJson (d : TraceDocument) : d.toJson.Written := by
  cases d with
  | bare ns =>
    rw [toJson, TraceNode.forestToJson_eq_map]
    exact .array _ (TraceNode.written_forestToJson ns)
  | recorded outcome ns =>
    rw [toJson, TraceNode.forestToJson_eq_map]
    refine .ofFields _ ?_
    simp only [List.forall_mem_cons]
    exact ⟨.ofString outcome.name, .array _ (TraceNode.written_forestToJson ns), List.forall_mem_nil _⟩

/-- The text of a document that does not lie too deep gives the document again. -/
theorem parse?_print {d : TraceDocument} (h : d.toJson.depth ≤ maxDepth) :
    parse? d.print = some d := by
  have hread : Value.parse? d.print.toList = some d.toJson := d.written_toJson.parse?_compact
  have hguard : (d.toJson.depth ≤ maxDepth && d.toJson.isPlain) = true := by
    simp [h, d.written_toJson.isPlain]
  simp only [parse?, hread, Option.bind_eq_bind, Option.bind_some]
  rw [if_pos hguard, document?_toJson h]

/-- A text that is read is one value, which lies no deeper than a text may. -/
theorem parse?_eq_some {text : String} {d : TraceDocument} (h : parse? text = some d) :
    ∃ v, Value.parse? text.toList = some v ∧ v.depth ≤ maxDepth ∧ document? v = some d := by
  obtain ⟨v, hv, h⟩ := Option.bind_eq_some_iff.1 h
  split at h
  · rename_i hguard
    simp only [Bool.and_eq_true, decide_eq_true_eq] at hguard
    exact ⟨v, hv, hguard.1, h⟩
  · cases h

/-- **What is read can be written and read again.**  However a document is spelled: if it is read,
then it is written as one value that lies no deeper than its text and no deeper than a text may, that
value is read from what is written, and it gives the same document in the same form. -/
theorem parse_print_of_parse {text : String} {d : TraceDocument} (h : parse? text = some d) :
    (∃ v, Value.parse? text.toList = some v ∧ d.toJson.depth ≤ v.depth) ∧
      d.toJson.depth ≤ maxDepth ∧ Value.parse? d.print.toList = some d.toJson ∧
      parse? d.print = some d := by
  obtain ⟨v, hv, hdepth, hd⟩ := parse?_eq_some h
  have hle := depth_le_of_document? hd
  have hmax : d.toJson.depth ≤ maxDepth := Nat.le_trans hle hdepth
  exact ⟨⟨v, hv, hle⟩, hmax, d.written_toJson.parse?_compact, parse?_print hmax⟩

/-- One node, spelled as an array that ends early, with an unknown member and a kind as an object. -/
def terseText : String :=
  "[[true, \"n\\u0031\", \x7b\"at\": null, \"kind\": \x7b\"primitive\": null\x7d\x7d]]"

/-- The same node with all fields by name. -/
def fullText : String :=
  "[\x7b\"succeeded\":true,\"displayString\":\"n1\"," ++
    "\"expr\":\x7b\"kind\":\"primitive\",\"sourceInterval\":null\x7d," ++
    "\"interval\":\x7b\"contents\":\"\"\x7d,\"children\":[]\x7d]"

/-- It is written so, and read again. -/
theorem parse_print_of_terseText :
    ∃ d, parse? terseText = some d ∧ d.print = fullText ∧
      (∃ v, Value.parse? terseText.toList = some v ∧ d.toJson.depth ≤ v.depth) ∧
      d.toJson.depth ≤ maxDepth ∧ Value.parse? d.print.toList = some d.toJson ∧
      parse? d.print = some d := by
  have hprint : (parse? terseText).map print = some fullText := by decide +kernel
  obtain ⟨d, hd, hprint⟩ := Option.map_eq_some_iff.1 hprint
  exact ⟨d, hd, hprint, parse_print_of_parse hd⟩

end TraceDocument

end ParseBoxes
