import ParseBoxes.Trace.Node
import ParseBoxes.Json.Fields

/-!
# Trace documents in JSON

Reading takes every spelling of a document: members in any order, members it does not know, a
second name for the interval, structures written as arrays of their fields, fields with defaults
left out.  It refuses a field given twice, texts nested too deeply, and spellings that denote
nothing, wherever they stand.  Writing gives one spelling to each document.
-/

namespace ParseBoxes

open Json (Value)

namespace TraceDocument

/-- How many arrays and objects may stand open in the text of a document. -/
def maxDepth : Nat := 127

end TraceDocument

namespace Trace.Reader

def kind? (v : Value) : Option ExprKind := v.name?.bind ExprKind.ofName?

def outcome? (v : Value) : Option MatchOutcome := v.name?.bind MatchOutcome.ofName?

/-- A source interval; null stands for its absence. -/
def source? : Value → Option (Option SourceInterval)
  | .null => some none
  | v => do
    match ← v.fields? [["start"], ["end"]] with
    | [some start, some stop] => return some ⟨← start.natural?, ← stop.natural?⟩
    | _ => none

def expr? (v : Value) : Option (ExprKind × Option SourceInterval) := do
  match ← v.fields? [["kind"], ["sourceInterval"]] with
  | [some kind, source] =>
    return (← kind? kind, ← match source with
      | none => some none
      | some s => source? s)
  | _ => none

def contents? (v : Value) : Option String := do
  match ← v.fields? [["contents"]] with
  | [none] => return ""
  | [some s] => s.string?
  | _ => none

def nodeFields : List (List String) :=
  [["succeeded"], ["displayString"], ["expr"], ["interval", "matchedInterval"], ["children"]]

/-- A node from its fields and its children, if they have been read. -/
def assemble? (fields : List (Option Value)) (children : List TraceNode) : Option TraceNode :=
  match fields with
  | [some succeeded, label, some expr, interval, _] => do
    let succeeded ← succeeded.bool?
    let label ← match label with
      | none => some ""
      | some l => l.string?
    let (kind, source) ← expr? expr
    let contents ← match interval with
      | none => some ""
      | some i => contents? i
    return ⟨succeeded, label, kind, source, contents, children⟩
  | _ => none

/-- A node of a value that is nested no deeper than `fuel`. -/
def node? : Nat → Value → Option TraceNode
  | 0, _ => none
  | fuel + 1, v => do
    let fields ← v.fields? nodeFields
    let children ← match fields with
      | [_, _, _, _, some (.array items)] => items.mapM (node? fuel)
      | [_, _, _, _, none] => some []
      | _ => none
    assemble? fields children

def nodes? : Value → Option (List TraceNode)
  | .array items => items.mapM (node? TraceDocument.maxDepth)
  | _ => none

/-- A document: an object with outcome and trace, or a bare list of nodes. -/
def document? : Value → Option TraceDocument
  | .object ms => do
    match ← Json.Members.fields? ms [["outcome"], ["trace"]] with
    | [some outcome, some trace] => return .recorded (← outcome? outcome) (← nodes? trace)
    | _ => none
  | v => (nodes? v).map .bare

end Trace.Reader

namespace TraceNode

mutual

/-- The one way in which a node is written: all fields, in their order. -/
def toJson : TraceNode → Value
  | ⟨succeeded, label, kind, source, contents, children⟩ =>
    .ofFields [
      ("succeeded", .bool succeeded),
      ("displayString", .ofString label),
      ("expr", .ofFields [
        ("kind", .ofString kind.name),
        ("sourceInterval", match source with
          | none => .null
          | some s => .ofFields [("start", .ofNat s.start.toNat), ("end", .ofNat s.stop.toNat)])]),
      ("interval", .ofFields [("contents", .ofString contents)]),
      ("children", .array (forestToJson children))]

/-- The nodes of a forest as they are written. -/
def forestToJson : List TraceNode → List Value
  | [] => []
  | n :: ns => n.toJson :: forestToJson ns

end

end TraceNode

namespace TraceDocument

def parse? (text : String) : Option TraceDocument := do
  let v ← Value.parse? text.toList
  if v.depth ≤ maxDepth && v.isPlain then Trace.Reader.document? v else none

def toJson : TraceDocument → Value
  | recorded outcome trace => .ofFields [
      ("outcome", .ofString outcome.name), ("trace", .array (TraceNode.forestToJson trace))]
  | bare trace => .array (TraceNode.forestToJson trace)

def print (d : TraceDocument) : String := d.toJson.compact

end TraceDocument

end ParseBoxes
