import ParseBoxes.Json.Value

/-!
# Fields of structures

A structure is written as an object with its fields by name or as an array with its fields by place.
Members of other names are passed over; a field given twice is refused, and so is a key that denotes
no text.  An array may end early but not have more items than there are fields.
-/

namespace ParseBoxes.Json

/-- The members of an object; keys are spellings. -/
abbrev Members := List (List Char × Value)

namespace Members

/-- The value of the field that goes by one of the names; none if it is given twice.  An absent
field is `some none`. -/
def field? (ms : Members) (names : List String) : Option (Option Value) :=
  match ms.filter fun (k, _) => ((Text.decode k).map String.ofList).any names.contains with
  | [] => some none
  | [(_, v)] => some (some v)
  | _ => none

/-- The values of fields, each with all the names it goes by. -/
def fields? (ms : Members) (fields : List (List String)) : Option (List (Option Value)) :=
  if ms.all fun (k, _) => (Text.decode k).isSome then fields.mapM (field? ms) else none

end Members

namespace Value

/-- The values of the fields of a structure, in their order, each absent or there. -/
def fields? (v : Value) (fields : List (List String)) : Option (List (Option Value)) :=
  match v with
  | .object ms => Members.fields? ms fields
  | .array items =>
    if items.length ≤ fields.length then
      some (items.map some ++ List.replicate (fields.length - items.length) none)
    else none
  | _ => none

def bool? : Value → Option Bool
  | .bool b => some b
  | _ => none

/-- A name: a string, or the only key of an object whose member is null. -/
def name? : Value → Option String
  | .text s => (Value.text s).string?
  | .object [(k, .null)] => (Value.text k).string?
  | _ => none

end Value

end ParseBoxes.Json
