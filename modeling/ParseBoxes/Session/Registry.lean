/-!
# Grammar registries

A registry holds the sources of grammars by their names, in the order of the names' characters.
-/

namespace ParseBoxes

/-- Grammar sources by name. -/
structure GrammarRegistry where
  entries : List (String × String) := []
deriving DecidableEq

namespace GrammarRegistry

/-- Puts a source in its place, instead of an earlier one of the same name. -/
def insert (name source : String) : List (String × String) → List (String × String)
  | [] => [(name, source)]
  | (n, s) :: rest =>
    if n = name then (name, source) :: rest
    else if name < n then (name, source) :: (n, s) :: rest
    else (n, s) :: insert name source rest

def register (r : GrammarRegistry) (name source : String) : GrammarRegistry :=
  ⟨insert name source r.entries⟩

def get? (r : GrammarRegistry) (name : String) : Option String :=
  (r.entries.find? (·.1 = name)).map (·.2)

def contains (r : GrammarRegistry) (name : String) : Bool := (r.get? name).isSome

def size (r : GrammarRegistry) : Nat := r.entries.length

def names (r : GrammarRegistry) : List String := r.entries.map (·.1)

end GrammarRegistry

end ParseBoxes
