import ParseBoxes.Text.Blank
import ParseBoxes.Text.Digits

/-!
# Box paths

A path names a box by child indices from the top: `0/2` is the third child of the first box.
-/

namespace ParseBoxes.BoxPath

/-- Cuts a text at every character of a kind; there is one part more than there are cuts. -/
def cut (sep : Char) : List Char → List (List Char)
  | [] => [[]]
  | c :: rest =>
    if c = sep then [] :: cut sep rest
    else match cut sep rest with
      | [] => [[c]]
      | part :: parts => (c :: part) :: parts

/-- To cut a text is to split it at every separator. -/
theorem cut_eq_splitOn (sep : Char) (cs : List Char) : cut sep cs = cs.splitOn sep := by
  induction cs with
  | nil => rfl
  | cons c rest ih =>
    rw [cut, ih, List.splitOn_cons_eq_if_modifyHead]
    by_cases hc : c = sep
    · simp [hc]
    · cases h : rest.splitOn sep with
      | nil => exact absurd h (List.splitOn_ne_nil sep rest)
      | cons part parts => simp [hc]

/-- The number that decimal digits denote, if it is below 2^64. -/
def decimal? (ds : List Char) : Option Nat :=
  if ds.isEmpty || !ds.all Digits.isDecimal then none
  else
    let n := Digits.toNat 10 ds
    if n < Nat.pow 2 64 then some n else none

/-- The index that digits denote; a plus sign may stand before them. -/
def index? : List Char → Option Nat
  | '+' :: ds => decimal? ds
  | ds => decimal? ds

/-- The index of one part of a path, which blanks may stand around; a part that is none is given
back. -/
def part (cs : List Char) : Except String Nat :=
  match index? (Text.trim cs) with
  | some i => .ok i
  | none => .error (String.ofList cs)

/-- The path of a text: indices with slashes between them.  The first part that is no index is given
back. -/
def parse (text : String) : Except String (List Nat) := (cut '/' text.toList).mapM part

def print (path : List Nat) : String := String.intercalate "/" (path.map toString)

end ParseBoxes.BoxPath
