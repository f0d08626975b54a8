/-!
# Blank characters

The characters with the property White_Space, among them all that stand for an empty space or a line
break in any script.
-/

namespace ParseBoxes.Text

/-- Has the character the property White_Space? -/
def isBlank (c : Char) : Bool :=
  let n := c.toNat
  9 ≤ n && n ≤ 13 || n = 0x20 || n = 0x85 || n = 0xa0 || n = 0x1680 || 0x2000 ≤ n && n ≤ 0x200a
    || n = 0x2028 || n = 0x2029 || n = 0x202f || n = 0x205f || n = 0x3000

/-- A text is a run of blanks if it has characters and all of them are blank. -/
def isBlankRun (s : String) : Bool := !s.isEmpty && s.toList.all isBlank

/-- The characters of a text without the blanks at its two ends. -/
def trim (cs : List Char) : List Char :=
  ((cs.dropWhile isBlank).reverse.dropWhile isBlank).reverse

end ParseBoxes.Text
