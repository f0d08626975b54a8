import ParseBoxes.Text.Invisible
import ParseBoxes.Text.Wide
import ParseBoxes.Text.Emoji

/-!
# The width of a text in columns

A character takes one column, two if it is wide, none if it is invisible.  Some characters join with
those behind them, and the joined shape has a width of its own: a carriage return with a line feed,
emoji sequences, ligatures of several scripts.  A text is therefore read from its end to its start,
and what has been seen so far is kept as `Ahead`.
-/

namespace ParseBoxes.Text

/-- What stands behind a character, as far as it can change the character's width. -/
inductive Sight where
  | plain
  | lineFeed
  /-- A skin tone. -/
  | skinTone
  | flagLetter
  | flagLetters
  /-- Something drawn as one emoji. -/
  | emoji
  /-- A zero-width joiner and an emoji behind it. -/
  | joinedEmoji
  /-- A keycap and, behind it, `joinedEmoji`. -/
  | joinedKeycap
  /-- A single flag letter, an even and an odd number of them, and behind them `joinedEmoji`. -/
  | joinedFlagLetter
  | joinedFlagsEven
  | joinedFlagsOdd
  /-- Tags of a flag, read from their end: no letters or digits yet, so many digits, so many
  letters. -/
  | tagEnd
  | tagDigits (n : Nat)
  | tagLetters (n : Nat)
  | kiratRaiE
  | kiratRaiAi
  | alef
  /-- Letters that end a ligature; `joined` says that a zero-width joiner stands before them. -/
  | lamed (joined : Bool)
  | buginese (joined : Bool)
  | bugineseVowel
  | tifinagh (joined : Bool)
  | tifinaghJoiner
  | lisuTone
  | orkhon (joined : Bool)
  | khmerLetter
deriving DecidableEq

namespace Sight

/-- Marks may stand inside a ligature that ends like this without breaking it. -/
def letsMarksThrough : Sight → Bool
  | lamed _ | buginese _ | bugineseVowel | tifinagh _ | tifinaghJoiner | lisuTone | orkhon _
  | khmerLetter => true
  | _ => false

/-- Variation selectors are noted without forgetting what stands behind them. -/
def keepsVariations (s : Sight) : Bool := s.letsMarksThrough || s = alef

/-- A zero-width joiner before a letter that ends a ligature. -/
def join : Sight → Sight
  | lamed _ => lamed true
  | buginese _ => buginese true
  | tifinagh _ => tifinagh true
  | orkhon _ => orkhon true
  | s => s

end Sight

/-- What stands behind a character, and the variation selector right behind it. -/
structure Ahead where
  sight : Sight
  /-- The selector of the emoji form. -/
  asEmoji : Bool
  /-- The selector of the text form. -/
  asText : Bool
  /-- The selector of the wide form of a quotation mark. -/
  asWide : Bool
deriving DecidableEq

namespace Ahead

/-- What a character makes of it by its sight alone. -/
def of (s : Sight) : Ahead := ⟨s, false, false, false⟩

/-- Nothing of interest. -/
def plain : Ahead := of .plain

/-- The selector of the emoji form comes before what stands ahead. -/
def selectEmoji (a : Ahead) : Ahead :=
  if a.sight.keepsVariations || a.sight = .joinedEmoji || a.sight = .joinedKeycap then
    { a with asEmoji := true }
  else ⟨.plain, true, false, false⟩

/-- The selector of the emoji form had no effect. -/
def dropEmoji (a : Ahead) : Ahead :=
  if a.sight.keepsVariations then { a with asEmoji := false } else plain

/-- The selector of the text form comes before what stands ahead. -/
def selectText (a : Ahead) : Ahead :=
  if a.sight.keepsVariations then { a with asText := true } else ⟨.plain, false, true, false⟩

/-- The selector of the wide form comes before what stands ahead. -/
def selectWide (a : Ahead) : Ahead :=
  if a.sight.keepsVariations then { a with asWide := true } else ⟨.plain, false, false, true⟩

end Ahead

/-- The letters that flags are spelled with. -/
def isFlagLetter (c : Char) : Bool := 0x1f1e6 ≤ c.toNat && c.toNat ≤ 0x1f1ff

/-- The five skin tones. -/
def isSkinTone (c : Char) : Bool := 0x1f3fb ≤ c.toNat && c.toNat ≤ 0x1f3ff

/-- Letters that are not shown and spell the name of a flag. -/
def isTagLetter (c : Char) : Bool := 0xe0061 ≤ c.toNat && c.toNat ≤ 0xe007a

/-- Digits that are not shown and spell the name of a flag. -/
def isTagDigit (c : Char) : Bool := 0xe0030 ≤ c.toNat && c.toNat ≤ 0xe0039

def isTifinaghConsonant (c : Char) : Bool :=
  0x2d31 ≤ c.toNat && c.toNat ≤ 0x2d65 || c.toNat = 0x2d6f

/-- Letters of the joining group Alef. -/
def isAlef (c : Char) : Bool :=
  let n := c.toNat
  n = 0x622 || n = 0x623 || n = 0x625 || n = 0x627 || 0x671 ≤ n && n ≤ 0x673 || n = 0x675
    || n = 0x773 || n = 0x774 || 0x870 ≤ n && n ≤ 0x882

/-- Letters of the joining group Lam. -/
def isLam (c : Char) : Bool :=
  let n := c.toNat
  n = 0x644 || 0x6b5 ≤ n && n ≤ 0x6b8 || n = 0x76a || n = 0x8a6 || n = 0x8c7

/-- Letters that a coeng sign turns into a subscript. -/
def isKhmerSubscript (c : Char) : Bool :=
  let n := c.toNat
  0x1780 ≤ n && n ≤ 0x1782 || 0x1784 ≤ n && n ≤ 0x1787 || 0x1789 ≤ n && n ≤ 0x178c
    || 0x178e ≤ n && n ≤ 0x1793 || 0x1795 ≤ n && n ≤ 0x1798 || 0x179b ≤ n && n ≤ 0x179d
    || n = 0x17a0 || n = 0x17a2 || n = 0x17a7 || 0x17ab ≤ n && n ≤ 0x17ac || n = 0x17af

/-- Marks that stand inside a ligature without breaking it. -/
def isIgnorableMark (c : Char) : Bool :=
  let n := c.toNat
  n = 0x34f || 0x17b4 ≤ n && n ≤ 0x17b5 || 0x180b ≤ n && n ≤ 0x180d || n = 0x180f
    || n = 0x200d || 0xfe00 ≤ n && n ≤ 0xfe0f || 0xe0100 ≤ n && n ≤ 0xe01ef

/-- Quotation marks with a narrow and a wide form. -/
def isCurlyQuote (c : Char) : Bool :=
  c.toNat = 0x2018 || c.toNat = 0x2019 || c.toNat = 0x201c || c.toNat = 0x201d

/-- A character with nothing of interest behind it: its width, and what it is to the one before. -/
def alone (c : Char) : Int × Ahead :=
  let n := c.toNat
  if n = 0x5dc then (1, .of (.lamed false))
  else if isAlef c then (1, .of .alef)
  else if isKhmerSubscript c then (1, .of .khmerLetter)
  else if n = 0x17d8 then (3, .plain)
  else if n = 0x1a10 then (1, .of (.buginese false))
  else if isTifinaghConsonant c then (1, .of (.tifinagh false))
  else if n = 0xa4fc || n = 0xa4fd then (1, .of .lisuTone)
  else if n = 0xfe01 then (0, ⟨.plain, false, false, true⟩)
  else if n = 0xfe0e then (0, ⟨.plain, false, true, false⟩)
  else if n = 0xfe0f then (0, ⟨.plain, true, false, false⟩)
  else if n = 0x10c03 then (1, .of (.orkhon false))
  else if n = 0x16d67 then (1, .of .kiratRaiE)
  else if n = 0x16d68 then (1, .of .kiratRaiAi)
  else if isFlagLetter c then (1, .of .flagLetter)
  else if isSkinTone c then (2, .of .skinTone)
  else if emojiRanges.contains c then (2, .of .emoji)
  else if invisibleRanges.contains c then (0, .plain)
  else if wideRanges.contains c then (2, .plain)
  else (1, .plain)

/-- An invisible character between two Arabic letters that does not part them. -/
def isTransparent (c : Char) : Bool :=
  invisibleRanges.contains c && !separatingRanges.contains c

/-- A character that joins with what stands behind it; none if it does not. -/
def joining (c : Char) (s : Sight) : Option (Int × Ahead) :=
  let n := c.toNat
  let inside (s : Sight) : Option (Int × Ahead) := some (0, .of s)
  match s with
  | .plain | .lineFeed => none
  | .alef =>
    if isLam c then inside .plain else if isTransparent c then inside .alef else none
  | .lamed joined => if joined && n = 0x5d0 then inside .plain else none
  | .khmerLetter => if n = 0x17d2 then some (-1, .plain) else none
  | .buginese joined => if joined && n = 0x1a17 then inside .bugineseVowel else none
  | .bugineseVowel => if n = 0x1a15 then inside .plain else none
  | .tifinagh joined =>
    if n = 0x2d7f then some (1, .of .tifinaghJoiner)
    else if joined && isTifinaghConsonant c then inside .plain
    else none
  | .tifinaghJoiner => if isTifinaghConsonant c then some (-1, .plain) else none
  | .lisuTone => if 0xa4f8 ≤ n && n ≤ 0xa4fb then inside .plain else none
  | .orkhon joined => if joined && n = 0x10c32 then inside .plain else none
  | .skinTone =>
    if modifierBaseRanges.contains c then inside .emoji
    else if n = 0x200d then inside .joinedEmoji
    else none
  | .flagLetter => if isFlagLetter c then some (1, .of .flagLetters) else none
  | .flagLetters =>
    if isFlagLetter c then some (1, .of .flagLetters)
    else if n = 0x200d then inside .joinedEmoji
    else none
  | .emoji => if n = 0x200d then inside .joinedEmoji else none
  | .joinedKeycap => none
  | .joinedFlagLetter => if isFlagLetter c then some (-1, .of .joinedFlagsEven) else none
  | .joinedFlagsEven =>
    if isFlagLetter c then some (3, .of .joinedFlagsOdd)
    else if n = 0x200d then inside .joinedEmoji
    else none
  | .joinedFlagsOdd =>
    if isFlagLetter c then some (-1, .of .joinedFlagsEven)
    else if n = 0x200d then inside .joinedEmoji
    else none
  | .joinedEmoji =>
    if n = 0x20e3 then inside .joinedKeycap
    else if isFlagLetter c then some (1, .of .joinedFlagLetter)
    else if isSkinTone c then inside .skinTone
    else if n = 0xe007f then inside .tagEnd
    else if emojiRanges.contains c then inside .emoji
    else none
  | .tagEnd =>
    if isTagLetter c then inside (.tagLetters 1)
    else if isTagDigit c then inside (.tagDigits 1)
    else none
  | .tagLetters k =>
    if isTagLetter c && k < 6 then inside (.tagLetters (k + 1))
    else if isTagDigit c && k < 5 then inside (.tagDigits 1)
    else if n = 0x1f3f4 && 3 ≤ k then inside .emoji
    else none
  | .tagDigits k =>
    if isTagDigit c && k < 3 then inside (.tagDigits (k + 1))
    else if n = 0x1f3f4 && k = 3 then inside .emoji
    else none
  | .kiratRaiE =>
    if n = 0x16d63 then inside .plain
    else if n = 0x16d67 then inside .kiratRaiAi
    else if n = 0x16d68 then some (1, .of .kiratRaiE)
    else if n = 0x16d69 then inside .plain
    else none
  | .kiratRaiAi => if n = 0x16d63 then inside .plain else none

/-- A character above U+00A0 that is shown in its usual form. -/
def usual (c : Char) (a : Ahead) : Int × Ahead :=
  if a.sight.letsMarksThrough && c.toNat = 0x200d then (0, { a with sight := a.sight.join })
  else if a.sight.letsMarksThrough && isIgnorableMark c then (0, a)
  else if a = .of a.sight then (joining c a.sight).getD (alone c)
  else alone c

/-- A character above U+00A0: the width it adds, and what the one before it has ahead.  Of two
selectors that wait for a character, that of the text form is tried first; one that does not apply
is dropped. -/
def above (c : Char) (a : Ahead) : Int × Ahead :=
  if a = .plain then alone c
  else if c.toNat = 0xfe0f then (0, a.selectEmoji)
  else if c.toNat = 0xfe0e then (0, a.selectText)
  else if c.toNat = 0xfe01 then (0, a.selectWide)
  else if a.asText && textFormRanges.contains c then (1, .plain)
  else if a.asWide && isCurlyQuote c then (2, .plain)
  else usual c { a with asText := false, asWide := false }

/-- One character more to the left. -/
def addColumn (c : Char) (a : Ahead) : Int × Ahead :=
  let special := a.asEmoji && emojiFormRanges.contains c
  if special then
    (if a.sight = .joinedEmoji || a.sight = .joinedKeycap then 0 else 2, .of .emoji)
  else
    let a := if a.asEmoji then a.dropEmoji else a
    if c = '\n' then (1, .of .lineFeed)
    else if c = '\r' && a = .of .lineFeed then (0, .plain)
    else if c.toNat ≤ 0xa0 then (1, .plain)
    else above c a

/-- The number of columns that a text takes. -/
def columns (s : String) : Nat :=
  (s.toList.foldr (fun c (sum, a) =>
    let (width, a') := addColumn c a
    (sum + width, a')) ((0 : Int), Ahead.plain)).1.toNat

end ParseBoxes.Text
