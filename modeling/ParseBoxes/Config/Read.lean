import ParseBoxes.Config.Basic
import ParseBoxes.Json.Fields
import ParseBoxes.Toml.Document

/-!
# Reading settings

Settings are written in JSON or in TOML.  Every field has a default, fields that are not known are
passed over, and an array may stand for a structure.
-/

namespace ParseBoxes.Config

/-- The value of a field: its default if it is absent. -/
def fieldOr {β γ : Type} (standard : β) (read : γ → Option β) : Option γ → Option β
  | none => some standard
  | some v => read v

/-! ## JSON -/

def metricsOfJson? (v : Json.Value) : Option (CellMetrics Float) := do
  let s : CellMetrics Float := .standard
  match ← v.fields? [["char_width"], ["line_height"], ["label_padding"]] with
  | [width, height, padding] =>
    return ⟨← fieldOr s.charWidth Json.Value.real? width,
      ← fieldOr s.lineHeight Json.Value.real? height,
      ← fieldOr s.labelPadding Json.Value.real? padding⟩
  | _ => none

def ofJson? (v : Json.Value) : Option (Config Float) := do
  let s : Config Float := standard
  match ← v.fields? [["toggle_duration_ms"], ["easing"], ["whitespace_glyph"], ["monospace"]] with
  | [millis, easing, glyph, metrics] =>
    return ⟨← fieldOr s.toggleMillis Json.Value.natural? millis,
      ← fieldOr s.easing (fun v => v.name?.bind Easing.ofName?) easing,
      ← fieldOr s.glyph Json.Value.string? glyph,
      ← fieldOr s.metrics metricsOfJson? metrics⟩
  | _ => none

def parseJson (text : String) : Except ConfigError (Config Float) :=
  match (Json.Value.parse? text.toList).bind ofJson? with
  | some c => c.validate
  | none => .error .json

/-! ## TOML -/

/-- The values of the fields of a structure.  What is neither a table nor an array has none, but a
time counts as a table of unknown fields. -/
def tomlFields? (names : List String) : Toml.Item → Option (List (Option Toml.Item))
  | .table _ es => some (names.map (Toml.Entries.get? es))
  | .array items => some ((List.range names.length).map (items[·]?))
  | .moment => some (names.map fun _ => none)
  | .tables elements =>
    let rows := elements.reverse.map (Toml.Item.table .header)
    some ((List.range names.length).map (rows[·]?))
  | _ => none

def tomlCount? : Toml.Item → Option UInt64
  | .integer n => if 0 ≤ n then some (UInt64.ofNat n.toNat) else none
  | _ => none

/-- A double; a whole number is one too. -/
def tomlReal? : Toml.Item → Option Float
  | .real x => some x
  | .integer n => some (Int64.ofInt n).toFloat
  | _ => none

def tomlText? : Toml.Item → Option String
  | .text s => some s
  | _ => none

def tomlIsVoid : Toml.Item → Bool
  | .array items => items.isEmpty
  | .table _ es => es.isEmpty
  | .tables elements => elements.isEmpty
  | _ => false

/-- A name: a text, or the only key of a table whose item holds nothing. -/
def tomlName? : Toml.Item → Option String
  | .text s => some s
  | .table _ [(k, item)] => if tomlIsVoid item then some k else none
  | _ => none

def metricsOfToml? (item : Toml.Item) : Option (CellMetrics Float) := do
  let s : CellMetrics Float := .standard
  match ← tomlFields? ["char_width", "line_height", "label_padding"] item with
  | [width, height, padding] =>
    return ⟨← fieldOr s.charWidth tomlReal? width, ← fieldOr s.lineHeight tomlReal? height,
      ← fieldOr s.labelPadding tomlReal? padding⟩
  | _ => none

def ofToml? (es : Toml.Entries) : Option (Config Float) := do
  let s : Config Float := standard
  return ⟨← fieldOr s.toggleMillis tomlCount? (Toml.Entries.get? es "toggle_duration_ms"),
    ← fieldOr s.easing (fun item => (tomlName? item).bind Easing.ofName?) (Toml.Entries.get? es "easing"),
    ← fieldOr s.glyph tomlText? (Toml.Entries.get? es "whitespace_glyph"),
    ← fieldOr s.metrics metricsOfToml? (Toml.Entries.get? es "monospace")⟩

def parseToml (text : String) : Except ConfigError (Config Float) :=
  match (Toml.parse? text).bind ofToml? with
  | some c => c.validate
  | none => .error .toml

/-! ## Files -/

def fileName (path : String) : List Char :=
  ((path.toList.reverse.dropWhile (· = '/')).takeWhile (· ≠ '/')).reverse

/-- Is a file in JSON, going by its name?  The name must have something before the ending. -/
def isJsonFile (path : String) : Bool :=
  match (fileName path).reverse with
  | 'n' :: 'o' :: 's' :: 'j' :: '.' :: stem => !stem.isEmpty
  | _ => false

/-- Settings of a file, given by its path and what reading it gave. -/
def ofFile (path : String) (contents : Except FileError String) :
    Except ConfigError (Config Float) :=
  match contents with
  | .error e => .error (.unreadable e)
  | .ok text => if isJsonFile path then parseJson text else parseToml text

end ParseBoxes.Config
