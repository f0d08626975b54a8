import ParseBoxes.Files
import ParseBoxes.Measure.Text
import ParseBoxes.Tween
import ParseBoxes.Json.Value
import ParseBoxes.Layout.Snapshot

/-!
# Settings

The settings of a session, and what can be wrong with them.
-/

namespace ParseBoxes

/-- The settings of a session. -/
structure Config (α : Type) where
  toggleMillis : UInt64
  easing : Easing
  /-- Shown in place of white space. -/
  glyph : String
  /-- The grid that text is measured on. -/
  metrics : CellMetrics α

namespace Config

/-- The settings that hold where nothing else is said. -/
def standard {α : Type} [Scalar α] : Config α := ⟨500, .cubicInOut, "·", .standard⟩

def toggleDuration {α : Type} (c : Config α) : Duration := .ofMillis c.toggleMillis

def toJson (c : Config Float) : Json.Value :=
  .ofFields [("toggle_duration_ms", .ofNat c.toggleMillis.toNat), ("easing", .ofString c.easing.name),
    ("whitespace_glyph", .ofString c.glyph),
    ("monospace", .ofFields [("char_width", Snapshot.number c.metrics.charWidth),
      ("line_height", Snapshot.number c.metrics.lineHeight),
      ("label_padding", Snapshot.number c.metrics.labelPadding)])]

end Config

/-- What is wrong with settings. -/
inductive ConfigError where
  | unreadable (e : FileError)
  | toml
  | json
  | emptyGlyph
deriving DecidableEq

/-- The text that reports an error in settings. -/
def ConfigError.message : ConfigError → String
  | unreadable e => "I/O error: " ++ e.message
  | toml => "TOML error"
  | json => "JSON error"
  | emptyGlyph => "whitespace_glyph must not be empty"

/-- Settings that can be worked with: there is a glyph to show. -/
def Config.validate {α : Type} (c : Config α) : Except ConfigError (Config α) :=
  if c.glyph.isEmpty then .error .emptyGlyph else .ok c

end ParseBoxes
