import ParseBoxes.Measure.Cache
import ParseBoxes.Layout.View
import ParseBoxes.Trace.Node
import ParseBoxes.Toggle

/-!
# The journal

Besides its result a run leaves traces: it takes measurements, it gives notice of what it does, and
it may run through a measure cache.  The journal keeps them apart from the state of a session, which
never depends on them.
-/

namespace ParseBoxes

/-- What a session gives notice of. -/
inductive Notice (α : Type) where
  | building (generation : UInt32) (nodes : Nat)
  | built (boxes fragments : Nat)
  | widthsInitialized (boxes : Nat)
  | refreshing (startRule : String) (inputBytes : Nat)
  | engineFailed (message : String)
  | rebuilt (generation : UInt32) (outcome : MatchOutcome) (boxes : Nat)
  | staleBox (id : BoxId) (generation : UInt32)
  | cancelled (transitions : Nat)
  | toggled (id : BoxId) (direction : Direction) (fromWidth targetWidth fromHeight targetHeight : α)
      (dependents : Nat)
  | widthFrame (id : BoxId) (width : α)
  | settled (id : BoxId) (direction : Direction)
  | pointerDown (id : BoxId) (direction : Direction) (x y : α)

/-- How much a log record matters. -/
inductive LogLevel where
  | trace
  | debug
  | info
  | warn
deriving DecidableEq

def LogLevel.name : LogLevel → String
  | trace => "TRACE"
  | debug => "DEBUG"
  | info => "INFO"
  | warn => "WARN"

/-- The value of a field of a log record. -/
inductive LogField (α : Type) where
  | text (s : String)
  | count (n : Nat)
  | length (x : α)

/-- A log record.  One that opens a span has the span's name and no message. -/
structure LogRecord (α : Type) where
  span : Option String
  level : LogLevel
  fields : List (String × LogField α)

namespace LogRecord

variable {α : Type}

def event (level : LogLevel) (message : String) (fields : List (String × LogField α)) :
    LogRecord α :=
  ⟨none, level, ("message", .text message) :: fields⟩

def ofNotice : Notice α → LogRecord α
  | .building generation nodes =>
    ⟨some "tracevis.build", .debug, [("generation", .count generation.toNat), ("nodes", .count nodes)]⟩
  | .built boxes fragments =>
    event .debug "built box tree" [("boxes", .count boxes), ("fragments", .count fragments)]
  | .widthsInitialized boxes => event .debug "initialized box widths" [("boxes", .count boxes)]
  | .refreshing startRule inputBytes =>
    ⟨some "tracevis.refresh", .info,
      [("start_rule", .text startRule), ("input_len", .count inputBytes)]⟩
  | .engineFailed message =>
    event .warn "engine failed; keeping previous tree" [("error", .text message)]
  | .rebuilt generation outcome boxes =>
    event .info "rebuilt visualization" [("generation", .count generation.toNat),
      ("outcome", .text outcome.title), ("boxes", .count boxes)]
  | .staleBox id generation =>
    event .warn "stale box id" [("id", .text (toString id)), ("generation", .count generation.toNat)]
  | .cancelled transitions =>
    event .debug "cancelled in-flight toggles" [("cancelled", .count transitions)]
  | .toggled id direction fromWidth targetWidth fromHeight targetHeight dependents =>
    event .debug "toggle" [("id", .text (toString id)), ("direction", .text direction.title),
      ("from_width", .length fromWidth), ("target_width", .length targetWidth),
      ("from_height", .length fromHeight), ("target_height", .length targetHeight),
      ("deps", .count dependents)]
  | .widthFrame id width =>
    event .trace "width frame" [("id", .text (toString id)), ("width", .length width)]
  | .settled id direction =>
    event .debug "toggle settled" [("id", .text (toString id)), ("direction", .text direction.title)]
  | .pointerDown id direction x y =>
    event .debug "pointer down" [("id", .text (toString id)), ("direction", .text direction.title),
      ("x", .length x), ("y", .length y)]

end LogRecord

/-- What a run leaves behind besides its result. -/
structure Journal (α : Type) where
  /-- How many measurements have been taken. -/
  measurements : Nat := 0
  notices : Array (Notice α) := #[]
  /-- The cache that requests to the measurer run through, if there is one. -/
  cache : Option (MeasureCache α) := none

/-- A run: it writes a journal, and ends early if a caller breaches its duty. -/
abbrev Run (α : Type) := StateT (Journal α) (Except Fault)

namespace Run

variable {α : Type}

def note (n : Notice α) : Run α Unit :=
  modify fun j => { j with notices := j.notices.push n }

def countMeasurement : Run α Unit :=
  modify fun j => { j with measurements := j.measurements + 1 }

/-- Passes requests on to the cache, in order. -/
def request (measure : Measurer α) (requests : Array Request) : Run α Unit :=
  modify fun j => { j with
    cache := j.cache.map fun c =>
      requests.foldl (fun c r => (c.measure measure r.text r.role).2) c }

/-- Asks questions of a fresh view of a layout. -/
def look {t : BoxTree} (l : Layout α t) {β : Type} (question : View α t β) : Run α β := do
  let (answer, memo) := question.run (.blank α t)
  request l.measure memo.requests
  return answer

/-- A value, unless it is a fault. -/
def check {β : Type} (x : Except Fault β) : Run α β := StateT.lift x

end Run

end ParseBoxes
