import ParseBoxes.Session.Registry
import ParseBoxes.Trace.Node

/-!
# Parsing engines

An engine matches an input against a grammar and records a trace.  It may look grammars up in the
registry it is given, and register others.  An input that does not match is an outcome with a trace
of its own; anything else that goes wrong is a failure of the engine.
-/

namespace ParseBoxes

/-- What an engine gives back instead of the trace of a match. -/
inductive EngineError where
  /-- The input does not match; the trace shows how far the attempts came. -/
  | matchFailure (trace : List TraceNode)
  | failed (reason : String)

def EngineError.message : EngineError → String
  | matchFailure _ => "match failed"
  | failed reason => "engine error: " ++ reason

/-- A trace, or why there is none. -/
abbrev EngineAnswer := Except EngineError (List TraceNode)

/-- A parsing engine: it answers a grammar, an input and a start rule, and leaves the registry as it
has made it. -/
structure Engine where
  run : GrammarRegistry → (grammar input start : String) → EngineAnswer × GrammarRegistry

namespace Engine

/-- The outcome of an answer and its trace.  Only a failure of the engine itself has neither. -/
def extract : EngineAnswer → Except EngineError (MatchOutcome × List TraceNode)
  | .ok trace => .ok (.success, trace)
  | .error (.matchFailure trace) => .ok (.failure, trace)
  | .error (.failed reason) => .error (.failed reason)

def replay (d : TraceDocument) : EngineAnswer :=
  match d.outcome with
  | .success => .ok d.nodes
  | .failure => .error (.matchFailure d.nodes)

/-- The engine that answers with a document, whatever it is asked. -/
def recorded (d : TraceDocument) : Engine := ⟨fun registry _ _ _ => (replay d, registry)⟩

end Engine

end ParseBoxes
