import ParseBoxes.BoxPath

/-!
# The command line

There are two commands, each with options of its own; one option holds for both.  Options are given
by their full names, with a value behind an equals sign or as the next argument.  A value that
begins with a hyphen has to be given the first way.
-/

namespace ParseBoxes.Command

/-- What to render. -/
structure RenderOptions where
  trace : String
  config : Option String := none
  /-- The paths of boxes to toggle, as given. -/
  toggles : List String := []
  settle : Bool := false
  frameMillis : UInt64 := 16
  json : Bool := false

/-- A command. -/
inductive Action where
  | render (options : RenderOptions)
  | classify (trace : String)

/-- Why there is no command to run. -/
inductive Usage where
  /-- Help was asked for. -/
  | help
  /-- The version was asked for. -/
  | version
  /-- The arguments do not make a command. -/
  | invalid
deriving DecidableEq

def Usage.exitCode : Usage → Nat
  | help | version => 0
  | invalid => 2

def programName : String := "tracevis"

def versionText : String := programName ++ " 0.1.0\n"

def helpText : String :=
  "Replay recorded parse traces as nested, collapsible boxes\n\n"
    ++ "Usage: " ++ programName ++ " [-v] <COMMAND>\n\n"
    ++ "Commands:\n"
    ++ "  render    Build the boxes of a trace, apply toggles and print the layout\n"
    ++ "  classify  Print what is shown of every attempt of a trace\n"
    ++ "  help      Print this message\n\n"
    ++ "Options of render:\n"
    ++ "  --trace <FILE>     The recorded trace (JSON)\n"
    ++ "  --config <FILE>    The settings (TOML, or JSON in a file ending in .json)\n"
    ++ "  --toggle <PATH>    Toggle the box at this path of child indices, such as 0/1\n"
    ++ "  --settle           Run frames until nothing moves\n"
    ++ "  --frame-ms <N>     The length of a frame in milliseconds\n"
    ++ "  --json             Print the layout as JSON\n\n"
    ++ "Options of classify:\n"
    ++ "  --trace <FILE>     The recorded trace (JSON)\n"

/-- What is printed instead of running a command. -/
def Usage.output : Usage → String
  | help => helpText
  | version => versionText
  | invalid => ""

/-- An option. -/
inductive Opt where
  | trace
  | config
  | toggle
  | settle
  | frameMillis
  | json
  | verbose
  | help
  | version
deriving DecidableEq

namespace Opt

def takesValue : Opt → Bool
  | trace | config | toggle | frameMillis => true
  | _ => false

def repeats : Opt → Bool
  | toggle | verbose => true
  | _ => false

/-- Can this be the value of the option?  Files have names, and frame lengths are counts. -/
def accepts (o : Opt) (value : String) : Bool :=
  match o with
  | trace | config => !value.isEmpty
  | frameMillis => (BoxPath.index? value.toList).isSome
  | _ => true

def ofName? : String → Option Opt
  | "trace" => some trace
  | "config" => some config
  | "toggle" => some toggle
  | "settle" => some settle
  | "frame-ms" => some frameMillis
  | "json" => some json
  | "verbose" => some verbose
  | "help" => some help
  | "version" => some version
  | _ => none

def ofLetter? : Char → Option Opt
  | 'v' => some verbose
  | 'h' => some help
  | 'V' => some version
  | _ => none

end Opt

/-- Options that have been given, with their values, first to last. -/
abbrev Given := List (Opt × String)

/-- The value of an option given once at most. -/
def Given.value? (given : Given) (o : Opt) : Option String :=
  (given.find? (·.1 = o)).map (·.2)

/-- Takes note of an option. -/
def give (allowed : List Opt) (given : Given) (o : Opt) (value : String) : Except Usage Given :=
  if !allowed.contains o then .error .invalid
  else if o = .help then .error .help
  else if o = .version then .error .version
  else if !o.accepts value then .error .invalid
  else if !o.repeats && (given.value? o).isSome then .error .invalid
  else .ok (given ++ [(o, value)])

def giveLetters (allowed : List Opt) : Given → List Char → Except Usage Given
  | given, [] => .ok given
  | given, c :: rest =>
    match Opt.ofLetter? c with
    | none => .error .invalid
    | some o => do giveLetters allowed (← give allowed given o "") rest

/-- Cuts a text at its first equals sign, if there is one. -/
def splitValue (cs : List Char) : List Char × Option (List Char) :=
  match cs.dropWhile (· ≠ '=') with
  | '=' :: value => (cs.takeWhile (· ≠ '='), some value)
  | _ => (cs, none)

/-- Does an argument name options?  A single hyphen does not. -/
def isOption : List Char → Bool
  | '-' :: _ :: _ => true
  | _ => false

/-- Reads options until an argument is none; gives what follows. -/
def options (allowed : List Opt) : Given → List String → Except Usage (Given × List String)
  | given, [] => .ok (given, [])
  | given, arg :: rest =>
    match arg.toList with
    | ['-', '-'] => .ok (given, arg :: rest)
    | '-' :: '-' :: long =>
      let (name, attached) := splitValue long
      match Opt.ofName? (String.ofList name), attached with
      | none, _ => .error .invalid
      | some o, some value =>
        if o.takesValue then do
          options allowed (← give allowed given o (String.ofList value)) rest
        else .error .invalid
      | some o, none =>
        if !allowed.contains o then .error .invalid
        else if o.takesValue then
          match rest with
          | [] => .error .invalid
          | value :: rest =>
            if isOption value.toList then .error .invalid
            else do options allowed (← give allowed given o value) rest
        else do options allowed (← give allowed given o "") rest
    | '-' :: c :: letters => do
      options allowed (← giveLetters allowed given (c :: letters)) rest
    | _ => .ok (given, arg :: rest)

/-- Nothing may follow the options of a command but two hyphens. -/
def atEnd : List String → Except Usage Unit
  | [] | ["--"] => .ok ()
  | _ => .error .invalid

def assemble (given : Given) : Except Usage RenderOptions :=
  match given.value? .trace with
  | none => .error .invalid
  | some trace => .ok {
      trace := trace
      config := given.value? .config
      toggles := (given.filter (·.1 = .toggle)).map (·.2)
      settle := (given.value? .settle).isSome
      frameMillis :=
        (((given.value? .frameMillis).bind (BoxPath.index? ·.toList)).map UInt64.ofNat).getD 16
      json := (given.value? .json).isSome }

def names : List String := ["render", "classify", "help"]

def parse (args : List String) : Except Usage Action := do
  let (_, rest) ← options [.verbose, .help, .version] [] args
  match rest with
  | "render" :: rest =>
    let (given, rest) ←
      options [.trace, .config, .toggle, .settle, .frameMillis, .json, .verbose, .help] [] rest
    atEnd rest
    return .render (← assemble given)
  | "classify" :: rest =>
    let (given, rest) ← options [.trace, .verbose, .help] [] rest
    atEnd rest
    return .classify (← assemble given).trace
  | ["help"] => throw .help
  | ["help", name] => throw (if names.contains name then .help else .invalid)
  | _ => throw .invalid

end ParseBoxes.Command
