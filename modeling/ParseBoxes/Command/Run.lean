import ParseBoxes.Command.Args
import ParseBoxes.Report
import ParseBoxes.Config.Read
import ParseBoxes.Trace.Json

/-!
# Running a command

A command reads files and writes text.  Nothing is written before all of it is known, so a command
that fails by itself has written nothing; but the place it writes to may be full.
-/

namespace ParseBoxes.Command

/-- Why a command fails. -/
inductive Failure where
  | invalidArgument (message : String)
  | unreadable (path : String) (e : FileError)
  | malformedTrace
  | config (e : ConfigError)
  /-- Writing data failed. -/
  | dataNotWritten
  /-- Writing text failed. -/
  | textNotWritten
  /-- A session was used against its rules, which no command does. -/
  | fault (e : Fault)

namespace Failure

def message : Failure → String
  | invalidArgument message => "invalid argument: " ++ message
  | unreadable path e => "cannot read " ++ path ++ ": " ++ e.message
  | malformedTrace => "JSON error"
  | config e => "config error: " ++ e.message
  | dataNotWritten => "JSON error"
  | textNotWritten => "I/O error: sink full"
  | fault e => e.message

def exitCode : Failure → Nat
  | invalidArgument _ => 2
  | unreadable _ _ | malformedTrace | config _ | dataNotWritten => 3
  | textNotWritten => 1
  | fault _ => 101

end Failure

/-- Text to be written, and the failure if there is no room for it. -/
structure Output where
  text : String
  ifFull : Failure := .textNotWritten

def readTrace (files : Files) (path : String) : Except Failure TraceDocument :=
  match files path with
  | .error e => .error (.unreadable path e)
  | .ok text =>
    match TraceDocument.parse? text with
    | some d => .ok d
    | none => .error .malformedTrace

def readPath (text : String) : Except Failure (List Nat) :=
  (BoxPath.parse text).mapError fun part =>
    .invalidArgument ("bad path segment \x60" ++ part ++ "\x60 in \x60" ++ text ++ "\x60")

/-- A step of a session; its fault is a failure. -/
def step {β : Type} (run : Run Float β) : Except Failure β :=
  (run.run {}).mapError Failure.fault |>.map (·.1)

/-- Toggles the box that a path leads to.  The click is not refused: the box is one of the tree on
show. -/
def toggle (s : Session Float) (path : List Nat) : Except Failure (Session Float) :=
  match s.boxAt path with
  | none => .error (.invalidArgument ("no box at path " ++ BoxPath.print path))
  | some id => (step (s.click id)).map (·.2)

/-- The settings of a rendering: those of a file if one is named. -/
def settings (files : Files) (o : RenderOptions) : Except Failure (Config Float) :=
  match o.config with
  | none => .ok Config.standard
  | some path => (Config.ofFile path (files path)).mapError .config

/-- Shows a trace in a new session. -/
def load (config : Config Float) (d : TraceDocument) : Except Failure (Session Float) :=
  step ((Session.begin config.metrics.measurer config {}).rebuild d.nodes d.outcome)

/-- Shows a trace, toggles the boxes at these paths, and runs frames if that is asked for. -/
def replay (config : Config Float) (o : RenderOptions) (paths : List (List Nat))
    (d : TraceDocument) : Except Failure (Session Float) := do
  let s ← load config d
  let s ← paths.foldlM toggle s
  if o.settle then (step (s.settle (.ofMillis o.frameMillis))).map (·.2) else return s

/-- The texts of a frame. -/
def printed (o : RenderOptions) (t : BoxTree) (outcome : MatchOutcome) (frame : Snapshot Float) :
    List Output :=
  if o.json then [⟨frame.toJson.pretty, .dataNotWritten⟩, { text := "\n" }]
  else [{ text := Report.layout t outcome frame }]

/-- Shows a trace, toggles boxes and prints the frame. -/
def render (files : Files) (o : RenderOptions) : Except Failure (List Output) := do
  let config ← settings files o
  let paths ← o.toggles.mapM readPath
  let d ← readTrace files o.trace
  let s ← replay config o paths d
  let frame ← step s.snapshot
  return printed o s.board.tree d.outcome frame

/-- Prints what is shown of every attempt of a trace. -/
def classify (files : Files) (path : String) : Except Failure (List Output) := do
  let d ← readTrace files path
  return [{ text := Report.trace d.nodes }]

def run (files : Files) : Action → Except Failure (List Output)
  | .render o => render files o
  | .classify path => classify files path

/-- Writes to a place with room for so many bytes: what has been written, and whether it failed. -/
def write (room : Nat) (written : ByteArray) : List Output → ByteArray × Option Failure
  | [] => (written, none)
  | o :: rest =>
    let bytes := o.text.toUTF8
    if bytes.size ≤ room then write (room - bytes.size) (written ++ bytes) rest
    else (written ++ bytes.extract 0 room, some o.ifFull)

/-- Runs a command and writes to a place with room for so many bytes: what has been written, and why
the command failed, if it did. -/
def execute (files : Files) (room : Nat) (a : Action) : ByteArray × Option Failure :=
  match run files a with
  | .error f => (.empty, some f)
  | .ok outputs => write room .empty outputs

end ParseBoxes.Command
