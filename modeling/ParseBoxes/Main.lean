import ParseBoxes.Command.Run

/-!
# The program

Reads the files that a command names, runs it, and writes what it gives.
-/

namespace ParseBoxes.Main

open Command

def filesOf : Action → List String
  | .render o => o.config.toList ++ [o.trace]
  | .classify path => [path]

/-- The number of a system error, which may come negated. -/
def systemCode (code : UInt32) : UInt32 := if code < 0x80000000 then code else 0 - code

def fileErrorOf : IO.Error → FileError
  | .inappropriateType _ code _ => if systemCode code = 20 then .notDirectory else .isDirectory
  | .invalidArgument _ code _ => if systemCode code = 36 then .nameTooLong else .notFound
  | _ => .notFound

def readFile (path : String) : IO (Except FileError String) := do
  if path.toList.contains '\x00' then return .error .embeddedNul
  try
    return fileText (← IO.FS.readBinFile path)
  catch e => return .error (fileErrorOf e)

/-- Writes outputs one after the other; the failure of the first that cannot be written. -/
def writeAll (out : IO.FS.Stream) : List Output → IO (Option Failure)
  | [] => return none
  | o :: rest => do
    let failed ← try
        out.putStr o.text
        out.flush
        pure false
      catch _ => pure true
    if failed then return some o.ifFull else writeAll out rest

def report (f : Failure) : IO UInt32 := do
  IO.eprintln (programName ++ ": " ++ f.message)
  return UInt32.ofNat f.exitCode

def run (args : List String) : IO UInt32 := do
  match Command.parse args with
  | .error usage => do
    if usage = .invalid then IO.eprint helpText
    IO.print usage.output
    return UInt32.ofNat usage.exitCode
  | .ok command => do
    let contents ← (filesOf command).mapM fun path => return (path, ← readFile path)
    let files : Files := fun path =>
      ((contents.find? (·.1 = path)).map (·.2)).getD (.error .notFound)
    match Command.run files command with
    | .error f => report f
    | .ok outputs => do
      match ← writeAll (← IO.getStdout) outputs with
      | none => return 0
      | some f => report f

end ParseBoxes.Main

/-- Runs the program with the arguments it is given. -/
def main (args : List String) : IO UInt32 := ParseBoxes.Main.run args
