import ParseBoxes.BoxPath

/-!
# Files

A command reads files by their paths.  Here is what can keep a file from being read, and how a path
leads from part to part to a file, to a folder or nowhere.
-/

namespace ParseBoxes

/-- Why a file cannot be read. -/
inductive FileError where
  | notFound
  | notText
  | isDirectory
  | notDirectory
  | nameTooLong
  /-- A path has no NUL in it. -/
  | embeddedNul
deriving DecidableEq

def FileError.message : FileError → String
  | notFound => "No such file or directory (os error 2)"
  | notText => "stream did not contain valid UTF-8"
  | isDirectory => "Is a directory (os error 21)"
  | notDirectory => "Not a directory (os error 20)"
  | nameTooLong => "File name too long (os error 36)"
  | embeddedNul => "file name contained an unexpected NUL byte"

/-- The contents of files. -/
abbrev Files := String → Except FileError String

def fileText (bytes : ByteArray) : Except FileError String :=
  match String.fromUTF8? bytes with
  | some text => .ok text
  | none => .error .notText

/-- Files in one folder, by name. -/
abbrev Folder := List (String × ByteArray)

namespace Folder

/-- Where a path leads to. -/
inductive Place where
  /-- The folder that a path starts from. -/
  | here
  /-- A folder above it, in which nothing is known by name. -/
  | above
  | root
  /-- A folder that every root has. -/
  | standard (name : String)
  | file (bytes : ByteArray)

def standardNames : List String :=
  ["bin", "boot", "dev", "etc", "home", "lib", "media", "mnt", "opt", "proc", "root", "run", "sbin",
    "srv", "sys", "tmp", "usr", "var"]

/-- The bytes of the longest name that a file may have. -/
def longestName : Nat := 255

/-- The bytes of the longest path that is followed. -/
def longestPath : Nat := 4095

/-- The folder that a place is in; the root is in itself. -/
def Place.up : Place → Place
  | here | above | file _ => .above
  | root | standard _ => .root

/-- What a place holds under a name.  The null device is an empty file. -/
def lookup? (folder : Folder) (place : Place) (name : String) : Option Place :=
  match place with
  | .here => (folder.find? (·.1 = name)).map fun (_, bytes) => .file bytes
  | .root => if standardNames.contains name then some (.standard name) else none
  | .standard "dev" => if name = "null" then some (.file .empty) else none
  | _ => none

/-- Follows one part of a path.  An empty part and a single dot stay in a folder; there is no way on
from a file, not even that one. -/
def follow (folder : Folder) (place : Place) (part : String) : Except FileError Place :=
  match place with
  | .file _ => .error .notDirectory
  | place =>
    if part = "" || part = "." then .ok place
    else if part = ".." then .ok place.up
    else if longestName < part.utf8ByteSize then .error .nameTooLong
    else match folder.lookup? place part with
      | some p => .ok p
      | none => .error .notFound

/-- Follows a path. -/
def walk (folder : Folder) (path : String) : Except FileError Place :=
  ((BoxPath.cut '/' path.toList).map String.ofList).foldlM folder.follow
    (if path.startsWith "/" then .root else .here)

/-- The contents of the file that a path leads to from a folder without subfolders. -/
def read (folder : Folder) : Files := fun path =>
  if path.toList.contains '\x00' then .error .embeddedNul
  else if path.isEmpty then .error .notFound
  else if longestPath < path.utf8ByteSize then .error .nameTooLong
  else match folder.walk path with
    | .error e => .error e
    | .ok (.file bytes) => fileText bytes
    | .ok _ => .error .isDirectory

end Folder

end ParseBoxes
