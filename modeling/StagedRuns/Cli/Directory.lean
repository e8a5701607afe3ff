/-!
A directory with files, as a command finds them: where a path leads from there, and why it may lead
to no file.
-/

namespace StagedRuns.Cli

inductive FileFault where
  | missing
  | directory
  | notDirectory
  | nameTooLong
  | encoding
  | other (reason : String)
deriving DecidableEq, Repr

def FileFault.message : FileFault → String
  | .missing => "No such file or directory (os error 2)"
  | .directory => "Is a directory (os error 21)"
  | .notDirectory => "Not a directory (os error 20)"
  | .nameTooLong => "File name too long (os error 36)"
  | .encoding => "stream did not contain valid UTF-8"
  | .other reason => reason

/-- A directory: its files, each with the names of the directories around it and its own. Of two
files with the same names the later one counts. -/
structure Directory where
  files : List (List String × List UInt8)

namespace Directory

def maxNameLength : Nat := 255

def maxPathLength : Nat := 4095

inductive Entry where
  | file (content : List UInt8)
  | directory

def entry? (directory : Directory) (names : List String) : Option Entry :=
  match directory.files.reverse.lookup names with
  | some content => some (.file content)
  | none =>
      if names.isEmpty || directory.files.any (names.isPrefixOf ·.1) then some .directory else none

/-- Where a path has led: to something in the directory, or to a directory outside it. -/
inductive Place where
  | inside (names : List String) (entry : Entry)
  | outside

def above (directory : Directory) (names : List String) : Place :=
  if names.isEmpty then .outside
  else
    match directory.entry? names.dropLast with
    | some entry => .inside names.dropLast entry
    | none => .outside

/-- The place that one more part of a path leads to. Only a directory can be gone through, and of
those outside nothing is known but that they are there. -/
def step (directory : Directory) (place : Place) (part : String) : Except FileFault Place :=
  match place with
  | .inside _ (.file _) => .error .notDirectory
  | .outside =>
      if part = "" ∨ part = "." ∨ part = ".." then .ok .outside
      else if maxNameLength < part.utf8ByteSize then .error .nameTooLong
      else .error .missing
  | .inside names .directory =>
      if part = "" ∨ part = "." then .ok place
      else if part = ".." then .ok (directory.above names)
      else if maxNameLength < part.utf8ByteSize then .error .nameTooLong
      else
        match directory.entry? (names ++ [part]) with
        | some entry => .ok (.inside (names ++ [part]) entry)
        | none => .error .missing

def read (directory : Directory) (path : String) : Except FileFault (List UInt8) := do
  if path.toList.contains '\x00' then
    throw (.other "file name contained an unexpected NUL byte")
  else if path = "" then throw .missing
  else if maxPathLength < path.utf8ByteSize then throw .nameTooLong
  else
    let start : Place := if path.startsWith "/" then .outside else .inside [] .directory
    match ← (path.splitOn "/").foldlM directory.step start with
    | .inside _ (.file content) => return content
    | _ => throw .directory

def names (path : String) : List String :=
  (path.splitOn "/").filter fun part => part ≠ "" && part ≠ "."

end Directory

end StagedRuns.Cli
