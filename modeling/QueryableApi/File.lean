import QueryableApi.Text.Utf8

/-! # Files

What can go wrong when a file is read as text, and files held in memory: a working directory, further
directories, and the contents of files by absolute path. Whatever lies above one of them is a directory.
-/

namespace QueryableApi

/-- Why a file cannot be read as text. -/
inductive FileFault
  /-- There is no such file. -/
  | missing
  /-- It is a directory. -/
  | directory
  /-- Something on the way to it is no directory. -/
  | notDirectory
  /-- Its path cannot be one of a file. -/
  | invalidPath
  /-- Its path or a name in it is too long. -/
  | longName
  /-- It may not be read. -/
  | denied
  /-- Its bytes are no UTF-8. -/
  | notText
deriving DecidableEq, Repr

/-- The wording of a fault. -/
def FileFault.message : FileFault → String
  | missing => "No such file or directory (os error 2)"
  | directory => "Is a directory (os error 21)"
  | notDirectory => "Not a directory (os error 20)"
  | invalidPath => "file name contained an unexpected NUL byte"
  | longName => "File name too long (os error 36)"
  | denied => "Permission denied (os error 13)"
  | notText => "stream did not contain valid UTF-8"

/-- Bytes as text, if they are UTF-8. -/
def FileFault.textOf (bytes : List UInt8) : Except FileFault String :=
  (Text.ofUtf8? bytes).elim (.error .notText) .ok

/-- Files held in memory. -/
structure FileTree where
  /-- The directory against which relative paths are taken. -/
  workingDirectory : List String
  /-- The contents of the files, by absolute path. -/
  contents : List (List String × List UInt8)
  /-- Directories that need not hold files, by absolute path. -/
  directories : List (List String) := []

namespace FileTree

/-- The contents of the file at an absolute path. -/
def contents? (t : FileTree) (path : List String) : Option (List UInt8) := t.contents.lookup path

/-- Whether there is a directory at an absolute path. -/
def isDirectory (t : FileTree) (path : List String) : Bool :=
  path.isPrefixOf t.workingDirectory || t.directories.any path.isPrefixOf
    || t.contents.any fun f => path.isPrefixOf f.1 && path.length < f.1.length

/-- How many bytes a name may have. -/
def maxName : Nat := 255

/-- How many bytes a path may have. -/
def maxPath : Nat := 4095

/-- The absolute path that segments lead to from a directory. -/
def walk (t : FileTree) (place : List String) : List String → Except FileFault (List String)
  | [] => .ok place
  | segment :: rest =>
    if !t.isDirectory place then
      .error (if (t.contents? place).isSome then .notDirectory else .missing)
    else if segment == "" || segment == "." then walk t place rest
    else if segment == ".." then walk t place.dropLast rest
    else if maxName < segment.utf8ByteSize then .error .longName
    else walk t (place ++ [segment]) rest

/-- The bytes of the file at a path. -/
def bytes (t : FileTree) (path : String) : Except FileFault (List UInt8) := do
  let segments := (path.toList.splitOn '/').map String.ofList
  if path.toList.contains '\x00' then .error .invalidPath
  else if path.isEmpty then .error .missing
  else if maxPath < path.utf8ByteSize then .error .longName
  else
    let place ← t.walk (if segments.head? == some "" then [] else t.workingDirectory) segments
    match t.contents? place with
    | some bytes => .ok bytes
    | none => .error (if t.isDirectory place then .directory else .missing)

/-- The text of the file at a path. -/
def text (t : FileTree) (path : String) : Except FileFault String := do
  FileFault.textOf (← t.bytes path)

end FileTree

end QueryableApi
