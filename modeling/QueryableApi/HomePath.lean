import QueryableApi.Text.Blank

/-! # Paths with a home directory

A path that is a tilde, or starts with a tilde and a slash or backslash, is taken from the home directory.
-/

namespace QueryableApi

/-- A path taken from a directory, unless it is absolute. -/
def joinPath (directory path : String) : String :=
  if path.toList.head? == some '/' then path
  else if directory.isEmpty || directory.toList.getLast? == some '/' then directory ++ path
  else directory ++ "/" ++ path

/-- The directory that stands for a home directory nobody knows. -/
def unknownHome : String := "~"

/-- A path as its user meant it: blanks at its ends do not count, and a tilde at its start stands for the
home directory. -/
def expandHome (home : Option String) (path : String) : String :=
  let home := home.getD unknownHome
  let path := Text.trim path
  match path.toList with
  | ['~'] => home
  | '~' :: '/' :: rest | '~' :: '\\' :: rest => joinPath home (String.ofList rest)
  | _ => path

end QueryableApi
