import QueryableApi.Text.Character

/-! # Snake case

A name falls into words at every character that is neither a letter nor a number, and inside a run of
letters and numbers at two kinds of place: between a lower-case letter and an upper-case one
(`originPort`), and before the last of several upper-case letters if a lower-case one follows
(`HTTPServer`). Numbers take the case of what stands before them in the word. Snake case is the words
in lower case, joined by underscores.
-/

namespace QueryableApi.Text

/-- The case of the word so far. -/
inductive WordCase
  /-- Nothing in the word has a case. -/
  | none
  /-- The last letter with a case was in lower case. -/
  | lower
  /-- The last letter with a case was in upper case. -/
  | upper
deriving DecidableEq, Repr

/-- The case of a word after one more character. -/
def WordCase.next (w : WordCase) (c : Char) : WordCase :=
  if isLower c then lower else if isUpper c then upper else w

/-- The words of a run of letters and numbers, given the case of the word that is being read and its
characters, last one first. -/
def wordsOfRun (w : WordCase) (current : List Char) : List Char → List (List Char)
  | [] => []
  | [c] => [(c :: current).reverse]
  | c :: d :: rest =>
    if w.next c = .lower ∧ isUpper d then
      (c :: current).reverse :: wordsOfRun .none [] (d :: rest)
    else if w = .upper ∧ isUpper c ∧ isLower d then
      current.reverse :: wordsOfRun .none [c] (d :: rest)
    else wordsOfRun (w.next c) (c :: current) (d :: rest)

/-- A word in lower case; a capital sigma at its end takes the final form. -/
def lowerWord : List Char → List Char
  | [] => []
  | [c] => if c = 'Σ' then ['ς'] else lower c
  | c :: rest => lower c ++ lowerWord rest

/-- The words of a name. -/
def words (name : String) : List (List Char) :=
  (name.toList.splitOnP fun c => !isAlphanumeric c).flatMap (wordsOfRun .none [])

/-- A name in snake case. -/
def snakeCase (name : String) : String :=
  "_".intercalate ((words name).map fun w => String.ofList (lowerWord w))

end QueryableApi.Text
