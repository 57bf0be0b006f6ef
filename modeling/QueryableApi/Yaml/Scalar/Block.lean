import QueryableApi.Yaml.Cursor

/-! # Scalars written as blocks of lines

A bar keeps the line breaks of a block, and an angle folds them: a line break between two lines that start
with no space becomes a space, or nothing if empty lines follow it. A header may say how far the block is
indented, and whether the line breaks at its end are kept, dropped, or reduced to one.
-/

namespace QueryableApi.Yaml

/-- What becomes of the line breaks at the end of a block. -/
inductive Chomping
  /-- They are dropped. -/
  | strip
  /-- One of them stays. -/
  | clip
  /-- They all stay. -/
  | keep
deriving DecidableEq, Repr

/-- The chomping that a character of a header asks for. -/
def chomping? : Option Char → Option Chomping
  | some '-' => some .strip
  | some '+' => some .keep
  | _ => none

/-- The indentation that a character of a header asks for; the digit zero is refused. -/
def indentation? : Option Char → Option (Option Nat)
  | some c =>
    if c == '0' then none
    else if c.isDigit then some (some (c.toNat - '0'.toNat))
    else some none
  | none => some none

/-- The header of a block behind its first character: how far the block is indented below its parent, if
that is said, what becomes of its end, and what follows. -/
def blockHeader? (c : Cursor) : Option (Option Nat × Chomping × Cursor) := do
  let after (found : Bool) (c : Cursor) : Cursor := if found then c.skip 1 else c
  match chomping? c.peek? with
  | some chomping =>
    let c := c.skip 1
    let indentation ← indentation? c.peek?
    let c ← (after indentation.isSome c).endLine?
    some (indentation, chomping, c)
  | none =>
    let indentation ← indentation? c.peek?
    let c := after indentation.isSome c
    let chomping := if indentation.isSome then chomping? c.peek? else none
    let c ← (after chomping.isSome c).endLine?
    some (indentation, chomping.getD .clip, c)

/-- Passes over indentation and empty lines: the line breaks, the deepest column reached, and what
follows. Without an `indent`, all leading spaces are indentation. -/
def blockGap (indent : Option Nat) :
    Nat → List Char → Nat → Cursor → Option (List Char × Nat × Cursor)
  | 0, _, _, _ => none
  | room + 1, breaks, deepest, c =>
    let spaces := (c.rest.takeWhile (· == ' ')).length
    let c := c.skip (indent.elim spaces fun n => min spaces (n - c.column))
    let deepest := max deepest c.column
    if c.isAt '\t' && indent.all (c.column < ·) then none
    else
      match c.lineBreak? with
      | some (b, next) => blockGap indent room (breaks ++ [b]) deepest next
      | none => some (breaks, deepest, c)

/-- What precedes a line of a block. -/
structure BlockJoint where
  /-- The line break of the line before. -/
  first : Option Char := none
  /-- The empty lines since. -/
  others : List Char := []
  /-- Whether the line before starts with a space. -/
  spaced : Bool := false

/-- What a joint stands for before a line. -/
def BlockJoint.text (literal spacedNow : Bool) (j : BlockJoint) : List Char :=
  if !literal && j.first == some '\n' && !j.spaced && !spacedNow then
    if j.others.isEmpty then [' '] else j.others
  else j.first.toList ++ j.others

/-- The lines of a block: their text, last character first before `done`, what follows the last line, and
the cursor behind it. -/
def blockLines (literal : Bool) (indent : Nat) :
    Nat → List Char → BlockJoint → Cursor → Option (List Char × BlockJoint × Cursor)
  | 0, _, _, _ => none
  | room + 1, done, joint, c =>
    if c.column != indent || c.rest.isEmpty then some (done, joint, c)
    else do
      let spaced := c.peek?.any isSpace
      let done := (joint.text literal spaced).reverseAux done
      let (line, c) := c.takeWhile fun x => !isBreak x
      let first := c.lineBreak?.map Prod.fst
      let (others, _, c) ← blockGap (some indent) room [] 0 c.skipLineBreak
      blockLines literal indent room (line.reverseAux done) { first, others, spaced } c

/-- The block at the cursor, which is at its first character; `parent` is the indentation of the
collection that the block is in. -/
def block? (literal : Bool) (parent : Option Nat) (room : Nat) (c : Cursor) :
    Option (String × Cursor) := do
  let (indentation, chomping, c) ← blockHeader? (c.skip 1)
  let given := indentation.map (parent.getD 0 + ·)
  let (others, deepest, c) ← blockGap given room [] 0 c
  let indent := given.getD (max deepest (max (parent.elim 0 (· + 1)) 1))
  let (done, joint, c) ← blockLines literal indent room [] { others } c
  let ending := match chomping with
    | .strip => []
    | .clip => joint.first.toList
    | .keep => joint.first.toList ++ joint.others
  some (String.ofList (ending.reverseAux done).reverse, c)

end QueryableApi.Yaml
