import QueryableApi.Yaml.Cursor

/-! # Gaps between words

A scalar that is written on the lines of the text itself is a sequence of words with gaps between them. A
gap within a line stands for itself. A gap that breaks the line stands for one space, or for the line
breaks after its first one if it has more; a first line break that is a separator is kept.
-/

namespace QueryableApi.Yaml

/-- What has been read of a gap. -/
structure Gap where
  /-- Its characters, as long as it does not break the line. -/
  spaces : List Char := []
  /-- Whether it breaks the line. -/
  broken : Bool := false
  /-- Its first line break, unless that is escaped. -/
  first : Option Char := none
  /-- Its other line breaks. -/
  others : List Char := []
deriving Repr

namespace Gap

/-- The gap with one more space or tab. -/
def addSpace (g : Gap) (c : Char) : Gap :=
  if g.broken then g else { g with spaces := g.spaces ++ [c] }

/-- The gap with one more line break. -/
def addBreak (g : Gap) (c : Char) : Gap :=
  if g.broken then { g with others := g.others ++ [c] }
  else { g with spaces := [], broken := true, first := some c }

/-- What the gap stands for. -/
def text (g : Gap) : List Char :=
  if g.broken then
    match g.first with
    | some '\n' => if g.others.isEmpty then [' '] else g.others
    | some c => c :: g.others
    | none => g.others
  else g.spaces

/-- Reads a gap; `indent` is the column before which no tab may stand on a new line, and `room` bounds the
number of characters. -/
def read (indent : Nat) : Nat → Gap → Cursor → Option (Gap × Cursor)
  | 0, _, _ => none
  | room + 1, g, c =>
    match c.lineBreak?, c.peek? with
    | some (b, next), _ => read indent room (g.addBreak b) next
    | none, some x =>
      if !isSpace x then some (g, c)
      else if g.broken && x == '\t' && c.column < indent then none
      else read indent room (g.addSpace x) (c.skip 1)
    | none, none => some (g, c)

end Gap

end QueryableApi.Yaml
