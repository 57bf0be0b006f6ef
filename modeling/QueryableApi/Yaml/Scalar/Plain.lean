import QueryableApi.Yaml.Scalar.Gap

/-! # Scalars without quotes

A plain scalar ends before a comment, before a colon that is set off from what follows, before a line that
starts or ends a document, and before a line with less indentation; between brackets it also ends before
brackets and commas, and no colon may stand right before one of these.
-/

namespace QueryableApi.Yaml

/-- Whether a character ends a plain scalar between brackets. -/
def isFlowMark (c : Char) : Bool := c == ',' || c == '[' || c == ']' || c == '\x7b' || c == '\x7d'

/-- The word at the start of a text. -/
def plainWord? (inFlow : Bool) : List Char → Option (List Char)
  | [] => some []
  | c :: rest =>
    if isSpace c || isBreak c then some []
    else if inFlow && c == ':' && rest.head?.any (fun x => isFlowMark x || x == '?') then none
    else if c == ':' && isGap rest.head? then some []
    else if inFlow && isFlowMark c then some []
    else (plainWord? inFlow rest).map (c :: ·)

/-- The rest of a plain scalar: its text, whether a line break follows it, and what follows. `done` holds
the characters before, last one first, and `gap` what stands between them and the cursor. -/
def plainFrom (inFlow : Bool) (indent : Nat) :
    Nat → List Char → Gap → Cursor → Option (String × Bool × Cursor)
  | 0, _, _, _ => none
  | room + 1, done, gap, c => do
    let stop (done : List Char) (gap : Gap) (c : Cursor) :=
      some (String.ofList done.reverse, gap.broken, c)
    if c.isDocumentMarker || c.isAt '#' then stop done gap c
    else
      let word ← plainWord? inFlow c.rest
      let c := c.skip word.length
      let (done, gap) :=
        if word.isEmpty then (done, gap) else (word.reverseAux (gap.text.reverseAux done), {})
      if c.peek?.any fun x => isSpace x || isBreak x then
        let (gap, c) ← gap.read indent room c
        if !inFlow && c.column < indent then stop done gap c
        else plainFrom inFlow indent room done gap c
      else stop done gap c

/-- The plain scalar at the cursor: its text, whether a line break follows it, and what follows. -/
def plain? (inFlow : Bool) (indent room : Nat) (c : Cursor) : Option (String × Bool × Cursor) :=
  plainFrom inFlow indent room [] {} c

end QueryableApi.Yaml
