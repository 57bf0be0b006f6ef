import QueryableApi.Decimal.Reading
import QueryableApi.Json.Fault
import QueryableApi.Json.Raw
import QueryableApi.Text.Hexadecimal

/-! # Reading JSON text

`Json.read` takes a text to the value it denotes, or to the first fault and its place. Of two members
with one key the later value wins in the place of the earlier. A whole number that fits in 64 bits is
kept exactly; any other number becomes a double, and one beyond the double range is a fault. Arrays
and objects may be nested `Json.maxDepth` deep.

`Json.readRaw` reads the text as written. Its tolerant mode keeps a number beyond the double range and
half a surrogate pair as gaps, and nests without a limit. Every step of either leaves a cursor strictly
behind the one it started from, which is why reading ends.
-/

namespace QueryableApi.Json

open Cursor

/-- How deep arrays and objects may be nested. -/
def maxDepth : Nat := 127

/-- A complaint at a place. -/
def complain {α : Type} (fault : Fault) (position : Position) : Except ReadError α :=
  .error ⟨fault, position⟩

/-! ## Words and strings -/

/-- Reads the rest of a word such as `null`. -/
def readWord (word : List Char) (c : Cursor) :
    Except ReadError { d : Cursor // d.length ≤ c.length } :=
  match word with
  | [] => .ok ⟨c, Nat.le_refl _⟩
  | x :: rest =>
    match c.next? with
    | none => complain .endInValue c.here
    | some (y, d) =>
      if x = y then do
        let ⟨e, he⟩ ← readWord rest d.1
        .ok ⟨e, Nat.le_trans he (Nat.le_of_lt d.2)⟩
      else complain .expectedWord c.peeked

/-- The character for a one-letter escape. -/
def simpleEscape? : Char → Option Char
  | '"' => some '"'
  | '\\' => some '\\'
  | '/' => some '/'
  | 'b' => some '\x08'
  | 'f' => some '\x0c'
  | 'n' => some '\n'
  | 'r' => some '\r'
  | 't' => some '\t'
  | _ => none

/-- Reads four hexadecimal digits. -/
def readHex (c : Cursor) : Except ReadError (Nat × After c) :=
  if c.hasBytes 4 then
    match h : c.rest with
    | x :: y :: z :: w :: rest =>
      match Text.hexValue? x, Text.hexValue? y, Text.hexValue? z, Text.hexValue? w with
      | some x, some y, some z, some w =>
        .ok (x * 4096 + y * 256 + z * 16 + w,
          ⟨⟨rest, ⟨c.position.line, c.position.column + 4⟩⟩, by simp [length, h]; omega⟩)
      | _, _, _, _ => complain .invalidEscape (c.ahead 4)
    | _ => complain .invalidEscape (c.ahead 4)
  else complain .endInString c.atEnd

/-- Reads one given character of the second half of a surrogate pair. -/
def readPairMark (mark : Char) (c : Cursor) : Except ReadError (After c) :=
  match c.next? with
  | none => complain .endInString c.here
  | some (x, d) => if x = mark then .ok d else complain .endOfEscape c.peeked

/-- Reads what follows `\u`: one code unit, or two that form a surrogate pair. -/
def readUnicode (c : Cursor) : Except ReadError (Char × After c) := do
  let (first, d) ← readHex c
  if 0xDC00 ≤ first ∧ first ≤ 0xDFFF then complain .loneSurrogate d.1.here
  else if first < 0xD800 ∨ 0xDBFF < first then .ok (Char.ofNat first, d)
  else do
    let e ← readPairMark '\\' d.1
    let f ← readPairMark 'u' e.1
    let (second, g) ← readHex f.1
    if second < 0xDC00 ∨ 0xDFFF < second then complain .loneSurrogate g.1.here
    else .ok (Char.ofNat (0x10000 + (first - 0xD800) * 0x400 + (second - 0xDC00)),
      ⟨g.1, by have := g.2; have := f.2; have := e.2; have := d.2; omega⟩)

/-- What happens to a number or string that is well formed and denotes nothing. -/
inductive Mode
  /-- It is a fault. -/
  | strict
  /-- It is a gap. -/
  | tolerant
deriving DecidableEq, Repr

/-- Reads what follows `\u` in a mode; the tolerant one makes half a pair a gap. -/
def readUnit (mode : Mode) (c : Cursor) : Except ReadError (Option Char × After c) :=
  match mode, readUnicode c with
  | _, .ok (x, d) => .ok (some x, d)
  | .strict, .error e => .error e
  | .tolerant, .error _ => do
    let (_, d) ← readHex c
    .ok (none, d)

/-- Reads the rest of a string that started at a cursor; `done` holds the characters so far, last one
first, if there is no gap among them. -/
def readRest (mode : Mode) (start c : Cursor) (h : c.length ≤ start.length)
    (done : Option (List Char)) : Except ReadError (Option String × After start) :=
  match c.next? with
  | none => complain .endInString c.here
  | some (x, d) =>
    have hd := d.2
    if x = '"' then .ok (done.map fun cs => String.ofList cs.reverse, d.widen h)
    else if x = '\\' then
      match d.1.next? with
      | none => complain .endInString d.1.here
      | some (y, e) =>
        have he := e.2
        if y = 'u' then
          match readUnit mode e.1 with
          | .error fault => .error fault
          | .ok (z, f) =>
            have hf := f.2
            readRest mode start f.1 (by omega) (z.bind fun z => done.map (z :: ·))
        else
          match simpleEscape? y with
          | some z => readRest mode start e.1 (by omega) (done.map (z :: ·))
          | none => complain .invalidEscape d.1.peeked
    else if x.toNat < 0x20 then complain .controlCharacter c.peeked
    else readRest mode start d.1 (by omega) (done.map (x :: ·))
termination_by c.length
decreasing_by all_goals omega

/-- Reads a string behind its opening quote. -/
def readString (mode : Mode) (c : Cursor) : Except ReadError (Option String × After c) :=
  readRest mode c c (Nat.le_refl _) (some [])

/-! ## Numbers -/

/-- The digits at the cursor, and the cursor behind them. -/
def takeDigits (c : Cursor) : List Nat × { d : Cursor // d.length ≤ c.length } :=
  match c.next? with
  | none => ([], ⟨c, Nat.le_refl _⟩)
  | some (x, d) =>
    if x.isDigit then
      let (ds, e) := takeDigits d.1
      ((x.toNat - '0'.toNat) :: ds, ⟨e.1, by have := e.2; have := d.2; omega⟩)
    else ([], ⟨c, Nat.le_refl _⟩)
termination_by c.length
decreasing_by exact d.2

/-- Appends digits to a number while it fits in 64 bits; also how many were taken. -/
def appendDigits (n : Nat) : List Nat → Nat × Nat
  | [] => (n, 0)
  | d :: rest =>
    if n * 10 + d < 0x10000000000000000 then
      let (m, taken) := appendDigits (n * 10 + d) rest
      (m, taken + 1)
    else (n, 0)

/-- How many digits are read before the number they form leaves 31 bits, that one included. -/
def overflowAt? (n : Nat) : List Nat → Option Nat
  | [] => none
  | d :: rest =>
    if n * 10 + d < 0x80000000 then (overflowAt? (n * 10 + d) rest).map (· + 1) else some 1

/-- The number that digits form. -/
def ofDigits (ds : List Nat) : Nat := ds.foldl (fun n d => n * 10 + d) 0

/-- Reads the digits before the point: a zero, or digits that do not start with one. -/
def readWhole (c : Cursor) : Except ReadError (List Nat × After c) :=
  match c.next? with
  | none => complain .endInValue c.here
  | some (x, d) =>
    if x = '0' then
      if d.1.peek?.any Char.isDigit then complain .invalidNumber d.1.peeked else .ok ([0], d)
    else if x.isDigit then
      let (ds, e) := takeDigits d.1
      .ok ((x.toNat - '0'.toNat) :: ds, ⟨e.1, by have := e.2; have := d.2; omega⟩)
    else complain .invalidNumber c.peeked

/-- Reads a point and at least one digit, if there is a point. -/
def readFraction (c : Cursor) :
    Except ReadError (Option (List Nat) × { d : Cursor // d.length ≤ c.length }) :=
  match c.next? with
  | some ('.', d) =>
    let (ds, e) := takeDigits d.1
    if ds.isEmpty then
      complain (if e.1.rest.isEmpty then .endInValue else .invalidNumber) e.1.peeked
    else .ok (some ds, ⟨e.1, by have := e.2; have := d.2; omega⟩)
  | _ => .ok (none, ⟨c, Nat.le_refl _⟩)

/-- Reads a sign, if there is one; whether it is minus. -/
def readSign (c : Cursor) : Bool × { d : Cursor // d.length ≤ c.length } :=
  match c.next? with
  | some ('+', d) => (false, ⟨d.1, Nat.le_of_lt d.2⟩)
  | some ('-', d) => (true, ⟨d.1, Nat.le_of_lt d.2⟩)
  | _ => (false, ⟨c, Nat.le_refl _⟩)

/-- An exponent as written. -/
structure Exponent where
  /-- Whether its sign is minus. -/
  negative : Bool
  /-- Its digits. -/
  digits : List Nat
  /-- Where its digits start. -/
  start : Position

/-- Reads an exponent, if there is one. -/
def readExponent (c : Cursor) :
    Except ReadError (Option Exponent × { d : Cursor // d.length ≤ c.length }) :=
  match c.next? with
  | none => .ok (none, ⟨c, Nat.le_refl _⟩)
  | some (x, d) =>
    if x = 'e' ∨ x = 'E' then
      let (negative, e) := readSign d.1
      let (digits, f) := takeDigits e.1
      if digits.isEmpty then
        complain (if e.1.rest.isEmpty then .endInValue else .invalidNumber) e.1.peeked
      else .ok (some ⟨negative, digits, e.1.here⟩,
        ⟨f.1, by have := f.2; have := e.2; have := d.2; omega⟩)
    else .ok (none, ⟨c, Nat.le_refl _⟩)

/-- A number as written, without its sign. -/
structure Literal where
  /-- The digits before the point. -/
  whole : List Nat
  /-- The digits behind the point, if there is one. -/
  fraction : Option (List Nat)
  /-- The exponent, if there is one. -/
  exponent : Option Exponent

/-- Reads a number behind its sign. -/
def readLiteral (c : Cursor) : Except ReadError (Literal × After c) := do
  let (whole, d) ← readWhole c
  let (fraction, e) ← readFraction d.1
  let (exponent, f) ← readExponent e.1
  .ok (⟨whole, fraction, exponent⟩, ⟨f.1, by have := f.2; have := e.2; have := d.2; omega⟩)

/-- A finite double with a sign. -/
def signed (negative : Bool) (x : Double.Finite) : Number := .float { x with negative }

/-- A whole number with a sign; it is a double if it does not fit in 64 bits or is minus zero. -/
def wholeNumber? (negative : Bool) (n : Nat) : Option Number :=
  if negative && n == 0 then some (signed true default)
  else
    match Integer.ofInt? (if negative then -(n : Int) else n) with
    | some n => some (.int n)
    | none => (Double.ofInt n).finite?.map (signed negative)

/-- The number of a literal that ends at a place. As many digits count as fit in 64 bits, and the rest
only move the point. An exponent of more than 31 bits makes the number zero if it is negative or if the
digits are zero; otherwise it is a fault at the digit that made it so large. -/
def Literal.number (l : Literal) (negative : Bool) (stop : Position) : Except ReadError Number :=
  let (high, takenWhole) := appendDigits 0 l.whole
  let (coefficient, takenFraction) := appendDigits high (l.fraction.getD [])
  let shift : Int := (l.whole.length : Int) - takenWhole - takenFraction
  let refused := complain .numberOutOfRange stop
  match l.exponent with
  | none =>
    if l.fraction.isNone && takenWhole == l.whole.length then
      (wholeNumber? negative coefficient).elim refused .ok
    else ((Double.scaled? coefficient shift).map (signed negative)).elim refused .ok
  | some e =>
    match overflowAt? 0 e.digits with
    | some taken =>
      if coefficient == 0 || e.negative then .ok (signed negative default)
      else complain .numberOutOfRange ⟨e.start.line, e.start.column + taken⟩
    | none =>
      let power : Int := ofDigits e.digits
      ((Double.scaled? coefficient (shift + if e.negative then -power else power)).map
        (signed negative)).elim refused .ok

/-- Reads a number behind its sign in a mode; the tolerant one makes a number out of range a gap. -/
def readNumber (mode : Mode) (negative : Bool) (c : Cursor) :
    Except ReadError (Option Number × After c) := do
  let (literal, d) ← readLiteral c
  match mode, literal.number negative d.1.here with
  | _, .ok n => .ok (some n, d)
  | .strict, .error e => .error e
  | .tolerant, .error _ => .ok (none, d)

/-! ## Values -/

/-- Reads the colon between a key and its value. -/
def readColon (c : Cursor) : Except ReadError (After c) :=
  let s := c.skipSpaces
  match s.next? with
  | some (':', d) => .ok (d.widen c.length_skipSpaces_le)
  | some _ => complain .expectedColon s.peeked
  | none => complain .endInObject s.peeked

mutual

/-- Reads a value, with room for so many further levels of nesting. -/
def readValue (mode : Mode) (room : Nat) (c : Cursor) : Except ReadError (Raw × After c) :=
  let ⟨s, hs⟩ := c.spaceless
  match s.next? with
  | none => complain .endInValue s.peeked
  | some (x, d) =>
    if x = 'n' then do
      let e ← readWord ['u', 'l', 'l'] d.1
      .ok (.null, ⟨e.1, by have := e.2; have := d.2; omega⟩)
    else if x = 't' then do
      let e ← readWord ['r', 'u', 'e'] d.1
      .ok (.bool true, ⟨e.1, by have := e.2; have := d.2; omega⟩)
    else if x = 'f' then do
      let e ← readWord ['a', 'l', 's', 'e'] d.1
      .ok (.bool false, ⟨e.1, by have := e.2; have := d.2; omega⟩)
    else if x = '-' then do
      let (n, e) ← readNumber mode true d.1
      .ok (.number n, ⟨e.1, by have := e.2; have := d.2; omega⟩)
    else if x.isDigit then do
      let (n, e) ← readNumber mode false s
      .ok (.number n, e.widen hs)
    else if x = '"' then do
      let (t, e) ← readString mode d.1
      .ok (.string t, ⟨e.1, by have := e.2; have := d.2; omega⟩)
    else if x = '[' then
      match room with
      | 0 => complain .tooDeep s.peeked
      | room + 1 => do
        let (items, e) ← readItems mode room true d.1
        .ok (.array items, ⟨e.1, by have := e.2; have := d.2; omega⟩)
    else if x = '{' then
      match room with
      | 0 => complain .tooDeep s.peeked
      | room + 1 => do
        let (members, e) ← readMembers mode room true d.1
        .ok (.object members, ⟨e.1, by have := e.2; have := d.2; omega⟩)
    else complain .expectedValue s.peeked
termination_by (c.length, 0)
decreasing_by
  · apply Prod.Lex.left; have := d.2; omega
  · apply Prod.Lex.left; have := d.2; omega

/-- Reads the items of an array and its end. -/
def readItems (mode : Mode) (room : Nat) (first : Bool) (c : Cursor) :
    Except ReadError (List Raw × After c) :=
  let ⟨s, hs⟩ := c.spaceless
  match s.next? with
  | none => complain .endInArray s.peeked
  | some (x, d) =>
    if x = ']' then .ok ([], d.widen hs)
    else if first then do
      let (v, e) ← readValue mode room s
      let (rest, f) ← readItems mode room false e.1
      .ok (v :: rest, ⟨f.1, by have := f.2; have := e.2; omega⟩)
    else if x = ',' then
      let ⟨t, ht⟩ := d.1.spaceless
      match t.peek? with
      | none => complain .endInValue t.peeked
      | some ']' => complain .trailingComma t.peeked
      | some _ => do
        let (v, e) ← readValue mode room t
        let (rest, f) ← readItems mode room false e.1
        .ok (v :: rest, ⟨f.1, by have := f.2; have := e.2; have := d.2; omega⟩)
    else complain .expectedItemEnd s.peeked
termination_by (c.length, 1)
decreasing_by
  · by_cases h : s.length = c.length
    · rw [h]; exact Prod.Lex.right _ (by omega)
    · exact Prod.Lex.left _ _ (by omega)
  · apply Prod.Lex.left; have := e.2; omega
  · apply Prod.Lex.left; have := d.2; omega
  · apply Prod.Lex.left; have := e.2; have := d.2; omega

/-- Reads the members of an object and its end. -/
def readMembers (mode : Mode) (room : Nat) (first : Bool) (c : Cursor) :
    Except ReadError (List (Option String × Raw) × After c) :=
  let ⟨s, hs⟩ := c.spaceless
  match s.next? with
  | none => complain .endInObject s.peeked
  | some (x, d) =>
    if x = '}' then .ok ([], d.widen hs)
    else if first then
      if x = '"' then do
        let (k, e) ← readString mode d.1
        let f ← readColon e.1
        let (v, g) ← readValue mode room f.1
        let (rest, h) ← readMembers mode room false g.1
        .ok ((k, v) :: rest,
          ⟨h.1, by have := h.2; have := g.2; have := f.2; have := e.2; have := d.2; omega⟩)
      else complain .keyNotString s.peeked
    else if x = ',' then
      let ⟨t, ht⟩ := d.1.spaceless
      match t.next? with
      | none => complain .endInValue t.peeked
      | some ('"', b) => do
        let (k, e) ← readString mode b.1
        let f ← readColon e.1
        let (v, g) ← readValue mode room f.1
        let (rest, h) ← readMembers mode room false g.1
        .ok ((k, v) :: rest,
          ⟨h.1, by
            have := h.2; have := g.2; have := f.2; have := e.2; have := b.2; have := d.2; omega⟩)
      | some ('}', _) => complain .trailingComma t.peeked
      | some _ => complain .keyNotString t.peeked
    else complain .expectedMemberEnd s.peeked
termination_by (c.length, 1)
decreasing_by
  · apply Prod.Lex.left; have := f.2; have := e.2; have := d.2; omega
  · apply Prod.Lex.left; have := g.2; have := f.2; have := e.2; have := d.2; omega
  · apply Prod.Lex.left; have := f.2; have := e.2; have := b.2; have := d.2; omega
  · apply Prod.Lex.left
    have := g.2; have := f.2; have := e.2; have := b.2; have := d.2; omega

end

/-- The value written in a text, or the first fault in it. -/
def readRaw (mode : Mode) (text : String) : Except ReadError Raw := do
  let start := Cursor.ofText text
  let room := match mode with
    | .strict => maxDepth
    | .tolerant => start.length
  let (v, d) ← readValue mode room start
  let s := d.1.skipSpaces
  if s.rest.isEmpty then .ok v else complain .trailingCharacters s.peeked

/-- The value that a text denotes, or the first fault in it. -/
def read (text : String) : Except ReadError Json := do
  let raw ← readRaw .strict text
  match raw.json? maxDepth with
  | some v => .ok v
  | none => complain .expectedValue (Cursor.ofText text).here

end QueryableApi.Json
