/-! # UTF-8

The bytes of a character and of a text, and the text of any bytes: where bytes are not UTF-8, the
longest start of a character stands for one replacement character. `ofUtf8?` accepts no such bytes.
-/

namespace QueryableApi.Text

/-- The UTF-8 bytes of a character. -/
def utf8OfChar (c : Char) : List UInt8 :=
  let n := c.toNat
  let tail (shift : Nat) : UInt8 := UInt8.ofNat (0x80 + (n >>> shift) % 64)
  if n < 0x80 then [UInt8.ofNat n]
  else if n < 0x800 then [UInt8.ofNat (0xC0 + n / 64), tail 0]
  else if n < 0x10000 then [UInt8.ofNat (0xE0 + n / 4096), tail 6, tail 0]
  else [UInt8.ofNat (0xF0 + n / 262144), tail 12, tail 6, tail 0]

/-- The UTF-8 bytes of a text. -/
def utf8 (s : String) : List UInt8 := s.toList.flatMap utf8OfChar

/-- Whether a byte continues a character. -/
def isContinuation (b : UInt8) : Bool := 0x80 ≤ b && b ≤ 0xBF

/-- A character that a byte starts: how many bytes follow, which second bytes are allowed, and the bits
that the first byte gives. -/
def lead? (b : UInt8) : Option (Nat × (UInt8 → Bool) × Nat) :=
  let bits (mask : Nat) : Nat := b.toNat % mask
  if 0xC2 ≤ b && b ≤ 0xDF then some (1, isContinuation, bits 32)
  else if b == 0xE0 then some (2, fun x => 0xA0 ≤ x && x ≤ 0xBF, bits 16)
  else if b == 0xED then some (2, fun x => 0x80 ≤ x && x ≤ 0x9F, bits 16)
  else if 0xE1 ≤ b && b ≤ 0xEF then some (2, isContinuation, bits 16)
  else if b == 0xF0 then some (3, fun x => 0x90 ≤ x && x ≤ 0xBF, bits 8)
  else if 0xF1 ≤ b && b ≤ 0xF3 then some (3, isContinuation, bits 8)
  else if b == 0xF4 then some (3, fun x => 0x80 ≤ x && x ≤ 0x8F, bits 8)
  else none

/-- The character that stands for what is not text. -/
def replacement : Char := '\uFFFD'

/-- The characters of any bytes. `pending` is a character that has been started: how many bytes it
lacks, which next bytes are allowed, and its bits so far. -/
def decode (pending : Option (Nat × (UInt8 → Bool) × Nat)) : List UInt8 → List Char
  | [] => if pending.isSome then [replacement] else []
  | b :: rest =>
    let fresh : List Char :=
      if b < 0x80 then Char.ofNat b.toNat :: decode none rest
      else
        match lead? b with
        | some start => decode (some start) rest
        | none => replacement :: decode none rest
    match pending with
    | none => fresh
    | some (lacking, allowed, bits) =>
      if allowed b then
        let bits := bits * 64 + b.toNat % 64
        if lacking ≤ 1 then Char.ofNat bits :: decode none rest
        else decode (some (lacking - 1, isContinuation, bits)) rest
      else replacement :: fresh

/-- The text of any bytes. -/
def ofUtf8 (bytes : List UInt8) : String := String.ofList (decode none bytes)

/-- The text of bytes that are UTF-8. -/
def ofUtf8? (bytes : List UInt8) : Option String :=
  let text := ofUtf8 bytes
  if utf8 text = bytes then some text else none

end QueryableApi.Text
