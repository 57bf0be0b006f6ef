import QueryableApi.Url.Domain

/-! # Hosts

The host of a URL is a domain name or an address. A name whose last label is a number is an IPv4 address,
with one to four numbers in decimal, octal or hexadecimal; brackets enclose an IPv6 address. Schemes without
rules of their own have opaque hosts.
-/

namespace QueryableApi.Url

/-- What is wrong with a URL. -/
inductive Fault
  /-- There is no host where one must be. -/
  | emptyHost
  /-- The host is no domain name. -/
  | invalidDomain
  /-- The port is no port. -/
  | invalidPort
  /-- The host is no IPv4 address although its last label is a number. -/
  | invalidIpv4
  /-- The host in brackets is no IPv6 address. -/
  | invalidIpv6
  /-- An opaque host has a character that it may not have. -/
  | invalidHostCharacter
  /-- There is no scheme. -/
  | relative
deriving DecidableEq, Repr

/-- The wording of a fault. -/
def Fault.message : Fault → String
  | emptyHost => "empty host"
  | invalidDomain => "invalid international domain name"
  | invalidPort => "invalid port number"
  | invalidIpv4 => "invalid IPv4 address"
  | invalidIpv6 => "invalid IPv6 address"
  | invalidHostCharacter => "invalid domain character"
  | relative => "relative URL without a base"

/-- The values of digits in a base, as a number. -/
def number (base : Nat) (digits : List Nat) : Nat := digits.foldl (fun n d => n * base + d) 0

/-- The number that hexadecimal digits below a base denote. -/
def number? (base : Nat) (digits : List Char) : Option Nat :=
  (digits.mapM fun c => (Text.hexValue? c).filter (· < base)).map (number base)

/-! ## IPv4 -/

/-- A part of an IPv4 address. -/
def ipv4Part? (part : List Char) : Option Nat :=
  match part with
  | [] => none
  | '0' :: 'x' :: digits | '0' :: 'X' :: digits => number? 16 digits
  | ['0'] => some 0
  | '0' :: digits => number? 8 digits
  | digits => number? 10 digits

/-- The parts of a name, without an empty last one. -/
def nameParts (name : List Char) : List (List Char) :=
  let parts := name.splitOn '.'
  if 1 < parts.length && parts.getLast? == some [] then parts.dropLast else parts

/-- Whether the last label of a name is a number. -/
def endsInNumber (name : List Char) : Bool :=
  (nameParts name).getLast?.any fun last =>
    (!last.isEmpty && last.all Char.isDigit) || (ipv4Part? last).isSome

/-- The address that parts denote: the last one fills what the others leave. -/
def ipv4? (parts : List (List Char)) : Option Nat := do
  let numbers ← parts.mapM ipv4Part?
  let last ← numbers.getLast?
  let others := numbers.dropLast
  if 3 < others.length || others.any (255 < ·) || Nat.pow 256 (4 - others.length) ≤ last then none
  else some (number 256 (others ++ List.replicate (4 - others.length) 0) + last)

/-- An IPv4 address in text. -/
def ipv4Text (address : Nat) : String :=
  ".".intercalate
    ([24, 16, 8, 0].map fun shift => toString ((address >>> shift) % 256))

/-! ## IPv6 -/

/-- A number of at most 255 in decimal without leading zeros. -/
def octet? (digits : List Char) : Option Nat :=
  match digits with
  | [] => none
  | '0' :: _ :: _ => none
  | ds => (number? 10 ds).filter (· ≤ 255)

/-- The two last pieces of an address, written as an IPv4 address. -/
def ipv4Pieces? (text : List Char) : Option (List Nat) := do
  match ← (text.splitOn '.').mapM octet? with
  | [a, b, c, d] => some [a * 256 + b, c * 256 + d]
  | _ => none

/-- The pieces of an address and the place of the gap in it, if there is one. `used` counts the pieces
read, a gap as one of them. -/
def ipv6Pieces? :
    Nat → List Char → Nat → List Nat → Option Nat → Option (List Nat × Option Nat)
  | _, [], _, pieces, gap => some (pieces, gap)
  | 0, _ :: _, _, _, _ => none
  | room + 1, text, used, pieces, gap =>
    if used == 8 then none
    else
      match text with
      | ':' :: rest =>
        if gap.isSome then none else ipv6Pieces? room rest (used + 1) pieces (some pieces.length)
      | _ => do
        let digits := (text.takeWhile fun c => (Text.hexValue? c).isSome).take 4
        let piece ← number? 16 digits
        match text.drop digits.length with
        | [] => some (pieces ++ [piece], gap)
        | ':' :: [] => none
        | ':' :: rest => ipv6Pieces? room rest (used + 1) (pieces ++ [piece]) gap
        | '.' :: _ =>
          if used > 6 then none else (ipv4Pieces? text).map fun last => (pieces ++ last, gap)
        | _ => none

/-- The eight pieces of an address between brackets. -/
def ipv6? (text : List Char) : Option (List Nat) := do
  let (pieces, gap) ← match text with
    | ':' :: ':' :: rest => ipv6Pieces? (text.length + 1) rest 1 [] (some 0)
    | ':' :: _ => none
    | [] | [_] => none
    | _ => ipv6Pieces? (text.length + 1) text 0 [] none
  match gap with
  | some place =>
    some (pieces.take place ++ List.replicate (8 - pieces.length) 0 ++ pieces.drop place)
  | none => if pieces.length == 8 then some pieces else none

/-- The start and the length of the longest run of zeros, the first of those of one length; `best` is the
longest run before, `run` the run that goes on, and `place` the number of pieces before. -/
def zeroRun (best run : Nat × Nat) (place : Nat) : List Nat → Nat × Nat
  | [] => best
  | piece :: rest =>
    let run := if piece == 0 then (run.1, run.2 + 1) else (place + 1, 0)
    zeroRun (if best.2 < run.2 then run else best) run (place + 1) rest

/-- Pieces in text. -/
def piecesText (pieces : List Nat) : String :=
  ":".intercalate (pieces.map fun n => String.ofList (Nat.toDigits 16 n))

/-- An IPv6 address in text: the longest run of at least two zeros is left out. -/
def ipv6Text (pieces : List Nat) : String :=
  let (start, length) := zeroRun (0, 0) (0, 0) 0 pieces
  if length < 2 then piecesText pieces
  else piecesText (pieces.take start) ++ "::" ++ piecesText (pieces.drop (start + length))

/-! ## Hosts -/

/-- The host between brackets. -/
def bracketed (text : List Char) : Except Fault String :=
  match ipv6? (text.drop 1).dropLast with
  | some pieces =>
    if text.getLast? == some ']' then .ok ("[" ++ ipv6Text pieces ++ "]") else .error .invalidIpv6
  | none => .error .invalidIpv6

/-- The host of a scheme with rules of its own. -/
def hostOf (text : List Char) : Except Fault String :=
  if text.head? == some '[' then bracketed text
  else
    match Domain.ofText? text with
    | none => .error .invalidDomain
    | some [] => .error .emptyHost
    | some name =>
      if endsInNumber name then
        (ipv4? (nameParts name)).elim (.error .invalidIpv4) fun a => .ok (ipv4Text a)
      else .ok (String.ofList name)

/-- The characters that an opaque host may not have. -/
def opaqueForbidden : List Char := "\x00\t\n\r #/:<>?@[\\]^|".toList

/-- The host of any other scheme. -/
def opaqueHost (text : List Char) : Except Fault String :=
  if text.head? == some '[' then bracketed text
  else if text.any opaqueForbidden.contains then .error .invalidHostCharacter
  else
    .ok (String.ofList
      (text.flatMap (Percent.encodeChar fun c => 0x20 ≤ c.toNat && c.toNat < 0x7F)))

end QueryableApi.Url
