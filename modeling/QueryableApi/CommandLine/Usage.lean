import QueryableApi.Entries
import QueryableApi.Text.Terminal

/-! # Usage

How the words of a command line are read. An option is written `--name value` or `--name=value`; a value
that stands for itself may not start with a hyphen, unless it is a single one. A flag takes no value, and two
hyphens end the options. What is wrong first wins, where an option is looked at as soon as the next
option or the end shows that it is complete.
-/

namespace QueryableApi.CommandLine

/-- Why a command line is not carried out. -/
inductive UsageFault
  /-- Help is asked for. -/
  | help
  /-- The version is asked for. -/
  | version
  /-- There is nothing to do. -/
  | nothing
  /-- There is no command. -/
  | missingCommand
  /-- The command is not known. -/
  | unknownCommand
  /-- A word is not known. -/
  | unknownWord
  /-- An option has no value. -/
  | missingValue
  /-- A flag has a value. -/
  | unneededValue
  /-- An option is given twice. -/
  | repeated
  /-- An option that must be given is not. -/
  | missingOption
  /-- The value of an option is malformed. -/
  | malformed (option placeholder value complaint : String)
deriving DecidableEq, Repr

open Text.Terminal in
/-- What is told of a malformed value. The value may hold control sequences, which are not shown. -/
def malformedText (option placeholder value complaint : String) : String :=
  plain ("error: invalid value '" ++ styled wrong value ++ "' for '"
    ++ styled literal ("--" ++ option ++ " <" ++ placeholder ++ ">") ++ "': " ++ complaint
    ++ "\n\nFor more information, try '" ++ styled literal "--help" ++ "'.\n")

/-- An option. -/
structure OptionRule where
  /-- Its name. -/
  name : String
  /-- What stands for its value in messages. -/
  placeholder : String
  /-- Whether it may be given more than once. -/
  repeats : Bool := false
  /-- Whether its value may be empty. -/
  emptyAllowed : Bool := true
  /-- What is wrong with a value. -/
  complaint? : String → Option String := fun _ => none

/-- A word that takes no value, and ends the reading. -/
structure Flag where
  /-- Its name behind two hyphens. -/
  name : String
  /-- Its letter behind one hyphen. -/
  letter : Char
  /-- What it leads to. -/
  outcome : UsageFault

/-- What may be written on one level of a command line. -/
structure Grammar where
  /-- The options. -/
  options : List OptionRule
  /-- The flags. -/
  flags : List Flag
  /-- The commands that start the next level. -/
  commands : List String := []

/-- What has been read of a level. -/
structure Scan where
  /-- The options that are complete, in order. -/
  found : List (String × String) := []
  /-- The last option, with its value if that has been read. -/
  pending : Option (OptionRule × Option String) := none

namespace Scan

/-- Whether the next word is the value of an option. -/
def awaitsValue (s : Scan) : Bool := s.pending.any fun p => p.2.isNone

/-- Looks at the last option. -/
def settle (s : Scan) : Except UsageFault Scan :=
  match s.pending with
  | none => .ok s
  | some (_, none) => .error .missingValue
  | some (rule, some value) =>
    if !rule.repeats && s.found.any fun f => f.1 == rule.name then .error .repeated
    else if value.isEmpty && !rule.emptyAllowed then .error .missingValue
    else
      match rule.complaint? value with
      | some complaint => .error (.malformed rule.name rule.placeholder value complaint)
      | none => .ok ⟨s.found ++ [(rule.name, value)], none⟩

/-- The last value of an option. -/
def last? (s : Scan) (name : String) : Option String := s.found.reverse.lookup name

/-- The values of an option, in order. -/
def all (s : Scan) (name : String) : List String :=
  s.found.filterMap fun f => if f.1 == name then some f.2 else none

end Scan

/-- A word of two hyphens and a name, with the value attached to it. -/
def longWord? (word : String) : Option (String × Option String) :=
  match word.toList with
  | '-' :: '-' :: rest =>
    let name := rest.takeWhile (· != '=')
    let value := (rest.drop name.length).drop 1
    some (String.ofList name,
      if name.length < rest.length then some (String.ofList value) else none)
  | _ => none

/-- The first letter of a word of a hyphen and letters. -/
def shortWord? (word : String) : Option Char :=
  match word.toList with
  | '-' :: letter :: _ => some letter
  | _ => none

namespace Grammar

/-- Why a word that is no option cannot stand on a level; `ended` tells whether the options are ended. -/
def stray (g : Grammar) (ended : Bool) (word : String) : UsageFault :=
  if g.commands.isEmpty || (ended && g.commands.contains word) then .unknownWord
  else .unknownCommand

/-- Reads an option or a flag of two hyphens. -/
def long (g : Grammar) (s : Scan) (name : String) (value : Option String) :
    Except UsageFault Scan :=
  match g.options.find? (·.name == name), g.flags.find? (·.name == name), value with
  | some rule, _, some value => do
    let s ← s.settle
    Scan.settle { s with pending := some (rule, some value) }
  | some rule, _, none => do
    let s ← s.settle
    .ok { s with pending := some (rule, none) }
  | none, some _, some _ => .error .unneededValue
  | none, some flag, none => do
    let _ ← s.settle
    .error flag.outcome
  | none, none, _ => .error .unknownWord

/-- Reads a flag of one hyphen. -/
def short (g : Grammar) (s : Scan) (letter : Char) : Except UsageFault Scan :=
  match g.flags.find? (·.letter == letter) with
  | some flag => do
    let _ ← s.settle
    .error flag.outcome
  | none => .error .unknownWord

/-- Reads a word that is neither a command nor the end of the options. -/
def word (g : Grammar) (s : Scan) (word : String) : Except UsageFault Scan :=
  match longWord? word, shortWord? word, s.pending with
  | some (name, value), _, _ => g.long s name value
  | none, some letter, _ => g.short s letter
  | none, none, some (rule, none) => .ok { s with pending := some (rule, some word) }
  | none, none, _ => .error (g.stray false word)

/-- Reads a level: what was found, and the command that ends it with the words behind it. -/
def read (g : Grammar) (s : Scan) :
    List String → Except UsageFault (Scan × Option (String × List String))
  | [] => .ok (s, none)
  | w :: rest =>
    if !s.awaitsValue && g.commands.contains w then .ok (s, some (w, rest))
    else if w == "--" then
      match rest with
      | [] => .ok (s, none)
      | next :: _ => .error (g.stray true next)
    else
      match g.word s w with
      | .error fault => .error fault
      | .ok s => read g s rest

end Grammar

end QueryableApi.CommandLine
