import QueryableApi.CommandLine.Usage
import QueryableApi.DataSource

/-! # The command line

The program lists the data sources of a document (`resources`), prints the queryable schema of one
(`schema`), or reads the item of one that filters pick (`read`). `Invocation.parse` takes the words of a
command line to what is to be done.
-/

namespace QueryableApi

namespace CommandLine

/-! ## Values of options -/

/-- A key and the value behind the first equals sign. -/
def keyValue (text : String) : Except String (String × String) :=
  let key := text.toList.takeWhile (· != '=')
  if key.length == text.length then .error ("expected KEY=VALUE, got '" ++ text ++ "'")
  else
    let name := Text.trim (String.ofList key)
    if name.isEmpty then .error ("missing key in '" ++ text ++ "'")
    else .ok (name, String.ofList (text.toList.drop (key.length + 1)))

/-- A filter: a name and values with commas between them, of which empty ones do not count. -/
def filter (text : String) : Except String FilterEntry := do
  let (name, values) ← keyValue text
  let values := (values.toList.splitOn ',').filter fun v => !v.isEmpty
  .ok ⟨name, values.map String.ofList⟩

/-- What is wrong with a text that is to be read. -/
def complaintOf {α : Type} (read : String → Except String α) (text : String) : Option String :=
  match read text with
  | .ok _ => none
  | .error complaint => some complaint

/-! ## The grammar -/

/-- The option for the settings file, which may stand on either level. -/
def settingsOption : OptionRule := { name := "config", placeholder := "CONFIG", emptyAllowed := false }

/-- The option for the document. -/
def documentOption : OptionRule := { name := "spec", placeholder := "SPEC" }

/-- The option for the data source. -/
def resourceOption : OptionRule := { name := "resource", placeholder := "RESOURCE" }

/-- The option for a filter. -/
def filterOption : OptionRule :=
  { name := "filter", placeholder := "FILTERS", repeats := true, complaint? := complaintOf filter }

/-- The option for the identifier of a parent. -/
def parentOption : OptionRule :=
  { name := "parent", placeholder := "PARENTS", repeats := true, complaint? := complaintOf keyValue }

/-- The option for the base address. -/
def addressOption : OptionRule := { name := "base-url", placeholder := "BASE_URL" }

/-- The option for a header. -/
def headerOption : OptionRule :=
  { name := "header", placeholder := "HEADERS", repeats := true, complaint? := complaintOf keyValue }

/-- The flag that asks for help. -/
def helpFlag : Flag := ⟨"help", 'h', .help⟩

/-- The flag that asks for the version. -/
def versionFlag : Flag := ⟨"version", 'V', .version⟩

/-- The commands. -/
def commandNames : List String := ["resources", "schema", "read"]

/-- The command that explains the others. -/
def helpCommand : String := "help"

/-- The level before the command. -/
def outerGrammar : Grammar :=
  { options := [settingsOption], flags := [helpFlag, versionFlag],
    commands := commandNames ++ [helpCommand] }

/-- The level behind a command with options of its own. -/
def innerGrammar (options : List OptionRule) : Grammar :=
  { options := settingsOption :: options, flags := [helpFlag] }

/-- What follows the command for help. -/
def helpOn : List String → UsageFault
  | [] => .help
  | [name] => if outerGrammar.commands.contains name then .help else .unknownCommand
  | _ => .unknownCommand

end CommandLine

open CommandLine

/-! ## Commands -/

/-- What a read asks for. -/
structure ReadRequest where
  /-- The filters. -/
  filters : List FilterEntry := []
  /-- The identifiers of parents by property. -/
  parents : List (String × String) := []
  /-- The base address. -/
  baseUrl : Option String := none
  /-- Headers. -/
  headers : List (String × String) := []
deriving DecidableEq, Repr

/-- The state that a read starts from. -/
def ReadRequest.state (r : ReadRequest) : SourceState where
  attributes :=
    Entries.extend
      (if r.filters.isEmpty then [] else [(filterField, .list (r.filters.map FilterEntry.toValue))])
      (Entries.mapValues Value.text r.parents)

/-- What is to be done. -/
inductive Command
  /-- The data sources are listed. -/
  | resources
  /-- A schema is printed. -/
  | schema (resource : String)
  /-- An item is read. -/
  | read (resource : String) (request : ReadRequest)
deriving DecidableEq, Repr

/-- A command with the files that it takes its settings and its document from. -/
structure Invocation where
  /-- The settings file. -/
  settings : Option String
  /-- The document. -/
  document : Option String
  /-- The command. -/
  command : Command
deriving DecidableEq, Repr

namespace Invocation

/-- The options of a command. -/
def optionsOf (command : String) : List OptionRule :=
  match command with
  | "resources" => [documentOption]
  | "schema" => [documentOption, resourceOption]
  | _ =>
    [documentOption, resourceOption, filterOption, parentOption, addressOption, headerOption]

/-- The data source that must be given. -/
def resource (s : Scan) : Except UsageFault String :=
  (s.last? resourceOption.name).elim (.error .missingOption) .ok

/-- The values of an option as they are read; all of them can be. -/
def values {α : Type} (s : Scan) (rule : OptionRule) (read : String → Except String α) : List α :=
  (s.all rule.name).filterMap fun text => (read text).toOption

/-- The command with the options found behind it. -/
def commandOf (command : String) (s : Scan) : Except UsageFault Command :=
  match command with
  | "resources" => .ok .resources
  | "schema" => (resource s).map .schema
  | _ =>
    (resource s).map fun name =>
      .read name {
        filters := values s filterOption filter
        parents := values s parentOption keyValue
        baseUrl := s.last? addressOption.name
        headers := values s headerOption keyValue }

/-- What the words of a command line ask for. -/
def parse (words : List String) : Except UsageFault Invocation := do
  let (outer, command) ← outerGrammar.read {} words
  match command with
  | none =>
    let outer ← outer.settle
    .error (if outer.found.isEmpty then .nothing else .missingCommand)
  | some (name, rest) =>
    if name == helpCommand then .error (helpOn rest)
    else
      let (inner, _) ← (innerGrammar (optionsOf name)).read {} rest
      let inner ← inner.settle
      let command ← commandOf name inner
      let outer ← outer.settle
      let option (rule : OptionRule) := (inner.last? rule.name).or (outer.last? rule.name)
      .ok ⟨option settingsOption, option documentOption, command⟩

end Invocation

end QueryableApi
