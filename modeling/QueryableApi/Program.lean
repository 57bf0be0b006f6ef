import QueryableApi.Client
import QueryableApi.CommandLine
import QueryableApi.DataSource.Json
import QueryableApi.OpenApi.Catalog
import QueryableApi.Queryable.Json
import QueryableApi.Settings

/-! # The program

One run of the program, for any way of reading files, sending requests and submitting telemetry
(`Surroundings`). What is asked for goes to the output. A failure is told with its causes and ends the
run with the status 1; a command line that cannot be read ends it with the status 2.
-/

namespace QueryableApi

/-- What a run needs from outside. -/
structure Surroundings (m : Type → Type) where
  /-- Reads the text of a file. -/
  textOf : String → m (Except FileFault String)
  /-- Sends a request. -/
  send : GetRequest → m (Except ErrorChain Http.Response)
  /-- Submits to an address. -/
  submit : String → Submission → m Unit

/-- What a run leaves. -/
structure Outcome where
  /-- The status. -/
  status : Nat
  /-- The output. -/
  output : String := ""
  /-- What is told besides. -/
  complaint : String := ""
deriving DecidableEq, Repr

namespace Outcome

/-- The lines of a message, all but the first one indented. -/
def indented (indentation message : String) : String :=
  ("\n" ++ indentation).intercalate (message.splitOn "\n")

/-- The causes of a failure: a single one is indented, several are numbered. -/
def causes : ErrorChain → String
  | [cause] => "\n    " ++ indented "    " cause
  | chain =>
    String.join (chain.zipIdx.map fun (cause, n) =>
      let number := toString n
      "\n" ++ String.ofList (List.replicate (5 - number.length) ' ') ++ number ++ ": "
        ++ indented "       " cause)

/-- What is told of a failure. -/
def report : ErrorChain → String
  | [] => "Error: \n"
  | [message] => "Error: " ++ message ++ "\n"
  | message :: chain => "Error: " ++ message ++ "\n\nCaused by:" ++ causes chain ++ "\n"

/-- The outcome of a failure. -/
def failed (chain : ErrorChain) : Outcome := { status := 1, complaint := report chain }

/-- The outcome of a run that prints a text. -/
def printed (output : String) : Outcome := { status := 0, output }

/-- The outcome of what may fail. -/
def ofResult : Except ErrorChain String → Outcome
  | .ok output => printed output
  | .error chain => failed chain

end Outcome

namespace Program

/-! ## Texts -/

/-- The name and the version of the program. -/
def versionText : String := "specsource 0.1.0\n"

/-- The explanation of the commands. -/
def helpText : String :=
  "Query OpenAPI collections as filterable data sources\n\n"
    ++ "Usage: specsource [OPTIONS] <COMMAND>\n\n"
    ++ "Commands:\n"
    ++ "  resources  List the data sources an OpenAPI document exposes\n"
    ++ "  schema     Print the queryable schema of a data source as JSON\n"
    ++ "  read       Read the single item matching the given filters\n"
    ++ "  help       Print this message or the help of the given subcommand(s)\n\n"
    ++ "Options:\n"
    ++ "      --config <CONFIG>  "
    ++ "Configuration file (default: <config dir>/specsource/config.json)\n"
    ++ "  -h, --help             Print help\n"
    ++ "  -V, --version          Print version\n"

/-- What is told of a command line that cannot be read. -/
def usageText (fault : CommandLine.UsageFault) : String :=
  match fault with
  | .help | .version => ""
  | .nothing => helpText
  | .missingCommand => "error: a subcommand is required\n"
  | .unknownCommand => "error: unrecognized subcommand\n"
  | .unknownWord => "error: unexpected argument found\n"
  | .missingValue => "error: a value is required but none was supplied\n"
  | .unneededValue => "error: unexpected value found\n"
  | .repeated => "error: an argument cannot be used multiple times\n"
  | .missingOption => "error: the required argument '--resource <RESOURCE>' was not provided\n"
  | .malformed option placeholder value complaint =>
    CommandLine.malformedText option placeholder value complaint

/-- The outcome where nothing is carried out. -/
def refused (fault : CommandLine.UsageFault) : Outcome :=
  match fault with
  | .help => .printed helpText
  | .version => .printed versionText
  | fault => { status := 2, complaint := usageText fault }

/-! ## Commands -/

/-- The complaint that no document is given. -/
def noDocument : String :=
  "no OpenAPI document: pass --spec or set `spec` in the configuration file"

/-- The complaint that no base address is given. -/
def noBaseUrl : String :=
  "no base URL: pass --base-url, set SPECSOURCE_BASE_URL or add servers to the document"

/-- The path of the document. -/
def documentPath (i : Invocation) (s : Settings) (e : Environment) : Except ErrorChain String :=
  ((i.document).or s.document).elim (.error [noDocument])
    fun path => .ok (expandHome e.homeDirectory path)

/-- A collection of a catalog. -/
def collection (catalog : OpenApi.Catalog) (name : String) :
    Except ErrorChain OpenApi.Collection :=
  (catalog.find? name).elim
    (.error ["unknown resource '" ++ name ++ "'; available: " ++ ", ".intercalate catalog.names])
    .ok

/-- The data sources of a catalog with the templates of their paths. -/
def resourcesText (catalog : OpenApi.Catalog) : String :=
  String.join (catalog.collections.map fun c =>
    c.toResource.sourceName ++ "\t" ++ c.template ++ "\n")

/-- The queryable schema of a collection. -/
def schemaText (catalog : OpenApi.Catalog) (name : String) : Except ErrorChain String := do
  let c ← collection catalog name
  let q ← (DataSource.mk (some c.toResource)).queryable.mapError fun failure => [failure.message]
  .ok (q.toJson.pretty ++ "\n")

/-- The headers that are asked for: those of the settings, then those of the command line. -/
def requestHeaders (s : Settings) (r : ReadRequest) : Entries String :=
  Entries.extend s.headers r.headers

/-- The client of a read. -/
def clientOf (s : Settings) (catalog : OpenApi.Catalog) (r : ReadRequest) :
    Except ErrorChain Client := do
  let address ← (r.baseUrl.or (s.baseUrl.or catalog.baseUrl)).elim (.error [noBaseUrl]) .ok
  Client.make address (requestHeaders s r)

variable {m : Type → Type} [Monad m]

/-- The answer to a request for items. -/
def list (w : Surroundings m) (client : Client) (request : ListRequest) :
    m (Except ErrorChain ListResponse) := do
  match client.get request.path with
  | .error fault => pure (.error fault.chain)
  | .ok get =>
    match get.fault? with
    | some fault => pure (.error fault.chain)
    | none =>
      match ← w.send get with
      | .error chain => pure (.error chain)
      | .ok response => pure (Listing.answer request response)

/-- Reads an item with a client. -/
def readWith (w : Surroundings m) (s : Settings) (client : Client) (r : Resource)
    (state : SourceState) : m (Except ErrorChain String) := do
  let answer ← match Plan.make r state.attributes with
    | .ok plan => list w client plan.request
    | .error _ => pure (.error [])
  let report := (DataSource.mk (some r)).read (fun _ => answer) state
  if let some endpoint := s.telemetry then
    report.submitted.forM (w.submit endpoint)
  match report.result with
  | .error failure => pure (.error [failure.message])
  | .ok () => pure (.ok (report.state.toJson.pretty ++ "\n"))

/-- Carries out a command on a catalog. -/
def perform (w : Surroundings m) (s : Settings) (catalog : OpenApi.Catalog) (command : Command) :
    m (Except ErrorChain String) :=
  match command with
  | .resources => pure (.ok (resourcesText catalog))
  | .schema name => pure (schemaText catalog name)
  | .read name request =>
    match do .ok (← collection catalog name, ← clientOf s catalog request) with
    | .error chain => pure (.error chain)
    | .ok (c, client) => readWith w s client c.toResource request.state

/-- Carries out what is asked for. -/
def carryOut (w : Surroundings m) (e : Environment) (i : Invocation) : m Outcome := do
  let settings := (Settings.load (← w.textOf (i.settings.getD e.settingsPath))).within e
  match documentPath i settings e with
  | .error chain => pure (.failed chain)
  | .ok path =>
    match OpenApi.Catalog.load path (← w.textOf path) with
    | .error chain => pure (.failed chain)
    | .ok catalog => .ofResult <$> perform w settings catalog i.command

/-- One run of the program with the words of a command line. -/
def run (w : Surroundings m) (e : Environment) (words : List String) : m Outcome :=
  match Invocation.parse words with
  | .error fault => pure (refused fault)
  | .ok invocation => carryOut w e invocation

end Program

end QueryableApi
