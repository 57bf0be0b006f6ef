import QueryableApi.File
import QueryableApi.HomePath
import QueryableApi.Json.Record
import QueryableApi.Json.Writer

/-! # Settings

The settings of a user are a record in a JSON file. A file that is missing or malformed counts as one with
no settings. Variables of the environment say where the file is (`Environment.settingsPath`), and take
precedence over the address in it and add a token to its headers (`Settings.within`).
-/

namespace QueryableApi

/-- The variables of the environment that matter. -/
structure Environment where
  /-- The home directory. -/
  home : Option String := none
  /-- The directory of settings. -/
  configHome : Option String := none
  /-- The path of the settings file. -/
  settingsFile : Option String := none
  /-- The base address of requests. -/
  baseUrl : Option String := none
  /-- The token that requests carry. -/
  token : Option String := none
deriving DecidableEq, Repr

/-- The settings of a user. -/
structure Settings where
  /-- The path of the document. -/
  document : Option String := none
  /-- The base address of requests. -/
  baseUrl : Option String := none
  /-- The headers of requests. -/
  headers : Entries String := []
  /-- How many seconds a request may take. -/
  timeout : Option Json.Integer := none
  /-- Where telemetry is sent. -/
  telemetry : Option String := none
deriving DecidableEq, Repr

namespace Environment

/-- The environment that the variables of a process make up. -/
def gather {m : Type → Type} [Monad m] (lookup : String → m (Option String)) : m Environment := do
  let home ← lookup "HOME"
  let configHome ← lookup "XDG_CONFIG_HOME"
  let settingsFile ← lookup "SPECSOURCE_CONFIG_PATH"
  let baseUrl ← lookup "SPECSOURCE_BASE_URL"
  let token ← lookup "SPECSOURCE_API_TOKEN"
  return { home, configHome, settingsFile, baseUrl, token }

/-- A value that is not blank, without the blanks at its ends. -/
def present (value : Option String) : Option String :=
  (value.map Text.trim).filter fun s => !s.isEmpty

/-- The home directory, if it is known. -/
def homeDirectory (e : Environment) : Option String := e.home.filter fun s => !s.isEmpty

/-- The directory of settings: one that is absolute, or one in the home directory. -/
def settingsDirectory (e : Environment) : String :=
  match e.configHome.filter fun s => s.toList.head? == some '/' with
  | some directory => directory
  | none => e.homeDirectory.elim "." (joinPath · ".config")

/-- The path of the settings file. -/
def settingsPath (e : Environment) : String :=
  match present e.settingsFile with
  | some path => expandHome e.homeDirectory path
  | none => joinPath (joinPath e.settingsDirectory "specsource") "config.json"

end Environment

namespace Settings

open Json (Raw Record)

/-- The names of the fields, in order. -/
def fieldNames : List String := ["spec", "base_url", "headers", "timeout_secs", "telemetry_endpoint"]

/-- A whole number that is not negative. -/
def count? : Raw → Option Json.Integer
  | .number (some (.int n)) => if 0 ≤ n.val then some n else none
  | _ => none

/-- A member whose value is a text. -/
def textMember? (member : Option String × Raw) : Option (String × String) := do
  some (← member.1, ← member.2.string?)

/-- Texts by name. -/
def texts? : Raw → Option (Entries String)
  | .object members => (members.mapM textMember?).map Entries.ofList
  | _ => none

/-- The settings that a raw value stands for. -/
def ofRaw? (raw : Raw) : Option Settings := do
  let record ← Record.ofRaw? fieldNames raw
  some {
    document := ← record.optional "spec" Raw.string?
    baseUrl := ← record.optional "base_url" Raw.string?
    headers := ← record.withDefault "headers" [] texts?
    timeout := ← record.optional "timeout_secs" count?
    telemetry := ← record.optional "telemetry_endpoint" Raw.string? }

/-- The settings in a text, if it holds any. -/
def ofText? (text : String) : Option Settings :=
  (Json.readRaw .tolerant text).toOption.bind ofRaw?

/-- The settings in a file as read. -/
def load (file : Except FileFault String) : Settings := (file.toOption.bind ofText?).getD {}

/-- The settings as JSON. -/
def toJson (s : Settings) : Json :=
  let text (value : Option String) : Json := value.elim .null .string
  .object [
    ("spec", text s.document), ("base_url", text s.baseUrl),
    ("headers", .object (Entries.mapValues .string s.headers)),
    ("timeout_secs", s.timeout.elim .null fun n => .number (.int n)),
    ("telemetry_endpoint", text s.telemetry)]

/-! ## The environment -/

/-- The name of the header that carries credentials. -/
def authorization : String := "Authorization"

/-- Whether two names of headers are the same but for the case of ASCII letters. -/
def sameHeader (a b : String) : Bool := a.toLower == b.toLower

/-- The headers with a token, unless they carry credentials already. -/
def withToken (headers : Entries String) (token : String) : Entries String :=
  if headers.any fun h => sameHeader h.1 authorization then headers
  else Entries.insert authorization ("Bearer " ++ token) headers

/-- The settings in an environment. -/
def within (s : Settings) (e : Environment) : Settings :=
  { s with
    baseUrl := (Environment.present e.baseUrl).or s.baseUrl
    headers := (Environment.present e.token).elim s.headers (withToken s.headers) }

/-- How many seconds a request may take where nothing is set. -/
def usualTimeout : Nat := 30

/-- How many seconds a request may take. -/
def seconds (s : Settings) : Nat := s.timeout.elim usualTimeout fun n => n.val.toNat

end Settings

end QueryableApi
