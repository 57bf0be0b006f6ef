import QueryableApi.Entries
import QueryableApi.Failure
import QueryableApi.Redaction
import QueryableApi.Url

/-! # Clients

A client sends requests below a base address, with headers of its own. The address must have a host and,
unless that is the local one, the scheme `https`. Header names are compared without regard to case, and
the last header with a name is sent.
-/

namespace QueryableApi

/-! ## Addresses -/

/-- What is wrong with a base address. -/
inductive AddressFault
  /-- It is no URL. -/
  | invalid (address : String) (fault : Url.Fault)
  /-- It has no host. -/
  | withoutHost (address : String)
  /-- It leads to another machine without encryption. -/
  | insecure (scheme : String)
deriving DecidableEq, Repr

/-- The wording of a fault. -/
def AddressFault.message : AddressFault → String
  | invalid address fault => "Invalid base URL '" ++ address ++ "': " ++ fault.message
  | withoutHost address => "base URL '" ++ address ++ "' must include a host"
  | insecure scheme =>
    "base URL must use https for non-localhost hosts; got '" ++ scheme ++ "://'"

/-- The hosts that stand for this machine. -/
def localHosts : List String := ["localhost", "127.0.0.1"]

/-- Whether a host stands for this machine. -/
def isLocalHost (host : String) : Bool := localHosts.contains host.toLower

/-- Checks a base address. -/
def checkAddress (address : String) : Except AddressFault Unit :=
  match Url.parse address with
  | .error fault => .error (.invalid address fault)
  | .ok url =>
    match url.host with
    | none => .error (.withoutHost address)
    | some host =>
      if isLocalHost host || url.scheme == "https" then .ok () else .error (.insecure url.scheme)

/-! ## Headers -/

/-- What is wrong with a header. -/
inductive HeaderFault
  /-- Its name. -/
  | invalidName (name : String)
  /-- Its value. -/
  | invalidValue (name value : String)
deriving DecidableEq, Repr

/-- The wording of a fault, outermost message first. A value is shown without secrets. -/
def HeaderFault.chain : HeaderFault → ErrorChain
  | invalidName name => ["invalid header name '" ++ name ++ "'", "invalid HTTP header name"]
  | invalidValue name value =>
    [redact ("invalid value for header '" ++ name ++ ": " ++ value ++ "'"),
      "failed to parse header value"]

/-- How long the name of a header may be. -/
def maxHeaderName : Nat := 65535

/-- Whether a character may stand in the name of a header. -/
def isHeaderNameChar (c : Char) : Bool := c.isAlphanum || "!#$%&'*+-.^_`|~".toList.contains c

/-- Whether a text may be the name of a header. -/
def isHeaderName (name : String) : Bool :=
  !name.isEmpty && name.toList.all isHeaderNameChar && name.length ≤ maxHeaderName

/-- Whether a text may be the value of a header. -/
def isHeaderValue (value : String) : Bool :=
  value.toList.all fun c => c == '\t' || (0x20 ≤ c.toNat && c.toNat != 0x7F)

/-- The headers of a request, by name in lower case. -/
abbrev Headers := Entries String

namespace Headers

/-- Writes a header over one with the same name. -/
def set (headers : Headers) (name value : String) : Headers :=
  Entries.insert name.toLower value headers

/-- Writes headers in order, up to the first that is malformed. -/
def setAll (headers : Headers) : List (String × String) → Except HeaderFault Headers
  | [] => .ok headers
  | (name, value) :: rest =>
    if !isHeaderName name then .error (.invalidName name)
    else if !isHeaderValue value then .error (.invalidValue name value)
    else (headers.set name value).setAll rest

end Headers

/-! ## Clients -/

/-- A request for what is at a URL. -/
structure GetRequest where
  /-- The URL. -/
  url : Url
  /-- The headers. -/
  headers : Headers
deriving Repr

/-- Why there is no request, or why one cannot be sent. -/
inductive RequestFault
  /-- The address is no URL. -/
  | invalid (fault : Url.Fault)
  /-- Nothing is sent with the scheme of the URL, or to nowhere. -/
  | scheme (url : Url)
  /-- The URL is too long, or has a host that no request can name. -/
  | unnameable (url : Url)
  /-- The URL asks for encryption, which there is not. -/
  | encrypted (url : Url)
deriving DecidableEq, Repr

/-- The wording of a fault, outermost message first. -/
def RequestFault.chain : RequestFault → ErrorChain
  | invalid fault => ["builder error", fault.message]
  | scheme url => ["builder error for url (" ++ url.text ++ ")", "URL scheme is not allowed"]
  | unnameable url =>
    ["builder error for url (" ++ url.text ++ ")", "Parsed Url is not a valid Uri"]
  | encrypted url =>
    ["error sending request for url (" ++ url.text ++ ")", "client error (Connect)",
      "invalid URL, scheme is not http"]

namespace GetRequest

/-- How long a URL that is sent may be. -/
def maxLength : Nat := 65534

/-- Whether a character of a host may be sent. -/
def isSendable (c : Char) : Bool := !"\"`\x7b\x7d".toList.contains c

/-- Why a request cannot be sent. -/
def fault? (r : GetRequest) : Option RequestFault :=
  let hostSendable := r.url.host.all fun h => h.toList.all isSendable
  if r.url.scheme != "http" && r.url.scheme != "https" then some (.scheme r.url)
  else if maxLength < r.url.text.length || !hostSendable then some (.unnameable r.url)
  else if r.url.scheme == "https" then some (.encrypted r.url)
  else none

end GetRequest

/-- What sends requests. -/
structure Client where
  /-- The address that paths are put behind. -/
  baseUrl : String
  /-- The headers of every request. -/
  headers : Headers
deriving Repr

namespace Client

/-- How the program names itself. -/
def userAgent : String := "specsource/0.1.0; linux"

/-- The headers that every request has unless they are given. -/
def usualHeaders : Headers := [("accept", "application/json")]

/-- The client for an address and headers. -/
def make (address : String) (headers : List (String × String)) : Except ErrorChain Client := do
  (checkAddress address).mapError fun fault => [fault.message]
  let headers ← (usualHeaders.setAll headers).mapError HeaderFault.chain
  let slashless := (address.toList.reverse.dropWhile (· == '/')).reverse
  .ok ⟨String.ofList slashless, headers⟩

/-- The address of a path. -/
def addressOf (c : Client) (path : String) : String :=
  if path.toList.head? == some '/' then c.baseUrl ++ path else c.baseUrl ++ "/" ++ path

/-- The request for a path, if its address is a URL with a host. -/
def get (c : Client) (path : String) : Except RequestFault GetRequest := do
  let url ← (Url.parse (c.addressOf path)).mapError .invalid
  if url.host.isNone then .error (.scheme url)
  else .ok ⟨url, c.headers.set "user-agent" userAgent⟩

end Client

end QueryableApi
