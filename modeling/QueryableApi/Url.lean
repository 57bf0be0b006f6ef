import QueryableApi.Url.Host

/-! # URLs

An absolute URL and its usual form in text. Six schemes have rules of their own: they must have a host
(`file` excepted), a backslash counts as a slash, and the usual port is left out. Segments of one and two
dots are removed from paths, where two dots do not lead out of a drive, and what may not stand in a part of
a URL is escaped. User names and passwords are dropped.
-/

namespace QueryableApi

/-- An absolute URL. -/
structure Url where
  /-- The scheme, in lower case. -/
  scheme : String
  /-- The host, if there is one. -/
  host : Option String
  /-- The port, unless it is the usual one of the scheme. -/
  port : Option Nat
  /-- The path. -/
  path : String
  /-- What follows a question mark. -/
  query : Option String
  /-- What follows a number sign. -/
  fragment : Option String
deriving DecidableEq, Repr

namespace Url

/-! ## Schemes -/

/-- The rules that a scheme follows. -/
inductive Rules
  /-- Those of a scheme with hosts. -/
  | network
  /-- Those of files. -/
  | files
  /-- Those of any other scheme. -/
  | general
deriving DecidableEq, Repr

/-- The rules of a scheme. -/
def Rules.ofScheme (scheme : String) : Rules :=
  if ["http", "https", "ws", "wss", "ftp"].contains scheme then .network
  else if scheme == "file" then .files
  else .general

/-- Whether a scheme has rules of its own. -/
def Rules.isSpecial (r : Rules) : Bool := r != .general

/-- The port of a scheme that need not be written. -/
def usualPort? (scheme : String) : Option Nat :=
  if scheme == "http" || scheme == "ws" then some 80
  else if scheme == "https" || scheme == "wss" then some 443
  else if scheme == "ftp" then some 21
  else none

/-- The scheme at the start of a text, and what follows its colon. -/
def scheme? (text : List Char) : Option (String × List Char) :=
  let name := text.takeWhile (· != ':')
  let isSchemeChar (c : Char) : Bool := c.isAlphanum || c == '+' || c == '-' || c == '.'
  match text.drop name.length with
  | ':' :: rest =>
    if name.head?.any Char.isAlpha && name.all isSchemeChar then
      some ((String.ofList name).toLower, rest)
    else none
  | _ => none

/-! ## Escapes -/

/-- Whether a character may stand in a fragment. -/
def isInFragment (c : Char) : Bool :=
  0x20 < c.toNat && c.toNat < 0x7F && !"\"<>`".toList.contains c

/-- Whether a character may stand in a path. -/
def isInPath (c : Char) : Bool := isInFragment c && !"#?\x7b\x7d".toList.contains c

/-- Whether a character may stand in a query. -/
def isInQuery (special : Bool) (c : Char) : Bool :=
  0x20 < c.toNat && c.toNat < 0x7F && !"\"#<>".toList.contains c && !(special && c == '\'')

/-- A text with what is not kept as escapes. -/
def escaped (kept : Char → Bool) (text : List Char) : String :=
  String.ofList (text.flatMap (Percent.encodeChar kept))

/-! ## Paths -/

/-- Whether a character separates the segments of a path. -/
def isSlash (special : Bool) (c : Char) : Bool := c == '/' || (special && c == '\\')

/-- A segment with the escapes of points undone and letters in lower case. -/
def plainDots (segment : List Char) : List Char :=
  match segment with
  | '%' :: '2' :: 'e' :: rest | '%' :: '2' :: 'E' :: rest => '.' :: plainDots rest
  | c :: rest => c :: plainDots rest
  | [] => []

/-- Whether a segment is the name of a drive, such as `C:`. -/
def isDrive (segment : List Char) : Bool :=
  match segment with
  | [letter, mark] => letter.isAlpha && (mark == ':' || mark == '|')
  | _ => false

/-- The segments without the last one, unless that is a drive; `kept` holds them, the last one first. -/
def withoutLast (kept : List (List Char)) : List (List Char) :=
  if kept.head?.any isDrive then kept else kept.tail

/-- The segments of a path without those of one and two dots: one dot stands for nothing, two dots take
the segment before with them, and either of them at the end leaves an empty segment. `kept` holds the
segments before, the last one first. -/
def resolve (kept : List (List Char)) : List (List Char) → List (List Char)
  | [] => kept.reverse
  | segment :: rest =>
    if plainDots segment == ['.', '.'] then
      let kept := withoutLast kept
      resolve (if rest.isEmpty then [] :: kept else kept) rest
    else if plainDots segment == ['.'] then resolve (if rest.isEmpty then [] :: kept else kept) rest
    else resolve (segment :: kept) rest

/-- A path of segments in its usual form. -/
def pathText (segments : List (List Char)) : String :=
  "/" ++ "/".intercalate (segments.map (escaped isInPath))

/-- The usual form of a path behind its first slash. -/
def rootedPath (special : Bool) (text : List Char) : String :=
  pathText (resolve [] (text.splitOnP (isSlash special)))

/-- The usual form of the path behind a host. -/
def pathAfterHost (special : Bool) (text : List Char) : String :=
  match text with
  | [] => if special then "/" else ""
  | c :: rest => if isSlash special c then rootedPath special rest else rootedPath special text

/-- The usual form of the path of a file, and whether it starts with a drive. Slashes at its start count
once, and the mark of the drive is a colon. -/
def filePath (text : List Char) : String × Bool :=
  let text := if text.head?.any (isSlash true) then text.drop 1 else text
  match resolve [] (text.splitOnP (isSlash true)) with
  | first :: rest =>
    if isDrive first then (pathText ((first.take 1 ++ [':']) :: rest), true)
    else (pathText ((first :: rest).dropWhile List.isEmpty), false)
  | [] => ("/", false)

/-! ## Authorities -/

/-- The text behind the last at sign. -/
def afterUser (authority : List Char) : List Char :=
  (authority.reverse.takeWhile (· != '@')).reverse

/-- The host of an authority without a user and the text of its port, if there is a colon outside
brackets. -/
def splitPort (inBrackets : Bool) : List Char → List Char × Option (List Char)
  | [] => ([], none)
  | c :: rest =>
    if c == ':' && !inBrackets then ([], some rest)
    else
      let (host, port) := splitPort (c == '[' || (inBrackets && c != ']')) rest
      (c :: host, port)

/-- The port that digits denote; without digits there is none. A backslash ends them in any scheme. -/
def portOf (scheme : String) (text : List Char) : Except Fault (Option Nat) :=
  let digits := text.takeWhile Char.isDigit
  let isEnd := (text.drop digits.length).head?.all (· == '\\')
  let value := digits.foldl (fun n d => n * 10 + (d.toNat - 0x30)) 0
  if !isEnd || 65535 < value then .error .invalidPort
  else .ok (if digits.isEmpty || usualPort? scheme == some value then none else some value)

/-- What may follow a port behind a backslash of a scheme without rules of its own. -/
def afterPort (text : List Char) : List Char := text.dropWhile Char.isDigit

/-! ## Reading -/

/-- Puts the query and the fragment behind the rest. -/
def withTail (special : Bool) (tail : List Char) (u : Url) : Url :=
  match tail with
  | '?' :: rest =>
    let query := rest.takeWhile (· != '#')
    let fragment := (rest.drop query.length).drop 1
    { u with
      query := some (escaped (isInQuery special) query)
      fragment :=
        if query.length < rest.length then some (escaped isInFragment fragment) else none }
  | '#' :: rest => { u with fragment := some (escaped isInFragment rest) }
  | _ => u

/-- Whether a character starts a query or a fragment. -/
def startsTail (c : Char) : Bool := c == '?' || c == '#'

/-- The URL with an authority, a path and a tail. -/
def ofAuthority (scheme : String) (rules : Rules) (text : List Char) : Except Fault Url := do
  let special := rules.isSpecial
  let authority := text.takeWhile fun c => !(isSlash special c || startsTail c)
  let rest := text.drop authority.length
  let (hostText, portText) := splitPort false (afterUser authority)
  let hasUser := authority.contains '@' && authority.any fun c => c != '@' && c != ':'
  let isLoneMark := authority == ['@'] && !rest.isEmpty
  if hostText.isEmpty && (special || portText.isSome || hasUser || isLoneMark) then
    .error .emptyHost
  else
    let host ←
      if special then (hostOf hostText).map some
      else if hostText.isEmpty then .ok none
      else (opaqueHost hostText).map some
    let port ← portText.elim (.ok none) (portOf scheme)
    let rest := portText.elim rest fun p => afterPort p ++ rest
    let path := pathAfterHost special (rest.takeWhile fun c => !startsTail c)
    .ok (withTail special (rest.dropWhile fun c => !startsTail c)
      ⟨scheme, host, port, path, none, none⟩)

/-- The URL of a file. The local host and a drive stand for no host. -/
def ofFile (text : List Char) : Except Fault Url := do
  let slashes := text.take 2
  let hasAuthority := slashes.length == 2 && slashes.all (isSlash true)
  let authority :=
    if hasAuthority then (text.drop 2).takeWhile fun c => !(isSlash true c || startsTail c) else []
  let isLocal := authority.isEmpty || isDrive authority
  let name ← if isLocal then .ok "localhost" else hostOf authority
  let passed := if hasAuthority then 2 + (if isDrive authority then 0 else authority.length) else 0
  let rest := text.drop passed
  let (path, hasDrive) := filePath (rest.takeWhile fun c => !startsTail c)
  .ok (withTail true (rest.dropWhile fun c => !startsTail c)
    ⟨"file", if name == "localhost" || hasDrive then none else some name, none, path, none, none⟩)

/-- The URL of a scheme without rules of its own that has no host. -/
def withoutHost (scheme : String) (text : List Char) : Url :=
  let path := text.takeWhile fun c => !startsTail c
  let isOpaque := path.head? != some '/'
  withTail false (text.drop path.length)
    ⟨scheme, none, none,
      if isOpaque then escaped (fun c => 0x20 ≤ c.toNat && c.toNat < 0x7F) path
      else rootedPath false (path.drop 1),
      none, none⟩

/-- Whether a character at an end of a URL does not count. -/
def isMargin (c : Char) : Bool := c.toNat ≤ 0x20

/-- The characters of a text that count as part of a URL. -/
def relevant (text : List Char) : List Char :=
  let trimmed := ((text.dropWhile isMargin).reverse.dropWhile isMargin).reverse
  trimmed.filter fun c => c != '\t' && c != '\n' && c != '\r'

/-- The URL that a text is. -/
def parse (text : String) : Except Fault Url :=
  match scheme? (relevant text.toList) with
  | none => .error .relative
  | some (scheme, rest) =>
    match Rules.ofScheme scheme with
    | .network => ofAuthority scheme .network (rest.dropWhile (isSlash true))
    | .files => ofFile rest
    | .general =>
      if rest.take 2 == ['/', '/'] then ofAuthority scheme .general (rest.drop 2)
      else .ok (withoutHost scheme rest)

/-! ## Writing -/

/-- A URL in its usual form. -/
def text (u : Url) : String :=
  let authority := u.host.elim "" fun h => "//" ++ h ++ u.port.elim "" fun p => ":" ++ toString p
  u.scheme ++ ":" ++ authority ++ u.path ++ u.query.elim "" ("?" ++ ·)
    ++ u.fragment.elim "" ("#" ++ ·)

end Url

end QueryableApi
