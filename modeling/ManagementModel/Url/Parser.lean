import ManagementModel.Url.Basic

/-!
# ManagementModel — reading URLs

A URL is read by the rules that browsers follow: blanks and controls around it do not count, tabs
and line breaks nowhere, slashes before the host may be too many or too few, segments of one or two
dots are resolved, and characters that may not stand in a part are percent encoded.
-/

namespace ManagementModel.Url

/-! ## Parts of the text -/

def isC0OrSpace (c : Char) : Bool := c.toNat ≤ 0x20

def isTabOrLineBreak (c : Char) : Bool := c == '\t' || c == '\n' || c == '\r'

/-- The text without blanks and controls around it, and without tabs and line breaks. -/
def clean (s : List Char) : List Char :=
  ((s.dropWhile isC0OrSpace).reverse.dropWhile isC0OrSpace).reverse.filter
    fun c => !isTabOrLineBreak c

def isSchemeChar (c : Char) : Bool :=
  c.isAlphanum || c == '+' || c == '-' || c == '.'

/-- The scheme in small letters, and what follows its colon. -/
def splitScheme (s : List Char) : Option (String × List Char) :=
  if s.head?.any Char.isAlpha then
    match s.dropWhile isSchemeChar with
    | ':' :: rest => some (String.ofList ((s.takeWhile isSchemeChar).map Char.toLower), rest)
    | _ => none
  else none

/-- A character that ends the authority. -/
def endsAuthority (kind : SchemeKind) (c : Char) : Bool :=
  c == '/' || c == '?' || c == '#' || (kind.hasBackslash && c == '\\')

/-- A slash between segments. -/
def isSlash (kind : SchemeKind) (c : Char) : Bool :=
  c == '/' || (kind.hasBackslash && c == '\\')

/-! ## What is percent encoded -/

/-- In fragments, beside the controls. -/
def reservedInFragment (c : Char) : Bool :=
  Text.Percent.isControl c || [' ', '"', '<', '>', '\x60'].contains c

/-- In segments. -/
def reservedInSegment (c : Char) : Bool :=
  reservedInFragment c || ['#', '?', '\x7b', '\x7d'].contains c

/-- In user names and passwords. -/
def reservedInUser (c : Char) : Bool :=
  reservedInSegment c || ['/', ':', ';', '=', '@', '[', '\\', ']', '^', '|'].contains c

/-- In queries. -/
def reservedInQuery (kind : SchemeKind) (c : Char) : Bool :=
  Text.Percent.isControl c || [' ', '"', '#', '<', '>'].contains c ||
    (kind == .special && c == '\x27')

def encoded (reserved : Char → Bool) (s : List Char) : String :=
  String.ofList (Text.Percent.encode reserved s)

/-! ## User, host and port -/

/-- What stands before the last at sign, if there is one, and what follows it. -/
def splitUser (s : List Char) : Option (List Char) × List Char :=
  let tail := (s.reverse.takeWhile (· != '@')).reverse
  if tail.length = s.length then (none, s) else (some (s.take (s.length - tail.length - 1)), tail)

/-- The user name and the password. -/
def credentials (user : List Char) : String × String :=
  (encoded reservedInUser (user.takeWhile (· != ':')),
    encoded reservedInUser ((user.dropWhile (· != ':')).drop 1))

/-- The host of an authority, up to a colon outside brackets, and what follows. -/
def splitHost (inBrackets : Bool) : List Char → List Char × List Char
  | [] => ([], [])
  | c :: rest =>
    if c == ':' && !inBrackets then ([], c :: rest)
    else
      let (host, after) := splitHost (c == '[' || (inBrackets && c != ']')) rest
      (c :: host, after)

/-- Collects the digits of a port; it may not exceed sixteen bits. -/
def portDigits (n : Nat) : List Char → Except UrlError Nat
  | [] => .ok n
  | c :: rest =>
    if c.isDigit && n * 10 + (c.toNat - 48) ≤ 65535 then portDigits (n * 10 + (c.toNat - 48)) rest
    else .error .invalidPort

/-- The port of a scheme; an empty one and the default one are none. -/
def portOf (scheme : String) (s : List Char) : Except UrlError (Option Nat) := do
  if s.isEmpty then return none
  let n ← portDigits 0 s
  return if some n = defaultPort? scheme then none else some n

/-- The host of a text. -/
def hostOf (kind : SchemeKind) (s : List Char) : Except UrlError (Option Host) :=
  match kind with
  | .plain => if s.isEmpty then .ok none else (Host.ofOther s).map some
  | _ => if s.isEmpty then .error .emptyHost else (Host.ofDomain s).map some

/-! ## Paths -/

/-- Segments that stand for the segment they are in. -/
def isSingleDot (s : List Char) : Bool :=
  s.map Char.toLower ∈ [".".toList, "%2e".toList]

/-- Segments that stand for the segment before. -/
def isDoubleDot (s : List Char) : Bool :=
  s.map Char.toLower ∈ ["..".toList, ".%2e".toList, "%2e.".toList, "%2e%2e".toList]

/-- Puts segments behind those of the reversed `acc`. A last segment of dots leaves an empty one, as
a slash at the end does. -/
def resolveOnto (acc : List String) : List (List Char) → List String
  | [] => acc.reverse
  | s :: rest =>
    let acc := if isDoubleDot s then acc.drop 1 else acc
    let acc :=
      if isDoubleDot s || isSingleDot s then if rest.isEmpty then "" :: acc else acc
      else encoded reservedInSegment s :: acc
    resolveOnto acc rest

/-- The segments of a text at slashes. -/
def splitSlashes (kind : SchemeKind) : List Char → List (List Char)
  | [] => [[]]
  | c :: rest =>
    if isSlash kind c then [] :: splitSlashes kind rest
    else
      match splitSlashes kind rest with
      | s :: more => (c :: s) :: more
      | [] => [[c]]

/-- The path behind a host. -/
def pathOf (kind : SchemeKind) (s : List Char) : Path :=
  match s with
  | [] => .segments (if kind = .plain then [] else [""])
  | c :: rest =>
    .segments (resolveOnto [] (splitSlashes kind (if isSlash kind c then rest else c :: rest)))

/-- The query and the fragment, behind the path. -/
def queryAndFragment (kind : SchemeKind) (s : List Char) : Option String × Option String :=
  let beforeFragment := s.takeWhile (· != '#')
  let query := match beforeFragment with
    | '?' :: rest => some (encoded (reservedInQuery kind) rest)
    | _ => none
  let fragment := match s.dropWhile (· != '#') with
    | '#' :: rest => some (encoded reservedInFragment rest)
    | _ => none
  (query, fragment)

/-- A character that ends the path. -/
def endsPath (c : Char) : Bool := c == '?' || c == '#'

/-! ## Whole URLs -/

/-- A URL from its host on. -/
def afterHost (scheme : String) (user : String × String) (host : Option Host) (port : Option Nat)
    (s : List Char) : Url :=
  let kind := schemeKind scheme
  let (query, fragment) := queryAndFragment kind (s.dropWhile fun c => !endsPath c)
  { scheme := scheme
    username := user.1
    password := user.2
    host := host
    port := port
    path := pathOf kind (s.takeWhile fun c => !endsPath c)
    query := query
    fragment := fragment }

/-- A URL with an authority, from that on. A backslash always ends the port. -/
def afterSlashes (scheme : String) (s : List Char) : Except UrlError Url := do
  let kind := schemeKind scheme
  let authority := s.takeWhile fun c => !endsAuthority kind c
  let rest := s.dropWhile fun c => !endsAuthority kind c
  let (user, hostAndPort) := splitUser authority
  if user = some [] && hostAndPort.isEmpty && !rest.isEmpty then throw .emptyHost
  let credentials := credentials (user.getD [])
  let (hostText, portText) := splitHost false hostAndPort
  let host ← hostOf kind hostText
  if host.isNone && !portText.isEmpty then throw .emptyHost
  let port ← portOf scheme ((portText.drop 1).takeWhile (· != '\\'))
  if host.isNone && credentials != ("", "") then throw .emptyHost
  return afterHost scheme credentials host port (portText.dropWhile (· != '\\') ++ rest)

/-- A letter and a colon or bar name a drive, not a host. -/
def isDrive (s : List Char) : Bool :=
  match s with
  | [c, d] => c.isAlpha && (d == ':' || d == '|')
  | _ => false

/-- A URL of a file, behind its scheme. A host stands behind two slashes; the local one is none. -/
def fileUrl (s : List Char) : Except UrlError Url := do
  let kind := SchemeKind.file
  match s with
  | a :: b :: rest =>
    if isSlash kind a && isSlash kind b then
      let hostText := rest.takeWhile fun c => !endsAuthority kind c
      let after := rest.dropWhile fun c => !endsAuthority kind c
      if hostText.isEmpty || isDrive hostText then
        return afterHost "file" ("", "") none none (if isDrive hostText then rest else after)
      let host ← Host.ofDomain hostText
      return afterHost "file" ("", "") (if host = .domain "localhost" then none else some host)
        none after
    else return afterHost "file" ("", "") none none s
  | _ => return afterHost "file" ("", "") none none s

/-- A URL of a scheme that is not special, behind its scheme. -/
def plainUrl (scheme : String) (s : List Char) : Except UrlError Url :=
  match s with
  | '/' :: '/' :: rest => afterSlashes scheme rest
  | '/' :: _ => .ok (afterHost scheme ("", "") none none s)
  | _ =>
    let url := afterHost scheme ("", "") none none s
    let rest := s.takeWhile fun c => !endsPath c
    .ok { url with path := .rest (encoded Text.Percent.isControl rest) }

/-- The URL of a text. -/
def parse (text : String) : Except UrlError Url :=
  match splitScheme (clean text.toList) with
  | none => .error .relativeWithoutBase
  | some (scheme, rest) =>
    match schemeKind scheme with
    | .special => afterSlashes scheme (rest.dropWhile fun c => c == '/' || c == '\\')
    | .file => fileUrl rest
    | .plain => plainUrl scheme rest

end ManagementModel.Url
