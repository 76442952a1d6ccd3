import ManagementModel.Url.Host

/-!
# ManagementModel — URLs

The parts of a URL. Some schemes are special: their URLs have a host, a backslash counts as a slash
in them, and they have a default port.
-/

namespace ManagementModel

namespace Url

inductive Path where
  /-- Segments, each behind a slash. -/
  | segments (list : List String)
  /-- The rest of a URL that has neither host nor slash. -/
  | rest (text : String)
deriving DecidableEq, Repr

end Url

structure Url where
  scheme : String
  username : String
  password : String
  host : Option Url.Host
  /-- The port, unless it is the default of the scheme. -/
  port : Option Nat
  path : Url.Path
  query : Option String
  fragment : Option String
deriving DecidableEq, Repr

namespace Url

/-- The default ports of the special schemes that have hosts. -/
def defaultPorts : List (String × Nat) :=
  [("http", 80), ("https", 443), ("ws", 80), ("wss", 443), ("ftp", 21)]

def defaultPort? (scheme : String) : Option Nat :=
  defaultPorts.lookup scheme

/-- How the rest of a URL is read, by its scheme. -/
inductive SchemeKind where
  | special
  | file
  | plain
deriving DecidableEq, Repr

def schemeKind (scheme : String) : SchemeKind :=
  if (defaultPort? scheme).isSome then .special
  else if scheme = "file" then .file
  else .plain

/-- A backslash counts as a slash. -/
def SchemeKind.hasBackslash : SchemeKind → Bool
  | special => true
  | file => true
  | plain => false

end Url

end ManagementModel
