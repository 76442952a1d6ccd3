import ManagementModel.Endpoint
import ManagementModel.Files.Path
import ManagementModel.Json.Fault
import ManagementModel.Json.Printer
import ManagementModel.Json.Record

/-!
# ManagementModel — settings

What a session has to know before it begins: where the interface is, who asks, how long a reply may
take, and what is managed. Settings are kept as a document; one that leaves fields out is completed
with the defaults.
-/

namespace ManagementModel

structure Settings where
  /-- The base address of the interface. -/
  baseUrl : String := "http://localhost:9990"
  username : Option String := none
  password : Option String := none
  /-- The longest time that a reply may take, in seconds. -/
  timeoutSeconds : UInt64 := 30
  /-- A single server is managed, and not a domain of servers. -/
  standalone : Bool := true
deriving DecidableEq, Repr

namespace Settings

def topology (s : Settings) : Topology := .ofStandalone s.standalone

/-! ## The document -/

/-- A text that may be absent, as a value of a document. -/
def textOrNull : Option String → Json
  | some s => .string s
  | none => .null

def toJson (s : Settings) : Json :=
  .object [
    ("baseUrl", .string s.baseUrl),
    ("username", textOrNull s.username),
    ("password", textOrNull s.password),
    ("timeoutSecs", .ofUInt64 s.timeoutSeconds),
    ("standalone", .bool s.standalone)]

/-- The text of the document. -/
def text (s : Settings) : String := s.toJson.pretty

/-- How the fields of the document are read, in the order they have in a list. -/
def fields : List (Json.Reader.Field Settings) := [
  ⟨"baseUrl", fun fuel s => do return { s with baseUrl := ← Json.Reader.text fuel }⟩,
  ⟨"username", fun fuel s => do
    return { s with username := ← Json.Reader.optional (Json.Reader.text fuel) }⟩,
  ⟨"password", fun fuel s => do
    return { s with password := ← Json.Reader.optional (Json.Reader.text fuel) }⟩,
  ⟨"timeoutSecs", fun fuel s => do
    return { s with timeoutSeconds := ← Json.Reader.unsigned fuel }⟩,
  ⟨"standalone", fun fuel s => do return { s with standalone := ← Json.Reader.flag fuel }⟩]

/-- The settings of a document. -/
def ofText (text : String) : Except Json.SyntaxError Settings :=
  Json.Reader.run (Json.Reader.record "struct DispatchConfig" fields {}) text

end Settings

/-- Why settings cannot be read or kept. -/
inductive SettingsError where
  | unreadable (path : Files.Path) (cause : Files.FileError)
  | unwritable (path : Files.Path) (cause : Files.FileError)
  /-- The file is there, but is no document of settings. -/
  | malformed (path : Files.Path) (cause : Json.SyntaxError)
  | invalidValue (variableName value : String)
deriving DecidableEq, Repr

namespace SettingsError

/-- The message of what lies behind the error. -/
def cause? : SettingsError → Option String
  | unreadable _ cause => some cause.message
  | unwritable _ cause => some cause.message
  | malformed _ cause => some cause.message
  | invalidValue _ _ => none

def message : SettingsError → String
  | unreadable path cause => s!"failed to read configuration file {path.text}: {cause.message}"
  | unwritable path cause => s!"failed to write configuration file {path.text}: {cause.message}"
  | malformed path cause => s!"failed to parse configuration file {path.text}: {cause.message}"
  | invalidValue variableName value => s!"invalid value '{value}' for {variableName}"

end SettingsError

end ManagementModel
