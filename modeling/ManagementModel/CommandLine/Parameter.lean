import ManagementModel.Decimal.Integer
import ManagementModel.Node.Json
import ManagementModel.Settings.Basic
import ManagementModel.Template.Basic
import ManagementModel.Text.Blank

/-!
# ManagementModel — parameters as texts

A parameter is given as a name and a value with an equals sign between them. The kind of the value
follows from its text: the two truth values and whole numbers in the range of words with a sign keep
their kind, what begins with a brace or a bracket is JSON, and everything else is a string.
-/

namespace ManagementModel.CommandLine

/-- Why a command cannot be carried out. The message of an error is followed by those of what lies
behind it. -/
inductive CommandError where
  | settings (cause : SettingsError)
  | invalidTemplate (text : String) (cause : TemplateError)
  | unresolved (template : Template) (cause : TemplateError)
  /-- A parameter has no equals sign. -/
  | notNameAndValue (text : String)
  | missingName (text : String)
  | value (name : String) (cause : Json.SyntaxError)
deriving DecidableEq, Repr

def CommandError.messages : CommandError → List String
  | settings cause => "failed to load configuration" :: cause.message :: cause.cause?.toList
  | invalidTemplate text cause => [s!"invalid address template '{text}'", cause.message]
  | unresolved template cause => [s!"could not resolve '{template.text}'", cause.message]
  | notNameAndValue text => [s!"expected NAME=VALUE, got '{text}'"]
  | missingName text => [s!"parameter name missing in '{text}'"]
  | value name cause =>
    [s!"invalid JSON value for '{name}'", cause.payloadMessage, cause.message]

def CommandError.message (e : CommandError) : String :=
  ": ".intercalate e.messages

/-- The value of a text; `name` is for the error. -/
def readValue (name text : String) : Except CommandError Node :=
  if text = "true" then .ok (.boolean true)
  else if text = "false" then .ok (.boolean false)
  else if text.toList.head?.any (fun c => c == '\x7b' || c == '[') then
    (Node.ofJsonText text).mapError (.value name)
  else
    match Decimal.int64? text with
    | some n => .ok (.ofWhole n.toInt)
    | none => .ok (.string text)

/-- The name and the value of a parameter. Blanks around the name do not count; blanks around the
value belong to it. -/
def readParameter (text : String) : Except CommandError (String × Node) :=
  match text.toList.dropWhile (· != '=') with
  | [] => .error (.notNameAndValue text)
  | _ :: value =>
    let name := String.ofList (Text.trimChars (text.toList.takeWhile (· != '=')))
    if name.isEmpty then .error (.missingName text)
    else (readValue name (String.ofList value)).map (name, ·)

/-- The parameters of texts; the first that is none ends this. -/
def readParameters (texts : List String) : Except CommandError (List (String × Node)) :=
  texts.mapM readParameter

end ManagementModel.CommandLine
