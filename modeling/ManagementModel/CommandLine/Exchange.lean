import ManagementModel.CommandLine.Grammar
import ManagementModel.Decimal.Integer
import ManagementModel.Outcome

/-!
# ManagementModel — messages as lines

The program leaves the transport to a peer on its standard streams. A message is written as a head,
an empty line and a body; the first line of an answer is a status, and the rest is the body of the
reply.
-/

namespace ManagementModel.CommandLine

/-- The lines of a message. -/
def messageLines : Message → List String
  | .request r =>
    (r.method.text ++ " " ++ r.url) :: r.headers.map (fun h => h.1 ++ ": " ++ h.2) ++
      ["", r.body.getD ""]
  | .upload u =>
    [Method.post.text ++ " " ++ u.url, "operation: " ++ u.operation,
      u.file.field ++ ": " ++ u.file.name, "", Text.Base64.encode u.file.data]

/-- The answer in the text of a peer. -/
def answerOf (text : String) : Answer :=
  let chars := text.toList
  let head := chars.takeWhile (· != '\n')
  match Decimal.natural? (Text.trimChars head) with
  | some status => .ok ⟨status, String.ofList ((chars.drop head.length).drop 1)⟩
  | none => .error (.transport "no status in the answer")

/-- What an outcome is reported as: the result, or an error. -/
def report : Outcome → Except String String
  | .success result => .ok result.prettyJson
  | .failed operation failure => .error s!"operation {operation.text} failed: {failure}"
  | .exception operation error =>
    .error s!"operation {operation.text} could not be dispatched: {error.message}"

/-- How the program is used. -/
def usageText : String :=
  "usage: hal [options] read|describe|exec|upload|help [arguments]"

def UsageError.message : UsageError → String
  | helpRequested => usageText
  | versionRequested => "hal 0.1.0"
  | nothingGiven => usageText
  | missingCommand => "a command is required"
  | missingArgument => "a required argument is missing"
  | unknownArgument => "unexpected argument"
  | unknownCommand => "unrecognized command"
  | repeatedOption => "an option cannot be used multiple times"
  | missingValue => "a value is required"
  | unexpectedValue => "an unexpected value is given"

/-- What is asked for is no error. -/
def UsageError.isRequest : UsageError → Bool
  | helpRequested => true
  | versionRequested => true
  | _ => false

end ManagementModel.CommandLine
