import ManagementModel.CommandLine.Invocation
import ManagementModel.CommandLine.Parameter
import ManagementModel.Request
import ManagementModel.Settings.File
import ManagementModel.Template.Resolution

/-!
# ManagementModel — what a command line asks for

The options override the settings of the session and make a selection. The template of the command
is resolved under that selection, and the command then says which operation runs on the address.
-/

namespace ManagementModel.CommandLine

namespace Options

/-- The settings, overridden by options. -/
def override (o : Options) (s : Settings) : Settings where
  baseUrl := o.url.getD s.baseUrl
  username := o.user.or s.username
  password := o.password.or s.password
  timeoutSeconds := s.timeoutSeconds
  standalone := s.standalone && !o.domain

/-- The settings of the file and the variables, overridden by options. -/
def settings (o : Options) (read : Files.Path → Except Files.FileError (List UInt8))
    (v : Variables) : Except CommandError Settings :=
  ((Settings.load read v).map o.override).mapError .settings

/-- The selection that options make. A host is selected for the domain controller too. -/
def selection (o : Options) : Template.Selection :=
  [(Template.Tuple.selectedProfile, o.profile), (.selectedHost, o.host),
    (.domainController, o.host), (.selectedServer, o.server), (.selectedGroup, o.serverGroup),
    (.selectedServerConfig, o.serverConfig)].foldl (fun s (t, value) => s.set t value) .empty

def policy (o : Options) : Template.Policy :=
  if o.strict then .strict else .permissive

end Options

/-- The address of the text of a template. -/
def resolveText (text : String) (selection : Template.Selection) (policy : Template.Policy) :
    Except CommandError Address := do
  let template ← (Template.parse text).mapError (.invalidTemplate text)
  (template.resolveWith selection policy []).mapError (.unresolved template)

/-- The name of the operation that reads a resource. -/
def readName : String := "read-resource"

/-- The parameters for flags that are set. -/
def flagParameters (flags : List (String × Bool)) : List (String × Node) :=
  (flags.filter (·.2)).map fun f => (f.1, .boolean true)

namespace Command

def template : Command → String
  | read template _ _ => template
  | describe template _ _ => template
  | exec template _ _ => template
  | upload _ template _ _ _ => template

def operationName : Command → String
  | read _ _ _ => readName
  | describe _ _ _ => Operation.descriptionName
  | exec _ operation _ => operation
  | upload _ _ operation _ _ => operation

def parameters : Command → Except CommandError (List (String × Node))
  | read _ recursive includeRuntime =>
    .ok (flagParameters [("recursive", recursive), ("include-runtime", includeRuntime)])
  | describe _ recursive operations =>
    .ok (flagParameters [("recursive", recursive), ("operations", operations)])
  | exec _ _ parameters => readParameters parameters
  | upload _ _ _ parameters _ => readParameters parameters

end Command

/-- The operation that a command line asks for under a selection. -/
def Invocation.operation (i : Invocation) (selection : Template.Selection) :
    Except CommandError Operation := do
  let address ← resolveText i.command.template selection i.options.policy
  return .build address i.command.operationName (← i.command.parameters)

end ManagementModel.CommandLine
