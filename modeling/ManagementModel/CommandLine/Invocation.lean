import ManagementModel.CommandLine.Grammar

/-!
# ManagementModel — command lines

A command line names a command and what it acts on. Options about the session may stand before and
behind the command; one that stands in both places has the value of the second.
-/

namespace ManagementModel.CommandLine

/-- The options about the session. -/
structure Options where
  url : Option String := none
  user : Option String := none
  password : Option String := none
  domain : Bool := false
  strict : Bool := false
  profile : Option String := none
  host : Option String := none
  server : Option String := none
  serverGroup : Option String := none
  serverConfig : Option String := none
deriving DecidableEq, Repr

inductive Command where
  /-- Reads a resource. -/
  | read (template : String) (recursive includeRuntime : Bool)
  /-- Reads the description of a resource. -/
  | describe (template : String) (recursive operations : Bool)
  /-- Executes an operation; parameters are given as texts. -/
  | exec (template operation : String) (parameters : List String)
  /-- Uploads a file with an operation, in a field of the form. -/
  | upload (file template operation : String) (parameters : List String) (field : String)
deriving DecidableEq, Repr

structure Invocation where
  options : Options
  command : Command
deriving DecidableEq, Repr

/-! ## Grammars -/

def sessionOptions : List (String × Role) := [
  ("url", .option), ("user", .option), ("password", .option), ("domain", .flag), ("strict", .flag),
  ("profile", .option), ("host", .option), ("server", .option), ("server-group", .option),
  ("server-config", .option)]

/-- The command that explains the others. -/
def helpCommand : String := "help"

/-- What may stand before the command. -/
def sessionGrammar : Grammar where
  named := sessionOptions ++
    [("help", .request .helpRequested), ("version", .request .versionRequested)]
  letters := [('h', .helpRequested), ('V', .versionRequested)]
  positionals := []
  commands := ["read", "describe", "exec", "upload", helpCommand]

/-- What may stand behind a command. -/
def commandGrammar (named : List (String × Role)) (positionals : List Positional) : Grammar where
  named := sessionOptions ++ named ++ [("help", .request .helpRequested)]
  letters := [('h', .helpRequested)]
  positionals := positionals
  commands := []

def template : Positional := { name := "template" }

def operation : Positional := { name := "operation" }

def parameters : Positional := { name := "parameters", required := false, many := true }

def file : Positional := { name := "file", mayBeEmpty := false }

def readGrammar : Grammar :=
  commandGrammar [("recursive", .flag), ("include-runtime", .flag)] [template]

def describeGrammar : Grammar :=
  commandGrammar [("recursive", .flag), ("operations", .flag)] [template]

def execGrammar : Grammar :=
  commandGrammar [] [template, operation, parameters]

def uploadGrammar : Grammar :=
  commandGrammar [("field", .option)] [file, template, operation, parameters]

/-- The field of the form that carries the file, unless another is given. -/
def defaultField : String := "input"

/-! ## Reading -/

/-- The value of a required argument. -/
def Progress.value (p : Progress) (name : String) : String :=
  (p.values name).head?.getD ""

/-- The command of a name, and what stands behind it. -/
def Command.ofArguments (name : String) (args : List String) :
    Except UsageError (Command × Progress) :=
  match name with
  | "read" => do
    let p ← readGrammar.readAll args
    return (.read (p.value "template") (p.isGiven "recursive") (p.isGiven "include-runtime"), p)
  | "describe" => do
    let p ← describeGrammar.readAll args
    return (.describe (p.value "template") (p.isGiven "recursive") (p.isGiven "operations"), p)
  | "exec" => do
    let p ← execGrammar.readAll args
    return (.exec (p.value "template") (p.value "operation") (p.values "parameters"), p)
  | "upload" => do
    let p ← uploadGrammar.readAll args
    return (.upload (p.value "file") (p.value "template") (p.value "operation")
      (p.values "parameters") ((p.values "field").head?.getD defaultField), p)
  | _ => .error .unknownCommand

/-- The options of what stands before and behind the command. -/
def Options.ofProgress (before behind : Progress) : Options :=
  let value (name : String) : Option String :=
    (behind.values name).head?.or (before.values name).head?
  let isGiven (name : String) : Bool := behind.isGiven name || before.isGiven name
  { url := value "url"
    user := value "user"
    password := value "password"
    domain := isGiven "domain"
    strict := isGiven "strict"
    profile := value "profile"
    host := value "host"
    server := value "server"
    serverGroup := value "server-group"
    serverConfig := value "server-config" }

/-- What ends the reading at the command for help: the help that is asked for, unless a command is
named that is none. -/
def helpAbout : List String → UsageError
  | [] => .helpRequested
  | [name] => if sessionGrammar.commands.contains name then .helpRequested else .unknownCommand
  | _ => .unknownCommand

/-- Reads a command line, which begins with the name of the program. -/
def Invocation.ofArguments (args : List String) : Except UsageError Invocation := do
  match ← sessionGrammar.read {} args.tail with
  | (before, none) =>
    let before ← sessionGrammar.settle before
    throw (if before.given.isEmpty then .nothingGiven else .missingCommand)
  | (before, some (name, rest)) =>
    if name == helpCommand then throw (helpAbout rest)
    let (command, behind) ← Command.ofArguments name rest
    let before ← sessionGrammar.settle before
    return ⟨.ofProgress before behind, command⟩

end ManagementModel.CommandLine
