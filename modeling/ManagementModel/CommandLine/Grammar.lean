
/-!
# ManagementModel — how arguments are read

A grammar says which options, flags and positional arguments there are, and which commands may
follow. Arguments are read one by one. The value of an option may stand behind an equals sign or in
the next argument; two dashes alone make the rest positional.

What an argument gives is settled only when the next one begins, or at the end: until then an option
may wait for its value, and a positional argument for more. An error of what is not settled yet is
found late, and not at all if another one comes first.
-/

namespace ManagementModel.CommandLine

/-- What ends the reading: a command line may ask for help, or break the rules of usage. -/
inductive UsageError where
  | helpRequested
  | versionRequested
  /-- Neither an option nor a command is given. -/
  | nothingGiven
  | missingCommand
  | missingArgument
  | unknownArgument
  | unknownCommand
  /-- An option that counts once is given again. -/
  | repeatedOption
  /-- An option lacks its value, or an argument may not be empty. -/
  | missingValue
  /-- A flag is given a value. -/
  | unexpectedValue
deriving DecidableEq, Repr

/-- What a name behind dashes is. -/
inductive Role where
  | flag
  /-- It takes one value. -/
  | option
  /-- It ends the reading. -/
  | request (what : UsageError)
deriving DecidableEq, Repr

/-- An argument that is told by its place. -/
structure Positional where
  name : String
  required : Bool := true
  /-- It takes all arguments that follow. -/
  many : Bool := false
  mayBeEmpty : Bool := true
deriving DecidableEq, Repr

structure Grammar where
  /-- The names behind two dashes. -/
  named : List (String × Role)
  /-- The letters behind one dash; each of them ends the reading. -/
  letters : List (Char × UsageError)
  positionals : List Positional
  /-- The commands that may follow. -/
  commands : List String
deriving Repr

/-- How far the reading has come. -/
structure Progress where
  /-- What is settled: each name with its values, which a flag has none of. -/
  given : List (String × List String) := []
  /-- What is not settled yet. -/
  pending : Option (String × List String) := none
  /-- The option that is not settled lacks its value. -/
  awaiting : Bool := false
  /-- The number of positional arguments that are behind. -/
  position : Nat := 0
  /-- Two dashes came: all that follows is positional. -/
  onlyPositionals : Bool := false
deriving Repr

namespace Progress

def isGiven (p : Progress) (name : String) : Bool :=
  (p.given.lookup name).isSome

/-- All values of a name, in order. -/
def values (p : Progress) (name : String) : List String :=
  (p.given.filter (·.1 == name)).flatMap (·.2)

end Progress

namespace Grammar

def isMany (g : Grammar) (name : String) : Bool :=
  g.positionals.any fun a => a.name == name && a.many

def mayBeEmpty (g : Grammar) (name : String) : Bool :=
  !g.positionals.any fun a => a.name == name && !a.mayBeEmpty

/-- Settles a name with its values. -/
def give (g : Grammar) (p : Progress) (name : String) (values : List String) :
    Except UsageError Progress :=
  if p.isGiven name && !g.isMany name then .error .repeatedOption
  else if values.contains "" && !g.mayBeEmpty name then .error .missingValue
  else .ok { p with given := p.given ++ [(name, values)] }

/-- Settles what is pending. -/
def settle (g : Grammar) (p : Progress) : Except UsageError Progress :=
  match p.pending with
  | none => .ok p
  | some (name, values) =>
    if values.isEmpty then .error .missingValue
    else g.give { p with pending := none, awaiting := false } name values

/-- Reads a name behind two dashes, and the value behind its equals sign. -/
def readNamed (g : Grammar) (p : Progress) (name : String) (value : Option String) :
    Except UsageError Progress :=
  match g.named.lookup name, value with
  | none, _ => .error .unknownArgument
  | some .option, some v => do g.give (← g.settle p) name [v]
  | some .option, none => do
    return { ← g.settle p with pending := some (name, []), awaiting := true }
  | some _, some _ => .error .unexpectedValue
  | some .flag, none => do g.give (← g.settle p) name []
  | some (.request what), none => do
    let _ ← g.settle p
    throw what

/-- Reads the first letter behind a dash. -/
def readLetter (g : Grammar) (p : Progress) (letter : Char) : Except UsageError Progress :=
  match g.letters.lookup letter with
  | none => .error .unknownArgument
  | some what => do
    let _ ← g.settle p
    throw what

/-- The error of an argument for which there is no place. -/
def misplaced (g : Grammar) (p : Progress) (arg : String) : UsageError :=
  if g.commands.isEmpty || (p.onlyPositionals && g.commands.contains arg) then .unknownArgument
  else .unknownCommand

/-- Reads a positional argument. -/
def readPositional (g : Grammar) (p : Progress) (arg : String) : Except UsageError Progress :=
  match g.positionals[p.position]? with
  | none => .error (g.misplaced p arg)
  | some a =>
    let position := if a.many then p.position else p.position + 1
    match p.pending with
    | some (name, values) =>
      if a.many && name == a.name then .ok { p with pending := some (name, values ++ [arg]) }
      else do
        return { ← g.settle p with pending := some (a.name, [arg]), position := position }
    | none => .ok { p with pending := some (a.name, [arg]), position := position }

/-- Gives the pending option its value. -/
def readValue (p : Progress) (arg : String) : Progress :=
  { p with pending := p.pending.map fun (name, _) => (name, [arg]), awaiting := false }

/-- Reads an argument that is no command. -/
def readArgument (g : Grammar) (p : Progress) (arg : String) : Except UsageError Progress :=
  if p.onlyPositionals then g.readPositional p arg
  else
    match arg.toList with
    | ['-', '-'] => .ok { p with onlyPositionals := true }
    | '-' :: '-' :: rest =>
      g.readNamed p (String.ofList (rest.takeWhile (· != '=')))
        (match rest.dropWhile (· != '=') with
          | _ :: value => some (String.ofList value)
          | [] => none)
    | '-' :: letter :: _ => g.readLetter p letter
    | _ => if p.awaiting then .ok (readValue p arg) else g.readPositional p arg

/-- Reads arguments up to the first command: the result are that and what follows it. -/
def read (g : Grammar) (p : Progress) :
    List String → Except UsageError (Progress × Option (String × List String))
  | [] => .ok (p, none)
  | arg :: rest =>
    if !p.onlyPositionals && !p.awaiting && g.commands.contains arg then
      .ok (p, some (arg, rest))
    else
      match g.readArgument p arg with
      | .ok p => g.read p rest
      | .error e => .error e

/-- Every required argument is given. -/
def isComplete (g : Grammar) (p : Progress) : Bool :=
  g.positionals.all fun a => !a.required || p.isGiven a.name

/-- Reads all arguments of a grammar without commands. -/
def readAll (g : Grammar) (args : List String) : Except UsageError Progress := do
  let (p, _) ← g.read {} args
  let p ← g.settle p
  if g.isComplete p then return p else throw .missingArgument

end Grammar

end ManagementModel.CommandLine
