/-!
# ManagementModel — well known placeholders

A tuple stands for a resource type together with a value that is chosen during a session. Templates
write it in braces.
-/

namespace ManagementModel.Template

inductive Tuple where
  | domainController
  | selectedProfile
  | selectedGroup
  | selectedHost
  | selectedServerConfig
  | selectedServer
deriving DecidableEq, Repr

/-- A text without the braces around it; both have to be there. -/
def stripBraces (s : String) : String :=
  match s.toList with
  | '\x7b' :: rest =>
    if rest.getLast? == some '\x7d' then String.ofList rest.dropLast else s
  | _ => s

namespace Tuple

def all : List Tuple :=
  [domainController, selectedProfile, selectedGroup, selectedHost, selectedServerConfig,
    selectedServer]

def name : Tuple → String
  | domainController => "domain.controller"
  | selectedProfile => "selected.profile"
  | selectedGroup => "selected.group"
  | selectedHost => "selected.host"
  | selectedServerConfig => "selected.server-config"
  | selectedServer => "selected.server"

/-- The resource type that the tuple stands for. -/
def resource : Tuple → String
  | domainController => "host"
  | selectedProfile => "profile"
  | selectedGroup => "server-group"
  | selectedHost => "host"
  | selectedServerConfig => "server-config"
  | selectedServer => "server"

/-- The tuple as templates write it. -/
def placeholder (t : Tuple) : String :=
  "\x7b" ++ t.name ++ "\x7d"

/-- The tuple of a name, with or without braces. -/
def ofName? (s : String) : Option Tuple :=
  all.find? (·.name == stripBraces s)

end Tuple

end ManagementModel.Template
