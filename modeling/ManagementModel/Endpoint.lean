/-!
# ManagementModel — where the management interface is, and what is behind it

The interface has one address for operations and one for uploads. What is managed is a single
server or a domain of servers; a session knows which, and may learn otherwise.
-/

namespace ManagementModel

/-- The addresses of the interface. -/
structure Endpoints where
  /-- Where operations are sent. -/
  operations : String
  /-- Where files are uploaded. -/
  uploads : String
deriving DecidableEq, Repr

/-- A text without the slashes at its end. -/
def withoutSlashes (s : String) : String :=
  String.ofList ((s.toList.reverse.dropWhile (· == '/')).reverse)

/-- The endpoints below a base address. -/
def Endpoints.below (base : String) : Endpoints :=
  ⟨withoutSlashes base ++ "/management", withoutSlashes base ++ "/management-upload"⟩

/-- What is managed. -/
inductive Topology where
  | standalone
  | domain
deriving DecidableEq, Repr

def Topology.text : Topology → String
  | standalone => "standalone"
  | domain => "domain"

/-- The topology, told by whether a single server is managed. -/
def Topology.ofStandalone (standalone : Bool) : Topology :=
  if standalone then .standalone else .domain

/-- What a session knows about the managed runtime. -/
structure Environment where
  standalone : Bool := true
deriving DecidableEq, Repr

def Environment.ofTopology (t : Topology) : Environment :=
  ⟨t == .standalone⟩

def Environment.topology (e : Environment) : Topology :=
  .ofStandalone e.standalone

end ManagementModel
