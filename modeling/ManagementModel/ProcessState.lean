import ManagementModel.Endpoint
import ManagementModel.Node.View
import ManagementModel.Text.Blank

/-!
# ManagementModel — the state of the managed servers

Replies say in a header when a server needs a reload or a restart. A single server's header stands
in the reply itself. In a domain the reply lists the servers of each host in each server group, and
every server has a header of its own. The summary of many servers is the most severe of their
states.
-/

namespace ManagementModel

inductive RunState where
  | running
  | unknown
  | reloadRequired
  | restartRequired
deriving DecidableEq, Repr

namespace RunState

def text : RunState → String
  | running => "running"
  | unknown => "unknown"
  | reloadRequired => "reload-required"
  | restartRequired => "restart-required"

/-- The state that a header says, blanks around it and the case of its letters apart. -/
def ofHeader (header : String) : RunState :=
  let word := (Text.trim header).toList.map Char.toLower
  if word = "running".toList || word = "ok".toList then running
  else if word = "reload-required".toList then reloadRequired
  else if word = "restart-required".toList then restartRequired
  else unknown

def severity : RunState → Nat
  | running => 0
  | unknown => 1
  | reloadRequired => 2
  | restartRequired => 3

/-- The more severe of two states. -/
def worse (a b : RunState) : RunState :=
  if a.severity ≤ b.severity then b else a

end RunState

/-- The state of one server; a single server has neither host nor name. -/
structure ServerState where
  host : String
  server : String
  state : RunState
deriving DecidableEq, Repr

/-- The states that a reply reports. -/
structure ProcessState where
  servers : List ServerState
deriving DecidableEq, Repr

namespace ProcessState

def isEmpty (p : ProcessState) : Bool := p.servers.isEmpty

/-- The most severe state, `running` if there is no server. -/
def summary (p : ProcessState) : RunState :=
  p.servers.foldl (fun worst s => worst.worse s.state) .running

def needsReload (p : ProcessState) : Bool := p.summary == .reloadRequired

def needsRestart (p : ProcessState) : Bool := p.summary == .restartRequired

/-! ## In replies -/

def headersField : String := "response-headers"

def stateField : String := "process-state"

def groupsField : String := "server-groups"

/-- A reply may hold states: its own header, or some server groups. -/
def mayBeIn (topology : Topology) (reply : Node) : Bool :=
  match topology with
  | .standalone =>
    reply.hasDefined headersField && (reply.get headersField).hasDefined stateField
  | .domain => reply.hasDefined groupsField

/-- The state of a server whose header is defined. -/
def ofHeader (host server : String) (header : Node) : List ServerState :=
  if header.isDefined then [⟨host, server, .ofHeader header.asString⟩] else []

/-- The states of the servers of one host. -/
def ofHost (host : String) (servers : Node) : List ServerState :=
  servers.names.flatMap fun server =>
    ofHeader host server (servers.getPath [server, "response", headersField, stateField])

/-- The states that a reply reports; parts of another shape report nothing. -/
def ofReply (topology : Topology) (reply : Node) : ProcessState :=
  match topology with
  | .standalone => ⟨ofHeader "" "" (reply.getPath [headersField, stateField])⟩
  | .domain =>
    let groups := reply.get groupsField
    ⟨groups.names.flatMap fun group =>
      let hosts := groups.getPath [group, "host"]
      hosts.names.flatMap fun host => ofHost host (hosts.get host)⟩

end ProcessState

end ManagementModel
