import ManagementModel.Bus
import ManagementModel.Outcome

/-!
# ManagementModel — the dispatcher

A dispatcher sends operations to its endpoints and tells each caller the outcome by one callback. A
caller always has a callback for success; for the other two outcomes it may rely on the handler
that the dispatcher has installed at that time, and without one the outcome is only logged. The
topology is fixed when the dispatcher is made.
-/

namespace ManagementModel

/-- Which callbacks of its own a call has beside that for success. -/
structure Callbacks where
  failed : Bool
  exception : Bool
deriving DecidableEq, Repr

/-- The callback that a call ends with. Installed handlers are told by a name of type `η`. -/
inductive Callback (η : Type) where
  | success (result : Node)
  | failed (operation : Operation) (failure : String)
  | exception (operation : Operation) (error : DispatchError)
  | defaultFailed (handler : η) (operation : Operation) (failure : String)
  | defaultException (handler : η) (operation : Operation) (error : DispatchError)
  /-- No handler is installed: the outcome is logged. -/
  | logged (outcome : Outcome)
deriving Repr

/-- The handlers that are installed. -/
structure Handlers (η : Type) where
  failed : Option η
  exception : Option η
deriving DecidableEq, Repr

/-- The one callback for an outcome: the caller's own, or else the installed handler. -/
def Handlers.callback {η : Type} (handlers : Handlers η) (callbacks : Callbacks) :
    Outcome → Callback η
  | .success result => .success result
  | .failed operation failure =>
    if callbacks.failed then .failed operation failure
    else
      match handlers.failed with
      | some h => .defaultFailed h operation failure
      | none => .logged (.failed operation failure)
  | .exception operation error =>
    if callbacks.exception then .exception operation error
    else
      match handlers.exception with
      | some h => .defaultException h operation error
      | none => .logged (.exception operation error)

/-- A dispatcher, shared by all its users. -/
structure Dispatcher (η : Type) where
  endpoints : Endpoints
  topology : Topology
  bus : Bus ProcessState
  handlers : Handlers η
deriving Repr

namespace Dispatcher

variable {η : Type}

/-- A dispatcher for the topology that the environment has now. -/
def new (endpoints : Endpoints) (environment : Environment) : Dispatcher η :=
  ⟨endpoints, environment.topology, .ofCapacity Bus.defaultCapacity, ⟨none, none⟩⟩

/-- Installs a handler for failures. -/
def setFailed (d : Dispatcher η) (handler : η) : Dispatcher η :=
  { d with handlers := { d.handlers with failed := some handler } }

/-- Installs a handler for errors. -/
def setException (d : Dispatcher η) (handler : η) : Dispatcher η :=
  { d with handlers := { d.handlers with exception := some handler } }

/-- Publishes the state of a completion, if it has one. -/
def publish (d : Dispatcher η) (completion : Completion) : Dispatcher η :=
  match completion.published with
  | some state => { d with bus := d.bus.publish state }
  | none => d

/-- Dispatches to the end, given what the transport answers. -/
def dispatch (d : Dispatcher η) (what : Dispatch) (answer : Answer) : Dispatcher η × Outcome :=
  let completion := what.complete d.endpoints d.topology answer
  (d.publish completion, completion.outcome)

end Dispatcher

end ManagementModel
