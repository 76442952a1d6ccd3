import ManagementModel.BaseUrl
import ManagementModel.Dispatcher
import ManagementModel.Settings.Basic

/-!
# ManagementModel — sessions with a dispatcher

A session begins with the dispatcher for the interface that settings name.

A run of a dispatcher is a sequence of events: calls start, answers arrive in any order, handlers
are replaced, receivers subscribe, and the environment changes. Each event changes the state and
causes effects, in the order in which others see them.
-/

namespace ManagementModel

namespace Dispatcher

variable {η : Type}

/-- The dispatcher for the interface that settings name. -/
def ofSettings (s : Settings) : Except BaseUrlError (Dispatcher η) := do
  return .new (← Endpoints.ofBase s.baseUrl) (.ofTopology s.topology)

/-! ## Runs -/

/-- A call that waits for its answer. -/
structure Call where
  dispatch : Dispatch
  callbacks : Callbacks
deriving Repr

/-- What happens to a dispatcher. Calls are numbered in the order in which they start. -/
inductive Event (η : Type) where
  | start (call : Call)
  /-- The transport answers the call of a number, if it still waits. A call without a message has
  nothing to wait for and ends here whatever the answer is. -/
  | answer (number : Nat) (answer : Answer)
  | setFailed (handler : η)
  | setException (handler : η)
  | subscribe
  | setStandalone (standalone : Bool)
deriving Repr

/-- What others see of an event. -/
inductive Effect (η : Type) where
  | sent (number : Nat) (message : Message)
  | published (state : ProcessState)
  | called (number : Nat) (callback : Callback η)
deriving Repr

/-- A run of a dispatcher: its state, and the calls that have started; those that are over have
been taken out. -/
structure Run (η : Type) where
  dispatcher : Dispatcher η
  environment : Environment
  calls : List (Option Call)
deriving Repr

namespace Run

/-- A new dispatcher, before any call. -/
def initial (endpoints : Endpoints) (environment : Environment) : Run η :=
  ⟨.new endpoints environment, environment, []⟩

/-- Ends the call of a number: its state is published, then its callback is called. -/
def finish (run : Run η) (number : Nat) (call : Call) (answer : Answer) :
    Run η × List (Effect η) :=
  let d := run.dispatcher
  let completion := call.dispatch.complete d.endpoints d.topology answer
  ({ run with dispatcher := d.publish completion, calls := run.calls.set number none },
    (completion.published.map Effect.published).toList ++
      [.called number (d.handlers.callback call.callbacks completion.outcome)])

/-- One event of a run. -/
def step (run : Run η) : Event η → Run η × List (Effect η)
  | .start call =>
    ({ run with calls := run.calls ++ [some call] },
      match call.dispatch.message run.dispatcher.endpoints with
      | .ok message => [.sent run.calls.length message]
      | .error _ => [])
  | .answer number answer =>
    match run.calls[number]? with
    | some (some call) => run.finish number call answer
    | _ => (run, [])
  | .setFailed handler =>
    ({ run with dispatcher := run.dispatcher.setFailed handler }, [])
  | .setException handler =>
    ({ run with dispatcher := run.dispatcher.setException handler }, [])
  | .subscribe =>
    let d := run.dispatcher
    ({ run with dispatcher := { d with bus := d.bus.subscribe.1 } }, [])
  | .setStandalone standalone => ({ run with environment := ⟨standalone⟩ }, [])

/-- The events of a run one after the other, and all their effects. -/
def steps (run : Run η) : List (Event η) → Run η × List (Effect η)
  | [] => (run, [])
  | event :: rest =>
    let (run, effects) := run.step event
    let (run, more) := run.steps rest
    (run, effects ++ more)

end Run

end Dispatcher

end ManagementModel
