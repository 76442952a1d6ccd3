import ManagementModel.Proofs.Dispatch.Classification
import ManagementModel.Proofs.Dispatch.History
import Mathlib.Data.List.DropRight

/-!
# ManagementModel — what a run delivers

Any number of calls may be in flight at a dispatcher, their answers arrive in any order, and in
between handlers are replaced, receivers subscribe and the environment changes. What others see of
such a run is decided by its endings: the answers that meet their call in flight.

Each ending publishes the state that the reply reports, if it reports one, and then calls one
callback. Which callback is `Due` depends on the outcome, on the callbacks of the call itself, and
on the handlers that were installed last before the answer came. The outcome depends on the
operation and the answer alone; the topology, fixed at the start, decides about states only.

The state of a run is shown to be what `History` reads off the events (`Run.After`), one event at a
time.

Main results:

* `Run.After.step` — each event keeps the state of a run in step with its history.
* `Run.After.deliveries` — what one event delivers.
* `Run.delivers` — what a whole run delivers, and what its bus holds.
-/

namespace ManagementModel

/-! ## Buses that have heard some values -/

namespace Bus

variable {α : Type}

/-- An open bus with some receivers, after values were published to receivers. -/
def ofHeard (capacity receivers : Nat) (heard : List α) : Bus α :=
  ⟨capacity, heard.length, heard.rtake capacity, receivers, true⟩

theorem ofCapacity_defaultCapacity : (ofCapacity defaultCapacity : Bus α) = ofHeard 64 0 [] :=
  rfl

/-- One more receiver does not change what was heard. -/
theorem subscribe_ofHeard (capacity receivers : Nat) (heard : List α) :
    (ofHeard capacity receivers heard).subscribe.1 = ofHeard capacity (receivers + 1) heard :=
  rfl

/-- The last values of a list are the last ones also when the rest is forgotten before. -/
theorem rtake_rtake_concat (n : Nat) (l : List α) (a : α) :
    (l.rtake n ++ [a]).rtake n = (l ++ [a]).rtake n := by
  cases n with
  | zero => simp
  | succ n =>
    -- what is forgotten before is not among the last values
    have hkeep : (l.rtake (n + 1)).rtake n = l.rtake n := by
      simp only [List.rtake_eq_reverse_take_reverse, List.reverse_reverse, List.take_take]
      rw [Nat.min_eq_left (Nat.le_succ n)]
    rw [List.rtake_concat_succ, List.rtake_concat_succ, hkeep]

/-- A value is heard if there is a receiver. -/
theorem publish_ofHeard (capacity receivers : Nat) (heard : List α) (a : α) :
    (ofHeard capacity receivers heard).publish a =
      ofHeard capacity receivers (if receivers = 0 then heard else heard ++ [a]) := by
  rw [publish]
  by_cases h : receivers = 0
  · have hnone : (ofHeard capacity receivers heard).receivers = 0 := h
    rw [if_pos hnone, if_pos h]
  · have hsome : (ofHeard capacity receivers heard).receivers ≠ 0 := h
    -- the bus may have forgotten values before, and forgets at most one now
    have hlast := rtake_rtake_concat capacity heard a
    rw [if_neg hsome, if_neg h]
    show (⟨capacity, heard.length + 1, (heard.rtake capacity ++ [a]).rtake capacity, receivers,
      true⟩ : Bus α) = ofHeard capacity receivers (heard ++ [a])
    rw [hlast, ofHeard, List.length_append, List.length_singleton]

end Bus

/-! ## One completion -/

namespace Dispatch

/-- The tree of a usable reply. -/
def processed? (what : Dispatch) (endpoints : Endpoints) (answer : Answer) : Option Node :=
  match what.message endpoints with
  | .error _ => none
  | .ok message =>
    match answer with
    | .error _ => none
    | .ok reply => if reply.status = 200 then some (message.replyTree reply.body) else none

/-- The state to be published: what the reply reports, unless it is a failure. -/
def reported? (what : Dispatch) (endpoints : Endpoints) (topology : Topology) (answer : Answer) :
    Option ProcessState :=
  ((what.processed? endpoints answer).filter fun tree =>
    !tree.isFailure && ProcessState.mayBeIn topology tree).map (.ofReply topology)

variable {what : Dispatch} {endpoints : Endpoints} {topology : Topology} {answer : Answer}

/-- A tree that does not report a failure is asked for the state that it reports. -/
theorem published_judge (tree : Node) :
    (what.judge topology tree).published =
      ((some tree).filter fun tree =>
        !tree.isFailure && ProcessState.mayBeIn topology tree).map (.ofReply topology) := by
  rw [judge, Option.filter_some]
  cases tree.isFailure <;> cases ProcessState.mayBeIn topology tree <;> rfl

/-- The state that a completion publishes is the one that is reported. -/
theorem published_complete :
    (what.complete endpoints topology answer).published =
      what.reported? endpoints topology answer := by
  rw [complete, reported?, processed?]
  cases what.message endpoints with
  -- nothing is published where nothing was sent
  | error cause => rfl
  | ok message =>
    rcases answer with error | ⟨code, body⟩
    · rfl
    · simp only [receive, DispatchError.ofStatus?]
      by_cases hcode : code = 200
      · -- a usable reply is judged
        rw [if_pos hcode, if_pos hcode]
        exact published_judge _
      · rw [if_neg hcode, if_neg hcode]
        rfl

/-- The topology decides nothing about the outcome. -/
theorem outcome_complete_congr (topology topology' : Topology) :
    (what.complete endpoints topology answer).outcome =
      (what.complete endpoints topology' answer).outcome := by
  -- judging a tree takes the topology for the state only
  have hjudge : ∀ tree,
      (what.judge topology tree).outcome = (what.judge topology' tree).outcome := by
    intro tree
    rw [judge, judge]
    cases tree.isFailure <;> rfl
  rw [complete, complete]
  cases what.message endpoints with
  | error cause => rfl
  | ok message =>
    rcases answer with error | ⟨code, body⟩
    · rfl
    · simp only [receive]
      cases DispatchError.ofStatus? code message.url with
      | some error => rfl
      | none => exact hjudge _

end Dispatch

namespace Dispatcher

variable {η : Type}

/-! ## Callbacks -/

/-- The callback that is due for an outcome of a call: the caller's own, or else the handler that is
installed. A failure or an error comes with the operation that was dispatched. -/
inductive Due (handlers : Handlers η) (call : Call) : Outcome → Callback η → Prop
  | success (result : Node) : Due handlers call (.success result) (.success result)
  | failed (failure : String) (h : call.callbacks.failed = true) :
      Due handlers call (.failed call.dispatch.operation failure)
        (.failed call.dispatch.operation failure)
  | defaultFailed (failure : String) (handler : η) (h : call.callbacks.failed = false)
      (hh : handlers.failed = some handler) :
      Due handlers call (.failed call.dispatch.operation failure)
        (.defaultFailed handler call.dispatch.operation failure)
  | loggedFailed (failure : String) (h : call.callbacks.failed = false)
      (hh : handlers.failed = none) :
      Due handlers call (.failed call.dispatch.operation failure)
        (.logged (.failed call.dispatch.operation failure))
  | exception (error : DispatchError) (h : call.callbacks.exception = true) :
      Due handlers call (.exception call.dispatch.operation error)
        (.exception call.dispatch.operation error)
  | defaultException (error : DispatchError) (handler : η) (h : call.callbacks.exception = false)
      (hh : handlers.exception = some handler) :
      Due handlers call (.exception call.dispatch.operation error)
        (.defaultException handler call.dispatch.operation error)
  | loggedException (error : DispatchError) (h : call.callbacks.exception = false)
      (hh : handlers.exception = none) :
      Due handlers call (.exception call.dispatch.operation error)
        (.logged (.exception call.dispatch.operation error))

/-- The callback that the handlers choose is the one that is due. -/
theorem due_callback (handlers : Handlers η) (call : Call) (endpoints : Endpoints)
    (topology : Topology) (answer : Answer) :
    Due handlers call (call.dispatch.complete endpoints topology answer).outcome
      (handlers.callback call.callbacks
        (call.dispatch.complete endpoints topology answer).outcome) := by
  -- failures and errors name the operation that was dispatched
  have hverdict := call.dispatch.verdict endpoints topology answer
  generalize (call.dispatch.complete endpoints topology answer).outcome = outcome at hverdict ⊢
  cases hverdict with
  | success hr h result => exact .success result
  | failed hr h =>
    -- the callback of the caller comes before the handler, and the log is last
    rw [Handlers.callback]
    cases hown : call.callbacks.failed with
    | true => exact .failed _ hown
    | false =>
      cases hh : handlers.failed with
      | some handler => exact .defaultFailed _ handler hown hh
      | none => exact .loggedFailed _ hown hh
  | exception h =>
    rw [Handlers.callback]
    cases hown : call.callbacks.exception with
    | true => exact .exception _ hown
    | false =>
      cases hh : handlers.exception with
      | some handler => exact .defaultException _ handler hown hh
      | none => exact .loggedException _ hown hh

/-! ## What an ending delivers -/

namespace Ending

variable (e : Ending η) (endpoints : Endpoints) (topology : Topology)

/-- The outcome of the call. -/
def outcome : Outcome :=
  (e.call.dispatch.complete endpoints topology e.answer).outcome

/-- The state to be published. -/
def reported? : Option ProcessState :=
  e.call.dispatch.reported? endpoints topology e.answer

/-- The callback that is called, with the handlers that were installed last. -/
def callback : Callback η :=
  (installed e.before).callback e.call.callbacks (e.outcome endpoints topology)

/-- What others see: first the state, then the callback. -/
def deliveries : List (Effect η) :=
  ((e.reported? endpoints topology).map Effect.published).toList ++
    [.called e.number (e.callback endpoints topology)]

end Ending

namespace Effect

/-- Anything but that a message is sent. -/
def isDelivery : Effect η → Bool
  | .sent _ _ => false
  | _ => true

/-- The number of the call that a callback is called for. -/
def number? : Effect η → Option Nat
  | .called number _ => some number
  | _ => none

def state? : Effect η → Option ProcessState
  | .published state => some state
  | _ => none

end Effect

@[simp]
theorem Ending.filter_deliveries (e : Ending η) (endpoints : Endpoints) (topology : Topology) :
    (e.deliveries endpoints topology).filter Effect.isDelivery =
      e.deliveries endpoints topology := by
  rw [deliveries]
  cases e.reported? endpoints topology <;> rfl

/-- An ending calls back its own call, and no other. -/
@[simp]
theorem Ending.number_deliveries (e : Ending η) (endpoints : Endpoints) (topology : Topology) :
    (e.deliveries endpoints topology).filterMap Effect.number? = [e.number] := by
  rw [deliveries]
  cases e.reported? endpoints topology <;> rfl

/-- An ending publishes the state that is reported, if there is one, and no other. -/
@[simp]
theorem Ending.state_deliveries (e : Ending η) (endpoints : Endpoints) (topology : Topology) :
    (e.deliveries endpoints topology).filterMap Effect.state? =
      (e.reported? endpoints topology).toList := by
  rw [deliveries]
  cases e.reported? endpoints topology <;> rfl

/-- The states that are published while somebody listens. -/
def heard (endpoints : Endpoints) (topology : Topology) (events : List (Event η)) :
    List ProcessState :=
  (endings events).filterMap fun e =>
    if subscribed e.before then e.reported? endpoints topology else none

/-- One more event is heard if it is an ending that reports a state while somebody listens. -/
@[simp] theorem heard_concat (endpoints : Endpoints) (topology : Topology) (events : List (Event η))
    (event : Event η) :
    heard endpoints topology (events ++ [event]) =
      heard endpoints topology events ++
        (if subscribed events then (ending? events event).bind (·.reported? endpoints topology)
          else none).toList := by
  rw [heard, endings_concat, List.filterMap_append, heard]
  congr 1
  cases h : ending? events event with
  | none => simp
  | some e =>
    -- the events before the ending are those before the last one
    obtain ⟨hbefore, -, -⟩ := ending?_eq_some_iff.mp h
    subst hbefore
    cases hs : subscribed e.before <;> cases hr : e.reported? endpoints topology <;> simp [hs, hr]

/-! ## One event -/

namespace Run

/-- The state of a run agrees with what its events amount to. -/
structure After (endpoints : Endpoints) (environment : Environment) (events : List (Event η))
    (run : Run η) : Prop where
  endpoints_eq : run.dispatcher.endpoints = endpoints
  topology_eq : run.dispatcher.topology = environment.topology
  handlers_eq : run.dispatcher.handlers = installed events
  length_calls : run.calls.length = (started events).length
  calls_eq : ∀ number : Nat, run.calls[number]?.join = inFlight? events number
  bus_eq : run.dispatcher.bus = .ofHeard 64 (events.countP Event.isSubscription)
    (heard endpoints environment.topology events)

variable {endpoints : Endpoints} {environment : Environment} {events : List (Event η)}
  {run : Run η}

/-- A run that has not begun agrees with no events. -/
theorem after_initial (endpoints : Endpoints) (environment : Environment) :
    After endpoints environment [] (initial endpoints environment : Run η) where
  endpoints_eq := rfl
  topology_eq := rfl
  handlers_eq := rfl
  length_calls := rfl
  calls_eq number := by simp [initial, inFlight?, started]
  bus_eq := Bus.ofCapacity_defaultCapacity

/-- An answer to a call in flight ends the call. -/
theorem step_answer_of_some {number : Nat} {call : Call} (answer : Answer)
    (h : run.calls[number]?.join = some call) :
    run.step (.answer number answer) = run.finish number call answer := by
  have hcall : run.calls[number]? = some (some call) := Option.join_eq_some_iff.mp h
  rw [step, hcall]

/-- Any other answer does nothing. -/
theorem step_answer_of_none {number : Nat} (answer : Answer)
    (h : run.calls[number]?.join = none) : run.step (.answer number answer) = (run, []) := by
  rw [step]
  -- there is no such call, or it has been answered
  cases hcall : run.calls[number]? with
  | none => rfl
  | some call? =>
    cases call? with
    | none => rfl
    | some call =>
      rw [hcall] at h
      exact absurd h (Option.some_ne_none call)

/-- A published state is heard if there is a receiver. -/
theorem bus_publish {d : Dispatcher η} {receivers : Nat} {states : List ProcessState}
    (h : d.bus = .ofHeard 64 receivers states) (completion : Completion) :
    (d.publish completion).bus = .ofHeard 64 receivers
      (states ++ (if receivers = 0 then none else completion.published).toList) := by
  rw [publish]
  cases completion.published with
  | none => simp [h]
  | some state =>
    simp only [h, Bus.publish_ofHeard]
    by_cases hr : receivers = 0 <;> simp [hr]

/-- Publishing changes nothing but the bus. -/
theorem publish_frame (d : Dispatcher η) (completion : Completion) :
    (d.publish completion).endpoints = d.endpoints ∧
      (d.publish completion).topology = d.topology ∧
      (d.publish completion).handlers = d.handlers := by
  rw [publish]
  cases completion.published <;> exact ⟨rfl, rfl, rfl⟩

theorem subscribed_eq_false_iff :
    subscribed events = false ↔ events.countP Event.isSubscription = 0 := by
  rw [subscribed, List.any_eq_false, List.countP_eq_zero]

/-- The calls are kept by an event that starts none and ends none. -/
theorem After.calls_of_quiet (h : After endpoints environment events run) (event : Event η)
    (hcall : event.call? = none)
    (hflight : ∀ number, inFlight? (events ++ [event]) number = inFlight? events number) :
    run.calls.length = (started (events ++ [event])).length ∧
      ∀ number : Nat, run.calls[number]?.join = inFlight? (events ++ [event]) number := by
  constructor
  · simpa [hcall] using h.length_calls
  · intro number
    rw [hflight]
    exact h.calls_eq number

/-- What the bus holds is kept by an event that neither ends a call nor subscribes. -/
theorem After.bus_of_quiet (h : After endpoints environment events run) {event : Event η}
    (hending : ending? events event = none) (hsubscription : event.isSubscription = false) :
    run.dispatcher.bus = .ofHeard 64 ((events ++ [event]).countP Event.isSubscription)
      (heard endpoints environment.topology (events ++ [event])) := by
  simp [hending, hsubscription, h.bus_eq]

/-- The start of a call keeps the state of a run in step. -/
theorem After.start (h : After endpoints environment events run) (call : Call) :
    After endpoints environment (events ++ [.start call]) (run.step (.start call)).1 := by
  -- the call takes the next number, and all others stay
  have hlength : (run.calls ++ [some call]).length =
      (started (events ++ [Event.start call])).length := by
    simp [h.length_calls, Event.call?]
  have hcalls : ∀ number : Nat, (run.calls ++ [some call])[number]?.join =
      inFlight? (events ++ [.start call]) number := by
    intro number
    rw [inFlight?_start, ← h.calls_eq, ← h.length_calls]
    rcases Nat.lt_trichotomy number run.calls.length with hlt | rfl | hgt
    · rw [List.getElem?_append_left hlt, if_neg (Nat.ne_of_lt hlt)]
    · simp
    · have hlen : (run.calls ++ [some call]).length ≤ number := by
        rw [List.length_append]
        exact hgt
      rw [List.getElem?_eq_none hlen, if_neg (Nat.ne_of_gt hgt),
        List.getElem?_eq_none (Nat.le_of_lt hgt)]
  exact ⟨h.endpoints_eq, h.topology_eq, installed_concat events _ ▸ h.handlers_eq, hlength,
    hcalls, h.bus_of_quiet rfl rfl⟩

/-- The end of a call keeps the state of a run in step. -/
theorem After.finish (h : After endpoints environment events run) {number : Nat} {call : Call}
    (hcall : inFlight? events number = some call) (answer : Answer) :
    After endpoints environment (events ++ [.answer number answer])
      (run.finish number call answer).1 := by
  obtain ⟨hendpoints, htopology, hhandlers⟩ := publish_frame run.dispatcher
    (call.dispatch.complete run.dispatcher.endpoints run.dispatcher.topology answer)
  constructor
  · exact hendpoints.trans h.endpoints_eq
  · exact htopology.trans h.topology_eq
  · rw [installed_concat]
    exact hhandlers.trans h.handlers_eq
  · rw [started_concat]
    exact List.length_set.trans (h.length_calls.trans (by simp [Event.call?]))
  · intro n
    -- only the call that has ended is not in flight any more
    have hset : (run.calls.set number none)[n]?.join =
        if n = number then none else run.calls[n]?.join := by
      rw [List.getElem?_set]
      split
      · next heq =>
        rw [if_pos heq.symm]
        split <;> rfl
      · next hne => rw [if_neg (Ne.symm hne)]
    rw [inFlight?_answer, ← h.calls_eq]
    exact hset
  · -- the ending that the answer is reports what the completion publishes
    have hending : ending? events (.answer number answer) = some ⟨events, number, call, answer⟩ :=
      ending?_eq_some_iff.mpr ⟨rfl, rfl, hcall⟩
    have hbus := bus_publish h.bus_eq
      (call.dispatch.complete run.dispatcher.endpoints run.dispatcher.topology answer)
    have hcount : (events ++ [Event.answer number answer]).countP Event.isSubscription =
        events.countP Event.isSubscription := by
      rw [List.countP_append]
      rfl
    rw [hcount, heard_concat, hending]
    refine hbus.trans ?_
    rw [Dispatch.published_complete, h.endpoints_eq, h.topology_eq]
    -- a state is heard if somebody has subscribed before
    by_cases hreceivers : events.countP Event.isSubscription = 0
    · rw [if_pos hreceivers, subscribed_eq_false_iff.mpr hreceivers]
      rfl
    · have hsubscribed : subscribed events = true := by
        rw [← Bool.not_eq_false, subscribed_eq_false_iff]
        exact hreceivers
      rw [if_neg hreceivers, if_pos hsubscribed]
      rfl

/-- Each event keeps the state of a run in step with its history. -/
theorem After.step (h : After endpoints environment events run) (event : Event η) :
    After endpoints environment (events ++ [event]) (run.step event).1 := by
  have hother : ∀ {e : Event η}, e.call? = none → (∀ number, e.answers number = false) →
      ∀ number, inFlight? (events ++ [e]) number = inFlight? events number :=
    fun hcall hanswers number => inFlight?_other events hcall (hanswers number)
  cases event with
  | start call => exact h.start call
  | answer number answer =>
    cases hcall : inFlight? events number with
    | some call =>
      -- the answer ends a call
      rw [step_answer_of_some answer ((h.calls_eq number).trans hcall)]
      exact h.finish hcall answer
    | none =>
      -- the answer comes for nothing, so nothing changes
      have hflight : ∀ n, inFlight? (events ++ [.answer number answer]) n = inFlight? events n := by
        intro n
        rw [inFlight?_answer]
        split
        · next heq => rw [heq, hcall]
        · rfl
      have hending : ending? events (.answer number answer) = none := by
        rw [ending?, hcall, Option.map_none]
      obtain ⟨hlength, hcalls⟩ := h.calls_of_quiet (.answer number answer) rfl hflight
      rw [step_answer_of_none answer ((h.calls_eq number).trans hcall)]
      exact ⟨h.endpoints_eq, h.topology_eq, installed_concat events _ ▸ h.handlers_eq, hlength,
        hcalls, h.bus_of_quiet hending rfl⟩
  | setFailed handler =>
    obtain ⟨hlength, hcalls⟩ := h.calls_of_quiet (.setFailed handler) rfl
      (hother rfl fun _ => rfl)
    have hhandlers : (run.dispatcher.setFailed handler).handlers =
        installed (events ++ [.setFailed handler]) := by
      rw [installed_concat, ← h.handlers_eq]
      rfl
    exact ⟨h.endpoints_eq, h.topology_eq, hhandlers, hlength, hcalls, h.bus_of_quiet rfl rfl⟩
  | setException handler =>
    obtain ⟨hlength, hcalls⟩ := h.calls_of_quiet (.setException handler) rfl
      (hother rfl fun _ => rfl)
    have hhandlers : (run.dispatcher.setException handler).handlers =
        installed (events ++ [.setException handler]) := by
      rw [installed_concat, ← h.handlers_eq]
      rfl
    exact ⟨h.endpoints_eq, h.topology_eq, hhandlers, hlength, hcalls, h.bus_of_quiet rfl rfl⟩
  | subscribe =>
    obtain ⟨hlength, hcalls⟩ := h.calls_of_quiet .subscribe rfl
      (hother rfl fun _ => rfl)
    have hbus : run.dispatcher.bus.subscribe.1 =
        .ofHeard 64 ((events ++ [Event.subscribe]).countP Event.isSubscription)
          (heard endpoints environment.topology (events ++ [.subscribe])) := by
      rw [h.bus_eq, Bus.subscribe_ofHeard, heard_concat, List.countP_append]
      simp [ending?, Event.isSubscription]
    exact ⟨h.endpoints_eq, h.topology_eq, installed_concat events _ ▸ h.handlers_eq, hlength,
      hcalls, hbus⟩
  | setStandalone standalone =>
    obtain ⟨hlength, hcalls⟩ := h.calls_of_quiet (.setStandalone standalone) rfl
      (hother rfl fun _ => rfl)
    exact ⟨h.endpoints_eq, h.topology_eq, installed_concat events _ ▸ h.handlers_eq, hlength,
      hcalls, h.bus_of_quiet rfl rfl⟩

/-- What one event delivers: what the ending delivers that it is, or nothing. -/
theorem After.deliveries (h : After endpoints environment events run) (event : Event η) :
    (run.step event).2.filter Effect.isDelivery =
      ((ending? events event).map (·.deliveries endpoints environment.topology)).getD [] := by
  cases event with
  | start call =>
    -- a start sends a message at most
    rw [Run.step]
    cases call.dispatch.message run.dispatcher.endpoints <;> rfl
  | answer number answer =>
    rw [ending?]
    cases hcall : inFlight? events number with
    | none =>
      rw [step_answer_of_none answer ((h.calls_eq number).trans hcall)]
      rfl
    | some call =>
      -- the effects of the end of a call are what its ending delivers
      have hfinish : (run.finish number call answer).2 =
          Ending.deliveries ⟨events, number, call, answer⟩ endpoints environment.topology := by
        rw [Run.finish]
        simp only [Dispatch.published_complete, h.endpoints_eq, h.topology_eq, h.handlers_eq]
        rfl
      rw [step_answer_of_some answer ((h.calls_eq number).trans hcall), hfinish]
      exact Ending.filter_deliveries _ _ _
  | _ => rfl

/-! ## Runs -/

theorem steps_cons (run : Run η) (event : Event η) (rest : List (Event η)) :
    run.steps (event :: rest) =
      (((run.step event).1.steps rest).1,
        (run.step event).2 ++ ((run.step event).1.steps rest).2) :=
  rfl

/-- The effects of events come one behind the other. -/
theorem steps_append (run : Run η) (before after : List (Event η)) :
    run.steps (before ++ after) =
      (((run.steps before).1.steps after).1,
        (run.steps before).2 ++ ((run.steps before).1.steps after).2) := by
  induction before generalizing run with
  | nil => rfl
  | cons event rest ih =>
    rw [List.cons_append, steps_cons, ih, steps_cons, List.append_assoc]

/-- At each point of a run its state agrees with the events so far. -/
theorem after_steps (endpoints : Endpoints) (environment : Environment)
    (events : List (Event η)) :
    After endpoints environment events ((initial endpoints environment).steps events).1 := by
  -- the induction is on the last event, since the history grows at its end
  induction events using List.reverseRecOn with
  | nil => exact after_initial endpoints environment
  | append_singleton events event ih =>
    rw [steps_append]
    exact ih.step event

theorem effects_concat (run : Run η) (events : List (Event η)) (event : Event η) :
    (run.steps (events ++ [event])).2 =
      (run.steps events).2 ++ ((run.steps events).1.step event).2 := by
  rw [steps_append, steps_cons]
  exact congrArg _ (List.append_nil _)

/-- A run delivers what its endings deliver, ending by ending. -/
theorem deliveries_steps (endpoints : Endpoints) (environment : Environment)
    (events : List (Event η)) :
    ((initial endpoints environment).steps events).2.filter Effect.isDelivery =
      (endings events).flatMap (·.deliveries endpoints environment.topology) := by
  induction events using List.reverseRecOn with
  | nil => rfl
  | append_singleton events event ih =>
    -- the last event delivers what its ending does, by the state before it
    have hevent := (after_steps endpoints environment events).deliveries event
    rw [effects_concat, List.filter_append, ih, hevent, endings_concat, List.flatMap_append]
    cases ending? events event <;> simp

/-- What is read off the deliveries of a run is read off its endings. -/
theorem filterMap_steps {β : Type} (endpoints : Endpoints) (environment : Environment)
    (events : List (Event η)) {f : Effect η → Option β}
    (hsent : ∀ number message, f (.sent number message) = none) :
    ((initial endpoints environment).steps events).2.filterMap f =
      (endings events).flatMap fun e =>
        (e.deliveries endpoints environment.topology).filterMap f := by
  -- what is sent does not count, so only deliveries are read
  have hdelivery : ∀ effects : List (Effect η),
      (effects.filter Effect.isDelivery).filterMap f = effects.filterMap f := by
    intro effects
    rw [List.filterMap_filter]
    congr 1
    funext effect
    cases effect with
    | sent number message => simp [Effect.isDelivery, hsent]
    | _ => rfl
  rw [← hdelivery, deliveries_steps, List.filterMap_flatMap]

/-- What others see of a run, whatever the order of its events.

Each event delivers what the ending delivers that it is; other events deliver nothing. A call is
called back once if it is answered behind its start, and not otherwise. The callback is the one
that is due under the handlers that were installed last before the answer, for an outcome that
depends on the operation and the answer alone. The published states are those that the endings
report, in their order, and the bus holds what was published while somebody listened. -/
theorem delivers (endpoints : Endpoints) (environment : Environment) (events : List (Event η)) :
    let topology := environment.topology
    let run := (initial endpoints environment : Run η).steps events
    (∀ event, ∃ effects,
      ((initial endpoints environment).steps (events ++ [event])).2 = run.2 ++ effects ∧
        effects.filter Effect.isDelivery =
          ((ending? events event).map (·.deliveries endpoints topology)).getD []) ∧
    run.2.filter Effect.isDelivery =
      (endings events).flatMap (·.deliveries endpoints topology) ∧
    (run.2.filterMap Effect.number?).Nodup ∧
    (∀ number, number ∈ run.2.filterMap Effect.number? ↔ answered events number = true) ∧
    (∀ e ∈ endings events,
      (∃ after, events = e.before ++ .answer e.number e.answer :: after) ∧
      (started events)[e.number]? = some e.call ∧
      Due (installed e.before) e.call (e.outcome endpoints topology)
        (e.callback endpoints topology) ∧
      ∀ topology', e.outcome endpoints topology' = e.outcome endpoints topology) ∧
    run.2.filterMap Effect.state? = (endings events).filterMap (·.reported? endpoints topology) ∧
    run.1.dispatcher.bus =
      .ofHeard 64 (events.countP Event.isSubscription) (heard endpoints topology events) := by
  intro topology run
  have hafter : After endpoints environment events run.1 := after_steps endpoints environment events
  -- an ending calls back one call, so the endings have the numbers of all callbacks
  have hnumbers : run.2.filterMap Effect.number? = (endings events).map (·.number) := by
    rw [filterMap_steps endpoints environment events fun _ _ => rfl, List.map_eq_flatMap]
    simp
  -- an ending publishes what is reported, so the endings have all states
  have hstates : run.2.filterMap Effect.state? =
      (endings events).filterMap (·.reported? endpoints topology) := by
    rw [filterMap_steps endpoints environment events fun _ _ => rfl,
      List.filterMap_eq_flatMap_toList]
    simp only [Ending.state_deliveries]
    rfl
  refine ⟨?_, deliveries_steps endpoints environment events, ?_, ?_, ?_, hstates, hafter.bus_eq⟩
  · intro event
    exact ⟨_, effects_concat _ events event, hafter.deliveries event⟩
  · rw [hnumbers]
    exact nodup_number_endings events
  · intro number
    rw [hnumbers]
    exact number_mem_endings_iff events number
  · intro e he
    obtain ⟨hcall, after, hevents⟩ := mem_endings_iff.mp he
    have hbefore : (started e.before)[e.number]? = some e.call :=
      (inFlight?_eq_some_iff.mp hcall).2
    -- calls that start later do not change the number of this one
    have hstarted : (started events)[e.number]? = some e.call := by
      obtain ⟨hlt, -⟩ := List.getElem?_eq_some_iff.mp hbefore
      rw [hevents, started, List.filterMap_append]
      exact (List.getElem?_append_left hlt).trans hbefore
    exact ⟨⟨after, hevents⟩, hstarted, due_callback _ e.call endpoints topology e.answer,
      fun topology' => Dispatch.outcome_complete_congr topology' topology⟩

/-- Two calls without callbacks of their own are answered in reverse, and the handler is replaced in
between. The first call ends last, under the handler that is installed then. -/
theorem delivers_in_reverse :
    let endpoints := Endpoints.below "http://localhost:9990"
    let call : Call := ⟨⟨.build .root "read-resource-description" [], none⟩, ⟨false, false⟩⟩
    let error := DispatchError.transport "connection reset"
    let events : List (Event String) :=
      [.start call, .start call, .setException "first", .answer 1 (.error error),
        .setException "second", .answer 0 (.error error), .answer 0 (.error error)]
    let e : Ending String := ⟨events.take 5, 0, call, .error error⟩
    ((initial endpoints ⟨true⟩).steps events).2.filter Effect.isDelivery =
      [.called 1 (.defaultException "first" call.dispatch.operation error),
        .called 0 (.defaultException "second" call.dispatch.operation error)] ∧
      e ∈ endings events ∧
      Due ⟨none, some "second"⟩ call (e.outcome endpoints .standalone)
        (e.callback endpoints .standalone) := by
  intro endpoints call error events e
  obtain ⟨-, hdeliveries, -, -, hendings, -⟩ := delivers endpoints ⟨true⟩ events
  have he : e ∈ endings events := List.mem_of_getElem? (i := 1) rfl
  exact ⟨hdeliveries.trans rfl, he, (hendings e he).2.2.1⟩

end Run

end Dispatcher

end ManagementModel
