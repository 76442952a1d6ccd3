import ManagementModel.Proofs.Dispatch.Result
import ManagementModel.Session

/-!
# ManagementModel — how a dispatch is classified

A dispatch ends with an error when nothing can be sent, when the transport has no reply, and when
the reply has a status other than 200. Otherwise the body of the reply decides. It is a failure if
it cannot be read or says itself that the operation failed, and a success in all other cases.

Not every body speaks for itself. What comes back for a posted operation does, whatever it is, and
what comes back for an upload does if it has an outcome. A description, and an upload's answer
without an outcome, are taken for the result of a success: they never fail, whatever they say, and
never report states of servers.

`Unusable`, `Replied` and `Rejected` state this on the operation, the answer and the body; they do
not mention how replies are wrapped on the way.

Main results:

* `Dispatch.replyTree_eq` — the tree of a reply, by what its body is read as.
* `Dispatch.verdict` — every answer has a class, and the outcome is one of that class.
* `Dispatcher.dispatch_classifies` — which of these a dispatch ends with.
-/

namespace ManagementModel

namespace Dispatch

/-! ## What the body of a reply says -/

/-- What a body is read as, or the text of the error: a transport form, or JSON after an upload. A
blank body after an upload carries nothing, which is the undefined value. -/
def decode (what : Dispatch) (body : String) : Except String Node :=
  match what.file with
  | none => (Node.ofBase64 body).mapError (·.message)
  | some _ =>
    if Text.isBlank body then .ok .undefined
    else (Node.ofJsonText body).mapError (·.payloadMessage)

/-- A posted operation is answered with an outcome. An uploaded file may be, and a description is
bare. -/
def speaksForItself (what : Dispatch) (node : Node) : Bool :=
  match what.file with
  | none => !what.operation.isDescriptionRead
  | some _ => node.has "outcome"

/-- A body that makes a dispatch fail, and what the failure says. -/
inductive Rejected (what : Dispatch) (body : String) : String → Prop
  | unreadable {reason : String} (h : what.decode body = .error reason) :
      Rejected what body ("Failed to decode response: " ++ reason)
  | failed {node : Node} (h : what.decode body = .ok node) (hs : what.speaksForItself node = true)
      (hf : (node.get "outcome").text? = some "failed") :
      Rejected what body node.failureDescription

/-- A body that makes a dispatch succeed, and the node that it is read as. -/
def Accepted (what : Dispatch) (body : String) (node : Node) : Prop :=
  what.decode body = .ok node ∧
    ¬ (what.speaksForItself node = true ∧ (node.get "outcome").text? = some "failed")

/-! ## What the transport answers -/

/-- The error of a dispatch that has no usable reply. -/
inductive Unusable (what : Dispatch) (endpoints : Endpoints) (answer : Answer) :
    DispatchError → Prop
  /-- The operation would have to be posted, but has no binary form. -/
  | unencodable {cause : Wire.EncodeError} (hfile : what.file = none)
      (hname : what.operation.name ≠ Operation.descriptionName)
      (h : what.operation.node.toBytes = .error cause) :
      Unusable what endpoints answer (.unencodable cause.message)
  /-- The transport has no reply; its error is passed on. -/
  | transport {message : Message} {error : DispatchError}
      (hm : what.message endpoints = .ok message) (h : answer = .error error) :
      Unusable what endpoints answer error
  /-- The body of a reply with another status does not count. -/
  | status {message : Message} {code : Nat} {body : String}
      (hm : what.message endpoints = .ok message) (h : answer = .ok ⟨code, body⟩)
      (hcode : code ≠ 200) :
      Unusable what endpoints answer
        (.status (DispatchError.statusMessage code message.url) code)

/-- Something was sent and answered with a usable reply. -/
def Replied (what : Dispatch) (endpoints : Endpoints) (answer : Answer) (body : String) : Prop :=
  (∃ message, what.message endpoints = .ok message) ∧ answer = .ok ⟨200, body⟩

variable {what : Dispatch} {endpoints : Endpoints} {topology : Topology} {message : Message}
  {answer : Answer} {body : String} {node : Node}

/-! ## Messages -/

theorem isDescriptionRead_eq_false_iff {op : Operation} :
    op.isDescriptionRead = false ↔ op.name ≠ Operation.descriptionName := by
  rw [Operation.isDescriptionRead, beq_eq_false_iff_ne]

/-- Only an operation to be posted can be without a message, for the error of its binary form. -/
theorem message_eq_error_iff {cause : Wire.EncodeError} :
    what.message endpoints = .error cause ↔
      what.file = none ∧ what.operation.name ≠ Operation.descriptionName ∧
        what.operation.node.toBytes = .error cause := by
  obtain ⟨op, file⟩ := what
  rw [← isDescriptionRead_eq_false_iff]
  cases file with
  -- the document of an upload can always be written
  | some file => simp [message]
  | none =>
    rw [message, Operation.request]
    cases hread : op.isDescriptionRead with
    | true => simp [Except.map]
    | false => simp [Node.toBase64]

/-- The message of an operation is a request, read with GET if it is a description. -/
theorem message_of_operation (hfile : what.file = none)
    (hm : what.message endpoints = .ok message) : ∃ request, message = .request request ∧
      request.method = if what.operation.isDescriptionRead then .get else .post := by
  obtain ⟨op, file⟩ := what
  subst hfile
  rw [Dispatch.message, Operation.request] at hm
  cases hread : op.isDescriptionRead with
  | true =>
    rw [hread] at hm
    exact ⟨_, (Except.ok.inj hm).symm, rfl⟩
  | false =>
    rw [hread, Node.toBase64] at hm
    cases hbytes : op.node.toBytes with
    | error e => rw [hbytes] at hm; cases hm
    | ok bytes =>
      rw [hbytes] at hm
      exact ⟨_, (Except.ok.inj hm).symm, rfl⟩

theorem message_of_upload {file : UploadFile} (hfile : what.file = some file)
    (hm : what.message endpoints = .ok message) : ∃ upload, message = .upload upload := by
  rw [Dispatch.message, hfile] at hm
  exact ⟨_, (Except.ok.inj hm).symm⟩

/-! ## Trees of replies -/

@[simp] theorem mapError_ok {α ε ε' : Type} (f : ε → ε') (a : α) :
    (Except.ok a).mapError f = Except.ok a :=
  rfl

/-- A body that cannot be read stands for a failure. One that speaks for itself is its own tree,
and any other is wrapped as a success. -/
theorem replyTree_eq (hm : what.message endpoints = .ok message) (body : String) :
    message.replyTree body =
      match what.decode body with
      | .error reason => Reply.unreadable reason
      | .ok node => if what.speaksForItself node then node else Reply.success node := by
  cases hfile : what.file with
  | none =>
    -- an operation: the body is read from its transport form
    obtain ⟨request, rfl, hmethod⟩ := message_of_operation hfile hm
    rw [Message.replyTree, Reply.ofOperationBody, hmethod, decode, hfile]
    cases Node.ofBase64 body with
    | error e => rfl
    | ok node =>
      rw [mapError_ok]
      simp only [speaksForItself, hfile]
      cases what.operation.isDescriptionRead <;> rfl
  | some file =>
    -- an upload: the body is read as JSON
    obtain ⟨upload, rfl⟩ := message_of_upload hfile hm
    rw [Message.replyTree, Reply.ofUploadBody, decode, hfile]
    by_cases hblank : Text.isBlank body = true
    · -- the undefined value has no outcome
      rw [if_pos hblank, if_pos hblank]
      simp [speaksForItself, hfile, Node.has]
    · rw [if_neg hblank, if_neg hblank]
      cases Node.ofJsonText body with
      | error e => rfl
      | ok node =>
        rw [mapError_ok]
        simp only [speaksForItself, hfile]

/-! ## Judging trees -/

/-- A tree that says itself that it failed becomes a failure, with its description. -/
theorem judge_of_failure (hf : (node.get "outcome").text? = some "failed") :
    what.judge topology node = ⟨.failed what.operation node.failureDescription, none⟩ := by
  have hfailure : node.isFailure = true := by
    rw [Node.isFailure, hf]
    rfl
  rw [judge, if_pos hfailure]

theorem judge_unreadable (reason : String) :
    what.judge topology (Reply.unreadable reason) =
      ⟨.failed what.operation ("Failed to decode response: " ++ reason), none⟩ :=
  judge_of_failure rfl

/-- A wrapped reply has a result and no headers, so that nothing is published for it. -/
theorem judge_success (node : Node) :
    what.judge topology (Reply.success node) = ⟨.success node, none⟩ := by
  have hfailure : (Reply.success node).isFailure = false := rfl
  have hresult : (Reply.success node).field "result" = node := by
    cases node with
    | undefined => rfl
    | _ => rfl
  -- a wrapped reply has no headers
  have hstates : ProcessState.mayBeIn topology (Reply.success node) = false := by
    cases topology <;> cases node <;> rfl
  rw [judge, hfailure, hresult, hstates]
  rfl

/-! ## Completions -/

/-- Without a usable reply a dispatch gives up, with the error. -/
theorem complete_of_unusable {error : DispatchError} (h : what.Unusable endpoints answer error) :
    what.complete endpoints topology answer = what.giveUp error := by
  cases h with
  | unencodable hfile hname h =>
    have hm : what.message endpoints = .error _ := message_eq_error_iff.mpr ⟨hfile, hname, h⟩
    rw [complete, hm]
  | transport hm h => rw [complete, hm, h]
  | @status message code body hm h hcode =>
    -- any other status than 200 is an error, whatever the body says
    have hstatus : DispatchError.ofStatus? code message.url =
        some (.status (DispatchError.statusMessage code message.url) code) := by
      rw [DispatchError.ofStatus?, if_neg hcode]
    rw [complete, hm, h]
    simp only [receive, hstatus]

/-- A body that is rejected makes the dispatch a failure, and nothing is published. -/
theorem complete_of_rejected {failure : String} (hr : what.Replied endpoints answer body)
    (h : what.Rejected body failure) :
    what.complete endpoints topology answer = ⟨.failed what.operation failure, none⟩ := by
  obtain ⟨⟨message, hm⟩, rfl⟩ := hr
  rw [complete_of_reply hm, replyTree_eq hm]
  cases h with
  | unreadable h =>
    rw [h]
    exact judge_unreadable _
  | failed h hs hf =>
    simp only [h, hs, if_true]
    exact judge_of_failure hf

/-- What is taken for the result of a success is delivered as it is, and publishes nothing. -/
theorem complete_of_bare (hr : what.Replied endpoints answer body)
    (h : what.decode body = .ok node) (hs : what.speaksForItself node = false) :
    what.complete endpoints topology answer = ⟨.success node, none⟩ := by
  obtain ⟨⟨message, hm⟩, rfl⟩ := hr
  rw [complete_of_reply hm, replyTree_eq hm]
  simp only [h, hs, Bool.false_eq_true, if_false]
  exact judge_success node

/-- A body that is accepted makes the dispatch a success. -/
theorem outcome_of_accepted (hr : what.Replied endpoints answer body)
    (h : what.Accepted body node) :
    ∃ result, (what.complete endpoints topology answer).outcome = .success result := by
  obtain ⟨h, hnot⟩ := h
  cases hs : what.speaksForItself node with
  | false => exact ⟨node, by rw [complete_of_bare hr h hs]⟩
  | true =>
    -- the tree speaks for itself and does not report a failure
    have hfailure : node.isFailure = false := by
      rw [Node.isFailure, beq_eq_false_iff_ne]
      exact fun hf => hnot ⟨hs, hf⟩
    obtain ⟨⟨message, hm⟩, rfl⟩ := hr
    rw [complete_of_reply hm, replyTree_eq hm]
    simp only [h, hs, if_true]
    exact ⟨_, outcome_of_judge hfailure⟩

/-- What a dispatch may end with, by its class. -/
inductive Verdict (what : Dispatch) (endpoints : Endpoints) (answer : Answer) : Outcome → Prop
  | exception {error : DispatchError} (h : what.Unusable endpoints answer error) :
      Verdict what endpoints answer (.exception what.operation error)
  | failed {body failure : String} (hr : what.Replied endpoints answer body)
      (h : what.Rejected body failure) :
      Verdict what endpoints answer (.failed what.operation failure)
  | success {body : String} {node : Node} (hr : what.Replied endpoints answer body)
      (h : what.Accepted body node) (result : Node) :
      Verdict what endpoints answer (.success result)

/-- Every answer is an error, or has a body that is rejected or accepted. -/
theorem verdict (what : Dispatch) (endpoints : Endpoints) (topology : Topology)
    (answer : Answer) :
    what.Verdict endpoints answer (what.complete endpoints topology answer).outcome := by
  have hunusable : ∀ {error}, what.Unusable endpoints answer error →
      what.Verdict endpoints answer (what.complete endpoints topology answer).outcome := by
    intro error h
    rw [complete_of_unusable h]
    exact .exception h
  have hrejected : ∀ {body failure}, what.Replied endpoints answer body →
      what.Rejected body failure →
      what.Verdict endpoints answer (what.complete endpoints topology answer).outcome := by
    intro body failure hr h
    rw [complete_of_rejected hr h]
    exact .failed hr h
  cases hm : what.message endpoints with
  | error cause =>
    obtain ⟨hfile, hname, h⟩ := message_eq_error_iff.mp hm
    exact hunusable (.unencodable hfile hname h)
  | ok message =>
    rcases answer with error | ⟨code, body⟩
    · exact hunusable (.transport hm rfl)
    · by_cases hcode : code = 200
      · -- a usable reply: the body decides
        subst hcode
        have hr : what.Replied endpoints (.ok ⟨200, body⟩) body := ⟨⟨message, hm⟩, rfl⟩
        cases h : what.decode body with
        | error reason => exact hrejected hr (.unreadable h)
        | ok node =>
          by_cases hf : what.speaksForItself node = true ∧
              (node.get "outcome").text? = some "failed"
          · exact hrejected hr (.failed h hf.1 hf.2)
          · obtain ⟨result, hs⟩ := outcome_of_accepted hr ⟨h, hf⟩
            rw [hs]
            exact .success hr ⟨h, hf⟩ result
      · exact hunusable (.status hm rfl hcode)

end Dispatch

/-! ## Dispatches -/

namespace Dispatcher

variable {η : Type}

/-- Nothing is sent exactly if there is no message. -/
theorem step_start_eq_nil_iff {run : Run η} {call : Call} :
    (run.step (.start call)).2 = [] ↔
      ∃ cause, call.dispatch.message run.dispatcher.endpoints = .error cause := by
  rw [Run.step]
  cases call.dispatch.message run.dispatcher.endpoints with
  | ok message => simp
  | error cause => simp

/-- How a dispatch ends, for every operation and every answer of the transport.

It ends with an error exactly if there is no usable reply, with a failure exactly if the body of
the reply is rejected, and with a success exactly if it is accepted. A body that does not speak for
itself is delivered as it is read, and the dispatcher stays as it was. Nothing is sent exactly if
the operation would have to be posted and cannot be encoded. -/
theorem dispatch_classifies (d : Dispatcher η) (what : Dispatch) (answer : Answer) :
    (∀ operation error, (d.dispatch what answer).2 = .exception operation error ↔
      operation = what.operation ∧ what.Unusable d.endpoints answer error) ∧
    (∀ operation failure, (d.dispatch what answer).2 = .failed operation failure ↔
      operation = what.operation ∧
        ∃ body, what.Replied d.endpoints answer body ∧ what.Rejected body failure) ∧
    ((∃ result, (d.dispatch what answer).2 = .success result) ↔
      ∃ body node, what.Replied d.endpoints answer body ∧ what.Accepted body node) ∧
    (∀ body node, what.Replied d.endpoints answer body → what.decode body = .ok node →
      what.speaksForItself node = false → d.dispatch what answer = (d, .success node)) ∧
    (∀ (run : Run η) (callbacks : Callbacks), run.dispatcher = d →
      ((run.step (.start ⟨what, callbacks⟩)).2 = [] ↔
        what.file = none ∧ what.operation.name ≠ Operation.descriptionName ∧
          ∃ cause, what.operation.node.toBytes = .error cause)) := by
  -- the outcome tells the class, and the class decides the outcome
  have hverdict : what.Verdict d.endpoints answer (d.dispatch what answer).2 :=
    Dispatch.verdict what d.endpoints d.topology answer
  refine ⟨?_, ?_, ?_, ?_, ?_⟩
  · intro operation error
    constructor
    · intro h
      rw [h] at hverdict
      cases hverdict with
      | exception hu => exact ⟨rfl, hu⟩
    · rintro ⟨rfl, hu⟩
      rw [dispatch, Dispatch.complete_of_unusable hu, Dispatch.giveUp]
  · intro operation failure
    constructor
    · intro h
      rw [h] at hverdict
      cases hverdict with
      | failed hr hj => exact ⟨rfl, _, hr, hj⟩
    · rintro ⟨rfl, body, hr, hj⟩
      rw [dispatch, Dispatch.complete_of_rejected hr hj]
  · constructor
    · rintro ⟨result, h⟩
      rw [h] at hverdict
      cases hverdict with
      | success hr ha => exact ⟨_, _, hr, ha⟩
    · rintro ⟨body, node, hr, ha⟩
      exact Dispatch.outcome_of_accepted hr ha
  · intro body node hr h hs
    rw [dispatch, Dispatch.complete_of_bare hr h hs]
    rfl
  · intro run callbacks hrun
    subst hrun
    rw [step_start_eq_nil_iff]
    simp only [Dispatch.message_eq_error_iff, exists_and_left]

set_option maxRecDepth 8000 in
/-- A description whose outcome reads `failed` is a success, and the tree is its result. -/
theorem dispatch_classifies_description :
    let d : Dispatcher Unit := .new (.below "http://localhost:9990") ⟨true⟩
    let what : Dispatch := ⟨.build .root "read-resource-description" [], none⟩
    let body := "bwAAAAEAB291dGNvbWVzAAZmYWlsZWQ="
    let node := Node.object [("outcome", .string "failed")]
    what.Replied d.endpoints (.ok ⟨200, body⟩) body ∧ what.decode body = .ok node ∧
      what.speaksForItself node = false ∧
      d.dispatch what (.ok ⟨200, body⟩) = (d, .success node) := by
  intro d what body node
  have hr : what.Replied d.endpoints (.ok ⟨200, body⟩) body := ⟨⟨_, rfl⟩, rfl⟩
  have hbytes : Text.Base64.encode
      [0x6f, 0, 0, 0, 1, 0, 7, 0x6f, 0x75, 0x74, 0x63, 0x6f, 0x6d, 0x65, 0x73, 0, 6, 0x66, 0x61,
        0x69, 0x6c, 0x65, 0x64] = body := rfl
  have hdecode : what.decode body = .ok node := by
    rw [Dispatch.decode, show Node.ofBase64 body = .ok node from Node.ofBase64_of_encode hbytes rfl]
    rfl
  have hbare : what.speaksForItself node = false := rfl
  exact ⟨hr, hdecode, hbare,
    (d.dispatch_classifies what (.ok ⟨200, body⟩)).2.2.2.1 body node hr hdecode hbare⟩

end Dispatcher

end ManagementModel
