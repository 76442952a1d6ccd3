import ManagementModel.Dispatcher
import ManagementModel.Proofs.Request.Body

/-!
# ManagementModel — the result that a dispatch delivers

Whether a reply failed, and which states it reports, is found out by reading it, and reading looks
into a property as into an object with one field. The result is taken out by editing, and editing
sees no fields in anything but an object. So the two differ on one shape of a reply: a property that
is named like the result itself. What is delivered then is the undefined value.

Such a reply can only come to a posted operation. A description is wrapped, and an uploaded file is
answered by a tree that is wrapped or has an outcome.

Main results:

* `field_eq_get_iff` — when editing finds the child that reading finds.
* `dispatch_delivers_result` — what a dispatch delivers for a reply that did not fail.
-/

namespace ManagementModel

/-! ## Reading and editing a child -/

namespace Node

/-- Editing finds nothing, or the child that reading finds. -/
theorem field_eq_undefined_or_get (node : Node) (name : String) :
    node.field name = undefined ∨ node.field name = node.get name := by
  cases node with
  | object fields => exact .inr rfl
  | _ => exact .inl rfl

/-- Editing finds the child that reading finds, unless the node is a property of that name with a
defined value. -/
theorem field_eq_get_iff (node : Node) (name : String) :
    node.field name = node.get name ↔ ∀ value, node = property name value → value = undefined := by
  cases node with
  | property n v =>
    -- editing finds nothing, reading finds the value under the name of the property
    have hfield : (property n v).field name = undefined := rfl
    rw [hfield, get]
    by_cases hn : n = name
    · rw [if_pos hn, hn]
      constructor
      · intro h value heq
        exact (property.inj heq).2 ▸ h.symm
      · intro h
        exact (h v rfl).symm
    · rw [if_neg hn]
      constructor
      · intro _ value heq
        exact absurd (property.inj heq).1 hn
      · intro _
        rfl
  | _ =>
    -- neither finds anything else in another shape, and an object is found the same
    constructor
    · intro _ value heq
      cases heq
    · intro _
      rfl

end Node

/-! ## Replies that are wrapped -/

/-- The tree of an answer to anything but a posted operation is no property with the name of the
result. -/
theorem Message.replyTree_ne_result {message : Message}
    (h : ∀ request, message = .request request → request.method = .get) (body : String)
    (value : Node) : message.replyTree body ≠ .property "result" value := by
  cases message with
  | request r =>
    -- a description is wrapped, and a body that cannot be read becomes a failure
    rw [replyTree, Reply.ofOperationBody, h r rfl]
    cases Node.ofBase64 body with
    | ok node => exact Node.noConfusion
    | error e => exact Node.noConfusion
  | upload u =>
    rw [replyTree, Reply.ofUploadBody]
    split
    · exact Node.noConfusion
    · cases Node.ofJsonText body with
      | error e => exact Node.noConfusion
      | ok node =>
        by_cases ho : node.has "outcome" = true
        · -- a property with an outcome is named so, and not like the result
          rintro heq
          simp only [ho, if_true] at heq
          rw [heq, Node.has] at ho
          exact absurd ho (by decide)
        · simp only [ho]
          exact Node.noConfusion

/-! ## Dispatches -/

namespace Dispatch

variable {what : Dispatch} {endpoints : Endpoints} {topology : Topology} {message : Message}
  {body : String}

/-- A usable reply is judged by its tree. -/
theorem complete_of_reply (hm : what.message endpoints = .ok message) :
    what.complete endpoints topology (.ok ⟨200, body⟩) =
      what.judge topology (message.replyTree body) := by
  rw [complete, hm]
  rfl

/-- A tree that reports no failure is a success with the child that editing finds. -/
theorem outcome_of_judge {reply : Node} (hf : reply.isFailure = false) :
    (what.judge topology reply).outcome = .success (reply.field "result") := by
  rw [judge, hf]
  rfl

end Dispatch

/-- A reply with status 200 that reports no failure is a success. Delivered is the result of the
reply, unless the reply is a property named like the result, with a defined value: then the
undefined value is delivered. That cannot happen to a description or an upload. -/
theorem Dispatcher.dispatch_delivers_result {η : Type} (d : Dispatcher η) (what : Dispatch)
    (body : String) {message : Message} (hm : what.message d.endpoints = .ok message)
    (hf : (message.replyTree body).isFailure = false) :
    ∃ r, (d.dispatch what (.ok ⟨200, body⟩)).2 = .success r ∧
      (r = (message.replyTree body).result ↔
        ∀ value, message.replyTree body = .property "result" value → value = .undefined) ∧
      (r ≠ (message.replyTree body).result → r = .undefined) ∧
      ((∀ request, message = .request request → request.method = .get) →
        r = (message.replyTree body).result) := by
  -- the one child is compared with the other at the name of the result
  have hiff := Node.field_eq_get_iff (message.replyTree body) "result"
  refine ⟨(message.replyTree body).field "result", ?_, hiff, ?_, ?_⟩
  · rw [dispatch, Dispatch.complete_of_reply hm]
    exact Dispatch.outcome_of_judge hf
  · intro hne
    exact (Node.field_eq_undefined_or_get _ _).resolve_right hne
  · intro hget
    refine hiff.mpr fun value heq => ?_
    exact absurd heq (Message.replyTree_ne_result hget body value)

set_option maxRecDepth 8000 in
/-- A posted operation is answered by a property that is named like the result: its value is the
result of the reply, and the undefined value is delivered. -/
theorem Dispatcher.dispatch_delivers_undefined :
    let d : Dispatcher Unit := .new (.below "http://localhost:9990") ⟨true⟩
    let what : Dispatch := ⟨.build ⟨[("subsystem", "logging")]⟩ "read-resource" [], none⟩
    let body := "cAAGcmVzdWx0cwAESU5GTw=="
    ∃ message, what.message d.endpoints = .ok message ∧
      (message.replyTree body).isFailure = false ∧
      (message.replyTree body).result = .string "INFO" ∧
      (d.dispatch what (.ok ⟨200, body⟩)).2 = .success .undefined := by
  intro d what body
  obtain ⟨request, hm, hpost⟩ :
      ∃ request, what.message d.endpoints = .ok (.request request) ∧ request.method = .post :=
    ⟨_, rfl, rfl⟩
  have hbytes : Text.Base64.encode
      [0x70, 0, 6, 0x72, 0x65, 0x73, 0x75, 0x6c, 0x74, 0x73, 0, 4, 0x49, 0x4e, 0x46, 0x4f] = body :=
    rfl
  have hread : Node.ofBase64 body = .ok (.property "result" (.string "INFO")) :=
    Node.ofBase64_of_encode hbytes rfl
  have ht : (Message.request request).replyTree body = .property "result" (.string "INFO") := by
    rw [Message.replyTree, hpost, Reply.ofOperationBody, hread]
    rfl
  have hf : ((Message.request request).replyTree body).isFailure = false := by
    rw [ht]
    rfl
  refine ⟨.request request, hm, hf, by rw [ht]; rfl, ?_⟩
  obtain ⟨r, hr, hiff, hundefined, -⟩ := d.dispatch_delivers_result what body hm hf
  -- the delivered node would be the result only if the property had no defined value
  have hne : r ≠ ((Message.request request).replyTree body).result := by
    intro h
    exact Node.noConfusion (hiff.mp h _ ht)
  rw [hr, hundefined hne]

end ManagementModel
