import ManagementModel.Proofs.Dispatch.Result
import ManagementModel.Proofs.Node.Reading

/-!
# ManagementModel — replies without an outcome

A reply is made up for a body that cannot be read, and wrapped around a description. Both have an
outcome, and so has the answer to an upload, which is wrapped if it comes without one. The answer to
a posted operation is expected to be complete and is taken as it is. If it has no outcome, then it
reports no failure either, and the dispatch ends with a success that nothing in the reply speaks of.

Main results:

* `Reply.has_outcome_ofUploadBody`, `Reply.has_outcome_ofOperationBody_iff` — whether the tree of a
  reply has an outcome.
* `Message.posted_of_no_outcome` — only the answer to a posted operation can be without one.
* `Dispatcher.has_outcome_unless_posted` — both, and what a dispatch makes of such an answer.
-/

namespace ManagementModel

namespace Reply

@[simp] theorem has_outcome_success (result : Node) : (success result).has "outcome" = true := rfl

@[simp]
theorem has_outcome_unreadable (reason : String) : (unreadable reason).has "outcome" = true := rfl

/-- The answer to an upload always has an outcome, whatever its body is. -/
@[simp]
theorem has_outcome_ofUploadBody (body : String) : (ofUploadBody body).has "outcome" = true := by
  unfold ofUploadBody
  by_cases hblank : Text.isBlank body = true
  · rw [if_pos hblank]
    exact has_outcome_success _
  · rw [if_neg hblank]
    cases Node.ofJsonText body with
    | error e => exact has_outcome_unreadable _
    | ok node =>
      -- what has no outcome is wrapped
      show (if node.has "outcome" = true then node else success node).has "outcome" = true
      by_cases hnode : node.has "outcome" = true
      · rw [if_pos hnode, hnode]
      · rw [if_neg hnode]
        exact has_outcome_success _

/-- The answer to an operation has an outcome if it is wrapped, or cannot be read, or was read with
one. -/
theorem has_outcome_ofOperationBody_iff (method : Method) (body : String) :
    (ofOperationBody method body).has "outcome" = true ↔
      method = .get ∨ ∀ node, Node.ofBase64 body = .ok node → node.has "outcome" = true := by
  unfold ofOperationBody
  cases hbody : Node.ofBase64 body with
  | error e => exact iff_of_true (has_outcome_unreadable _) (.inr nofun)
  | ok node =>
    cases method with
    | get => exact iff_of_true (has_outcome_success _) (.inl rfl)
    | post =>
      show node.has "outcome" = true ↔ _
      constructor
      · intro hnode
        refine .inr fun node' h => ?_
        rw [← Except.ok.inj h, hnode]
      · intro h
        exact (h.resolve_left nofun) node rfl

end Reply

/-- A tree without an outcome reports no failure. -/
theorem Node.isFailure_of_no_outcome {node : Node} (h : node.has "outcome" = false) :
    node.isFailure = false := by
  unfold isFailure
  rw [get_eq_undefined h]
  rfl

/-- Only the answer to a posted operation can be without an outcome, and then it is the tree that
the body was read as. -/
theorem Message.posted_of_no_outcome {message : Message} {body : String}
    (h : (message.replyTree body).has "outcome" = false) :
    (∃ request, message = .request request ∧ request.method = .post) ∧
      Node.ofBase64 body = .ok (message.replyTree body) := by
  cases message with
  | upload u =>
    -- an upload is excluded
    rw [replyTree, Reply.has_outcome_ofUploadBody] at h
    cases h
  | request r =>
    rw [replyTree] at h
    have hnot := (Reply.has_outcome_ofOperationBody_iff r.method body).not.mp
      (Bool.eq_false_iff.mp h)
    -- a description is excluded, since it is wrapped
    have hpost : r.method = .post := by
      cases hm : r.method with
      | get => exact absurd (.inl hm) hnot
      | post => rfl
    refine ⟨⟨r, rfl, hpost⟩, ?_⟩
    rw [replyTree, Reply.ofOperationBody, hpost]
    cases hbody : Node.ofBase64 body with
    | ok node => rfl
    | error e =>
      -- a body that cannot be read has an outcome
      refine absurd (.inr fun node hn => ?_) hnot
      rw [hbody] at hn
      cases hn

/-- The tree of a reply has an outcome, unless it was read from the answer to a posted operation and
has none of its own. Such an answer makes a dispatch succeed, with whatever stands under the name of
the result. -/
theorem Dispatcher.has_outcome_unless_posted {η : Type} (d : Dispatcher η) (what : Dispatch)
    (method : Method) (body : String) :
    (Reply.ofUploadBody body).has "outcome" = true ∧
    ((Reply.ofOperationBody method body).has "outcome" = true ↔
      method = .get ∨ ∀ node, Node.ofBase64 body = .ok node → node.has "outcome" = true) ∧
    ∀ message, what.message d.endpoints = .ok message →
      (message.replyTree body).has "outcome" = false →
        (∃ request, message = .request request ∧ request.method = .post) ∧
        Node.ofBase64 body = .ok (message.replyTree body) ∧
        (d.dispatch what (.ok ⟨200, body⟩)).2 =
          .success ((message.replyTree body).field "result") := by
  refine ⟨Reply.has_outcome_ofUploadBody body,
    Reply.has_outcome_ofOperationBody_iff method body, fun message hm h => ?_⟩
  obtain ⟨hpost, hread⟩ := Message.posted_of_no_outcome h
  refine ⟨hpost, hread, ?_⟩
  rw [dispatch, Dispatch.complete_of_reply hm]
  exact Dispatch.outcome_of_judge (Node.isFailure_of_no_outcome h)

set_option maxRecDepth 8000 in
/-- A posted operation that is answered by an object with a name only succeeds without a result. -/
theorem Dispatcher.has_outcome_unless_posted_named :
    let d : Dispatcher Unit := .new (.below "http://localhost:9990") ⟨true⟩
    let what : Dispatch := ⟨.build ⟨[("deployment", "app.war")]⟩ "read-resource" [], none⟩
    let body := "bwAAAAEABG5hbWVzAAdhcHAud2Fy"
    (Reply.ofOperationBody .post body).has "outcome" = false ∧
      (d.dispatch what (.ok ⟨200, body⟩)).2 = .success .undefined := by
  intro d what body
  have hbytes : Text.Base64.encode
      [0x6f, 0, 0, 0, 1, 0, 4, 0x6e, 0x61, 0x6d, 0x65, 0x73, 0, 7, 0x61, 0x70, 0x70, 0x2e, 0x77,
        0x61, 0x72] = body := rfl
  have hnamed : Node.ofBase64 body = .ok (.object [("name", .string "app.war")]) :=
    Node.ofBase64_of_encode hbytes rfl
  have hnone : (Reply.ofOperationBody .post body).has "outcome" = false := by
    rw [Reply.ofOperationBody, hnamed]
    rfl
  obtain ⟨request, hm, hpost⟩ :
      ∃ request, what.message d.endpoints = .ok (.request request) ∧ request.method = .post :=
    ⟨_, rfl, rfl⟩
  have htree : (Message.request request).replyTree body = Reply.ofOperationBody .post body := by
    rw [Message.replyTree, hpost]
  obtain ⟨-, hread, hout⟩ :=
    (d.has_outcome_unless_posted what .post body).2.2 _ hm (htree ▸ hnone)
  refine ⟨hnone, ?_⟩
  -- the tree is the object, which has no result
  rw [hout, ← Except.ok.inj (hnamed.symm.trans hread)]
  rfl

end ManagementModel
