import ManagementModel.Proofs.Operation
import ManagementModel.Proofs.Sequence
import ManagementModel.Proofs.Text.Base64
import ManagementModel.Proofs.Wire.RoundTrip
import ManagementModel.Request

/-!
# ManagementModel — the body of a posted operation

An operation that is posted travels as its tree: in the binary form, in base64, as the body of the
request. Each of the three steps can be undone, so the other side finds the tree that was sent, also
where blanks have come in around the body, and with the tree the operation.

Only the reader of the binary form has a limit that the writer lacks: it does not open more than 256
containers in each other.

Main results:

* `ofBase64_encode`, `ofBase64_toBase64` — bytes in base64 are read as they are read alone, and a
  tree is read back from its transport form.
* `request_posts_operation` — what is posted for an operation, and what is read from it.
-/

namespace ManagementModel

/-! ## The transport form -/

namespace Node

variable {node : Node}

/-- A tree that is not too deep is read back from its bytes. -/
theorem ofBytes_of_fits (hw : node.WellFormed) (hn : node.nesting ≤ 256) {bs : List UInt8}
    (h : node.toBytes = .ok bs) : ofBytes bs = .ok node := by
  have hread := Wire.value_of_fits hw h (Nat.le_refl _) hn []
  rw [List.append_nil] at hread
  exact Wire.ofBytes_of_value hread

/-- In base64, with blanks around it or without, bytes are read as they are read alone. -/
theorem ofBase64_encode (bs : List UInt8) {before after : String}
    (hb : Text.isBlank before = true) (ha : Text.isBlank after = true) :
    ofBase64 (before ++ Text.Base64.encode bs ++ after) = (ofBytes bs).mapError .notValue := by
  rw [ofBase64, Text.Base64.trim_padded bs hb ha, Text.Base64.decode_encode]
  rfl

/-- The tree of a body that is known to spell the bytes of the tree. -/
theorem ofBase64_of_encode {bs : List UInt8} {body : String} (hbody : Text.Base64.encode bs = body)
    (hread : ofBytes bs = .ok node) : ofBase64 body = .ok node := by
  have h := ofBase64_encode bs (rfl : Text.isBlank "" = true) (rfl : Text.isBlank "" = true)
  rw [String.empty_append, String.append_empty, hbody, hread] at h
  exact h

/-- A tree is read back from its transport form, with blanks around it or without. -/
theorem ofBase64_toBase64 (hw : node.WellFormed) (hn : node.nesting ≤ 256) {body : String}
    (h : node.toBase64 = .ok body) {before after : String} (hb : Text.isBlank before = true)
    (ha : Text.isBlank after = true) : ofBase64 (before ++ body ++ after) = .ok node := by
  obtain ⟨bs, hbytes, rfl⟩ := map_eq_ok_iff.mp h
  rw [ofBase64_encode bs hb ha, ofBytes_of_fits hw hn hbytes]
  rfl

end Node

/-! ## Requests -/

namespace Operation

variable {op : Operation} {endpoints : Endpoints}

/-- Anything but a description read is posted to the endpoint as it is, with its transport form. -/
theorem request_of_ne_description (hname : op.name ≠ descriptionName) {request : Request}
    (h : op.request endpoints = .ok request) :
    ∃ body, op.node.toBase64 = .ok body ∧
      request = { method := .post, url := endpoints.operations, body := some body } := by
  have hread : ¬ op.isDescriptionRead = true := by simpa [isDescriptionRead] using hname
  rw [Operation.request, if_neg hread] at h
  -- without bytes there is no request
  cases hbody : op.node.toBase64 with
  | error e =>
    rw [hbody] at h
    cases h
  | ok body =>
    rw [hbody] at h
    cases h
    exact ⟨body, rfl, rfl⟩

/-- The request of an operation that reads no description is posted to the endpoint, and from its
body the tree of the operation is read, whatever blanks are around it. If the name is not blank,
that tree is accepted as an operation with the same name, address and parameters. -/
theorem request_posts_operation (hop : op.Made) (hname : op.name ≠ descriptionName)
    (hnesting : op.node.nesting ≤ 256) {request : Request}
    (hrequest : op.request endpoints = .ok request) :
    request.method = .post ∧ request.url = endpoints.operations ∧
      ∃ body, request.body = some body ∧
        (∀ before after, Text.isBlank before = true → Text.isBlank after = true →
          Node.ofBase64 (before ++ body ++ after) = .ok op.node) ∧
        (Text.isBlank op.name = false → ∃ received, ofNode op.node = .ok received ∧
          received.name = op.name ∧ received.address = op.address ∧
          ∀ name, received.parameter? name = op.parameter? name) := by
  obtain ⟨body, hbody, rfl⟩ := request_of_ne_description hname hrequest
  refine ⟨rfl, rfl, body, rfl, ?_, ?_⟩
  · intro before after hb ha
    exact Node.ofBase64_toBase64 hop.wellFormed hnesting hbody hb ha
  · intro hblank
    -- what is read is the operation itself
    exact ⟨op, hop.ofNode_node hblank, rfl, rfl, fun _ => rfl⟩

/-- An address with an empty name and a slash in a value, and a text with a zero character; a line
break comes in behind the body. -/
theorem request_posts_operation_add :
    let address : Address := ⟨[("subsystem", "logging"), ("", "a/b")]⟩
    let op : Operation :=
      .build address "add" [("level", .string "\x00INFO"), ("operation", .int 1)]
    op.Made ∧ op.name ≠ descriptionName ∧ op.node.nesting ≤ 256 ∧
      ∃ request body, op.request (.below "http://localhost:9990/") = .ok request ∧
        request.url = "http://localhost:9990/management" ∧ request.body = some body ∧
        Node.ofBase64 ("\u2003" ++ body ++ "\r\n") = .ok op.node ∧
        ∃ received, ofNode op.node = .ok received ∧ received.name = "add" ∧
          received.address = address := by
  intro address op
  have hop : op.Made := by
    refine .build address "add" ?_
    simp only [List.forall_mem_cons]
    exact ⟨Node.wellFormed_of_not_container rfl, Node.wellFormed_of_not_container rfl, nofun⟩
  have hname : op.name = "add" := name_build address "add" _
  have haddress : op.address = address := address_build address "add" _
  have hother : op.name ≠ descriptionName := by
    rw [hname]
    decide
  have hnesting : op.node.nesting ≤ 256 := by decide
  obtain ⟨request, hrequest⟩ : ∃ request, op.request (.below "http://localhost:9990/") =
    .ok request := ⟨_, rfl⟩
  obtain ⟨-, hurl, body, hbody, hread, haccepted⟩ :=
    request_posts_operation hop hother hnesting hrequest
  obtain ⟨received, hreceived, hsame, hsegments, -⟩ := haccepted (by rw [hname]; decide)
  exact ⟨hop, hother, hnesting, request, body, hrequest, hurl.trans (by decide), hbody,
    hread _ _ (by decide) (by decide), received, hreceived, hsame.trans hname,
    hsegments.trans haddress⟩

end Operation

end ManagementModel
