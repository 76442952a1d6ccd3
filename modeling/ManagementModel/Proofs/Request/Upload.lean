import ManagementModel.Proofs.Node.JsonText
import ManagementModel.Proofs.Request.Body
import ManagementModel.Upload

/-!
# ManagementModel — the operation of an upload

A posted operation travels in the binary form, the operation of an upload as JSON. What is read from
its text has the name, the parameters and the order of the operation, each parameter as JSON tells
it. In its address a segment is an object of one member, which the names of expressions and of bytes
turn into something that is no named value: such segments are missing from the address that is read
(`isLost`), and no others.

Main results:

* `Address.ofNode_ofJson_toNode` — what is left of an address.
* `Operation.uploadRequest_tells_operation` — what is read from the text of an upload.
-/

namespace ManagementModel

open Node (ofJson)

namespace Node

/-- A document is not less deep than the tree that it shows. -/
theorem nesting_le_toJson (n : Node) : n.nesting ≤ n.toJson.nesting := by
  induction n using induct with
  | scalar n hn =>
    rw [nesting_eq_zero hn]
    exact Nat.zero_le _
  | list items ih =>
    rw [nesting, toJson, Json.nesting, Nat.add_le_add_iff_right]
    induction items with
    | nil => exact Nat.zero_le _
    | cons item items ihitems =>
      -- the largest depth among the items goes up with the depth of each
      obtain ⟨hitem, hitems⟩ := List.forall_mem_cons.mp ih
      have hrest := ihitems hitems
      rw [nestingItems, toJsonItems, Json.nestingItems]
      omega
  | object fields ih =>
    rw [nesting, toJson, Json.nesting, Nat.add_le_add_iff_right]
    induction fields with
    | nil => exact Nat.zero_le _
    | cons p fields ihfields =>
      obtain ⟨hp, hfields⟩ := List.forall_mem_cons.mp ih
      have hrest := ihfields hfields
      rw [nestingFields, toJsonMembers, Json.nestingMembers]
      omega
  | property name value ih =>
    rw [nesting, toJson, Json.single, Json.nesting, Json.nestingMembers, Json.nestingMembers]
    omega

end Node

/-! ## Addresses in documents -/

namespace Address

/-- A segment that is read from a document as an expression, or as bytes. -/
def isLost (segment : String × String) : Bool :=
  segment.1 == Node.expressionName ||
    segment.1 == Node.bytesName && (Text.Base64.decode segment.2).isOk

/-- What is left of an address in its document. -/
def told (a : Address) : Address :=
  ⟨a.segments.filter fun segment => !isLost segment⟩

/-- An address without such segments is told as it is. -/
theorem told_eq_self {a : Address} (h : ∀ segment ∈ a.segments, isLost segment = false) :
    a.told = a := by
  have hfilter : a.segments.filter (fun segment => !isLost segment) = a.segments :=
    List.filter_eq_self.mpr fun segment hmem => by rw [h segment hmem]; rfl
  rw [told, hfilter]

/-- What a segment is read as is its one named value, unless it is lost. -/
theorem itemProperties_segment (segment : String × String) :
    (ofJson (Node.property segment.1 (.string segment.2)).toJson).itemProperties =
      if isLost segment then [] else [(segment.1, .string segment.2)] := by
  obtain ⟨name, value⟩ := segment
  have hread : ofJson (Node.property name (.string value)).toJson =
      (Node.ofReserved? [(name, .string value)]).getD (.object [(name, .string value)]) := rfl
  rw [hread, isLost, Node.ofReserved?]
  by_cases hexpression : name = Node.expressionName
  · simp [hexpression, Node.itemProperties]
  · by_cases hbytes : name = Node.bytesName
    · have hne : Node.bytesName ≠ Node.expressionName := hbytes ▸ hexpression
      cases Text.Base64.decode value <;>
        simp [hne, hbytes, Node.itemProperties, Except.isOk, Except.toBool]
    · simp [hexpression, hbytes, Node.itemProperties]

/-- The address that is read from a document has the segments that are not lost. -/
theorem ofNode_ofJson_toNode (a : Address) : ofNode (ofJson a.toNode.toJson) = a.told := by
  obtain ⟨segments⟩ := a
  have hread : ofJson (toNode ⟨segments⟩).toJson = .list (segments.map fun segment =>
      ofJson (Node.property segment.1 (.string segment.2)).toJson) := by
    rw [toNode, Node.toJson, ofJson, Node.toJsonItems_eq_map, Node.ofJsonItems_eq_map,
      List.map_map, List.map_map]
    rfl
  rw [hread, ofNode, Node.properties, List.flatMap_map, told]
  simp only [itemProperties_segment, mk.injEq]
  clear hread
  induction segments with
  | nil => rfl
  | cons segment segments ih =>
    rw [List.flatMap_cons, List.map_append, ih, List.filter_cons]
    cases isLost segment <;> rfl

end Address

/-! ## Operations in documents -/

namespace Operation

variable {address : Address} {name : String} {parameters : List (String × Node)}

/-- Without doubles among the parameters, a built operation has none. -/
theorem doubleFree_build (hd : ∀ p ∈ parameters, p.2.DoubleFree) :
    (build address name parameters).node.DoubleFree :=
  throughout_build (fun _ h => h) hd

/-- A built operation has a name and an address, so it does not look like anything else. -/
theorem not_lostInJson_build : ¬ (build address name parameters).node.LostInJson := by
  have hhas : (build address name parameters).node.has nameField = true :=
    has_build address name parameters rfl
  -- a reserved form has one field, which is not the name
  have hsingle : ∀ key value, key ≠ nameField →
      (Node.object [(key, value)]).has nameField = false := by
    intro key value hkey
    rw [Node.has, Fields.contains, Fields.get?, if_neg hkey]
    rfl
  intro h
  rw [build] at h hhas
  generalize parameters.foldl addParameter _ = fields at h hhas
  cases h with
  | expression text => simp [hsingle Node.expressionName _ (by decide)] at hhas
  | bytes hdecode => simp [hsingle Node.bytesName _ (by decide)] at hhas

/-- What a document tells of a built operation is an operation again. -/
theorem exists_ofNode_ofJson_build (address : Address) (parameters : List (String × Node))
    (hname : Text.isBlank name = false) :
    ∃ received, ofNode (ofJson (build address name parameters).node.toJson) = .ok received ∧
      received.name = name ∧ received.node.names = (build address name parameters).node.names ∧
      (∀ key, received.parameter? key =
        ((build address name parameters).parameter? key).map fun v => ofJson v.toJson) ∧
      received.address = address.told := by
  have htree : ofJson (build address name parameters).node.toJson = _ :=
    Node.ofJson_toJson_object not_lostInJson_build
  -- no parameter replaces the name or the address
  have hname' : Fields.get? nameField (parameters.foldl addParameter
      [(nameField, .string name), (addressField, address.toNode)]) = some (.string name) :=
    get?_foldl_addParameter parameters rfl
  have haddress : Fields.get? addressField (parameters.foldl addParameter
      [(nameField, .string name), (addressField, address.toNode)]) = some address.toNode :=
    get?_foldl_addParameter parameters rfl
  -- from here on the parameters do not matter, only that name and address are among the fields
  rw [htree, build]
  generalize parameters.foldl addParameter _ = fields at hname' haddress
  -- a field is found in the document where it is in the operation
  have hget : ∀ {key value}, Fields.get? key fields = some value →
      Fields.get? key (fields.map fun p => (p.1, ofJson p.2.toJson)) =
        some (ofJson value.toJson) := by
    intro key value h
    rw [Fields.get?_map (fun v : Node => ofJson v.toJson), h]
    rfl
  set received : Operation :=
    ⟨.object (fields.map fun p => (p.1, ofJson p.2.toJson))⟩ with hreceived
  have hreadName : received.name = name := by
    rw [Operation.name, Node.get, hget hname']
    rfl
  have hreadAddress : received.address = address.told := by
    rw [Operation.address, Node.get, hget haddress, Option.getD_some]
    exact Address.ofNode_ofJson_toNode address
  refine ⟨received, ofNode_eq_ok_iff.mpr ⟨rfl, ?_, ?_, ?_⟩, hreadName, ?_, ?_, hreadAddress⟩
  · rw [Node.has, Fields.contains, hget haddress]
    rfl
  · rw [Node.has, Fields.contains, hget hname']
    rfl
  · rw [hreadName, hname]
  · exact Fields.names_map (fun v : Node => ofJson v.toJson) fields
  · intro key
    rw [hreceived, parameter?_object, parameter?_object,
      Fields.get?_map (fun v : Node => ofJson v.toJson)]

section

variable {endpoints : Endpoints} {file : UploadFile}

/-- The text of an upload is read as an operation with the name of the built one, its fields in the
same order, each parameter as its document tells it, and the segments of its address that are not
lost. If none is lost, that is the address of the operation that is read from a posted body. -/
theorem uploadRequest_tells_operation (hname : Text.isBlank name = false)
    (hw : ∀ p ∈ parameters, p.2.WellFormed) (hd : ∀ p ∈ parameters, p.2.DoubleFree)
    (hnesting : (build address name parameters).node.toJson.nesting ≤ 127) :
    let op := build address name parameters
    ∃ tree received, Node.ofJsonText (op.uploadRequest endpoints file).operation = .ok tree ∧
      ofNode tree = .ok received ∧ received.name = op.name ∧ tree.names = op.node.names ∧
      (∀ key, received.parameter? key = (op.parameter? key).map fun v => ofJson v.toJson) ∧
      received.address = ⟨address.segments.filter fun segment => !Address.isLost segment⟩ ∧
      ((∀ segment ∈ address.segments, Address.isLost segment = false) →
        ∀ body, op.node.toBase64 = .ok body → ∃ posted, Node.ofBase64 body = .ok posted.node ∧
          ofNode posted.node = .ok posted ∧ received.address = posted.address) := by
  intro op
  have hmade : op.Made := .build address name hw
  -- the text is read as the tree that JSON tells of the operation
  have hread : Node.ofJsonText (op.uploadRequest endpoints file).operation =
      .ok (ofJson op.node.toJson) :=
    Node.ofJsonText_render Json.Spacing.blank_compact hmade.wellFormed (doubleFree_build hd)
      hnesting
  obtain ⟨received, haccepted, hsame, hnames, hparameters, haddress⟩ :=
    exists_ofNode_ofJson_build address parameters hname
  have hopName : op.name = name := name_build address name parameters
  have hopAddress : op.address = address := address_build address name parameters
  refine ⟨_, received, hread, haccepted, hsame.trans hopName.symm, ?_, hparameters, haddress, ?_⟩
  · rw [← (ofNode_eq_ok_iff.mp haccepted).1, hnames]
  · -- the binary form allows more levels than JSON, and it is read back as it is
    intro hkept body hbody
    have hdepth : op.node.nesting ≤ 256 :=
      (Node.nesting_le_toJson op.node).trans (hnesting.trans (by decide))
    have hblank : Text.isBlank "" = true := rfl
    have hposted := Node.ofBase64_toBase64 hmade.wellFormed hdepth hbody hblank hblank
    rw [String.append_empty, String.empty_append] at hposted
    refine ⟨op, hposted, hmade.ofNode_node (by rw [hopName, hname]), ?_⟩
    rw [haddress, Address.told_eq_self hkept, hopAddress]

end

/-- Two of the segments are lost, the last one is not, and a parameter is told as a smaller kind. -/
theorem uploadRequest_tells_operation_segments :
    let op := build ⟨[("subsystem", "logging"), ("EXPRESSION_VALUE", "a"), ("BYTES_VALUE", "aGk="),
      ("BYTES_VALUE", "?")]⟩ "add" [("level", .string "INFO"), ("size", .long 5)]
    ∃ tree received, Node.ofJsonText (op.uploadRequest (.below "http://localhost:9990")
        ⟨"file", "a.war", []⟩).operation = .ok tree ∧
      ofNode tree = .ok received ∧ received.name = "add" ∧
      tree.names = ["operation", "address", "level", "size"] ∧
      received.parameter? "size" = some (.int 5) ∧
      received.address = ⟨[("subsystem", "logging"), ("BYTES_VALUE", "?")]⟩ := by
  intro op
  have hw : ∀ p ∈ [("level", Node.string "INFO"), ("size", Node.long 5)], p.2.WellFormed := by
    simp only [List.forall_mem_cons]
    exact ⟨Node.wellFormed_of_not_container rfl, Node.wellFormed_of_not_container rfl, nofun⟩
  have hd : ∀ p ∈ [("level", Node.string "INFO"), ("size", Node.long 5)], p.2.DoubleFree := by
    simp only [List.forall_mem_cons]
    exact ⟨Node.doubleFree_scalar rfl nofun, Node.doubleFree_scalar rfl nofun, nofun⟩
  have hnesting : op.node.toJson.nesting ≤ 127 := by decide +kernel
  obtain ⟨tree, received, hread, haccepted, hname, hnames, hparameters, haddress, -⟩ :=
    uploadRequest_tells_operation (by decide +kernel) hw hd hnesting
  refine ⟨tree, received, hread, haccepted, hname, hnames, ?_, ?_⟩
  · rw [hparameters]
    rfl
  · rw [haddress]
    decide +kernel

end Operation

end ManagementModel
