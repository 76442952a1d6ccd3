import ManagementModel.Operation
import ManagementModel.Proofs.Fields
import ManagementModel.Proofs.Node.Induction
import ManagementModel.Proofs.Text.Blank

/-!
# ManagementModel — what an operation is made of

There are two ways to an operation: it is built from an address, a name and parameters, or it is a
tree that was found to be one. Built operations keep the address and the name they are built from,
whatever the parameters are called. So they would be found to be operations too, unless their name
is blank; nothing else that is asked of a tree can be missing in them.

The fields of a built operation are what the name, the address and the parameters amount to, once
the parameters with reserved names are left out: a parameter that is given again keeps its first
position and takes the last value.

Main results:

* `address_build`, `name_build` — what a built operation is built from.
* `build_eq` — the fields of a built operation as merged pairs.
* `ofNode_build` — a built operation is accepted unless its name is blank.
* `build_keeps_what_is_given` — all that can be read of a built operation.
* `Made.wellFormed` — operations are well-formed trees.
* `Made.ofNode_node` — the tree of an operation whose name is not blank is accepted.
-/

namespace ManagementModel.Operation

/-- What comes of building operations and of accepting trees. -/
inductive Made : Operation → Prop where
  | build (address : Address) (name : String) {parameters : List (String × Node)}
    (h : ∀ p ∈ parameters, p.2.WellFormed) : Made (.build address name parameters)
  | ofNode {node : Node} {op : Operation} (hw : node.WellFormed) (h : ofNode node = .ok op) :
    Made op

/-! ## Built operations -/

/-- The parameters that count. -/
def unreserved (parameters : List (String × Node)) : List (String × Node) :=
  parameters.filter fun p => !isReserved p.1

/-- The fields are what the name, the address and the parameters that count amount to. -/
theorem build_eq (address : Address) (name : String) (parameters : List (String × Node)) :
    build address name parameters = ⟨.object (Fields.ofList
      ((nameField, .string name) :: (addressField, address.toNode) :: unreserved parameters))⟩ := by
  -- passing over a parameter is the same as filtering it out before
  have hstep : addParameter = fun fields p =>
      if !isReserved p.1 then Fields.insert p.1 p.2 fields else fields := by
    funext fields p
    rw [addParameter]
    cases isReserved p.1 <;> rfl
  rw [build, hstep, unreserved, ← List.foldl_filter]
  rfl

/-- Only the parameters that count make a difference. -/
theorem build_congr (address : Address) (name : String) {parameters others : List (String × Node)}
    (h : unreserved others = unreserved parameters) :
    build address name others = build address name parameters := by
  rw [build_eq, h, ← build_eq]

/-- A parameter with a reserved name might as well be missing. -/
theorem unreserved_of_reserved {p : String × Node} (hp : isReserved p.1 = true)
    (before after : List (String × Node)) :
    unreserved (before ++ p :: after) = unreserved (before ++ after) := by
  have hdropped : ¬ (!isReserved p.1) = true := by
    rw [hp]
    exact Bool.false_ne_true
  rw [unreserved, unreserved, List.filter_append, List.filter_append, List.filter_cons_of_neg]
  exact hdropped

variable (parameters : List (String × Node)) {fields : Fields Node}

/-- Parameters do not reach the name and the address. -/
theorem get?_foldl_addParameter {key : String} (hkey : isReserved key = true) :
    Fields.get? key (parameters.foldl addParameter fields) = Fields.get? key fields := by
  induction parameters generalizing fields with
  | nil => rfl
  | cons p rest ih =>
    rw [List.foldl_cons, ih, addParameter]
    cases hp : isReserved p.1 with
    | true => rfl
    | false =>
      -- a parameter that counts has another name
      have hne : p.1 ≠ key := by
        rintro rfl
        rw [hkey] at hp
        cases hp
      rw [if_neg Bool.false_ne_true, Fields.get?_insert, if_neg hne]

/-! ### Parts -/

section

variable {parameters} {address : Address} {name : String} {P : Node → Prop}

/-- What holds of the name, the address and the parameters holds of all fields. -/
theorem forall_mem_fields_build (hname : P (.string name)) (haddress : P address.toNode)
    (hp : ∀ p ∈ parameters, P p.2) : ∀ p ∈ Fields.ofList
      ((nameField, .string name) :: (addressField, address.toNode) :: unreserved parameters),
      P p.2 := by
  -- each field is one of the pairs that were merged
  intro p hmem
  rcases List.mem_cons.mp (Fields.mem_of_mem_ofList hmem) with rfl | hmem
  · exact hname
  · rcases List.mem_cons.mp hmem with rfl | hmem
    · exact haddress
    · exact hp p (List.mem_of_mem_filter hmem)

theorem wellFormed_toNode (address : Address) : address.toNode.WellFormed := by
  rw [Address.toNode, Node.wellFormed_list_iff]
  intro item hitem
  obtain ⟨p, -, rfl⟩ := List.mem_map.mp hitem
  rw [Node.WellFormed]
  exact Node.wellFormed_of_not_container rfl

theorem wellFormed_build (address : Address) (name : String)
    (h : ∀ p ∈ parameters, p.2.WellFormed) :
    (build address name parameters).node.WellFormed := by
  rw [build_eq, Node.wellFormed_object_iff]
  refine ⟨Fields.distinct_ofList _, ?_⟩
  exact forall_mem_fields_build (Node.wellFormed_of_not_container rfl) (wellFormed_toNode address) h

/-- The name and the address hold no doubles, so a property of doubles depends on the parameters
alone. -/
theorem throughout_build (hP : ∀ n : Node, n.kind ≠ .double → P n)
    (h : ∀ p ∈ parameters, p.2.Throughout P) :
    (build address name parameters).node.Throughout P := by
  -- texts and the containers of an address are no doubles
  have hstring : ∀ text, (Node.string text).Throughout P := fun text =>
    (Node.throughout_scalar_iff rfl).mpr (hP _ nofun)
  have haddress : address.toNode.Throughout P := by
    refine Node.throughout_list_iff.mpr ⟨hP _ nofun, List.forall_mem_map.mpr fun p _ => ?_⟩
    exact Node.throughout_property_iff.mpr ⟨hP _ nofun, hstring p.2⟩
  rw [build_eq, Node.throughout_object_iff]
  exact ⟨hP _ nofun, forall_mem_fields_build (hstring name) haddress h⟩

end

/-! ### Name and address -/

section

variable (address : Address) (name : String) (parameters : List (String × Node)) {key : String}

/-- The name and the address are read as if there were no parameters. -/
theorem get_build (hkey : isReserved key = true) :
    (build address name parameters).node.get key = (build address name []).node.get key := by
  rw [build, build, Node.get, Node.get, get?_foldl_addParameter parameters hkey]
  rfl

/-- Whether there are a name and an address does not depend on the parameters. -/
theorem has_build (hkey : isReserved key = true) :
    (build address name parameters).node.has key = (build address name []).node.has key := by
  rw [build, build, Node.has, Node.has, Fields.contains, Fields.contains,
    get?_foldl_addParameter parameters hkey]
  rfl

/-- A built operation has the name it is built from. -/
@[simp] theorem name_build : (build address name parameters).name = name := by
  rw [Operation.name, get_build address name parameters rfl]
  rfl

/-- A built operation has the address it is built from. -/
@[simp] theorem address_build : (build address name parameters).address = address := by
  rw [Operation.address, get_build address name parameters rfl]
  exact Address.ofNode_toNode address

/-- Nothing is missing in a built operation, but its name may be blank. -/
theorem ofNode_build : ofNode (build address name parameters).node =
    if Text.isBlank name then .error .invalidName else .ok (build address name parameters) := by
  have haddress : (build address name parameters).node.has addressField = true :=
    has_build address name parameters rfl
  have hname : (build address name parameters).node.has nameField = true :=
    has_build address name parameters rfl
  -- the name is a text, so only its being blank is in question
  have htext : ((build address name parameters).node.get nameField).text? = some name := by
    rw [get_build address name parameters rfl]
    rfl
  rw [ofNode, if_neg (by simp [haddress]), if_neg (by simp [hname]), htext]

/-- A built operation is accepted exactly if its name has a visible character. -/
theorem ofNode_build_eq_ok_iff :
    ofNode (build address name parameters).node = .ok (build address name parameters) ↔
      ∃ c ∈ name.toList, Text.isBlankChar c = false := by
  rw [ofNode_build, ← Text.isBlank_eq_false_iff]
  cases Text.isBlank name <;> simp

/-- A built operation is refused for its name exactly if that is blank. -/
theorem ofNode_build_eq_error_iff :
    ofNode (build address name parameters).node = .error .invalidName ↔
      ∀ c ∈ name.toList, Text.isBlankChar c = true := by
  rw [ofNode_build, ← List.all_eq_true]
  show _ ↔ Text.isBlank name = true
  cases Text.isBlank name <;> simp

end

/-! ### Parameters -/

section

variable (address : Address) (name : String) (parameters : List (String × Node)) {key : String}

theorem names_unreserved : Fields.names (unreserved parameters) =
    (Fields.names parameters).filter fun key => !isReserved key := by
  rw [unreserved, Fields.names, Fields.names, List.filter_map]
  rfl

/-- The value of a parameter is the field of the tree. -/
theorem parameter?_object (fields : Fields Node) (key : String) :
    parameter? ⟨.object fields⟩ key = Fields.get? key fields := by
  rw [parameter?, Node.has, Node.get, Fields.contains]
  cases Fields.get? key fields <;> rfl

/-- Among several parameters of one name the last one counts. -/
theorem parameter?_build (hkey : isReserved key = false) :
    (build address name parameters).parameter? key = Fields.get? key parameters.reverse := by
  obtain ⟨hname, haddress⟩ : nameField ≠ key ∧ addressField ≠ key := by
    constructor <;> rintro rfl <;> cases hkey
  -- the name and the address are no parameters
  have hfront : Fields.get? key [(addressField, address.toNode), (nameField, .string name)] =
      none := by
    rw [Fields.get?, if_neg haddress, Fields.get?, if_neg hname, Fields.get?]
  -- leaving out reserved parameters leaves out none of this name
  have hkept : ∀ p ∈ parameters.reverse, p.1 = key → (!isReserved p.1) = true := by
    rintro p - rfl
    rw [hkey]
    rfl
  rw [build_eq, parameter?_object, (Fields.merges_ofList _).get?_eq, List.reverse_cons,
    List.reverse_cons, List.append_assoc, Fields.get?_append, List.singleton_append, hfront,
    Option.or_none, unreserved, ← List.filter_reverse, Fields.get?_filter hkept]

/-- The name and the address come first, then each parameter where it was given first. -/
theorem names_build : (build address name parameters).node.names = nameField :: addressField ::
    ((Fields.names parameters).filter fun key => !isReserved key).eraseDups := by
  -- merged pairs have the names that were given, each at its first place
  have hnames : (build address name parameters).node.names =
      (nameField :: addressField :: Fields.names (unreserved parameters)).eraseDups := by
    rw [build_eq, Node.names, (Fields.merges_ofList _).names_eq]
    rfl
  -- none of the parameters that count repeats one of the first two names
  have hkeep : ∀ {first : String}, isReserved first = true →
      (Fields.names (unreserved parameters)).filter (fun key => !(key == first)) =
        Fields.names (unreserved parameters) := by
    intro first hfirst
    refine List.filter_eq_self.mpr fun key hmem => ?_
    rw [names_unreserved, List.mem_filter] at hmem
    have hne : key ≠ first := by
      rintro rfl
      rw [hfirst] at hmem
      cases hmem.2
    simpa using hne
  have hother : (addressField == nameField) = false := by decide
  rw [hnames, List.eraseDups_cons, List.filter_cons, hother, Bool.not_false, if_pos rfl, hkeep rfl,
    List.eraseDups_cons, hkeep rfl, names_unreserved]

end

/-- A built operation has the name and the address that it was given, in front of its parameters in
the order in which each was given first. A parameter has the value that it was given last, and what
was not given is not there. Parameters with a reserved name might as well be missing, or stand
anywhere else. The tree is accepted as the same operation exactly if the name has a visible
character, and refused for its name otherwise. -/
theorem build_keeps_what_is_given (address : Address) (name : String)
    (parameters : List (String × Node)) :
    let op := build address name parameters
    op.name = name ∧ op.address = address ∧
      op.node.names = nameField :: addressField ::
        ((Fields.names parameters).filter fun key => !isReserved key).eraseDups ∧
      (∀ before key value after, parameters = before ++ (key, value) :: after →
        isReserved key = false → key ∉ Fields.names after → op.parameter? key = some value) ∧
      (∀ key, isReserved key = false → key ∉ Fields.names parameters → op.parameter? key = none) ∧
      (∀ others, unreserved others = unreserved parameters → build address name others = op) ∧
      (ofNode op.node = .ok op ↔ ∃ c ∈ name.toList, Text.isBlankChar c = false) ∧
      (ofNode op.node = .error .invalidName ↔ ∀ c ∈ name.toList, Text.isBlankChar c = true) := by
  refine ⟨name_build address name parameters, address_build address name parameters,
    names_build address name parameters, ?_, ?_,
    fun others hothers => build_congr address name hothers,
    ofNode_build_eq_ok_iff address name parameters,
    ofNode_build_eq_error_iff address name parameters⟩
  · rintro before key value after rfl hkey hlast
    rw [parameter?_build address name _ hkey, Fields.get?_reverse_of_last hlast]
  · intro key hkey hnot
    rw [parameter?_build address name _ hkey, Fields.get?_reverse_eq_none hnot]

/-- The parameter that is given twice keeps its place and takes the second value; those that claim
the name and the address do not count. -/
theorem build_keeps_what_is_given_twice :
    let parameters : List (String × Node) := [("operation", .string "remove"),
      ("recursive", .boolean true), ("depth", .int 1), ("address", .list []),
      ("recursive", .boolean false)]
    let op := build ⟨[("subsystem", "logging")]⟩ "read-resource" parameters
    op.name = "read-resource" ∧ op.node.names = ["operation", "address", "recursive", "depth"] ∧
      op.parameter? "recursive" = some (.boolean false) ∧ op.parameter? "proxies" = none ∧
      build ⟨[("subsystem", "logging")]⟩ "read-resource" [("recursive", .boolean true),
        ("depth", .int 1), ("recursive", .boolean false), ("operation", .undefined)] = op ∧
      ofNode op.node = .ok op := by
  intro parameters op
  obtain ⟨hname, -, hnames, hlast, hmissing, hreserved, haccepted, -⟩ :=
    build_keeps_what_is_given ⟨[("subsystem", "logging")]⟩ "read-resource" parameters
  refine ⟨hname, ?_, ?_, hmissing "proxies" rfl (by decide), hreserved _ rfl, ?_⟩
  · exact hnames.trans (by decide)
  · exact hlast [("operation", .string "remove"), ("recursive", .boolean true), ("depth", .int 1),
      ("address", .list [])] "recursive" (.boolean false) [] rfl rfl (by decide)
  · exact haccepted.mpr ⟨'r', by decide, rfl⟩

/-! ## Accepted trees -/

/-- A tree is accepted for an address and a name that is not blank. -/
theorem ofNode_eq_ok_iff {node : Node} {op : Operation} :
    ofNode node = .ok op ↔ op.node = node ∧ node.has addressField = true ∧
      node.has nameField = true ∧ Text.isBlank op.name = false := by
  obtain ⟨tree⟩ := op
  constructor
  · intro h
    rw [ofNode] at h
    split at h
    · cases h
    · next haddress =>
      split at h
      · cases h
      · next hname =>
        split at h
        · next text htext =>
          split at h
          · cases h
          · next hblank =>
            cases h
            simp only [Bool.not_eq_true', Bool.not_eq_false] at haddress hname
            refine ⟨rfl, haddress, hname, ?_⟩
            rw [Operation.name, htext]
            simpa using hblank
        · cases h
  · rintro ⟨rfl, haddress, hname, hblank⟩
    rw [Operation.name] at hblank
    rw [ofNode, if_neg (by simp [haddress]), if_neg (by simp [hname])]
    -- a missing text would count as a blank name
    cases htext : (tree.get nameField).text? with
    | none =>
      rw [htext] at hblank
      cases hblank
    | some text =>
      rw [htext] at hblank
      exact if_neg (Bool.eq_false_iff.mp hblank)

theorem Made.wellFormed {op : Operation} (h : op.Made) : op.node.WellFormed := by
  cases h with
  | build address name hp => exact wellFormed_build address name hp
  | ofNode hw h => rwa [(ofNode_eq_ok_iff.mp h).1]

/-- The tree of an operation is accepted as that operation, unless the name is blank. -/
theorem Made.ofNode_node {op : Operation} (h : op.Made) (hname : Text.isBlank op.name = false) :
    Operation.ofNode op.node = .ok op := by
  cases h with
  | build address name hp =>
    rw [name_build] at hname
    rw [ofNode_build, if_neg (Bool.eq_false_iff.mp hname)]
  | ofNode hw h =>
    -- the tree was accepted before
    obtain ⟨rfl, h⟩ := ofNode_eq_ok_iff.mp h
    exact ofNode_eq_ok_iff.mpr ⟨rfl, h⟩

end ManagementModel.Operation
