import ManagementModel.Proofs.Wire.Canonical
import ManagementModel.Proofs.Wire.Language

/-!
# ManagementModel — reading what was written

What was written is read back as the same tree, as long as it nests no deeper than the reader goes.
The writer knows no such limit. Of a deeper tree the parts before the first one that is too deep
are read without complaint, and all that is ever wrong with it is its depth: every declared length
is met by the bytes that follow, whether they are going to be read or not.

Trees are taken to be well formed, that is, no object holds a name twice: the fields of an object
are a map, and no operation makes anything else of them.

Main results:

* `value_of_fits`, `value_of_too_deep` — the reader of some levels on a written tree.
* `ofBytes_toBytes` — the same for a whole input.
-/

namespace ManagementModel.Wire

/-! ## What was written -/

/-- What is written for a tree begins with the tag of its kind. -/
theorem tag_of_write {n : Node} {bs : List UInt8} (h : write n = .ok bs) :
    ∃ data, bs = n.kind.tag :: data := by
  cases n with
  | undefined | boolean | int | long | double | type =>
    rw [write, Except.ok.injEq] at h
    exact ⟨_, h.symm⟩
  -- behind the tag comes a text, a count or a name, and then the parts
  | string =>
    obtain ⟨text, -, rfl⟩ := write_string_eq_ok_iff.mp h
    exact ⟨_, rfl⟩
  | expression =>
    obtain ⟨text, -, rfl⟩ := write_expression_eq_ok_iff.mp h
    exact ⟨_, rfl⟩
  | bytes =>
    obtain ⟨count, -, rfl⟩ := write_bytes_eq_ok_iff.mp h
    exact ⟨_, rfl⟩
  | list =>
    obtain ⟨count, -, parts, -, rfl⟩ := write_list_eq_ok_iff.mp h
    exact ⟨_, rfl⟩
  | object =>
    obtain ⟨count, -, parts, -, rfl⟩ := write_object_eq_ok_iff.mp h
    exact ⟨_, rfl⟩
  | property =>
    obtain ⟨text, -, part, -, rfl⟩ := write_property_eq_ok_iff.mp h
    exact ⟨_, rfl⟩

theorem kind_of_tag (k : Kind) (rest : List UInt8) : kind (k.tag :: rest) = .ok (k, rest) :=
  reads_kind.apply rfl rest

/-- The bytes that are written for a well-formed tree, at whatever depth. -/
def Written (_ : Nat) (bs : List UInt8) (n : Node) : Prop :=
  n.WellFormed ∧ write n = .ok bs

/-- Something is written for every tree. -/
theorem Written.length_pos {d : Nat} {bs : List UInt8} {n : Node} (h : Written d bs n) :
    1 ≤ bs.length := by
  obtain ⟨data, rfl⟩ := tag_of_write h.2
  exact Nat.succ_pos _

/-- A written list is its tag, its count and the written items. -/
theorem items_of_write {items : List Node} (hw : (Node.list items).WellFormed) {bs : List UInt8}
    (h : write (.list items) = .ok bs) (d : Nat) : ∃ count parts,
      bs = Kind.list.tag :: (count ++ parts) ∧ CountForm count items.length ∧
      Items Written parts items d := by
  rw [Node.wellFormed_list_iff] at hw
  obtain ⟨count, hc, parts, hp, rfl⟩ := write_list_eq_ok_iff.mp h
  refine ⟨count, parts, rfl, hc, (writeItems_eq_ok_iff ?_).mp hp⟩
  exact fun item hmem bs => (and_iff_right (hw item hmem)).symm

/-- A written object is its tag, its count and the written fields. -/
theorem pairs_of_write {fields : Fields Node} (hw : (Node.object fields).WellFormed)
    {bs : List UInt8} (h : write (.object fields) = .ok bs) (d : Nat) : ∃ count parts,
      bs = Kind.object.tag :: (count ++ parts) ∧ CountForm count fields.length ∧
      Pairs .canonical Written parts fields d := by
  rw [Node.wellFormed_object_iff] at hw
  obtain ⟨count, hc, parts, hp, rfl⟩ := write_object_eq_ok_iff.mp h
  refine ⟨count, parts, rfl, hc, (writeFields_eq_ok_iff ?_).mp hp⟩
  exact fun p hmem bs => (and_iff_right (hw.2 p hmem)).symm

/-! ## A part that cannot be read -/

section

variable {R : Nat → List UInt8 → Node → Prop} {d : Nat} {item : Reader Node} {e : DecodeError}

/-- Where each item is read or has one and the same fault, and one of them has it, reading them all
ends with that fault. -/
theorem itemsOnto_error (hitem : ∀ {bs n}, R d bs n → ∀ rest,
      item (bs ++ rest) = .ok (n, rest) ∨ item (bs ++ rest) = .error e)
    {parts : List UInt8} {items : List Node} (hp : Items R parts items d)
    (hbad : ∃ n ∈ items, ∀ bs, R d bs n → ∀ rest, item (bs ++ rest) = .error e)
    (acc : List Node) (rest : List UInt8) :
    itemsOnto item acc items.length (parts ++ rest) = .error e := by
  induction hp generalizing acc with
  | nil =>
    obtain ⟨n, hmem, -⟩ := hbad
    cases hmem
  | @cons d part parts n items h hs ih =>
    rw [List.length_cons, itemsOnto, List.append_assoc]
    rcases hitem h (parts ++ rest) with hok | herr
    · -- the first item is read, so the fault is in one of the others
      rw [bind_of_ok hok]
      refine ih hitem ?_ (n :: acc)
      obtain ⟨m, hmem, hm⟩ := hbad
      rcases List.mem_cons.mp hmem with rfl | hmem
      · rw [hm part h] at hok
        cases hok
      · -- the faulty item was not the first
        exact ⟨m, hmem, hm⟩
    · exact bind_of_error herr _

/-- Where each value is read or has one and the same fault, and one of them has it, reading all
fields ends with that fault. -/
theorem fieldsInto_error (hitem : ∀ {bs n}, R d bs n → ∀ rest,
      item (bs ++ rest) = .ok (n, rest) ∨ item (bs ++ rest) = .error e)
    {D : Dialect} {parts : List UInt8} {pairs : Fields Node} (hp : Pairs D R parts pairs d)
    (hbad : ∃ p ∈ pairs, ∀ bs, R d bs p.2 → ∀ rest, item (bs ++ rest) = .error e)
    (acc : Fields Node) (rest : List UInt8) :
    fieldsInto item acc pairs.length (parts ++ rest) = .error e := by
  induction hp generalizing acc with
  | nil =>
    obtain ⟨p, hmem, -⟩ := hbad
    cases hmem
  | @cons d text part parts name n pairs hn h hs ih =>
    rw [List.length_cons, fieldsInto, List.append_assoc, List.append_assoc,
      bind_of_ok (reads_text.apply hn.liberal _)]
    -- a name never has the fault, only its value may
    rcases hitem h (parts ++ rest) with hok | herr
    · rw [bind_of_ok hok]
      refine ih hitem ?_ _
      obtain ⟨p, hmem, hm⟩ := hbad
      rcases List.mem_cons.mp hmem with rfl | hmem
      · rw [hm part h] at hok
        cases hok
      · exact ⟨p, hmem, hm⟩
    · exact bind_of_error herr _

end

/-! ## A container with such a part -/

section

variable {levels : Nat} {e : DecodeError} {bs : List UInt8}

/-- The fault of an item is the fault of the list: its tag, its count and the demand on the length
are passed, and the items before the fault are read. -/
theorem value_list_error (hpart : ∀ {bs n}, Written 0 bs n → ∀ rest,
      value levels (bs ++ rest) = .ok (n, rest) ∨ value levels (bs ++ rest) = .error e)
    {items : List Node} (hw : (Node.list items).WellFormed) (h : write (.list items) = .ok bs)
    (hbad : ∃ n ∈ items, ∀ bs, Written 0 bs n → ∀ rest, value levels (bs ++ rest) = .error e)
    (rest : List UInt8) : value (levels + 1) (bs ++ rest) = .error e := by
  obtain ⟨count, parts, rfl, hc, hp⟩ := items_of_write hw h 0
  -- every item takes a byte, so the demand on the length is met
  have hle : items.length ≤ (parts ++ rest).length := by
    have := hp.length_le Written.length_pos
    rw [List.length_append]
    omega
  rw [value, List.cons_append, bind_of_ok (kind_of_tag _ _), List.append_assoc]
  refine (bind_of_ok (reads_count.apply hc _) _).trans ?_
  refine (bind_of_ok (require_of_le hle) _).trans ?_
  exact bind_of_error (itemsOnto_error hpart hp hbad [] rest) _

/-- The fault of a value is the fault of the object that it stands in. -/
theorem value_object_error (hpart : ∀ {bs n}, Written 0 bs n → ∀ rest,
      value levels (bs ++ rest) = .ok (n, rest) ∨ value levels (bs ++ rest) = .error e)
    {fields : Fields Node} (hw : (Node.object fields).WellFormed)
    (h : write (.object fields) = .ok bs)
    (hbad : ∃ p ∈ fields, ∀ bs, Written 0 bs p.2 → ∀ rest, value levels (bs ++ rest) = .error e)
    (rest : List UInt8) : value (levels + 1) (bs ++ rest) = .error e := by
  obtain ⟨count, parts, rfl, hc, hp⟩ := pairs_of_write hw h 0
  -- every field takes three bytes
  have hle : fields.length * 3 ≤ (parts ++ rest).length := by
    have := hp.length_le Written.length_pos
    rw [List.length_append]
    omega
  rw [value, List.cons_append, bind_of_ok (kind_of_tag _ _), List.append_assoc]
  refine (bind_of_ok (reads_count.apply hc _) _).trans ?_
  refine (bind_of_ok (require_of_le hle) _).trans ?_
  exact bind_of_error (fieldsInto_error hpart hp hbad [] rest) _

/-- The fault of the value is the fault of the property. -/
theorem value_property_error {name : String} {v : Node} (hw : (Node.property name v).WellFormed)
    (h : write (.property name v) = .ok bs)
    (hbad : ∀ bs, Written 0 bs v → ∀ rest, value levels (bs ++ rest) = .error e)
    (rest : List UInt8) : value (levels + 1) (bs ++ rest) = .error e := by
  rw [Node.WellFormed] at hw
  obtain ⟨text, ht, part, hv, rfl⟩ := write_property_eq_ok_iff.mp h
  rw [value, List.cons_append, bind_of_ok (kind_of_tag _ _), List.append_assoc]
  -- the name is read
  refine (bind_of_ok (reads_text.apply ht.liberal _) _).trans ?_
  exact bind_of_error (hbad part ⟨hw, hv⟩ rest) _

end

/-! ## Trees -/

/-- A tree that is not too deep is read where it stands. -/
theorem value_of_fits {n : Node} (hw : n.WellFormed) {bs : List UInt8} (h : write n = .ok bs)
    {levels : Nat} (hl : levels ≤ 256) (hn : n.nesting ≤ levels) (rest : List UInt8) :
    value levels (bs ++ rest) = .ok (n, rest) := by
  -- the levels that are left tell the depth that was reached
  have hform : Form .canonical (256 - levels) bs n := (write_eq_ok_iff hw (by omega)).mp h
  exact (reads_value (by omega)).apply hform.liberal rest

/-- A tree that is too deep fails for its depth alone, whatever follows. -/
theorem value_of_too_deep {n : Node} (hw : n.WellFormed) {bs : List UInt8} (h : write n = .ok bs)
    {levels : Nat} (hl : levels ≤ 256) (hn : levels < n.nesting) (rest : List UInt8) :
    value levels (bs ++ rest) = .error (.tooDeep maxNesting) := by
  induction levels generalizing n bs rest with
  | zero =>
    obtain ⟨data, rfl⟩ := tag_of_write h
    rw [value, List.cons_append, bind_of_ok (kind_of_tag _ _)]
    -- no container may be opened, and only a container has a nesting
    cases n with
    | list | object | property => rfl
    | _ => exact absurd (Node.nesting_eq_zero rfl) (Nat.ne_of_gt hn)
  | succ levels ih =>
    -- each part is read or too deep, and one of them is too deep
    have hdeep : ∀ {n}, levels < n.nesting → ∀ bs, Written 0 bs n → ∀ rest,
        value levels (bs ++ rest) = .error (.tooDeep maxNesting) :=
      fun hn bs h rest => ih h.1 h.2 (by omega) hn rest
    have hpart : ∀ {bs n}, Written 0 bs n → ∀ rest, value levels (bs ++ rest) = .ok (n, rest) ∨
        value levels (bs ++ rest) = .error (.tooDeep maxNesting) := by
      intro bs n h rest
      rcases Nat.lt_or_ge levels n.nesting with hlt | hge
      · -- too deep for the levels that are left
        exact .inr (hdeep hlt bs h rest)
      · exact .inl (value_of_fits h.1 h.2 (by omega) hge rest)
    cases n with
    -- the part that is too deep decides, wherever it stands
    | list items =>
      obtain ⟨item, hmem, hitem⟩ := Node.lt_nesting_list_iff.mp hn
      exact value_list_error hpart hw h ⟨item, hmem, hdeep hitem⟩ rest
    | object fields =>
      obtain ⟨p, hmem, hvalue⟩ := Node.lt_nesting_object_iff.mp hn
      exact value_object_error hpart hw h ⟨p, hmem, hdeep hvalue⟩ rest
    | property name v =>
      rw [Node.nesting] at hn
      exact value_property_error hw h (hdeep (Nat.lt_of_succ_lt_succ hn)) rest
    | _ => exact absurd (Node.nesting_eq_zero rfl) (Nat.ne_of_gt (Nat.zero_lt_of_lt hn))

/-! ## Whole inputs -/

/-- What was written is read back as the tree that was written, unless it nests deeper than 256
levels; then its depth is what is wrong with it. -/
theorem ofBytes_toBytes {n : Node} {bs : List UInt8} (hw : n.WellFormed)
    (h : n.toBytes = .ok bs) :
    Node.ofBytes bs = if n.nesting ≤ 256 then .ok n else .error (.tooDeep 256) := by
  have hbs : bs = bs ++ [] := (List.append_nil bs).symm
  -- nothing follows what was written
  by_cases hn : n.nesting ≤ 256
  · rw [if_pos hn, hbs]
    exact ofBytes_of_value (value_of_fits hw h (Nat.le_refl _) hn [])
  · rw [if_neg hn, hbs]
    exact ofBytes_of_error (value_of_too_deep hw h (Nat.le_refl _) (Nat.lt_of_not_le hn) [])

/-- A tree with a NaN that carries a payload, an empty name, a zero character and a surrogate
pair. -/
theorem ofBytes_toBytes_nested :
    let n := Node.object [("a", .list [.double 0x7ff8000000000001, .bytes [0, 255]]),
      ("", .property "\x00𝄞" (.list []))]
    n.WellFormed ∧ ∃ bs, n.toBytes = .ok bs ∧ Node.ofBytes bs = .ok n := by
  intro n
  have hw : n.WellFormed := by
    simp [n, Node.WellFormed, Node.WellFormedFields, Node.WellFormedItems, Fields.Distinct,
      Fields.names]
  have hn : n.nesting ≤ 256 := by decide
  exact ⟨hw, _, rfl, (ofBytes_toBytes hw rfl).trans (if_pos hn)⟩

end ManagementModel.Wire
