import ManagementModel.Proofs.Wire.Reads

/-!
# ManagementModel — the language of the reader

The reader of trees accepts the liberal dialect of the grammar: an input is read exactly if the
whole of it is a form at depth 0, and the result is the tree of that form. What the reader looks at
before it reads a part, a count against the length of all that is left, is no part of the grammar;
it never makes a difference because every part is at least as long as is asked for.

Main results:

* `form_iff` — the rules of the grammar, arranged by the tag.
* `reads_value` — the reader with some levels left accepts the forms at the depth reached.
* `ofBytes_eq_ok_iff_form` — the language of the reader.
-/

namespace ManagementModel.Wire

/-! ## The rules by tag -/

/-- What may stand behind the tag of a kind at a depth. -/
def DataForm (D : Dialect) (d : Nat) : Kind → List UInt8 → Node → Prop
  | .undefined, bs, n => bs = [] ∧ n = .undefined
  | .boolean, bs, n => ∃ b, D.boolean b ∧ bs = [b] ∧ n = .boolean (b != 0)
  | .int, bs, n => ∃ v : Int32, NumberForm 4 bs v.toUInt32.toNat ∧ n = .int v
  | .long, bs, n => ∃ v : Int64, NumberForm 8 bs v.toUInt64.toNat ∧ n = .long v
  | .double, bs, n => ∃ bits : UInt64, NumberForm 8 bs bits.toNat ∧ n = .double bits
  | .string, bs, n => ∃ s, TextForm D bs s ∧ n = .string s
  | .expression, bs, n => ∃ s, TextForm D bs s ∧ n = .expression s
  | .bytes, bs, n => ∃ count data, CountForm count data.length ∧ bs = count ++ data ∧
      n = .bytes data
  | .type, bs, n => ∃ k : Kind, bs = [k.tag] ∧ n = .type k
  | .list, bs, n => d < 256 ∧ ∃ count parts items, CountForm count items.length ∧
      Items (Form D) parts items (d + 1) ∧ bs = count ++ parts ∧ n = .list items
  | .object, bs, n => d < 256 ∧ ∃ count parts pairs fields, CountForm count pairs.length ∧
      Pairs D (Form D) parts pairs (d + 1) ∧ D.names (Fields.names pairs) ∧
      Fields.Merges pairs fields ∧ bs = count ++ parts ∧ n = .object fields
  | .property, bs, n => d < 256 ∧ ∃ text part name value, TextForm D text name ∧
      Form D (d + 1) part value ∧ bs = text ++ part ∧ n = .property name value
  | .bigDecimal, _, _ => False
  | .bigInteger, _, _ => False

/-- A form of a value without parts is the tag of its kind and data. -/
theorem ScalarForm.exists_data {D : Dialect} (d : Nat) {bs : List UInt8} {n : Node}
    (h : ScalarForm D bs n) : ∃ k data, bs = k.tag :: data ∧ DataForm D d k data n := by
  cases h with
  | undefined => exact ⟨.undefined, _, rfl, rfl, rfl⟩
  | boolean h => exact ⟨.boolean, _, rfl, _, h, rfl, rfl⟩
  | int h => exact ⟨.int, _, rfl, _, h, rfl⟩
  | long h => exact ⟨.long, _, rfl, _, h, rfl⟩
  | double h => exact ⟨.double, _, rfl, _, h, rfl⟩
  | string h => exact ⟨.string, _, rfl, _, h, rfl⟩
  | expression h => exact ⟨.expression, _, rfl, _, h, rfl⟩
  | bytes h => exact ⟨.bytes, _, rfl, _, _, h, rfl, rfl⟩
  | type k => exact ⟨.type, _, rfl, k, rfl, rfl⟩

/-- A form is a tag and the data of its kind. -/
theorem form_iff {D : Dialect} {d : Nat} {bs : List UInt8} {n : Node} :
    Form D d bs n ↔ ∃ k data, bs = k.tag :: data ∧ DataForm D d k data n := by
  constructor
  · intro h
    cases h with
    | scalar h => exact h.exists_data d
    | list hd hc hp => exact ⟨.list, _, rfl, hd, _, _, _, hc, hp, rfl, rfl⟩
    | object hd hc hp hn hm => exact ⟨.object, _, rfl, hd, _, _, _, _, hc, hp, hn, hm, rfl, rfl⟩
    | property hd hn hv => exact ⟨.property, _, rfl, hd, _, _, _, _, hn, hv, rfl, rfl⟩
  · -- the tag says which rule derives the data
    rintro ⟨k, data, rfl, h⟩
    cases k with
    | undefined =>
      obtain ⟨rfl, rfl⟩ := h
      exact .scalar .undefined
    | boolean =>
      obtain ⟨b, h, rfl, rfl⟩ := h
      exact .scalar (.boolean h)
    | int =>
      obtain ⟨v, h, rfl⟩ := h
      exact .scalar (.int h)
    | long =>
      obtain ⟨v, h, rfl⟩ := h
      exact .scalar (.long h)
    | double =>
      obtain ⟨bits, h, rfl⟩ := h
      exact .scalar (.double h)
    | string =>
      obtain ⟨s, h, rfl⟩ := h
      exact .scalar (.string h)
    | expression =>
      obtain ⟨s, h, rfl⟩ := h
      exact .scalar (.expression h)
    | bytes =>
      obtain ⟨count, bytes, h, rfl, rfl⟩ := h
      exact .scalar (.bytes h)
    | type =>
      obtain ⟨k, rfl, rfl⟩ := h
      exact .scalar (.type k)
    | list =>
      obtain ⟨hd, count, parts, items, hc, hp, rfl, rfl⟩ := h
      exact .list hd hc hp
    | object =>
      obtain ⟨hd, count, parts, pairs, fields, hc, hp, hn, hm, rfl, rfl⟩ := h
      exact .object hd hc hp hn hm
    | property =>
      obtain ⟨hd, text, part, name, value, hn, hv, rfl, rfl⟩ := h
      exact .property hd hn hv
    | bigDecimal => exact h.elim
    | bigInteger => exact h.elim

/-! ## The parts of a container -/

section

variable {R : Nat → List UInt8 → Node → Prop} {d : Nat} {item : Reader Node}

/-- The items come behind those that were read before. -/
theorem reads_itemsOnto (hi : Reads item (R d)) (n : Nat) (acc : List Node) :
    Reads (itemsOnto item acc n) (fun bs items =>
      ∃ new, items = acc.reverse ++ new ∧ new.length = n ∧ Items R bs new d) := by
  -- the induction moves one item from the input to the accumulator
  induction n generalizing acc with
  | zero =>
    refine (Reads.pure acc.reverse).congr fun bs items => ?_
    constructor
    · rintro ⟨rfl, rfl⟩
      exact ⟨[], (List.append_nil _).symm, rfl, .nil⟩
    · rintro ⟨new, rfl, hl, hp⟩
      rw [List.length_eq_zero_iff] at hl
      subst hl
      cases hp
      exact ⟨rfl, List.append_nil _⟩
  | succ n ih =>
    refine (hi.bind fun node => ih (node :: acc)).congr fun bs items => ?_
    constructor
    · rintro ⟨node, u, v, rfl, hu, new, rfl, rfl, hp⟩
      -- the new item was put in front of the others
      exact ⟨node :: new, by rw [List.reverse_cons, List.append_assoc]; rfl, rfl, .cons hu hp⟩
    · rintro ⟨new, rfl, hl, hp⟩
      cases hp with
      | nil => cases hl
      | @cons _ part parts node new hu hp =>
        exact ⟨node, part, parts, rfl, hu, new, by rw [List.reverse_cons, List.append_assoc]; rfl,
          Nat.succ.inj hl, hp⟩

/-- The pairs are written into the fields that were there before. -/
theorem reads_fieldsInto (hi : Reads item (R d)) (n : Nat) (acc : Fields Node) :
    Reads (fieldsInto item acc n) (fun bs fields =>
      ∃ pairs, fields = pairs.foldl (fun fields p => Fields.insert p.1 p.2 fields) acc ∧
        pairs.length = n ∧ Pairs .liberal R bs pairs d) := by
  induction n generalizing acc with
  | zero =>
    refine (Reads.pure acc).congr fun bs fields => ?_
    constructor
    · rintro ⟨rfl, rfl⟩
      exact ⟨[], rfl, rfl, .nil⟩
    · rintro ⟨pairs, rfl, hl, hp⟩
      rw [List.length_eq_zero_iff] at hl
      subst hl
      cases hp
      exact ⟨rfl, rfl⟩
  | succ n ih =>
    refine (reads_text.bind fun name => hi.bind fun node =>
      ih (Fields.insert name node acc)).congr fun bs fields => ?_
    constructor
    · -- the name and its value are the first of the pairs
      rintro ⟨name, t, _, rfl, ht, node, u, v, rfl, hu, pairs, rfl, rfl, hp⟩
      exact ⟨(name, node) :: pairs, rfl, rfl, List.append_assoc t u v ▸ .cons ht hu hp⟩
    · rintro ⟨pairs, rfl, hl, hp⟩
      cases hp with
      | nil => cases hl
      | @cons _ t u v name node pairs ht hu hp =>
        exact ⟨name, t, u ++ v, List.append_assoc t u v, ht, node, u, v, rfl, hu, pairs, rfl,
          Nat.succ.inj hl, hp⟩

end

/-! ## One value -/

/-- The reader for the parts of a container at a depth: it accepts the forms one level deeper, and
it is missing where no container may stand. -/
def ReadsParts (inner : Option (Reader Node)) (d : Nat) : Prop :=
  match inner with
  | some item => d < 256 ∧ Reads item (Form .liberal (d + 1))
  | none => 256 ≤ d

/-- Where a level is left a container is read one level deeper; elsewhere none may stand. -/
theorem reads_container {inner : Option (Reader Node)} {d : Nat} (hi : ReadsParts inner d)
    {read : Reader Node → Reader Node} {P : List UInt8 → Node → Prop}
    (h : ∀ item, Reads item (Form .liberal (d + 1)) → Reads (read item) P) :
    Reads (container inner read) (fun bs n => d < 256 ∧ P bs n) := by
  cases inner with
  | some item => exact (h item hi.2).congr fun bs n => (and_iff_right hi.1).symm
  | none =>
    -- no level is left, and the grammar has no container here either
    refine (Reads.throw _).congr fun bs n => ⟨False.elim, fun h => ?_⟩
    exact absurd h.1 (Nat.not_lt_of_le hi)

/-- The reader of lists takes a count and as many items as it says. -/
theorem reads_list {item : Reader Node} {d : Nat} (hi : Reads item (Form .liberal (d + 1))) :
    Reads (do
      let n ← count
      require n
      return Node.list (← itemsOnto item [] n))
      (fun bs n => ∃ count parts items, CountForm count items.length ∧
        Items (Form .liberal) parts items (d + 1) ∧ bs = count ++ parts ∧ n = Node.list items) := by
  -- what follows the count `n`; it accepts the forms of `n` items
  have hread : ∀ n, Reads (do
      require n
      return Node.list (← itemsOnto item [] n))
      (fun bs node => ∃ items, (items.length = n ∧ Items (Form .liberal) bs items (d + 1)) ∧
        node = .list items) := by
    intro n
    refine ((reads_itemsOnto hi n []).congr fun bs items => ?_).map Node.list |>.require ?_
    · exact ⟨fun ⟨_, h, hl, hp⟩ => h ▸ ⟨hl, hp⟩, fun ⟨hl, hp⟩ => ⟨items, rfl, hl, hp⟩⟩
    · -- the items are as many as are asked for, and each of them has a tag
      rintro bs _ ⟨items, ⟨rfl, hp⟩, rfl⟩
      exact hp.length_le Form.length_pos
  refine (reads_count.bind hread).congr fun bs n => ?_
  constructor
  · rintro ⟨_, count, parts, rfl, hc, items, ⟨rfl, hp⟩, rfl⟩
    exact ⟨count, parts, items, hc, hp, rfl, rfl⟩
  · rintro ⟨count, parts, items, hc, hp, rfl, rfl⟩
    exact ⟨_, count, parts, rfl, hc, items, ⟨rfl, hp⟩, rfl⟩

/-- The reader of objects takes a count and as many pairs as it says, and merges them. -/
theorem reads_object {item : Reader Node} {d : Nat} (hi : Reads item (Form .liberal (d + 1))) :
    Reads (do
      let n ← count
      require (n * 3)
      return Node.object (← fieldsInto item [] n))
      (fun bs n => ∃ count parts pairs fields, CountForm count pairs.length ∧
        Pairs .liberal (Form .liberal) parts pairs (d + 1) ∧
        Dialect.liberal.names (Fields.names pairs) ∧ Fields.Merges pairs fields ∧
        bs = count ++ parts ∧ n = Node.object fields) := by
  have hread : ∀ n, Reads (do
      require (n * 3)
      return Node.object (← fieldsInto item [] n))
      (fun bs node => ∃ fields, (∃ pairs, fields = Fields.ofList pairs ∧ pairs.length = n ∧
        Pairs .liberal (Form .liberal) bs pairs (d + 1)) ∧ node = .object fields) := by
    intro n
    refine ((reads_fieldsInto hi n []).map Node.object).require ?_
    -- each of the pairs has the length of its name and a tag
    rintro bs _ ⟨_, ⟨pairs, rfl, rfl, hp⟩, rfl⟩
    exact hp.length_le Form.length_pos
  refine (reads_count.bind hread).congr fun bs n => ?_
  constructor
  · rintro ⟨_, count, parts, rfl, hc, _, ⟨pairs, rfl, rfl, hp⟩, rfl⟩
    exact ⟨count, parts, pairs, _, hc, hp, trivial, Fields.merges_ofList pairs, rfl, rfl⟩
  · -- merged fields are those that `fieldsInto` builds up
    rintro ⟨count, parts, pairs, fields, hc, hp, -, hm, rfl, rfl⟩
    exact ⟨_, count, parts, rfl, hc, fields, ⟨pairs, Fields.merges_iff.mp hm, rfl, hp⟩, rfl⟩

/-- The reader of properties takes a name and a value. -/
theorem reads_property {item : Reader Node} {d : Nat} (hi : Reads item (Form .liberal (d + 1))) :
    Reads (do
      let name ← text
      return Node.property name (← item))
      (fun bs n => ∃ text part name value, TextForm .liberal text name ∧
        Form .liberal (d + 1) part value ∧ bs = text ++ part ∧ n = Node.property name value) := by
  refine (reads_text.bind fun name => hi.map (Node.property name)).congr fun bs n => ?_
  constructor
  · rintro ⟨name, text, part, rfl, hn, value, hv, rfl⟩
    exact ⟨text, part, name, value, hn, hv, rfl, rfl⟩
  · rintro ⟨text, part, name, value, hn, hv, rfl, rfl⟩
    exact ⟨name, text, part, rfl, hn, value, hv, rfl⟩

/-- The reader of the data of a kind accepts what may stand behind its tag. -/
theorem reads_data {inner : Option (Reader Node)} {d : Nat} (hi : ReadsParts inner d) (k : Kind) :
    Reads (data inner k) (DataForm .liberal d k) := by
  cases k with
  | undefined => exact Reads.pure _
  | boolean =>
    refine (reads_byte.map fun b => Node.boolean (b != 0)).congr fun bs n => ?_
    exact ⟨fun ⟨b, hb, hn⟩ => ⟨b, trivial, hb, hn⟩, fun ⟨b, _, hb, hn⟩ => ⟨b, hb, hn⟩⟩
  | int =>
    refine ((reads_number 4).map fun m => Node.int m.toUInt32.toInt32).congr fun bs n => ?_
    constructor
    · rintro ⟨m, hm, rfl⟩
      -- a signed number and its bits are the same 32 bits
      have hbits : m.toUInt32.toInt32.toUInt32.toNat = m := UInt32.toNat_ofNat_of_lt hm.lt
      exact ⟨m.toUInt32.toInt32, by rwa [hbits], rfl⟩
    · rintro ⟨v, hv, rfl⟩
      exact ⟨_, hv, by rw [Nat.toUInt32_eq, UInt32.ofNat_toNat]; rfl⟩
  | long =>
    refine ((reads_number 8).map fun m => Node.long m.toUInt64.toInt64).congr fun bs n => ?_
    constructor
    · rintro ⟨m, hm, rfl⟩
      have hbits : m.toUInt64.toInt64.toUInt64.toNat = m := UInt64.toNat_ofNat_of_lt hm.lt
      exact ⟨m.toUInt64.toInt64, by rwa [hbits], rfl⟩
    · rintro ⟨v, hv, rfl⟩
      exact ⟨_, hv, by rw [Nat.toUInt64_eq, UInt64.ofNat_toNat]; rfl⟩
  | double =>
    refine ((reads_number 8).map fun m => Node.double m.toUInt64).congr fun bs n => ?_
    -- the value is its bits, whatever the bits are
    constructor
    · rintro ⟨m, hm, rfl⟩
      have hlt : m.toUInt64.toNat = m := UInt64.toNat_ofNat_of_lt hm.lt
      exact ⟨m.toUInt64, by rwa [hlt], rfl⟩
    · rintro ⟨bits, hv, rfl⟩
      exact ⟨_, hv, by rw [Nat.toUInt64_eq, UInt64.ofNat_toNat]⟩
  | string => exact reads_text.map Node.string
  | expression => exact reads_text.map Node.expression
  | bytes =>
    refine (reads_count.bind fun n => (reads_take n).map Node.bytes).congr fun bs n => ?_
    constructor
    · rintro ⟨_, count, data, rfl, hc, _, ⟨rfl, rfl⟩, rfl⟩
      exact ⟨count, data, hc, rfl, rfl⟩
    · rintro ⟨count, data, hc, rfl, rfl⟩
      exact ⟨_, count, data, rfl, hc, data, ⟨rfl, rfl⟩, rfl⟩
  | type => exact reads_kind.map Node.type
  | list => exact reads_container hi fun item h => reads_list h
  | object => exact reads_container hi fun item h => reads_object h
  | property => exact reads_container hi fun item h => reads_property h
  | bigDecimal => exact Reads.throw _
  | bigInteger => exact Reads.throw _

/-- A tag is read, and then the data of its kind. -/
theorem reads_kind_data {inner : Option (Reader Node)} {d : Nat} (hi : ReadsParts inner d) :
    Reads (do data inner (← kind)) (Form .liberal d) := by
  refine (reads_kind.bind (reads_data hi)).congr fun bs n => ?_
  rw [form_iff]
  constructor
  · rintro ⟨k, _, data, rfl, rfl, h⟩
    exact ⟨k, data, rfl, h⟩
  · rintro ⟨k, data, rfl, h⟩
    exact ⟨k, [k.tag], data, rfl, rfl, h⟩

/-- The reader of a tree accepts the forms at the depth that leaves it the levels it has. -/
theorem reads_value {levels d : Nat} (h : d + levels = 256) :
    Reads (value levels) (Form .liberal d) := by
  induction levels generalizing d with
  -- at the last level no container may stand
  | zero => exact reads_kind_data (show 256 ≤ d by omega)
  | succ levels ih => exact reads_kind_data ⟨by omega, ih (by omega)⟩

/-- At the root all levels are left. -/
theorem reads_root : Reads (value maxNesting) (Form .liberal 0) :=
  reads_value rfl

/-! ## Whole inputs -/

/-- A tree that takes the whole input is read. -/
theorem ofBytes_of_value {input : List UInt8} {n : Node}
    (h : value maxNesting input = .ok (n, [])) : Node.ofBytes input = .ok n := by
  rw [Node.ofBytes, h]
  rfl

/-- The error of the reader is the error of the input. -/
theorem ofBytes_of_error {input : List UInt8} {e : DecodeError}
    (h : value maxNesting input = .error e) : Node.ofBytes input = .error e := by
  rw [Node.ofBytes, h]
  rfl

/-- An input that is read is taken whole by its tree. -/
theorem value_of_ofBytes {input : List UInt8} {n : Node} (h : Node.ofBytes input = .ok n) :
    value maxNesting input = .ok (n, []) := by
  rw [Node.ofBytes] at h
  -- no error becomes a tree, and nothing may be left behind one
  cases hv : value maxNesting input with
  | error e =>
    rw [hv] at h
    cases h
  | ok p =>
    obtain ⟨node, rest⟩ := p
    rw [hv] at h
    cases rest with
    | nil =>
      cases h
      rfl
    | cons b rest => cases h

/-- What is read is the tree of the whole input. -/
theorem form_of_ofBytes {input : List UInt8} {n : Node} (h : Node.ofBytes input = .ok n) :
    Form .liberal 0 input n := by
  obtain ⟨bs, hin, hf⟩ := (reads_root _ _ _).mp (value_of_ofBytes h)
  rw [List.append_nil] at hin
  rwa [hin]

/-- A form at depth 0 is read as its tree. -/
theorem ofBytes_of_form {input : List UInt8} {n : Node} (h : Form .liberal 0 input n) :
    Node.ofBytes input = .ok n :=
  ofBytes_of_value ((reads_root _ _ _).mpr ⟨input, (List.append_nil input).symm, h⟩)

/-- A tree is read from an input exactly if the whole input is one of its forms. -/
theorem ofBytes_eq_ok_iff_form (input : List UInt8) (n : Node) :
    Node.ofBytes input = .ok n ↔ Form .liberal 0 input n :=
  ⟨form_of_ofBytes, ofBytes_of_form⟩

end ManagementModel.Wire
