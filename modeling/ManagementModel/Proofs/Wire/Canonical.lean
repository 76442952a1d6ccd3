import ManagementModel.Proofs.Node.Induction
import ManagementModel.Proofs.Sequence
import ManagementModel.Proofs.Wire.Grammar

/-!
# ManagementModel — the canonical dialect is what is written

The writer makes one choice wherever the grammar leaves one: a truth value is `0` or `1`, a text is
spelled as short as it can be, and the fields of an object come one after the other as they are. So
the bytes that are written for a tree are its only canonical form, and there are no bytes exactly
where there is no such form, because a text or a count does not fit.

Main results:

* `write_eq_ok_iff` — the written bytes are the canonical form.
* `Form.wellFormed`, `Form.nesting_le` — what has a form is well formed and not too deep.
-/

namespace ManagementModel.Wire

open Text.ModifiedUtf8 (encode encode_eq_flatten shortest_groups_iff)

/-! ## Texts and counts -/

/-- What is written for a text is its only canonical form, which has a length field with room for
it. -/
@[simp] theorem writeText_eq_ok_iff {s : String} {bs : List UInt8} :
    writeText s = .ok bs ↔ TextForm .canonical bs s := by
  have hform : TextForm .canonical bs s ↔
      ∃ length, NumberForm 2 length (encode s).length ∧ bs = length ++ encode s := by
    rw [TextForm, encode_eq_flatten]
    constructor
    · rintro ⟨length, groups, hl, hg, rfl⟩
      -- the groups are fixed, and with them the length
      obtain rfl := shortest_groups_iff.mp hg
      exact ⟨length, hl, rfl⟩
    · rintro ⟨length, hl, rfl⟩
      exact ⟨length, _, hl, shortest_groups_iff.mpr rfl, rfl⟩
  -- the length field has room for as many bytes as may be written
  rw [hform, writeText]
  simp only [numberForm_iff]
  by_cases hle : (encode s).length ≤ maxTextLength
  · have hlt : (encode s).length < 256 ^ 2 := Nat.lt_succ_of_le hle
    rw [if_pos hle]
    constructor
    · intro h
      cases h
      exact ⟨_, ⟨hlt, rfl⟩, rfl⟩
    · rintro ⟨_, ⟨-, rfl⟩, rfl⟩
      rfl
  · rw [if_neg hle]
    constructor
    · intro h
      cases h
    · rintro ⟨_, ⟨hlt, -⟩, -⟩
      exact absurd (Nat.le_of_lt_succ hlt) hle

/-- What is written for a count is its only form. -/
@[simp] theorem writeCount_eq_ok_iff {n : Nat} {bs : List UInt8} :
    writeCount n = .ok bs ↔ CountForm bs n := by
  rw [countForm_iff, writeCount]
  by_cases hle : n ≤ maxCount
  · rw [if_pos hle, and_iff_right hle, Except.ok.injEq, eq_comm]
  · rw [if_neg hle]
    constructor
    · intro h
      cases h
    · intro h
      exact absurd h.1 hle

/-! ## What is written after the tag -/

section

variable {s name : String} {data bs : List UInt8} {n : Node} {items : List Node}
  {fields : Fields Node}

/-- A string is written as its tag and its text. -/
@[simp] theorem write_string_eq_ok_iff : write (.string s) = .ok bs ↔
    ∃ text, TextForm .canonical text s ∧ Kind.string.tag :: text = bs := by
  simp [write]

@[simp] theorem write_expression_eq_ok_iff : write (.expression s) = .ok bs ↔
    ∃ text, TextForm .canonical text s ∧ Kind.expression.tag :: text = bs := by
  simp [write]

@[simp] theorem write_bytes_eq_ok_iff : write (.bytes data) = .ok bs ↔
    ∃ count, CountForm count data.length ∧ Kind.bytes.tag :: (count ++ data) = bs := by
  simp [write]

/-- A list is written as its tag, the number of its items and the items. -/
@[simp] theorem write_list_eq_ok_iff : write (.list items) = .ok bs ↔
    ∃ count, CountForm count items.length ∧ ∃ parts, writeItems items = .ok parts ∧
      Kind.list.tag :: (count ++ parts) = bs := by
  simp [write]

/-- An object is written as its tag, the number of its fields and the fields. -/
@[simp] theorem write_object_eq_ok_iff : write (.object fields) = .ok bs ↔
    ∃ count, CountForm count fields.length ∧ ∃ parts, writeFields fields = .ok parts ∧
      Kind.object.tag :: (count ++ parts) = bs := by
  simp [write]

/-- A property is written as its tag, its name and its value. -/
@[simp] theorem write_property_eq_ok_iff : write (.property name n) = .ok bs ↔
    ∃ text, TextForm .canonical text name ∧ ∃ part, write n = .ok part ∧
      Kind.property.tag :: (text ++ part) = bs := by
  simp [write]

@[simp] theorem writeItems_cons_eq_ok_iff : writeItems (n :: items) = .ok bs ↔
    ∃ part, write n = .ok part ∧ ∃ parts, writeItems items = .ok parts ∧ part ++ parts = bs := by
  simp [writeItems]

/-- The first name and its value are written before the other fields. -/
@[simp] theorem writeFields_cons_eq_ok_iff : writeFields ((name, n) :: fields) = .ok bs ↔
    ∃ text, TextForm .canonical text name ∧ ∃ part, write n = .ok part ∧
      ∃ parts, writeFields fields = .ok parts ∧ text ++ part ++ parts = bs := by
  simp [writeFields]

end

/-! ## Values without parts -/

/-- The written bytes of a value without parts are its canonical form. -/
theorem write_scalar_eq_ok_iff {n : Node} (hn : n.kind.isContainer = false) {bs : List UInt8} :
    write n = .ok bs ↔ ScalarForm .canonical bs n := by
  cases n with
  | undefined =>
    rw [write, Except.ok.injEq]
    constructor
    · rintro rfl
      exact .undefined
    · intro h
      cases h
      rfl
  | boolean value =>
    rw [write, Except.ok.injEq]
    constructor
    · -- the rule speaks of the byte, so the value is taken case by case
      rintro rfl
      cases value with
      | false => exact .boolean (.inl rfl)
      | true => exact .boolean (.inr rfl)
    · intro h
      cases h with
      | boolean hb =>
        -- the two canonical bytes tell the values apart
        rcases hb with rfl | rfl <;> rfl
  | int value =>
    -- a number has only one form, the written one
    have hform : NumberForm 4 (bigEndian 4 value.toUInt32.toNat) value.toUInt32.toNat :=
      numberForm_bigEndian value.toUInt32.toNat_lt
    rw [write, Except.ok.injEq]
    constructor
    · rintro rfl
      exact .int hform
    · intro h
      cases h with
      | int hb => rw [(numberForm_iff.mp hb).2]; rfl
  | long value =>
    have hform : NumberForm 8 (bigEndian 8 value.toUInt64.toNat) value.toUInt64.toNat :=
      numberForm_bigEndian value.toUInt64.toNat_lt
    rw [write, Except.ok.injEq]
    constructor
    · rintro rfl
      exact .long hform
    · intro h
      cases h with
      | long hb => rw [(numberForm_iff.mp hb).2]; rfl
  | double bits =>
    have hform : NumberForm 8 (bigEndian 8 bits.toNat) bits.toNat :=
      numberForm_bigEndian bits.toNat_lt
    rw [write, Except.ok.injEq]
    constructor
    · rintro rfl
      exact .double hform
    · intro h
      cases h with
      | double hb => rw [(numberForm_iff.mp hb).2]; rfl
  | string s =>
    -- texts and data may be too long; the rule demands as much of them as the writer does
    rw [write_string_eq_ok_iff]
    constructor
    · rintro ⟨text, h, rfl⟩
      exact .string h
    · intro h
      cases h with
      | string h => exact ⟨_, h, rfl⟩
  | expression s =>
    rw [write_expression_eq_ok_iff]
    constructor
    · rintro ⟨text, h, rfl⟩
      exact .expression h
    · intro h
      cases h with
      | expression h => exact ⟨_, h, rfl⟩
  | bytes data =>
    rw [write_bytes_eq_ok_iff]
    constructor
    · rintro ⟨count, h, rfl⟩
      exact .bytes h
    · intro h
      cases h with
      | bytes h => exact ⟨_, h, rfl⟩
  | type k =>
    rw [write, Except.ok.injEq]
    constructor
    · rintro rfl
      exact .type k
    · intro h
      cases h
      rfl
  -- these are containers
  | list | object | property => cases hn

/-! ## The parts of a container -/

section

variable {R : Nat → List UInt8 → Node → Prop} {d : Nat} {parts : List UInt8}

/-- If each item is written as its form, all are written as the forms one after the other. -/
theorem writeItems_eq_ok_iff {items : List Node}
    (h : ∀ item ∈ items, ∀ bs, write item = .ok bs ↔ R d bs item) :
    writeItems items = .ok parts ↔ Items R parts items d := by
  induction items generalizing parts with
  | nil =>
    rw [writeItems, Except.ok.injEq]
    constructor
    · rintro rfl
      exact .nil
    · intro hp
      cases hp
      rfl
  | cons item rest ih =>
    obtain ⟨hitem, hrest⟩ := List.forall_mem_cons.mp h
    simp only [writeItems_cons_eq_ok_iff, hitem, ih hrest]
    constructor
    · rintro ⟨part, hpart, parts, hparts, rfl⟩
      exact .cons hpart hparts
    · intro hp
      cases hp with
      | cons hpart hparts => exact ⟨_, hpart, _, hparts, rfl⟩

/-- If each value is written as its form, the fields are written as their names and forms one after
the other. -/
theorem writeFields_eq_ok_iff {fields : Fields Node}
    (h : ∀ p ∈ fields, ∀ bs, write p.2 = .ok bs ↔ R d bs p.2) :
    writeFields fields = .ok parts ↔ Pairs .canonical R parts fields d := by
  induction fields generalizing parts with
  | nil =>
    rw [writeFields, Except.ok.injEq]
    constructor
    · rintro rfl
      exact .nil
    · intro hp
      cases hp
      rfl
  | cons p rest ih =>
    obtain ⟨name, value⟩ := p
    obtain ⟨hvalue, hrest⟩ := List.forall_mem_cons.mp h
    -- a name comes before its value
    simp only at hvalue
    simp only [writeFields_cons_eq_ok_iff, hvalue, ih hrest]
    constructor
    · rintro ⟨text, htext, part, hpart, parts, hparts, rfl⟩
      exact .cons htext hpart hparts
    · intro hp
      cases hp with
      | cons htext hpart hparts => exact ⟨_, htext, _, hpart, _, hparts, rfl⟩

end

/-! ## Trees -/

/-- The written bytes of a tree are its canonical form, at every depth where it may stand. -/
theorem write_eq_ok_iff {n : Node} (hw : n.WellFormed) {d : Nat} (hd : d + n.nesting ≤ 256)
    {bs : List UInt8} : write n = .ok bs ↔ Form .canonical d bs n := by
  induction n using Node.induct generalizing d bs with
  | scalar n hn =>
    rw [write_scalar_eq_ok_iff hn]
    constructor
    · exact .scalar
    · intro h
      cases h with
      | scalar h => exact h
      | list | object | property => cases hn
  | list items ih =>
    rw [Node.wellFormed_list_iff] at hw
    obtain ⟨hd, hparts⟩ := Node.nesting_list_iff.mp hd
    -- one level deeper, the items are written as their forms
    have hitems : ∀ {parts}, writeItems items = .ok parts ↔
        Items (Form .canonical) parts items (d + 1) :=
      writeItems_eq_ok_iff fun item hmem _ => ih item hmem (hw item hmem) (hparts item hmem)
    simp only [write_list_eq_ok_iff, hitems]
    constructor
    · rintro ⟨count, hc, parts, hp, rfl⟩
      exact .list hd hc hp
    · -- only the rule of lists derives a list
      intro h
      cases h with
      | scalar h => cases h
      | list _ hc hp => exact ⟨_, hc, _, hp, rfl⟩
  | object fields ih =>
    obtain ⟨hdist, hw⟩ := Node.wellFormed_object_iff.mp hw
    obtain ⟨hd, hparts⟩ := Node.nesting_object_iff.mp hd
    have hfields : ∀ {parts}, writeFields fields = .ok parts ↔
        Pairs .canonical (Form .canonical) parts fields (d + 1) :=
      writeFields_eq_ok_iff fun p hmem _ => ih p hmem (hw p hmem) (hparts p hmem)
    simp only [write_object_eq_ok_iff, hfields]
    constructor
    · -- the names of a well-formed object are distinct, so merging changes nothing
      rintro ⟨count, hc, parts, hp, rfl⟩
      refine .object hd hc hp hdist (Fields.merges_iff.mpr ?_)
      exact (Fields.ofList_eq_self hdist).symm
    · intro h
      cases h with
      | scalar h => cases h
      | object _ hc hp hn hm =>
        -- pairs without a repeated name are the fields they amount to
        obtain rfl := Fields.ofList_eq_self hn ▸ Fields.merges_iff.mp hm
        exact ⟨_, hc, _, hp, rfl⟩
  | property name value ih =>
    rw [Node.WellFormed] at hw
    obtain ⟨hd, hvalue⟩ := Node.nesting_property_iff.mp hd
    simp only [write_property_eq_ok_iff, ih hw hvalue]
    constructor
    · rintro ⟨text, hn, part, hv, rfl⟩
      exact .property hd hn hv
    · intro h
      cases h with
      | scalar h => cases h
      | property _ hn hv => exact ⟨_, hn, _, hv, rfl⟩

section

variable {D : Dialect} {d : Nat} {bs : List UInt8} {n : Node}

theorem ScalarForm.kind (h : ScalarForm D bs n) : n.kind.isContainer = false := by
  cases h <;> rfl

/-- Only well-formed trees have forms: repeated names have been merged. -/
theorem Form.wellFormed (h : Form D d bs n) : n.WellFormed := by
  induction h using Form.induct with
  | scalar h => exact Node.wellFormed_of_not_container h.kind
  | list _ _ _ ih =>
    rw [Node.wellFormed_list_iff]
    intro item hmem
    obtain ⟨part, -, h⟩ := ih.forall_mem item hmem
    exact h
  | object _ _ _ _ hm ih =>
    -- what is left of the pairs has distinct names, and each of its values was in a pair
    obtain rfl := Fields.merges_iff.mp hm
    refine Node.wellFormed_object_iff.mpr ⟨Fields.distinct_ofList _, fun p hmem => ?_⟩
    obtain ⟨text, part, -, -, h⟩ := ih.forall_mem p (Fields.mem_of_mem_ofList hmem)
    exact h
  | property _ _ _ ih => rwa [Node.WellFormed]

/-- What has a form at a depth has no container below the last level. -/
theorem Form.nesting_le (h : Form D d bs n) (hd : d ≤ 256) : d + n.nesting ≤ 256 := by
  induction h using Form.induct with
  | scalar h => rwa [Node.nesting_eq_zero h.kind]
  | list hlt _ _ ih =>
    -- a list may stand at its depth, and its items stay within the limit one level deeper
    refine Node.nesting_list_iff.mpr ⟨hlt, fun item hmem => ?_⟩
    obtain ⟨part, -, h⟩ := ih.forall_mem item hmem
    exact h hlt
  | object hlt _ _ _ hm ih =>
    obtain rfl := Fields.merges_iff.mp hm
    -- a value of the merged fields was the value of a pair
    refine Node.nesting_object_iff.mpr ⟨hlt, fun p hmem => ?_⟩
    obtain ⟨text, part, -, -, h⟩ := ih.forall_mem p (Fields.mem_of_mem_ofList hmem)
    exact h hlt
  | property hlt _ _ ih => exact Node.nesting_property_iff.mpr ⟨hlt, ih hlt⟩

end

end ManagementModel.Wire
