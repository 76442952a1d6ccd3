import ManagementModel.Proofs.Wire.Canonical
import ManagementModel.Proofs.Wire.Faults
import ManagementModel.Proofs.Wire.Language

/-!
# ManagementModel — writing back what was read

A payload that was read is written back in its canonical spelling, so it comes back as it was
exactly if it was canonical. The new payload may be longer than the old one, since a raw zero byte
in a text becomes two bytes; a text may even outgrow its length field that way, and then the tree
that was read cannot be written. Nothing else grows: other groups are written as short as they can
be, and merged fields are left out.

Main results:

* `Form.fault_eq` — what is wrong with a tree that was read are texts that are too long.
* `Form.size_le` — without raw zero bytes nothing is wrong with it, and it does not grow.
* `toBytes_of_ofBytes` — what becomes of a payload that is read and written back.
-/

namespace ManagementModel.Wire

open Text.ModifiedUtf8 (Group encode encodeUnit encode_eq_flatten length_encodeUnit_le)

/-! ## Faults of a tree that was read -/

/-- The only fault of a text is its length. -/
theorem textTooLong_of_mem {s : String} {e : EncodeError} (h : e ∈ textFaults s) :
    ∃ k, e = .textTooLong k := by
  rw [textFaults] at h
  by_cases hle : (encode s).length ≤ maxTextLength
  · rw [if_pos hle] at h
    cases h
  · rw [if_neg hle, List.mem_singleton] at h
    exact ⟨_, h⟩

theorem CountForm.le {bs : List UInt8} {n : Nat} (h : CountForm bs n) : n ≤ maxCount :=
  (countForm_iff.mp h).1

section

variable {D : Dialect} {d : Nat} {bs : List UInt8} {n : Node}

/-- Of the values without parts only texts can have outgrown their field. -/
theorem ScalarForm.fault_eq (h : ScalarForm D bs n) {e : EncodeError} (he : e ∈ faults n) :
    ∃ k, e = .textTooLong k := by
  cases h with
  | undefined | boolean | int | long | double | type =>
    rw [faults] at he
    cases he
  | string | expression =>
    rw [faults] at he
    exact textTooLong_of_mem he
  | bytes hc =>
    rw [faults, countFaults_eq_nil hc.le] at he
    cases he

/-- The counts of a payload that was read fit when it is written; only texts may not. -/
theorem Form.fault_eq (h : Form D d bs n) {e : EncodeError} (he : e ∈ faults n) :
    ∃ k, e = .textTooLong k := by
  induction h using Form.induct with
  | scalar h => exact h.fault_eq he
  | list _ hc _ ih =>
    rw [faults, countFaults_eq_nil hc.le, List.nil_append, mem_itemFaults] at he
    -- the count was read, so the fault is one of an item
    obtain ⟨item, hmem, he⟩ := he
    obtain ⟨part, -, h⟩ := ih.forall_mem item hmem
    exact h he
  | @object _ _ _ pairs _ _ hc _ _ hm ih =>
    -- merging leaves no more fields than there were pairs
    obtain rfl := Fields.merges_iff.mp hm
    have hle := Nat.le_trans (Fields.length_ofList_le pairs) hc.le
    rw [faults, countFaults_eq_nil hle, List.nil_append, mem_fieldFaults] at he
    obtain ⟨p, hmem, he⟩ := he
    obtain ⟨text, part, -, -, h⟩ := ih.forall_mem p (Fields.mem_of_mem_ofList hmem)
    rcases List.mem_append.mp he with he | he
    · exact textTooLong_of_mem he
    · exact h he
  | property _ _ _ ih =>
    -- either the name is too long, or the fault is one of the value
    rw [faults] at he
    rcases List.mem_append.mp he with he | he
    · exact textTooLong_of_mem he
    · exact ih he

end

/-! ## Payloads without raw zero bytes -/

/-- The written groups of some units take no more bytes than others without a raw zero. -/
theorem length_groups_le {gs : List (List UInt8)} {us : List UInt16}
    (h : List.Forall₂ (fun g u => Group g u ∧ Dialect.zeroFree.group g u) gs us) :
    (us.map encodeUnit).flatten.length ≤ gs.flatten.length := by
  induction h with
  | nil => exact Nat.le_refl _
  | cons hg _ ih =>
    have := length_encodeUnit_le hg.1 hg.2
    rw [List.map_cons, List.flatten_cons, List.flatten_cons, List.length_append, List.length_append]
    omega

/-- A text that was read without a raw zero byte can be written, and does not grow. -/
theorem TextForm.size_le {bs : List UInt8} {s : String} (h : TextForm .zeroFree bs s) :
    textFaults s = [] ∧ textSize s ≤ bs.length := by
  obtain ⟨length, groups, hl, hg, rfl⟩ := h
  -- the written groups are the shortest
  have hle : (encode s).length ≤ groups.flatten.length := by
    rw [encode_eq_flatten]
    exact length_groups_le hg
  -- what fits a length field when it is read fits it when it is written
  refine ⟨if_pos (Nat.le_trans hle (Nat.le_of_lt_succ hl.lt)), ?_⟩
  rw [textSize, List.length_append, hl.1]
  omega

/-- A value without parts and without raw zero bytes can be written, and does not grow. -/
theorem ScalarForm.size_le {bs : List UInt8} {n : Node} (h : ScalarForm .zeroFree bs n) :
    faults n = [] ∧ size n ≤ bs.length := by
  cases h with
  | undefined | boolean | type =>
    rw [faults, size]
    exact ⟨rfl, Nat.le_refl _⟩
  | int h | long h | double h =>
    rw [faults, size, List.length_cons, h.1]
    exact ⟨rfl, Nat.le_refl _⟩
  | string h | expression h =>
    obtain ⟨hf, hs⟩ := h.size_le
    rw [faults, size, List.length_cons]
    exact ⟨hf, by omega⟩
  | bytes hc =>
    rw [faults, size, List.length_cons, List.length_append, hc.1.1]
    exact ⟨countFaults_eq_nil hc.le, by omega⟩

section

variable {R : Nat → List UInt8 → Node → Prop} {d : Nat} {parts : List UInt8}

/-- Items do not grow if none of them does. -/
theorem Items.size_le (h : ∀ {d bs n}, R d bs n → size n ≤ bs.length) {items : List Node}
    (hp : Items R parts items d) : itemsSize items ≤ parts.length := by
  induction hp with
  | nil => exact Nat.le_refl _
  | cons hn _ ih =>
    have := h hn
    rw [itemsSize, List.length_append]
    omega

/-- Pairs do not grow if no value does, since no name does either. -/
theorem Pairs.size_le (h : ∀ {d bs n}, R d bs n → size n ≤ bs.length) {pairs : Fields Node}
    (hp : Pairs .zeroFree R parts pairs d) : fieldsSize pairs ≤ parts.length := by
  induction hp with
  | nil => exact Nat.le_refl _
  | cons hs hn _ ih =>
    have := hs.size_le.2
    have := h hn
    rw [fieldsSize, List.length_append, List.length_append]
    omega

end

/-- A tree that was read from a payload without raw zero bytes can be written, and is not longer
than the payload. -/
theorem Form.size_le {d : Nat} {bs : List UInt8} {n : Node} (h : Form .zeroFree d bs n) :
    faults n = [] ∧ size n ≤ bs.length := by
  induction h using Form.induct with
  | scalar h => exact h.size_le
  | @list _ _ _ items _ hc _ ih =>
    -- a fault would be one of an item
    have hf : itemFaults items = [] := by
      refine List.eq_nil_iff_forall_not_mem.mpr fun e he => ?_
      obtain ⟨item, hmem, he⟩ := mem_itemFaults.mp he
      obtain ⟨part, -, hf, -⟩ := ih.forall_mem item hmem
      rw [hf] at he
      cases he
    have hs := ih.size_le fun ⟨_, _, hs⟩ => hs
    rw [faults, hf, countFaults_eq_nil hc.le, size, List.length_cons, List.length_append, hc.1.1]
    exact ⟨rfl, by omega⟩
  | @object _ _ _ pairs _ _ hc _ _ hm ih =>
    obtain rfl := Fields.merges_iff.mp hm
    have hle := Nat.le_trans (Fields.length_ofList_le pairs) hc.le
    have hf : fieldFaults (Fields.ofList pairs) = [] := by
      refine List.eq_nil_iff_forall_not_mem.mpr fun e he => ?_
      obtain ⟨p, hmem, he⟩ := mem_fieldFaults.mp he
      obtain ⟨text, part, ht, -, hf, -⟩ := ih.forall_mem p (Fields.mem_of_mem_ofList hmem)
      rw [ht.size_le.1, hf] at he
      cases he
    -- merging leaves out fields and adds none
    have hs : fieldsSize (Fields.ofList pairs) ≤ fieldsSize pairs := by
      rw [fieldsSize_eq_sum, fieldsSize_eq_sum]
      exact Fields.sum_ofList_le _ pairs
    have hs' := ih.size_le fun ⟨_, _, hs⟩ => hs
    rw [faults, hf, countFaults_eq_nil hle, size, List.length_cons, List.length_append, hc.1.1]
    exact ⟨rfl, by omega⟩
  | property _ ht _ ih =>
    obtain ⟨hf, hs⟩ := ih
    obtain ⟨htf, hts⟩ := ht.size_le
    rw [faults, hf, htf, size, List.length_cons, List.length_append]
    exact ⟨rfl, by omega⟩

/-! ## Reading and writing back -/

/-- A payload has a form of only one tree, the one that is read. -/
theorem Form.eq_of_ofBytes {D : Dialect} {bs : List UInt8} {m n : Node} (h : Form D 0 bs m)
    (hn : Node.ofBytes bs = .ok n) : m = n :=
  Except.ok.inj ((ofBytes_of_form h.liberal).symm.trans hn)

/-- What was read is written back as it was exactly if it is canonical. What is written back is
read as the same tree. It cannot be written back only if a text with a raw zero byte has become too
long; without raw zero bytes the payload does not grow. -/
theorem toBytes_of_ofBytes {bs : List UInt8} {n : Node} (h : Node.ofBytes bs = .ok n) :
    (n.toBytes = .ok bs ↔ Dialect.canonical.Admits bs) ∧
    (∀ bs', n.toBytes = .ok bs' → Node.ofBytes bs' = .ok n) ∧
    (∀ e, n.toBytes = .error e → (∃ k, e = .textTooLong k) ∧ ¬ Dialect.zeroFree.Admits bs) ∧
    (Dialect.zeroFree.Admits bs → ∃ bs', n.toBytes = .ok bs' ∧ bs'.length ≤ bs.length) := by
  have hform := form_of_ofBytes h
  -- what was read is well formed and not too deep, so its canonical form is what is written
  have hwrite : ∀ {bs'}, n.toBytes = .ok bs' ↔ Form .canonical 0 bs' n :=
    write_eq_ok_iff hform.wellFormed (hform.nesting_le (Nat.zero_le _))
  have hzero : Dialect.zeroFree.Admits bs → faults n = [] ∧ size n ≤ bs.length := by
    -- the restricted form is one of the same tree, since only one tree is read
    rintro ⟨m, hm⟩
    obtain rfl := hm.eq_of_ofBytes h
    exact hm.size_le
  refine ⟨?_, ?_, ?_, ?_⟩
  · rw [hwrite]
    constructor
    · exact fun hc => ⟨n, hc⟩
    · rintro ⟨m, hm⟩
      obtain rfl := hm.eq_of_ofBytes h
      exact hm
  · -- a canonical form is a form
    intro bs' hbs'
    exact ofBytes_of_form (hwrite.mp hbs').liberal
  · intro e he
    -- the error is the first fault, which is a text that is too long
    have hhead := write_eq_error_iff.mp he
    refine ⟨hform.fault_eq (List.mem_of_mem_head? hhead), fun hz => ?_⟩
    rw [(hzero hz).1] at hhead
    cases hhead
  · intro hz
    obtain ⟨bs', hbs'⟩ := exists_write_eq_ok_iff.mpr (hzero hz).1
    exact ⟨bs', hbs', length_of_write hbs' ▸ (hzero hz).2⟩

set_option maxRecDepth 4000 in
/-- A payload with a repeated name, a truth value `2` and a raw zero byte: it is read, and what is
written back is another payload for the same tree. -/
theorem toBytes_of_ofBytes_repeated :
    let bs := [0x6f, 0, 0, 0, 2, 0, 1, 0x61, 0x5a, 2, 0, 1, 0x61, 0x73, 0, 1, 0]
    let n := Node.object [("a", .string "\x00")]
    Node.ofBytes bs = .ok n ∧ ¬ Dialect.canonical.Admits bs ∧
      Node.ofBytes [0x6f, 0, 0, 0, 1, 0, 1, 0x61, 0x73, 0, 2, 0xc0, 0x80] = .ok n := by
  intro bs n
  have h : Node.ofBytes bs = .ok n := rfl
  have hwritten : n.toBytes = .ok [0x6f, 0, 0, 0, 1, 0, 1, 0x61, 0x73, 0, 2, 0xc0, 0x80] := rfl
  obtain ⟨hcanonical, hread, -, -⟩ := toBytes_of_ofBytes h
  refine ⟨h, fun hc => ?_, hread _ hwritten⟩
  have hsame := hwritten.symm.trans (hcanonical.mpr hc)
  exact absurd hsame (by decide)

end ManagementModel.Wire
