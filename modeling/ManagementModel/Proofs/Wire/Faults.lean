import ManagementModel.Proofs.Node.Induction
import ManagementModel.Proofs.Wire.Number

/-!
# ManagementModel — what writing a tree takes

A tree cannot be written if a text has too many encoded bytes or a value too many parts. The faults
of a tree are listed here in the order of writing: a count comes before the parts, a name before
the value. Writing fails with the first of them, and without a fault it writes as many bytes as the
sizes of the values add up to.

Main results:

* `writes` — the outcome of writing a tree by its faults and its size.
* `write_eq_error_iff`, `exists_write_eq_ok_iff` — the same for each outcome.
-/

namespace ManagementModel.Wire

open Text.ModifiedUtf8 (encode)

/-! ## Faults and sizes -/

def textFaults (s : String) : List EncodeError :=
  if (encode s).length ≤ maxTextLength then [] else [.textTooLong (encode s).length]

def countFaults (n : Nat) : List EncodeError :=
  if n ≤ maxCount then [] else [.tooManyParts]

mutual

/-- What is wrong with a tree, in the order of writing. -/
def faults : Node → List EncodeError
  | .string text => textFaults text
  | .expression text => textFaults text
  | .bytes data => countFaults data.length
  | .list items => countFaults items.length ++ itemFaults items
  | .object fields => countFaults fields.length ++ fieldFaults fields
  | .property name value => textFaults name ++ faults value
  | .undefined | .boolean _ | .int _ | .long _ | .double _ | .type _ => []

def itemFaults : List Node → List EncodeError
  | [] => []
  | item :: rest => faults item ++ itemFaults rest

def fieldFaults : List (String × Node) → List EncodeError
  | [] => []
  | (name, value) :: rest => textFaults name ++ faults value ++ fieldFaults rest

end

/-- The number of bytes of a text with its length. -/
def textSize (s : String) : Nat := 2 + (encode s).length

mutual

/-- The number of bytes of a tree. -/
def size : Node → Nat
  | .undefined => 1
  | .boolean _ => 2
  | .int _ => 5
  | .long _ => 9
  | .double _ => 9
  | .string text => 1 + textSize text
  | .expression text => 1 + textSize text
  | .bytes data => 5 + data.length
  | .type _ => 2
  | .list items => 5 + itemsSize items
  | .object fields => 5 + fieldsSize fields
  | .property name value => 1 + (textSize name + size value)

def itemsSize : List Node → Nat
  | [] => 0
  | item :: rest => size item + itemsSize rest

def fieldsSize : List (String × Node) → Nat
  | [] => 0
  | (name, value) :: rest => textSize name + size value + fieldsSize rest

end

theorem countFaults_eq_nil {n : Nat} (h : n ≤ maxCount) : countFaults n = [] :=
  if_pos h

/-- A fault of some items is a fault of one of them. -/
@[simp] theorem mem_itemFaults {items : List Node} {e : EncodeError} :
    e ∈ itemFaults items ↔ ∃ item ∈ items, e ∈ faults item := by
  induction items with
  | nil => simp [itemFaults]
  | cons item rest ih => rw [itemFaults, List.mem_append, ih, List.exists_mem_cons_iff]

/-- A fault of some fields is one of a name or of a value. -/
@[simp] theorem mem_fieldFaults {fields : Fields Node} {e : EncodeError} :
    e ∈ fieldFaults fields ↔ ∃ p ∈ fields, e ∈ textFaults p.1 ++ faults p.2 := by
  induction fields with
  | nil => simp [fieldFaults]
  | cons p rest ih => rw [fieldFaults, List.mem_append, ih, List.exists_mem_cons_iff]

/-- The size of some fields is the sum of the sizes of the names and values. -/
theorem fieldsSize_eq_sum (fields : Fields Node) :
    fieldsSize fields = (fields.map fun p => textSize p.1 + size p.2).sum := by
  induction fields with
  | nil => rfl
  | cons p rest ih => rw [fieldsSize, ih, List.map_cons, List.sum_cons]

/-! ## Steps of writing -/

/-- What writing does that has some faults, and would give so many bytes without them. -/
def Writes (w : Except EncodeError (List UInt8)) (faults : List EncodeError) (size : Nat) : Prop :=
  match w with
  | .ok bs => faults = [] ∧ bs.length = size
  | .error e => faults.head? = some e

/-- One step after the other: the faults of the first come first. -/
theorem Writes.bind {w : Except EncodeError (List UInt8)}
    {f : List UInt8 → Except EncodeError (List UInt8)} {fs gs : List EncodeError} {s t : Nat}
    (hw : Writes w fs s) (hf : ∀ bs, bs.length = s → Writes (f bs) gs t) :
    Writes (w >>= f) (fs ++ gs) t := by
  cases w with
  | ok bs =>
    obtain ⟨rfl, hs⟩ := hw
    exact hf bs hs
  | error e =>
    -- the first fault of both is the first of the first
    show (fs ++ gs).head? = some e
    rw [List.head?_append, show fs.head? = some e from hw]
    rfl

/-- A last step that cannot fail. -/
theorem Writes.map {w : Except EncodeError (List UInt8)} {fs : List EncodeError} {s t : Nat}
    (hw : Writes w fs s) {f : List UInt8 → List UInt8}
    (hf : ∀ bs, bs.length = s → (f bs).length = t) : Writes (do return f (← w)) fs t := by
  -- the last step has no fault of its own
  have h := hw.bind fun bs hs => (show Writes (return f bs) [] t from ⟨rfl, hf bs hs⟩)
  rwa [List.append_nil] at h

/-- A text has the fault that it may have, and otherwise takes two bytes and its own. -/
theorem writes_text (s : String) : Writes (writeText s) (textFaults s) (textSize s) := by
  rw [writeText, textFaults]
  by_cases h : (encode s).length ≤ maxTextLength
  · -- the text fits its field
    rw [if_pos h, if_pos h]
    exact ⟨rfl, by rw [List.length_append, length_bigEndian, textSize]⟩
  · -- it does not, and that is its only fault
    rw [if_neg h, if_neg h]
    rfl

/-- A count has the fault that it may have, and otherwise takes four bytes. -/
theorem writes_count (n : Nat) : Writes (writeCount n) (countFaults n) 4 := by
  rw [writeCount, countFaults]
  by_cases h : n ≤ maxCount
  · rw [if_pos h, if_pos h]
    exact ⟨rfl, length_bigEndian 4 n⟩
  · rw [if_neg h, if_neg h]
    rfl

/-! ## Trees -/

/-- Items are written one after the other, and their faults come in this order. -/
theorem writes_items {items : List Node}
    (h : ∀ item ∈ items, Writes (write item) (faults item) (size item)) :
    Writes (writeItems items) (itemFaults items) (itemsSize items) := by
  induction items with
  | nil => exact ⟨rfl, rfl⟩
  | cons item rest ih =>
    obtain ⟨hitem, hrest⟩ := List.forall_mem_cons.mp h
    rw [writeItems, itemFaults, itemsSize]
    -- the faults of the first item come before those of the others
    refine hitem.bind fun part hpart => (ih hrest).map fun parts hparts => ?_
    rw [List.length_append, hpart, hparts]

/-- Fields are written one after the other, each name before its value. -/
theorem writes_fields {fields : Fields Node}
    (h : ∀ p ∈ fields, Writes (write p.2) (faults p.2) (size p.2)) :
    Writes (writeFields fields) (fieldFaults fields) (fieldsSize fields) := by
  induction fields with
  | nil => exact ⟨rfl, rfl⟩
  | cons p rest ih =>
    obtain ⟨hvalue, hrest⟩ := List.forall_mem_cons.mp h
    -- the name, the value and then the other fields
    rw [writeFields, fieldFaults, fieldsSize, List.append_assoc]
    refine (writes_text p.1).bind fun text htext => hvalue.bind fun part hpart => ?_
    refine (ih hrest).map fun parts hparts => ?_
    rw [List.length_append, List.length_append, htext, hpart, hparts]

/-- Writing a tree fails with its first fault, and gives bytes of its size if it has none. -/
theorem writes (n : Node) : Writes (write n) (faults n) (size n) := by
  induction n using Node.induct with
  | scalar n hn =>
    cases n with
    | undefined | boolean | type =>
      rw [write, faults, size]
      exact ⟨rfl, rfl⟩
    | int | long | double =>
      rw [write, faults, size]
      exact ⟨rfl, by rw [List.length_cons, length_bigEndian]⟩
    | string s | expression s =>
      rw [write, faults, size]
      refine (writes_text s).map fun text htext => ?_
      rw [List.length_cons, htext, Nat.add_comm]
    | bytes data =>
      rw [write, faults, size]
      refine (writes_count data.length).map fun count hcount => ?_
      rw [List.length_cons, List.length_append, hcount]
      omega
    | list | object | property => cases hn
  | list items ih =>
    -- a count, and then the items
    rw [write, faults, size]
    refine (writes_count items.length).bind fun count hcount => ?_
    refine (writes_items ih).map fun parts hparts => ?_
    rw [List.length_cons, List.length_append, hcount, hparts]
    omega
  | object fields ih =>
    rw [write, faults, size]
    refine (writes_count fields.length).bind fun count hcount => ?_
    refine (writes_fields ih).map fun parts hparts => ?_
    rw [List.length_cons, List.length_append, hcount, hparts]
    omega
  | property name value ih =>
    rw [write, faults, size]
    refine (writes_text name).bind fun text htext => ih.map fun part hpart => ?_
    rw [List.length_cons, List.length_append, htext, hpart, Nat.add_comm]

/-- Writing fails with the first fault of a tree, and with nothing else. -/
theorem write_eq_error_iff {n : Node} {e : EncodeError} :
    write n = .error e ↔ (faults n).head? = some e := by
  have h := writes n
  cases hw : write n with
  | ok bs =>
    rw [hw] at h
    -- without a fault it does not fail
    rw [h.1]
    simp
  | error e' =>
    rw [hw] at h
    rw [show (faults n).head? = some e' from h, Except.error.injEq, Option.some.injEq]

/-- What is written has the size of the tree. -/
theorem length_of_write {n : Node} {bs : List UInt8} (h : write n = .ok bs) :
    bs.length = size n := by
  have hw := writes n
  rw [h] at hw
  exact hw.2

/-- A tree can be written exactly if it has no fault. -/
theorem exists_write_eq_ok_iff {n : Node} : (∃ bs, write n = .ok bs) ↔ faults n = [] := by
  have h := writes n
  cases hw : write n with
  | ok bs =>
    rw [hw] at h
    simp [h.1]
  | error e =>
    -- a failure has a fault for its cause
    rw [hw] at h
    have hne : faults n ≠ [] := by
      intro h0
      rw [h0] at h
      cases h
    simp [hne]

end ManagementModel.Wire
