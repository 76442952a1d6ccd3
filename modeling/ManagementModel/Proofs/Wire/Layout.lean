import ManagementModel.Proofs.Node.Induction
import ManagementModel.Proofs.Text.ModifiedUtf8
import ManagementModel.Proofs.Wire.Faults

/-!
# ManagementModel — the layout of a written tree

A tree is written piece by piece: bytes whose number nothing limits, texts behind a length field,
and count fields. The pieces stand in the order of writing, the tag before everything else, a count
before the parts and a name before its value. The field of a text holds at most 65535 and a count
field at most 2147483647, and the first piece that exceeds its field decides how writing fails.

Main results:

* `measures_layout` — the faults and the size of a tree are those of its pieces.
* `head?_faults_iff` — the first fault of a tree is that of the first piece exceeding its field.
* `faults_eq_nil_iff` — a tree has no fault if every node within it fits.
* `toBytes_layout` — when a tree is written, with how many bytes, and how it fails otherwise.
-/

namespace ManagementModel.Wire

open Text.ModifiedUtf8 (length_encode textLength)

/-! ## Pieces -/

/-- What is written in one go. -/
inductive Piece where
  /-- A tag, a number or data, of so many bytes. -/
  | raw (length : Nat)
  /-- A text behind its length. -/
  | text (s : String)
  /-- The number of parts of a value. -/
  | count (n : Nat)

/-- The number of bytes of a piece. -/
def Piece.size : Piece → Nat
  | .raw length => length
  | .text s => 2 + textLength s
  | .count _ => 4

/-- A piece that its field cannot hold, and the failure that comes of it. -/
inductive Piece.Exceeds : Piece → EncodeError → Prop
  | text {s : String} (h : 65535 < textLength s) : Exceeds (.text s) (.textTooLong (textLength s))
  | count {n : Nat} (h : 2147483647 < n) : Exceeds (.count n) .tooManyParts

mutual

/-- The pieces of a tree, in the order of writing. -/
def layout : Node → List Piece
  | .undefined => [.raw 1]
  | .boolean _ => [.raw 1, .raw 1]
  | .int _ => [.raw 1, .raw 4]
  | .long _ => [.raw 1, .raw 8]
  | .double _ => [.raw 1, .raw 8]
  | .string text => [.raw 1, .text text]
  | .expression text => [.raw 1, .text text]
  | .bytes data => [.raw 1, .count data.length, .raw data.length]
  | .type _ => [.raw 1, .raw 1]
  | .list items => .raw 1 :: .count items.length :: itemLayout items
  | .object fields => .raw 1 :: .count fields.length :: fieldLayout fields
  | .property name value => .raw 1 :: .text name :: layout value

def itemLayout : List Node → List Piece
  | [] => []
  | item :: rest => layout item ++ itemLayout rest

def fieldLayout : List (String × Node) → List Piece
  | [] => []
  | (name, value) :: rest => .text name :: layout value ++ fieldLayout rest

end

/-- The pieces of some items are those of one item after the other. -/
@[simp]
theorem itemLayout_eq_flatMap (items : List Node) : itemLayout items = items.flatMap layout := by
  induction items with
  | nil => rfl
  | cons item rest ih => rw [itemLayout, ih, List.flatMap_cons]

/-- The pieces of some fields are, one field after the other, the name and the pieces of the value.
-/
@[simp] theorem fieldLayout_eq_flatMap (fields : Fields Node) :
    fieldLayout fields = fields.flatMap fun p => .text p.1 :: layout p.2 := by
  induction fields with
  | nil => rfl
  | cons p rest ih => rw [fieldLayout, ih, List.flatMap_cons]

/-- The texts and the number of parts of a node, without its parts, are within the limits. -/
def Fits : Node → Prop
  | .string text | .expression text => textLength text ≤ 65535
  | .bytes data => data.length ≤ 2147483647
  | .list items => items.length ≤ 2147483647
  | .object fields => fields.length ≤ 2147483647 ∧ ∀ p ∈ fields, textLength p.1 ≤ 65535
  | .property name _ => textLength name ≤ 65535
  | .undefined | .boolean _ | .int _ | .long _ | .double _ | .type _ => True

/-! ## The faults of pieces -/

/-- What is wrong with a piece. -/
def Piece.faults : Piece → List EncodeError
  | .raw _ => []
  | .text s => textFaults s
  | .count n => countFaults n

section

variable {s : String} {n : Nat}

theorem textFaults_eq_nil (h : textLength s ≤ 65535) : textFaults s = [] := by
  rw [textFaults, length_encode]
  exact if_pos h

/-- A text of more than 65535 bytes has one fault, which names its length. -/
theorem textFaults_of_lt (h : 65535 < textLength s) :
    textFaults s = [.textTooLong (textLength s)] := by
  rw [textFaults, length_encode]
  exact if_neg (Nat.not_le_of_lt h)

theorem countFaults_of_lt (h : 2147483647 < n) : countFaults n = [.tooManyParts] :=
  if_neg (Nat.not_le_of_lt h)

/-- Exactly the texts of at most 65535 bytes have no fault. -/
@[simp] theorem textFaults_eq_nil_iff : textFaults s = [] ↔ textLength s ≤ 65535 := by
  constructor
  · intro h
    by_contra hs
    rw [textFaults_of_lt (Nat.lt_of_not_le hs)] at h
    cases h
  · exact textFaults_eq_nil

/-- Exactly the counts up to 2147483647 have no fault. -/
@[simp] theorem countFaults_eq_nil_iff : countFaults n = [] ↔ n ≤ 2147483647 := by
  constructor
  · intro h
    by_contra hn
    rw [countFaults_of_lt (Nat.lt_of_not_le hn)] at h
    cases h
  · exact countFaults_eq_nil

end

/-- The fault of a piece is that it exceeds its field. -/
theorem Piece.head?_faults_eq_some_iff {p : Piece} {e : EncodeError} :
    p.faults.head? = some e ↔ p.Exceeds e := by
  constructor
  · intro h
    cases p with
    | raw length => cases h
    | text s =>
      rw [faults] at h
      -- a text has a fault only if it is too long
      rcases Nat.lt_or_ge 65535 (textLength s) with hs | hs
      · rw [textFaults_of_lt hs] at h
        cases h
        exact .text hs
      · rw [textFaults_eq_nil hs] at h
        cases h
    | count n =>
      rw [faults] at h
      rcases Nat.lt_or_ge 2147483647 n with hn | hn
      · rw [countFaults_of_lt hn] at h
        cases h
        exact .count hn
      · rw [countFaults_eq_nil hn] at h
        cases h
  · intro h
    cases h with
    | text hs => exact congrArg List.head? (textFaults_of_lt hs)
    | count hn => exact congrArg List.head? (countFaults_of_lt hn)

/-- A piece has no fault if nothing comes of its exceeding a field. -/
theorem Piece.head?_faults_eq_none_iff {p : Piece} :
    p.faults.head? = none ↔ ∀ e, ¬ p.Exceeds e := by
  rw [Option.eq_none_iff_forall_ne_some]
  exact forall_congr' fun e => not_congr head?_faults_eq_some_iff

/-! ## Faults and sizes of a tree by its pieces -/

/-- Some pieces have these faults, and so many bytes in all. -/
def Measures (ps : List Piece) (faults : List EncodeError) (size : Nat) : Prop :=
  ps.flatMap Piece.faults = faults ∧ (ps.map Piece.size).sum = size

/-- Pieces one after the other have the faults in this order, and the sizes add up. -/
theorem Measures.append {ps qs : List Piece} {fs gs : List EncodeError} {s t : Nat}
    (hp : Measures ps fs s) (hq : Measures qs gs t) : Measures (ps ++ qs) (fs ++ gs) (s + t) := by
  obtain ⟨rfl, rfl⟩ := hp
  obtain ⟨rfl, rfl⟩ := hq
  exact ⟨List.flatMap_append, by rw [List.map_append, List.sum_append]⟩

theorem measures_raw (length : Nat) : Measures [.raw length] [] length := ⟨rfl, rfl⟩

theorem measures_count (n : Nat) : Measures [.count n] (countFaults n) 4 :=
  ⟨List.flatMap_singleton .., rfl⟩

/-- A text takes its length field and its own bytes. -/
theorem measures_text (s : String) : Measures [.text s] (textFaults s) (textSize s) := by
  refine ⟨List.flatMap_singleton .., ?_⟩
  rw [textSize, length_encode]
  rfl

/-- Items are measured one after the other. -/
theorem measures_items {items : List Node}
    (h : ∀ item ∈ items, Measures (layout item) (faults item) (size item)) :
    Measures (itemLayout items) (itemFaults items) (itemsSize items) := by
  induction items with
  | nil => exact ⟨rfl, rfl⟩
  | cons item rest ih =>
    obtain ⟨hitem, hrest⟩ := List.forall_mem_cons.mp h
    rw [itemLayout, itemFaults, itemsSize]
    exact hitem.append (ih hrest)

/-- Fields are measured one after the other, each name before its value. -/
theorem measures_fields {fields : Fields Node}
    (h : ∀ p ∈ fields, Measures (layout p.2) (faults p.2) (size p.2)) :
    Measures (fieldLayout fields) (fieldFaults fields) (fieldsSize fields) := by
  induction fields with
  | nil => exact ⟨rfl, rfl⟩
  | cons p rest ih =>
    obtain ⟨hvalue, hrest⟩ := List.forall_mem_cons.mp h
    rw [fieldLayout, fieldFaults, fieldsSize]
    exact ((measures_text p.1).append hvalue).append (ih hrest)

/-- The faults and the size of a tree are those of its pieces, in the order of writing. -/
theorem measures_layout (n : Node) : Measures (layout n) (faults n) (size n) := by
  induction n using Node.induct with
  | scalar n hn =>
    cases n with
    | undefined | boolean | int | long | double | type =>
      rw [layout, faults, size]
      exact ⟨rfl, rfl⟩
    | string s | expression s =>
      rw [layout, faults, size]
      exact (measures_raw 1).append (measures_text s)
    | bytes data =>
      -- the data has no fault of its own
      rw [layout, faults, size, ← List.append_nil (countFaults _)]
      exact ((measures_raw 1).append (measures_count _)).append (measures_raw _)
    | list | object | property => cases hn
  | list items ih =>
    rw [layout, faults, size]
    -- the tag, the count and then the items
    exact ((measures_raw 1).append (measures_count _)).append (measures_items ih)
  | object fields ih =>
    rw [layout, faults, size]
    exact ((measures_raw 1).append (measures_count _)).append (measures_fields ih)
  | property name value ih =>
    rw [layout, faults, size]
    exact (measures_raw 1).append ((measures_text name).append ih)

/-- The first fault of a tree is that of the first piece that exceeds its field. -/
theorem head?_faults_iff {n : Node} {e : EncodeError} : (faults n).head? = some e ↔
    ∃ before piece after, layout n = before ++ piece :: after ∧
      (∀ p ∈ before, ∀ e', ¬ p.Exceeds e') ∧ piece.Exceeds e := by
  -- the first fault is the first of the first piece that has any
  rw [← (measures_layout n).1, List.head?_flatMap, List.findSome?_eq_some_iff]
  simp only [Piece.head?_faults_eq_some_iff, Piece.head?_faults_eq_none_iff]
  refine exists_congr fun before => exists_congr fun piece => exists_congr fun after => ?_
  rw [and_comm (a := piece.Exceeds e)]

/-! ## Trees without faults -/

/-- Items have no fault if none of them has one. -/
@[simp] theorem itemFaults_eq_nil_iff {items : List Node} :
    itemFaults items = [] ↔ ∀ item ∈ items, faults item = [] := by
  induction items with
  | nil => simp [itemFaults]
  | cons item rest ih => rw [itemFaults, List.append_eq_nil_iff, ih, List.forall_mem_cons]

/-- Fields have no fault if no name and no value has one. -/
@[simp] theorem fieldFaults_eq_nil_iff {fields : Fields Node} :
    fieldFaults fields = [] ↔ ∀ p ∈ fields, textFaults p.1 = [] ∧ faults p.2 = [] := by
  induction fields with
  | nil => simp [fieldFaults]
  | cons p rest ih =>
    rw [fieldFaults, List.append_eq_nil_iff, List.append_eq_nil_iff, ih, List.forall_mem_cons]

/-- A tree has no fault if every node within it fits. -/
theorem faults_eq_nil_iff {n : Node} : faults n = [] ↔ n.Throughout Fits := by
  induction n using Node.induct with
  | scalar n hn =>
    rw [Node.throughout_scalar_iff hn]
    cases n with
    | undefined | boolean | int | long | double | type =>
      rw [faults]
      exact iff_of_true rfl trivial
    | string s | expression s =>
      rw [faults]
      exact textFaults_eq_nil_iff
    | bytes data =>
      rw [faults]
      exact countFaults_eq_nil_iff
    | list | object | property => cases hn
  | list items ih =>
    rw [faults, Node.throughout_list_iff, List.append_eq_nil_iff, countFaults_eq_nil_iff,
      itemFaults_eq_nil_iff]
    -- the count belongs to the list, and the items are nodes within it
    exact and_congr_right fun _ => forall₂_congr ih
  | object fields ih =>
    -- the names belong to the object, the values are nodes within it
    rw [faults, Node.throughout_object_iff, List.append_eq_nil_iff, countFaults_eq_nil_iff,
      fieldFaults_eq_nil_iff]
    simp only [forall_and, Fits, and_assoc, textFaults_eq_nil_iff]
    exact and_congr_right fun _ => and_congr_right fun _ => forall₂_congr ih
  | property name value ih =>
    rw [faults, Node.throughout_property_iff, List.append_eq_nil_iff, textFaults_eq_nil_iff, ih]
    rfl

/-! ## Written trees -/

/-- A tree can be written exactly if all texts and all numbers of parts in it are within their
limits, and otherwise fails with the first in the order of writing that is not. What is written has
as many bytes as its pieces. -/
theorem toBytes_layout (n : Node) :
    ((∃ bs, n.toBytes = .ok bs) ↔ ∀ m, m.Within n → Fits m) ∧
    (∀ e, n.toBytes = .error e ↔ ∃ before piece after, layout n = before ++ piece :: after ∧
      (∀ p ∈ before, ∀ e', ¬ p.Exceeds e') ∧ piece.Exceeds e) ∧
    (∀ bs, n.toBytes = .ok bs → bs.length = ((layout n).map Piece.size).sum) := by
  refine ⟨?_, fun e => ?_, fun bs h => ?_⟩
  · exact exists_write_eq_ok_iff.trans faults_eq_nil_iff
  · exact write_eq_error_iff.trans head?_faults_iff
  · rw [length_of_write h, (measures_layout n).2]

/-- A name of 32767 zero characters fits its field and a text of 32768 does not. So writing fails
with this text, and not with the longer one behind it. -/
theorem toBytes_layout_zeros :
    let zeros := fun k => String.ofList (List.replicate k '\x00')
    (Node.object [(zeros 32767, .list [.string (zeros 32768), .string (zeros 40000)])]).toBytes =
      .error (.textTooLong 65536) := by
  intro zeros
  -- a zero character takes two bytes
  have hzeros : ∀ k, textLength (zeros k) = k * 2 := by
    intro k
    rw [textLength, String.toList_ofList, List.map_replicate, List.sum_replicate_nat]
    rfl
  refine ((toBytes_layout _).2.1 _).mpr ⟨[.raw 1, .count 1, .text (zeros 32767), .raw 1, .count 2,
    .raw 1], .text (zeros 32768), [.raw 1, .text (zeros 40000)], rfl, ?_, ?_⟩
  · -- the pieces in front are within their limits
    intro p hp e he
    cases he with
    | count h =>
      simp only [List.mem_cons, List.not_mem_nil, reduceCtorEq, Piece.count.injEq, or_false,
        false_or] at hp
      omega
    | text h =>
      simp only [List.mem_cons, List.not_mem_nil, reduceCtorEq, Piece.text.injEq, or_false,
        false_or] at hp
      rw [hp, hzeros] at h
      omega
  · have hlong := hzeros 32768
    rw [show 65536 = textLength (zeros 32768) from hlong.symm]
    exact .text (by omega)

end ManagementModel.Wire
