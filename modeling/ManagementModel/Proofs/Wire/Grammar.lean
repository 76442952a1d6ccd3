import ManagementModel.Proofs.Fields
import ManagementModel.Proofs.Wire.Number

/-!
# ManagementModel — the grammar of the binary form

The binary form is described here by rules that derive byte strings, with no reader in mind: a rule
looks at the bytes of one value and never at what is left of an input. A container may stand at
depths below 256 only, the root being at depth 0.

The same tree has many forms. A `Dialect` restricts the rules at the places where they leave a
choice: the byte of a truth value, the groups of a text, and repeated names in an object. The
reader is shown to accept the liberal dialect; the writer writes the canonical one.

Main definitions:

* `Form` — a byte string is a form of a tree at a depth.
* `Dialect.liberal`, `Dialect.canonical`, `Dialect.zeroFree` — no restriction; nothing but the
  written choices; no raw zero byte in any text.
* `Form.induct` — induction on the rules, with the parts of a container at hand.
-/

namespace ManagementModel.Wire

open Text.ModifiedUtf8 (Group Overlong)

/-! ## Dialects and texts -/

/-- Which spellings a dialect allows where the grammar leaves a choice. -/
structure Dialect where
  /-- The byte of a truth value. -/
  boolean : UInt8 → Prop
  /-- A group of bytes for a unit of a text. -/
  group : List UInt8 → UInt16 → Prop
  /-- The names of an object in the order of the payload. -/
  names : List String → Prop

/-- All that is read. -/
def Dialect.liberal : Dialect :=
  ⟨fun _ => True, fun _ _ => True, fun _ => True⟩

/-- No text has a raw zero byte. -/
def Dialect.zeroFree : Dialect :=
  ⟨fun _ => True, fun g _ => 0 ∉ g, fun _ => True⟩

/-- Truth values are `0` or `1`, texts are as short as they can be without a raw zero byte, and no
object repeats a name. -/
def Dialect.canonical : Dialect :=
  ⟨fun b => b = 0 ∨ b = 1, fun g u => 0 ∉ g ∧ ¬ Overlong g u, List.Nodup⟩

/-- A length of two bytes, and as many bytes as it says: the groups of the units of a text. -/
def TextForm (D : Dialect) (bs : List UInt8) (s : String) : Prop :=
  ∃ (length : List UInt8) (groups : List (List UInt8)),
    NumberForm 2 length groups.flatten.length ∧
    List.Forall₂ (fun g u => Group g u ∧ D.group g u) groups (Text.Utf16.units s.toList) ∧
    bs = length ++ groups.flatten

/-! ## Values -/

def ascii (c : Char) : UInt8 :=
  c.toNat.toUInt8

/-- The forms of values without parts. -/
inductive ScalarForm (D : Dialect) : List UInt8 → Node → Prop
  | undefined : ScalarForm D [ascii 'u'] .undefined
  -- any byte but zero stands for the true value
  | boolean {b : UInt8} (h : D.boolean b) : ScalarForm D [ascii 'Z', b] (.boolean (b != 0))
  -- numbers are carried as their bits, doubles included
  | int {bs : List UInt8} {v : Int32} (h : NumberForm 4 bs v.toUInt32.toNat) :
    ScalarForm D (ascii 'I' :: bs) (.int v)
  | long {bs : List UInt8} {v : Int64} (h : NumberForm 8 bs v.toUInt64.toNat) :
    ScalarForm D (ascii 'J' :: bs) (.long v)
  | double {bs : List UInt8} {bits : UInt64} (h : NumberForm 8 bs bits.toNat) :
    ScalarForm D (ascii 'D' :: bs) (.double bits)
  | string {bs : List UInt8} {s : String} (h : TextForm D bs s) :
    ScalarForm D (ascii 's' :: bs) (.string s)
  | expression {bs : List UInt8} {s : String} (h : TextForm D bs s) :
    ScalarForm D (ascii 'e' :: bs) (.expression s)
  | bytes {count data : List UInt8} (h : CountForm count data.length) :
    ScalarForm D (ascii 'b' :: (count ++ data)) (.bytes data)
  -- a kind may be named although no value of it is ever carried
  | type (k : Kind) : ScalarForm D [ascii 't', k.tag] (.type k)

/-- The forms of some items at a depth, one after the other, given the forms of one value. -/
inductive Items (R : Nat → List UInt8 → Node → Prop) : List UInt8 → List Node → Nat → Prop
  | nil {d : Nat} : Items R [] [] d
  | cons {d : Nat} {part parts : List UInt8} {item : Node} {items : List Node}
    (h : R d part item) (hs : Items R parts items d) : Items R (part ++ parts) (item :: items) d

/-- The forms of some names with their values at a depth, one after the other. -/
inductive Pairs (D : Dialect) (R : Nat → List UInt8 → Node → Prop) :
    List UInt8 → Fields Node → Nat → Prop
  | nil {d : Nat} : Pairs D R [] [] d
  | cons {d : Nat} {text part parts : List UInt8} {name : String} {value : Node}
    {pairs : Fields Node} (hn : TextForm D text name) (h : R d part value)
    (hs : Pairs D R parts pairs d) :
    Pairs D R (text ++ part ++ parts) ((name, value) :: pairs) d

/-- The forms of a tree at a depth. -/
inductive Form (D : Dialect) : Nat → List UInt8 → Node → Prop
  | scalar {d : Nat} {bs : List UInt8} {n : Node} (h : ScalarForm D bs n) : Form D d bs n
  | list {d : Nat} {count parts : List UInt8} {items : List Node} (hd : d < 256)
    (hc : CountForm count items.length) (hp : Items (Form D) parts items (d + 1)) :
    Form D d (ascii 'l' :: (count ++ parts)) (.list items)
  -- the count is that of the pairs as they stand there, before they are merged
  | object {d : Nat} {count parts : List UInt8} {pairs fields : Fields Node} (hd : d < 256)
    (hc : CountForm count pairs.length) (hp : Pairs D (Form D) parts pairs (d + 1))
    (hn : D.names (Fields.names pairs)) (hm : Fields.Merges pairs fields) :
    Form D d (ascii 'o' :: (count ++ parts)) (.object fields)
  | property {d : Nat} {text part : List UInt8} {name : String} {value : Node} (hd : d < 256)
    (hn : TextForm D text name) (hv : Form D (d + 1) part value) :
    Form D d (ascii 'p' :: (text ++ part)) (.property name value)

/-- The payload is spelled as the dialect demands, whatever tree it carries. -/
def Dialect.Admits (D : Dialect) (bs : List UInt8) : Prop :=
  ∃ n, Form D 0 bs n

/-! ## Induction on the rules -/

section

variable {D : Dialect} {R S : Nat → List UInt8 → Node → Prop} {d : Nat}

theorem Items.imp (h : ∀ {d bs n}, R d bs n → S d bs n) {parts : List UInt8}
    {items : List Node} (hp : Items R parts items d) : Items S parts items d := by
  induction hp with
  | nil => exact .nil
  | cons hn _ ih => exact .cons (h hn) ih

/-- Pairs of one form are pairs of any weaker form, also in a weaker dialect. -/
theorem Pairs.imp {D' : Dialect} (ht : ∀ {bs s}, TextForm D bs s → TextForm D' bs s)
    (h : ∀ {d bs n}, R d bs n → S d bs n) {parts : List UInt8} {pairs : Fields Node}
    (hp : Pairs D R parts pairs d) : Pairs D' S parts pairs d := by
  induction hp with
  | nil => exact .nil
  | cons hs hn _ ih => exact .cons (ht hs) (h hn) ih

/-- Induction on the derivation of a form. The parts of a container come with the hypothesis for
each of them. -/
@[elab_as_elim]
theorem Form.induct {P : ∀ d bs n, Form D d bs n → Prop}
    (scalar : ∀ {d bs n} (h : ScalarForm D bs n), P d bs n (.scalar h))
    (list : ∀ {d count parts items} (hd : d < 256) (hc : CountForm count items.length)
      (hp : Items (Form D) parts items (d + 1)),
      Items (fun d bs n => ∃ h, P d bs n h) parts items (d + 1) →
      P d (ascii 'l' :: (count ++ parts)) (.list items) (.list hd hc hp))
    (object : ∀ {d count parts pairs fields} (hd : d < 256) (hc : CountForm count pairs.length)
      (hp : Pairs D (Form D) parts pairs (d + 1)) (hn : D.names (Fields.names pairs))
      (hm : Fields.Merges pairs fields),
      Pairs D (fun d bs n => ∃ h, P d bs n h) parts pairs (d + 1) →
      P d (ascii 'o' :: (count ++ parts)) (.object fields) (.object hd hc hp hn hm))
    (property : ∀ {d text part name value} (hd : d < 256) (hn : TextForm D text name)
      (hv : Form D (d + 1) part value), P (d + 1) part value hv →
      P d (ascii 'p' :: (text ++ part)) (.property name value) (.property hd hn hv))
    {bs : List UInt8} {n : Node} (h : Form D d bs n) : P d bs n h := by
  -- the generated induction also speaks of items and pairs: there every part has its hypothesis
  refine @Form.rec D P (fun parts items d _ => Items (fun d bs n => ∃ h, P d bs n h) parts items d)
    (fun parts pairs d _ => Pairs D (fun d bs n => ∃ h, P d bs n h) parts pairs d)
    scalar list object property ?_ ?_ ?_ ?_ d bs n h
  · exact .nil
  · exact fun h _ ih ihs => .cons ⟨h, ih⟩ ihs
  · exact .nil
  · exact fun hn h _ ih ihs => .cons hn ⟨h, ih⟩ ihs

/-- Each item has a form among the parts. -/
theorem Items.forall_mem {parts : List UInt8} {items : List Node} (hp : Items R parts items d) :
    ∀ item ∈ items, ∃ part, R d part item := by
  induction hp with
  | nil => exact fun _ h => nomatch h
  | cons h _ ih => exact List.forall_mem_cons.mpr ⟨⟨_, h⟩, ih⟩

/-- Each name and each value has a form among the parts. -/
theorem Pairs.forall_mem {parts : List UInt8} {pairs : Fields Node}
    (hp : Pairs D R parts pairs d) :
    ∀ p ∈ pairs, ∃ text part, TextForm D text p.1 ∧ R d part p.2 := by
  induction hp with
  | nil => exact fun _ h => nomatch h
  | cons hn h _ ih => exact List.forall_mem_cons.mpr ⟨⟨_, _, hn, h⟩, ih⟩

/-! ## Restricted forms are liberal forms -/

theorem TextForm.liberal {bs : List UInt8} {s : String} (h : TextForm D bs s) :
    TextForm .liberal bs s := by
  obtain ⟨length, groups, hl, hg, rfl⟩ := h
  exact ⟨length, groups, hl, hg.imp fun g u hgu => ⟨hgu.1, trivial⟩, rfl⟩

/-- Every form of a value without parts is a liberal one. -/
theorem ScalarForm.liberal {bs : List UInt8} {n : Node} (h : ScalarForm D bs n) :
    ScalarForm .liberal bs n := by
  cases h with
  | undefined => exact .undefined
  | boolean h => exact .boolean trivial
  | int h => exact .int h
  | long h => exact .long h
  | double h => exact .double h
  | string h => exact .string h.liberal
  | expression h => exact .expression h.liberal
  | bytes h => exact .bytes h
  | type k => exact .type k

/-- Whatever a dialect allows is a form. -/
theorem Form.liberal {bs : List UInt8} {n : Node} (h : Form D d bs n) : Form .liberal d bs n := by
  induction h using Form.induct with
  | scalar h => exact .scalar h.liberal
  | list hd hc _ ih => exact .list hd hc (ih.imp fun ⟨_, h⟩ => h)
  | object hd hc _ _ hm ih =>
    -- the liberal dialect does not mind repeated names
    exact .object hd hc (ih.imp TextForm.liberal fun ⟨_, h⟩ => h) trivial hm
  | property hd hn _ ih => exact .property hd hn.liberal ih

/-! ## Lengths -/

/-- A text takes the two bytes of its length at least. -/
theorem TextForm.length_le {bs : List UInt8} {s : String} (h : TextForm D bs s) :
    2 ≤ bs.length := by
  obtain ⟨length, groups, hl, -, rfl⟩ := h
  rw [List.length_append, hl.1]
  omega

/-- No form is empty, since each begins with a tag. -/
theorem Form.length_pos {bs : List UInt8} {n : Node} (h : Form D d bs n) : 1 ≤ bs.length := by
  cases h with
  | scalar hs => cases hs <;> exact Nat.succ_pos _
  | list => exact Nat.succ_pos _
  | object => exact Nat.succ_pos _
  | property => exact Nat.succ_pos _

/-- Items of at least one byte each. -/
theorem Items.length_le (h1 : ∀ {d bs n}, R d bs n → 1 ≤ bs.length) {parts : List UInt8}
    {items : List Node} (hp : Items R parts items d) : items.length ≤ parts.length := by
  induction hp with
  | nil => exact Nat.le_refl _
  | cons hn _ ih =>
    have := h1 hn
    rw [List.length_cons, List.length_append]
    omega

/-- A field takes the two bytes of a length beside those of its value. -/
theorem Pairs.length_le (h1 : ∀ {d bs n}, R d bs n → 1 ≤ bs.length) {parts : List UInt8}
    {pairs : Fields Node} (hp : Pairs D R parts pairs d) : pairs.length * 3 ≤ parts.length := by
  induction hp with
  | nil => exact Nat.le_refl _
  | cons hs hn _ ih =>
    have := hs.length_le
    have := h1 hn
    rw [List.length_cons, List.length_append, List.length_append]
    omega

end

end ManagementModel.Wire
