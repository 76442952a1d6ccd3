import ManagementModel.Node.Equality
import ManagementModel.Node.Json
import ManagementModel.Proofs.Decimal.Binary64
import ManagementModel.Proofs.Fields
import ManagementModel.Proofs.Json.Induction
import ManagementModel.Proofs.Node.Induction
import ManagementModel.Proofs.Text.Base64

/-!
# ManagementModel — what a document tells of a tree

A document shows every tree, but it does not tell all trees apart. Nodes of kinds that it lacks are
shown as objects, some of which are read back as what they look like; a whole number is read as the
smallest kind that holds it, and a double that is not finite is not read at all. `LostInJson` lists
the nodes that are lost in this way. A tree is read back exactly if no node within it is.

What has been read from a document is not lost when it is shown again, since only what is shown in
its own way is ever read.

Main result:

* `same_ofJson_toJson_iff` — the trees that their documents tell, and documents as trees.
-/

namespace ManagementModel.Node

/-- A node that is read back from its document as another one. -/
inductive LostInJson : Node → Prop
  | type (kind : Kind) : LostInJson (type kind)
  | property (name : String) (value : Node) : LostInJson (property name value)
  /-- There is no number for it. -/
  | double {bits : UInt64} (h : Binary64.isFinite bits = false) : LostInJson (double bits)
  /-- A smaller kind holds the number. -/
  | long {value : Int64} (h : -0x80000000 ≤ value.toInt ∧ value.toInt < 0x80000000) :
    LostInJson (long value)
  /-- It looks like an expression. -/
  | expression (text : String) : LostInJson (object [(expressionName, string text)])
  /-- It looks like bytes. -/
  | bytes {text : String} {data : List UInt8} (h : Text.Base64.decode text = .ok data) :
    LostInJson (object [(bytesName, string text)])

/-! ## Parts -/

@[simp] theorem toJsonItems_eq_map (items : List Node) : toJsonItems items = items.map toJson := by
  induction items with
  | nil => rfl
  | cons item rest ih => rw [toJsonItems, ih, List.map_cons]

@[simp] theorem toJsonMembers_eq_map (fields : Fields Node) :
    toJsonMembers fields = fields.map fun p => (p.1, p.2.toJson) := by
  induction fields with
  | nil => rfl
  | cons p rest ih => rw [toJsonMembers, ih, List.map_cons]

@[simp] theorem ofJsonItems_eq_map (items : List Json) : ofJsonItems items = items.map ofJson := by
  induction items with
  | nil => rfl
  | cons item rest ih => rw [ofJsonItems, ih, List.map_cons]

@[simp] theorem ofJsonMembers_eq_map (members : List (String × Json)) :
    ofJsonMembers members = members.map fun p => (p.1, ofJson p.2) := by
  induction members with
  | nil => rfl
  | cons p rest ih => rw [ofJsonMembers, ih, List.map_cons]

/-! ## Numbers -/

/-- A whole number of the smallest kind is read back. -/
@[simp] theorem ofJson_toJson_int (value : Int32) : ofJson (int value).toJson = int value := by
  have hlow := value.le_toInt
  have hhigh := value.toInt_lt
  have hint : Int32.ofInt value.toInt = value := Int32.ofInt_toInt value
  have hread : ofJson (int value).toJson = ofWhole value.toInt64.toInt := rfl
  -- the number is in the range of the smallest kind
  rw [hread, Int32.toInt_toInt64, ofWhole, if_pos ⟨by omega, by omega⟩, hint]

/-- A longer whole number is read back unless a smaller kind holds it. -/
theorem ofJson_toJson_long (value : Int64) : ofJson (long value).toJson =
    if -0x80000000 ≤ value.toInt ∧ value.toInt < 0x80000000 then int (Int32.ofInt value.toInt)
    else long value := by
  have hhigh := value.toInt_lt
  have hread : ofJson (long value).toJson = ofWhole value.toInt := rfl
  rw [hread, ofWhole, if_pos (by omega : value.toInt < 0x8000000000000000), Int64.ofInt_toInt]

/-- A double is read back if it is finite, and is lost otherwise. -/
theorem ofJson_toJson_double (bits : UInt64) : ofJson (double bits).toJson =
    if Binary64.isFinite bits = true then double bits else undefined := by
  rw [toJson, Json.ofDouble?]
  by_cases h : Binary64.isFinite bits = true
  · rw [dif_pos h, if_pos h]
    rfl
  · rw [dif_neg h, if_neg h]
    rfl

/-- The number that was read is the number that is shown. -/
theorem ofJson_toJson_ofWhole {n : Int} (h : -0x8000000000000000 ≤ n ∧ n < 0x10000000000000000) :
    ofJson (ofWhole n).toJson = ofWhole n := by
  rw [ofWhole]
  split
  · exact ofJson_toJson_int _
  · next hint =>
    split
    · next hlong =>
      have hvalue : (Int64.ofInt n).toInt = n := Int64.toInt_ofInt_of_le (by omega) (by omega)
      rw [ofJson_toJson_long, hvalue, if_neg hint]
    · -- a number beyond the words with a sign is a word, and so a finite double
      have hfinite := Binary64.isFinite_ofNat (n := n.toNat) (by omega)
      rw [ofJson_toJson_double, if_pos hfinite]

/-- Whatever number a document holds, what is read of it is read again. -/
theorem ofJson_toJson_ofNumber (n : Json.Number) : ofJson (ofNumber n).toJson = ofNumber n := by
  cases n with
  | whole n h => exact ofJson_toJson_ofWhole h
  | real bits h =>
    rw [ofNumber, ofJson_toJson_double, if_pos h]

/-! ## Texts -/

/-- Only a string is shown as a string. -/
@[simp] theorem toJson_eq_string_iff {n : Node} {text : String} :
    n.toJson = .string text ↔ n = string text := by
  cases n with
  | double bits =>
    rw [toJson, Json.ofDouble?]
    split <;> simp
  | _ => simp [toJson, Json.ofInt64, Json.single]

/-- What an object with one member of a reserved name stands for. -/
theorem ofReserved?_eq_some_iff {members : List (String × Json)} {n : Node} :
    ofReserved? members = some n ↔
      (∃ text, members = [(expressionName, .string text)] ∧ n = expression text) ∨
      ∃ text data, members = [(bytesName, .string text)] ∧ Text.Base64.decode text = .ok data ∧
        n = bytes data := by
  have hnames : bytesName ≠ expressionName := by decide
  constructor
  · intro h
    rw [ofReserved?.eq_def] at h
    split at h
    · -- one member, and its value is a string
      next name text =>
      split at h
      · next hname =>
        cases h
        exact .inl ⟨text, by rw [hname], rfl⟩
      · split at h
        · next hname =>
          -- a text that is no base64 stands for nothing else
          cases hdecode : Text.Base64.decode text with
          | error e =>
            rw [hdecode] at h
            cases h
          | ok data =>
            rw [hdecode] at h
            cases h
            exact .inr ⟨text, data, by rw [hname], hdecode, rfl⟩
        · cases h
    · cases h
  · rintro (⟨text, rfl, rfl⟩ | ⟨text, data, rfl, hdecode, rfl⟩)
    · rw [ofReserved?, if_pos rfl]
    · rw [ofReserved?, if_neg hnames, if_pos rfl, hdecode]

/-- Only a string is read as a string. -/
@[simp] theorem ofJson_eq_string_iff {v : Json} {text : String} :
    ofJson v = string text ↔ v = .string text := by
  cases v with
  | number n =>
    rw [ofJson]
    cases n with
    | whole n h =>
      rw [ofNumber, ofWhole]
      split
      · simp
      · split <;> simp
    | real bits h => simp [ofNumber]
  | object members =>
    rw [ofJson]
    cases h : ofReserved? members with
    | none => simp
    | some n =>
      rcases ofReserved?_eq_some_iff.mp h with ⟨text, -, rfl⟩ | ⟨text, data, -, -, rfl⟩ <;> simp
  | _ => simp [ofJson]

/-- The only member is a string exactly if the only field is. -/
theorem toJsonMembers_eq_singleton_iff {fields : Fields Node} {name text : String} :
    toJsonMembers fields = [(name, .string text)] ↔ fields = [(name, string text)] := by
  constructor
  · intro h
    rw [toJsonMembers_eq_map] at h
    obtain ⟨p, rfl, hp⟩ := List.map_eq_singleton_iff.mp h
    obtain ⟨hname, htext⟩ := Prod.mk.inj hp
    rw [← hname, ← toJson_eq_string_iff.mp htext]
  · rintro rfl
    rfl

/-- The only field is a string exactly if the only member is. -/
theorem ofJsonMembers_eq_singleton_iff {members : List (String × Json)} {name text : String} :
    ofJsonMembers members = [(name, string text)] ↔ members = [(name, .string text)] := by
  constructor
  · intro h
    rw [ofJsonMembers_eq_map] at h
    obtain ⟨p, rfl, hp⟩ := List.map_eq_singleton_iff.mp h
    obtain ⟨hname, htext⟩ := Prod.mk.inj hp
    rw [← hname, ← ofJson_eq_string_iff.mp htext]
  · rintro rfl
    rfl

/-- An object is lost if the members of its document, or the members that it was read from, stand
for something else. -/
theorem lostInJson_object_iff {fields : Fields Node} {members : List (String × Json)}
    (hone : ∀ name text, members = [(name, .string text)] ↔ fields = [(name, string text)]) :
    (object fields).LostInJson ↔ ∃ n, ofReserved? members = some n := by
  simp only [ofReserved?_eq_some_iff, hone]
  constructor
  · intro h
    cases h with
    | expression text => exact ⟨_, .inl ⟨text, rfl, rfl⟩⟩
    | bytes h => exact ⟨_, .inr ⟨_, _, rfl, h, rfl⟩⟩
  · rintro ⟨n, ⟨text, rfl, -⟩ | ⟨text, data, rfl, h, -⟩⟩
    · exact .expression text
    · exact .bytes h

/-! ## Trees that are read back -/

/-- Changed items equal the items if each of them equals itself unchanged. -/
@[simp] theorem sameItems_map_iff {f : Node → Node} {items : List Node} :
    sameItems (items.map f) items = true ↔ ∀ item ∈ items, (f item).same item = true := by
  induction items with
  | nil => simp [sameItems]
  | cons item rest ih => rw [List.map_cons, sameItems, Bool.and_eq_true, ih, List.forall_mem_cons]

/-- Changed fields equal fields that hold them all if each value equals itself unchanged. -/
theorem sameFields_map_iff {f : Node → Node} {part whole : Fields Node}
    (hpart : ∀ p ∈ part, Fields.get? p.1 whole = some p.2) :
    sameFields (part.map fun p => (p.1, f p.2)) whole = true ↔
      ∀ p ∈ part, (f p.2).same p.2 = true := by
  induction part with
  | nil => simp [sameFields]
  | cons p rest ih =>
    obtain ⟨hp, hrest⟩ := List.forall_mem_cons.mp hpart
    rw [List.map_cons, sameFields, hp, Bool.and_eq_true, ih hrest, List.forall_mem_cons]

/-- No document is read as a type or as a property. -/
theorem same_ofJson_eq_false (v : Json) :
    (∀ kind, (ofJson v).same (type kind) = false) ∧
      ∀ name value, (ofJson v).same (property name value) = false := by
  cases v with
  | number n =>
    rw [ofJson]
    cases n with
    | whole n h =>
      rw [ofNumber, ofWhole]
      split
      · simp [same]
      · split <;> simp [same]
    | real bits h => simp [ofNumber, same]
  | object members =>
    rw [ofJson]
    cases h : ofReserved? members with
    | none => simp [same]
    | some n =>
      -- what is reserved is an expression or bytes
      rcases ofReserved?_eq_some_iff.mp h with ⟨text, -, rfl⟩ | ⟨text, data, -, -, rfl⟩ <;>
        simp [same]
  | _ => simp [ofJson, same]

/-- Bytes are read back from the text that is shown for them. -/
@[simp]
theorem ofJson_toJson_bytes (data : List UInt8) : ofJson (bytes data).toJson = bytes data := by
  have hreserved : ofReserved? [(bytesName, .string (Text.Base64.encode data))] =
      some (bytes data) :=
    ofReserved?_eq_some_iff.mpr (.inr ⟨_, data, rfl, Text.Base64.decode_encode data, rfl⟩)
  rw [toJson, Json.single, ofJson, hreserved]
  rfl

/-- An expression is read back from the object that is shown for it. -/
@[simp] theorem ofJson_toJson_expression (text : String) :
    ofJson (expression text).toJson = expression text := by
  have hreserved : ofReserved? [(expressionName, .string text)] = some (expression text) :=
    ofReserved?_eq_some_iff.mpr (.inl ⟨text, rfl, rfl⟩)
  rw [toJson, Json.single, ofJson, hreserved]
  rfl

/-- A value without parts is read back exactly if it is not lost. -/
theorem same_scalar_iff {n : Node} (hn : n.kind.isContainer = false) :
    (ofJson n.toJson).same n = true ↔ ¬ n.LostInJson := by
  cases n with
  | list | object | property => cases hn
  | undefined | boolean | string => exact iff_of_true (by simp [toJson, ofJson, same]) nofun
  | expression text =>
    rw [ofJson_toJson_expression]
    exact iff_of_true (by simp [same]) nofun
  | bytes data =>
    rw [ofJson_toJson_bytes]
    exact iff_of_true (by simp [same]) nofun
  | int value =>
    rw [ofJson_toJson_int]
    exact iff_of_true (by simp [same]) nofun
  | type kind =>
    have hfalse := (same_ofJson_eq_false (type kind).toJson).1 kind
    exact iff_of_false (by simp [hfalse]) (not_not.mpr (.type kind))
  | long value =>
    rw [ofJson_toJson_long]
    split
    · -- a smaller kind holds the number
      next h => exact iff_of_false (by simp [same]) (not_not.mpr (.long h))
    · next h =>
      refine iff_of_true (by simp [same]) ?_
      rintro ⟨⟩
      exact h ‹_›
  | double bits =>
    rw [ofJson_toJson_double]
    split
    · next h =>
      -- a finite double equals itself
      refine iff_of_true (Binary64.numEq_self_iff.mpr (Binary64.isNaN_eq_false h)) ?_
      rintro ⟨⟩
      simp_all
    · next h =>
      exact iff_of_false (by simp [same]) (not_not.mpr (.double (Bool.eq_false_iff.mpr h)))

/-- An object that stands for nothing else is read back with its values as they are read. -/
theorem ofJson_toJson_object {fields : Fields Node} (h : ¬ (object fields).LostInJson) :
    ofJson (object fields).toJson = object (fields.map fun p => (p.1, ofJson p.2.toJson)) := by
  have hnone : ofReserved? (toJsonMembers fields) = none := by
    rw [Option.eq_none_iff_forall_ne_some]
    exact fun n hn =>
      h ((lostInJson_object_iff fun _ _ => toJsonMembers_eq_singleton_iff).mpr ⟨n, hn⟩)
  -- the members stand for nothing else, so they are read as fields
  rw [toJson, ofJson, hnone, Option.getD_none, toJsonMembers_eq_map, ofJsonMembers_eq_map,
    List.map_map]
  rfl

/-- What stands for something else is no object any more. -/
theorem same_object_eq_false {fields : Fields Node} (h : (object fields).LostInJson) :
    (ofJson (object fields).toJson).same (object fields) = false := by
  obtain ⟨n, hn⟩ := (lostInJson_object_iff fun _ _ => toJsonMembers_eq_singleton_iff).mp h
  rw [toJson, ofJson, hn]
  rcases ofReserved?_eq_some_iff.mp hn with ⟨text, -, rfl⟩ | ⟨text, data, -, -, rfl⟩ <;> rfl

/-- A tree is read back exactly if no node within it is lost. -/
theorem same_iff_throughout {n : Node} (hw : n.WellFormed) :
    (ofJson n.toJson).same n = true ↔ n.Throughout fun m => ¬ m.LostInJson := by
  induction n using induct with
  | scalar n hn => rw [throughout_scalar_iff hn, same_scalar_iff hn]
  | list items ih =>
    have hparts := wellFormed_list_iff.mp hw
    have hself : ¬ (list items).LostInJson := nofun
    have hread : ofJson (list items).toJson = list (items.map fun n => ofJson n.toJson) := by
      rw [toJson, ofJson, toJsonItems_eq_map, ofJsonItems_eq_map, List.map_map]
      rfl
    -- a list is always read as a list, so only its items matter
    rw [throughout_list_iff, and_iff_right hself, hread, same, sameItems_map_iff]
    exact forall₂_congr fun item hitem => ih item hitem (hparts item hitem)
  | object fields ih =>
    obtain ⟨hdistinct, hparts⟩ := wellFormed_object_iff.mp hw
    rw [throughout_object_iff]
    by_cases hself : (object fields).LostInJson
    · -- what is read is an expression or bytes
      rw [same_object_eq_false hself]
      exact iff_of_false Bool.false_ne_true fun h => h.1 hself
    · -- the names stay, so each value is compared with the one it was read from
      have hfind : ∀ p ∈ fields, Fields.get? p.1 fields = some p.2 :=
        fun p hp => Fields.get?_of_mem hdistinct hp
      have hlength : ((fields.map fun p => (p.1, ofJson p.2.toJson)).length == fields.length) =
          true := by simp
      rw [and_iff_right hself, ofJson_toJson_object hself, same, hlength, Bool.true_and,
        sameFields_map_iff (f := fun n => ofJson n.toJson) hfind]
      exact forall₂_congr fun p hp => ih p hp (hparts p hp)
  | property name value ih =>
    -- a property is shown as an object, and never read back
    have hfalse := (same_ofJson_eq_false (property name value).toJson).2 name value
    rw [hfalse]
    exact iff_of_false Bool.false_ne_true fun h => h.self (.property name value)

/-! ## Documents -/

/-- What was read from a document is read again when it is shown. -/
theorem ofJson_toJson_ofJson (v : Json) : ofJson (ofJson v).toJson = ofJson v := by
  induction v using Json.induct with
  | scalar v hv =>
    cases v with
    | number n => exact ofJson_toJson_ofNumber n
    | array | object => cases hv
    | null | bool | string => rfl
  | array items ih =>
    rw [ofJson, toJson, ofJson, toJsonItems_eq_map, ofJsonItems_eq_map, ofJsonItems_eq_map,
      List.map_map, List.map_map]
    exact congrArg list (List.map_congr_left ih)
  | object members ih =>
    cases hreserved : ofReserved? members with
    | some n =>
      -- an expression or bytes are shown under the name they were read from
      rw [ofJson, hreserved, Option.getD_some]
      rcases ofReserved?_eq_some_iff.mp hreserved with ⟨text, -, rfl⟩ | ⟨text, data, -, -, rfl⟩
      · exact ofJson_toJson_expression text
      · exact ofJson_toJson_bytes data
    | none =>
      -- only a text is read as a text, so what is shown stands for nothing else either
      have hkept : ¬ (object (ofJsonMembers members)).LostInJson := by
        rw [lostInJson_object_iff fun _ _ => ofJsonMembers_eq_singleton_iff.symm, hreserved]
        rintro ⟨n, ⟨⟩⟩
      rw [ofJson, hreserved, Option.getD_none, ofJson_toJson_object hkept, ofJsonMembers_eq_map,
        List.map_map]
      exact congrArg object (List.map_congr_left fun p hp => congrArg (Prod.mk p.1) (ih p hp))

/-- A tree without repeated names is read back from its document, as an equal tree, exactly if no
node within it is lost. What was read from a document is read back as it is. So showing a tree and
reading it a second time changes nothing more. -/
theorem same_ofJson_toJson_iff :
    (∀ n : Node, n.WellFormed →
      ((ofJson n.toJson).same n = true ↔ ∀ m, Within m n → ¬ m.LostInJson)) ∧
    (∀ v : Json, ofJson (ofJson v).toJson = ofJson v) ∧
    ∀ n : Node, ofJson (ofJson n.toJson).toJson = ofJson n.toJson :=
  ⟨fun _ hw => same_iff_throughout hw, ofJson_toJson_ofJson,
    fun n => ofJson_toJson_ofJson n.toJson⟩

/-- A text that is no base64 is kept under the name of bytes, and one that is base64 is not. -/
theorem same_ofJson_toJson_iff_reserved :
    let kept := list [object [("BYTES_VALUE", string "a")], long 0x80000000,
      double 0x8000000000000000]
    let lost := list [object [("BYTES_VALUE", string "aGk=")]]
    kept.WellFormed ∧ lost.WellFormed ∧ (∀ m, Within m kept → ¬ m.LostInJson) ∧
      (ofJson kept.toJson).same kept = true ∧ (ofJson lost.toJson).same lost = false := by
  intro kept lost
  have hkept : kept.WellFormed := by
    simp [kept, WellFormed, WellFormedItems, WellFormedFields, Fields.Distinct, Fields.names]
  have hlost : lost.WellFormed := by
    simp [lost, WellFormed, WellFormedItems, WellFormedFields, Fields.Distinct, Fields.names]
  have hsame : (ofJson kept.toJson).same kept = true := by decide +kernel
  refine ⟨hkept, hlost, (same_ofJson_toJson_iff.1 kept hkept).mp hsame, hsame, ?_⟩
  -- the text is that of the two letters of a greeting
  have hdecode : Text.Base64.decode "aGk=" = .ok [104, 105] := by decide +kernel
  rw [← Bool.not_eq_true, same_ofJson_toJson_iff.1 lost hlost]
  exact fun h => h _ (.item List.mem_cons_self .self) (.bytes hdecode)

end ManagementModel.Node
