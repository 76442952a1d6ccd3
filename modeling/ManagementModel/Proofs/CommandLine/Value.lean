import ManagementModel.CommandLine.Parameter
import ManagementModel.Node.View
import ManagementModel.Proofs.Decimal.Integer
import ManagementModel.Proofs.Json.Distinct
import ManagementModel.Proofs.Node.JsonText
import ManagementModel.Proofs.Sequence
import ManagementModel.Proofs.Text.Blank
import ManagementModel.Proofs.Text.Split

/-!
# ManagementModel — values that are given as they are shown

A value that is shown as a text can be given as the value of a parameter. The kind is then told by
the text alone, and there are four ways to take a text: as a truth value, as JSON, as a whole number
and as a string. A text is taken in one of these ways only, since JSON begins with a bracket here
and a whole number with a sign or a digit. So what was shown is given back as far as its kind can be
told: whole numbers by their size, containers and bytes as far as JSON tells them, and a string only
if no other kind claims it.

Main results:

* `readValue_eq_ok_iff` — what a text is taken for.
* `readParameter_eq_ok_iff` — a parameter by its name and its value.
* `readParameter_shown` — what a value that is shown is read back as.
-/

namespace ManagementModel

/-! ## JSON behind a bracket -/

/-- The text begins with a brace or a bracket. -/
def Json.Bracketed (text : String) : Prop := ∃ c ∈ text.toList.head?, c = '\x7b' ∨ c = '['

/-- The text of a list or an object begins with a bracket or a brace. -/
theorem Json.bracketed_render {spacing : Json.Spacing} {v : Json} (hv : v.isScalar = false) :
    Bracketed (v.render spacing) := by
  unfold Bracketed Json.render
  rw [String.toList_ofList]
  cases v with
  | array items =>
    obtain ⟨more, h⟩ := Json.Reader.exists_renderAt_array items
    rw [h]
    exact ⟨'[', rfl, .inr rfl⟩
  | object members =>
    obtain ⟨more, h⟩ := Json.Reader.exists_renderAt_object members
    rw [h]
    exact ⟨'\x7b', rfl, .inl rfl⟩
  | null | bool | number | string => cases hv

/-- A document is the value that its text begins with. -/
theorem Json.exists_of_parse {text : String} {v : Json} (h : parse text = .ok v) :
    ∃ fuel rest, Reader.value fuel maxNesting text.toList = .ok (v, rest) := by
  unfold parse Reader.run at h
  simp only [bind, StateT.bind] at h
  cases hread : Reader.value (text.toList.length + 1) maxNesting text.toList with
  | error fault =>
    rw [hread] at h
    cases h
  | ok p =>
    -- nothing but blanks may follow, and they add nothing to the value
    obtain ⟨u, rest⟩ := p
    rw [hread] at h
    simp only [Except.bind] at h
    cases hend : Reader.endOfText rest with
    | error fault =>
      rw [hend] at h
      cases h
    | ok q =>
      rw [hend] at h
      cases h
      exact ⟨_, rest, hread⟩

/-- What a reader finds behind a bracket is a list or an object. -/
theorem Json.isScalar_of_parse {text : String} {v : Json} (h : parse text = .ok v)
    (hb : Bracketed text) : v.isScalar = false := by
  obtain ⟨c, hc, hbracket⟩ := hb
  obtain ⟨rest, htext⟩ := List.head?_eq_some_iff.mp hc
  obtain ⟨fuel, behind, hread⟩ := exists_of_parse h
  rw [htext] at hread
  -- the reader goes by the bracket, and all it makes there is a list or an object
  have hcontainer : ∀ {α : Type} {f : α → Json} {read : Reader α},
      (∀ a, (f a).isScalar = false) → (f <$> read) rest = .ok (v, behind) →
        v.isScalar = false := by
    intro α f read hf hmap
    have hyields : Reader.Yields (·.isScalar = false) (f <$> read) :=
      (Reader.yields_true read).map fun a _ => hf a
    exact hyields _ _ _ hmap
  rcases hbracket with rfl | rfl
  · exact hcontainer (fun _ => rfl) hread
  · exact hcontainer (fun _ => rfl) hread

namespace CommandLine

variable {name text : String}

/-! ## The ways to take a text -/

/-- What a text is taken for. -/
inductive Taken (text : String) : Node → Prop
  | asTrue (h : text = "true") : Taken text (.boolean true)
  | asFalse (h : text = "false") : Taken text (.boolean false)
  | asJson {n : Node} (hb : Json.Bracketed text) (h : Node.ofJsonText text = .ok n) : Taken text n
  | asNumber {v : Int64} (h : Decimal.Spells text.toList v.toInt) : Taken text (.ofWhole v.toInt)
  | asString (htrue : text ≠ "true") (hfalse : text ≠ "false") (hb : ¬ Json.Bracketed text)
      (hnumber : ¬ ∃ v, Decimal.int64? text = some v) : Taken text (.string text)

theorem bracketed_iff :
    text.toList.head?.any (fun c => c == '\x7b' || c == '[') = true ↔ Json.Bracketed text := by
  simp only [Option.any_eq_true, Bool.or_eq_true, beq_iff_eq, Json.Bracketed, Option.mem_def]

instance : Decidable (Json.Bracketed text) := decidable_of_iff _ bracketed_iff

/-- JSON is neither of the truth values. -/
theorem ne_of_bracketed (h : Json.Bracketed text) : text ≠ "true" ∧ text ≠ "false" := by
  constructor
  · rintro rfl
    exact absurd h (by decide)
  · rintro rfl
    exact absurd h (by decide)

/-- A whole number is neither a truth value nor JSON. -/
theorem ne_of_spells {v : Int64} (h : Decimal.Spells text.toList v.toInt) :
    text ≠ "true" ∧ text ≠ "false" ∧ ¬ Json.Bracketed text := by
  have hread : Decimal.int64? text = some v := Decimal.int64?_eq_some_iff.mpr h
  refine ⟨?_, ?_, ?_⟩
  · rintro rfl
    cases hread
  · rintro rfl
    cases hread
  · rintro ⟨c, hc, hbrackets⟩
    -- a number begins with a sign or a digit, which is no bracket
    obtain ⟨rest, htext⟩ := List.head?_eq_some_iff.mp hc
    rw [htext] at h
    have hhead := h.cases_head
    rcases hbrackets with rfl | rfl
    · exact absurd hhead (by decide)
    · exact absurd hhead (by decide)

/-- A text is taken in the first way that is open to it, and no two ways are open at once. -/
theorem readValue_eq_ok_iff {n : Node} : readValue name text = .ok n ↔ Taken text n := by
  unfold readValue
  constructor
  · intro h
    -- the ways are tried in this order
    by_cases htrue : text = "true"
    · rw [if_pos htrue] at h
      cases h
      exact .asTrue htrue
    rw [if_neg htrue] at h
    by_cases hfalse : text = "false"
    · rw [if_pos hfalse] at h
      cases h
      exact .asFalse hfalse
    rw [if_neg hfalse] at h
    by_cases hb : Json.Bracketed text
    · rw [if_pos (bracketed_iff.mpr hb)] at h
      exact .asJson hb (mapError_eq_ok_iff.mp h)
    rw [if_neg (mt bracketed_iff.mp hb)] at h
    cases hread : Decimal.int64? text with
    | some v =>
      rw [hread] at h
      cases h
      exact .asNumber (Decimal.int64?_eq_some_iff.mp hread)
    | none =>
      rw [hread] at h
      cases h
      exact .asString htrue hfalse hb (by simp [hread])
  · intro h
    -- a way that is open is the first one, since those before it are not
    cases h with
    | asTrue h => rw [if_pos h]
    | asFalse h =>
      subst h
      rfl
    | asJson hb h =>
      obtain ⟨htrue, hfalse⟩ := ne_of_bracketed hb
      rw [if_neg htrue, if_neg hfalse, if_pos (bracketed_iff.mpr hb), h]
      rfl
    | asNumber h =>
      obtain ⟨htrue, hfalse, hb⟩ := ne_of_spells h
      rw [if_neg htrue, if_neg hfalse, if_neg (mt bracketed_iff.mp hb),
        Decimal.int64?_eq_some_iff.mpr h]
    | asString htrue hfalse hb hnumber =>
      rw [if_neg htrue, if_neg hfalse, if_neg (mt bracketed_iff.mp hb)]
      cases hread : Decimal.int64? text with
      | none => rfl
      | some v => exact absurd ⟨v, hread⟩ hnumber

theorem ofWhole_ne_string (n : Int) (s : String) : Node.ofWhole n ≠ .string s := by
  unfold Node.ofWhole
  split_ifs <;> exact Node.noConfusion

/-- The texts that are taken as strings are those that nothing else claims. -/
theorem taken_string_iff {s : String} : Taken s (.string s) ↔
    s ≠ "true" ∧ s ≠ "false" ∧ (∀ c ∈ s.toList.head?, c ≠ '\x7b' ∧ c ≠ '[') ∧
      ¬ ∃ n, Decimal.Spells s.toList n ∧ -0x8000000000000000 ≤ n ∧ n < 0x8000000000000000 := by
  have hbrackets : (∀ c ∈ s.toList.head?, c ≠ '\x7b' ∧ c ≠ '[') ↔ ¬ Json.Bracketed s := by
    simp only [Json.Bracketed, not_exists, not_and, not_or, ne_eq]
  rw [← Decimal.exists_int64?_iff, hbrackets]
  constructor
  · intro h
    generalize hstring : Node.string s = n at h
    cases h with
    | asTrue | asFalse => cases hstring
    | asNumber => exact absurd hstring.symm (ofWhole_ne_string _ _)
    | asJson hb h =>
      -- what stands behind a bracket is no string
      obtain ⟨v, hv, hshown⟩ := map_eq_ok_iff.mp h
      have hscalar := Json.isScalar_of_parse hv hb
      rw [Node.ofJson_eq_string_iff.mp (hshown.trans hstring.symm)] at hscalar
      cases hscalar
    | asString htrue hfalse hb hnumber => exact ⟨htrue, hfalse, hb, hnumber⟩
  · rintro ⟨htrue, hfalse, hb, hnumber⟩
    exact .asString htrue hfalse hb hnumber

/-! ## Values that are shown -/

theorem taken_boolean (b : Bool) : Taken (Node.boolean b).asString (.boolean b) := by
  cases b with
  | false => exact .asFalse rfl
  | true => exact .asTrue rfl

/-- A long number that is shown is taken for the smallest kind that holds it. -/
theorem taken_long (v : Int64) : Taken (Node.long v).asString
    (if -0x80000000 ≤ v.toInt ∧ v.toInt < 0x80000000 then .int (Int32.ofInt v.toInt)
      else .long v) := by
  -- the reader of JSON takes a whole number for the same kind
  rw [← Node.ofJson_toJson_long]
  refine .asNumber ?_
  rw [Node.asString, String.toList_ofList]
  exact Decimal.spells_intChars _

theorem taken_int (v : Int32) : Taken (Node.int v).asString (.int v) := by
  -- as a long number it is told as the same kind
  have hspells : Decimal.Spells (Node.int v).asString.toList v.toInt64.toInt := by
    rw [Node.asString, String.toList_ofList, Int32.toInt_toInt64]
    exact Decimal.spells_intChars _
  have htaken : Taken (Node.int v).asString (.ofWhole v.toInt64.toInt) := .asNumber hspells
  rwa [show Node.ofWhole v.toInt64.toInt = .int v from Node.ofJson_toJson_int v] at htaken

/-- Containers and bytes are shown as JSON, and read as what their document tells. -/
theorem taken_document {n : Node} (hkind : n.kind ∈ [.list, .object, .property, .bytes])
    (hw : n.WellFormed) (hd : n.DoubleFree) (hfits : n.toJson.nesting ≤ 127) :
    Taken n.asString (.ofJson n.toJson) := by
  -- these kinds are shown by their documents, and no such document is a scalar
  have hshown : n.asString = n.compactJson ∧ n.toJson.isScalar = false := by
    cases n with
    | list | object | property | bytes => exact ⟨rfl, rfl⟩
    | _ => simp [Node.kind] at hkind
  rw [hshown.1]
  refine .asJson (Json.bracketed_render hshown.2) ?_
  exact (Node.ofJsonText_of_double_free hw hd (.inl rfl)).1 hfits

/-- A parameter has the name and the value that its text gives. -/
theorem readParameter_eq_ok_iff (hname : '=' ∉ name.toList)
    (hvisible : ∃ c ∈ name.toList, Text.isBlankChar c = false) {n : Node} :
    readParameter (name ++ "=" ++ text) = .ok (Text.trim name, n) ↔ Taken text n := by
  have htext : (name ++ "=" ++ text).toList = name.toList ++ '=' :: text.toList := by
    simp [String.toList_append]
  -- the name has a visible character, so it is not empty once it is trimmed
  have hempty : (Text.trim name).isEmpty = false := by
    have hne := Text.trimChars_ne_nil hvisible
    rw [Text.trim, Bool.eq_false_iff, ne_eq, String.isEmpty_iff]
    exact fun h => hne (String.ofList_inj.mp h)
  -- the first equals sign ends the name, and what follows it is the value
  have hread : readParameter (name ++ "=" ++ text) =
      (readValue (Text.trim name) text).map (Text.trim name, ·) := by
    unfold readParameter
    rw [htext, Text.dropWhile_append_cons _ hname, Text.takeWhile_append_cons _ hname]
    show (if (Text.trim name).isEmpty = true then _ else _) = _
    rw [hempty, String.ofList_toList]
    rfl
  rw [hread, map_eq_ok_iff, ← readValue_eq_ok_iff]
  constructor
  · rintro ⟨m, hm, heq⟩
    rwa [← (Prod.mk.inj heq).2]
  · exact fun h => ⟨n, h, rfl⟩

/-- What a value that is shown is read back as, behind any name: a truth value as itself, a whole
number as the smallest kind that holds it, a container or bytes as what JSON tells of them, and a
string as itself if it is none of these. -/
theorem readParameter_shown {name : String} (hname : '=' ∉ name.toList)
    (hvisible : ∃ c ∈ name.toList, Text.isBlankChar c = false) :
    let Reads := fun n m : Node =>
      readParameter (name ++ "=" ++ n.asString) = .ok (Text.trim name, m)
    (∀ b, Reads (.boolean b) (.boolean b)) ∧
    (∀ v, Reads (.int v) (.int v)) ∧
    (∀ v : Int64, Reads (.long v)
      (if -0x80000000 ≤ v.toInt ∧ v.toInt < 0x80000000 then .int (Int32.ofInt v.toInt)
        else .long v)) ∧
    (∀ n : Node, n.kind ∈ [.list, .object, .property, .bytes] → n.WellFormed → n.DoubleFree →
      n.toJson.nesting ≤ 127 → Reads n (.ofJson n.toJson)) ∧
    (∀ s, Reads (.string s) (.string s) ↔
      s ≠ "true" ∧ s ≠ "false" ∧ (∀ c ∈ s.toList.head?, c ≠ '\x7b' ∧ c ≠ '[') ∧
      ¬ ∃ n : Int, Decimal.Spells s.toList n ∧
        -0x8000000000000000 ≤ n ∧ n < 0x8000000000000000) := by
  intro Reads
  have hreads : ∀ {n m}, Reads n m ↔ Taken n.asString m := readParameter_eq_ok_iff hname hvisible
  refine ⟨fun b => hreads.mpr (taken_boolean b), fun v => hreads.mpr (taken_int v),
    fun v => hreads.mpr (taken_long v), ?_, fun s => ?_⟩
  · intro n hkind hw hd hfits
    exact hreads.mpr (taken_document hkind hw hd hfits)
  · exact hreads.trans taken_string_iff

set_option maxRecDepth 4000 in
/-- Behind a name with blanks around it: a small number is told as the smaller kind, a property as
an object, and a string of digits is taken for a number. -/
theorem readParameter_shown_size :
    let given := fun n : Node => readParameter (" size " ++ "=" ++ n.asString)
    given (.long (-5)) = .ok ("size", .int (-5)) ∧
      given (.property "a" (.bytes [1])) = .ok ("size", .object [("a", .bytes [1])]) ∧
      given (.string "+007") ≠ .ok ("size", .string "+007") ∧
      given (.string "9223372036854775808") = .ok ("size", .string "9223372036854775808") := by
  intro given
  have hname : Text.trim " size " = "size" := by decide +kernel
  obtain ⟨-, -, hlong, hdocument, hstring⟩ :=
    @readParameter_shown " size " (by decide) ⟨'s', by decide, by decide⟩
  rw [hname] at hlong hdocument hstring
  refine ⟨hlong (-5), ?_, ?_, ?_⟩
  · have hw : (Node.property "a" (.bytes [1])).WellFormed := trivial
    have hd : (Node.property "a" (.bytes [1])).DoubleFree :=
      Node.doubleFree_property_iff.mpr (Node.doubleFree_scalar rfl (by decide))
    exact hdocument _ (by decide) hw hd (by decide +kernel)
  · intro h
    exact ((hstring "+007").mp h).2.2.2 (Decimal.exists_int64?_iff.mp ⟨7, rfl⟩)
  · -- one more than the largest word with a sign
    have hbeyond : Decimal.int64? "9223372036854775808" = none := rfl
    have hfirst : "9223372036854775808".toList.head? = some '9' := rfl
    refine (hstring _).mpr ⟨by decide, by decide, ?_, fun h => ?_⟩
    · intro c hc
      obtain rfl := Option.some.inj (hfirst.symm.trans hc)
      decide
    obtain ⟨v, hv⟩ := Decimal.exists_int64?_iff.mpr h
    rw [hbeyond] at hv
    cases hv

end CommandLine

end ManagementModel
