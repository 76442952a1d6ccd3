import ManagementModel.Json.Record
import ManagementModel.Proofs.Json.RoundTrip

/-!
# ManagementModel — printed records are read back

A record is read from an object whose members are known beforehand: each name has a field, and the
field reads what is printed for its value. Then the members change the record one after the other,
in the order in which they are printed, and nothing else does. No name comes twice, so no field is
refused for having come before.

What a field has to do is stated for any place in a text (`Takes`): it skips the blanks in front of
the value and stops behind it, whatever follows.

Main results:

* `takes_text`, `takes_flag`, `takes_unsigned`, `takes_null`, `takes_some` — values of known types.
* `takes_record` — a printed object is read as the record that its members make.
* `run_of_takes` — the same for a whole text.
-/

namespace ManagementModel.Json.Reader

open Decimal (digit?_digitChar natChars)

variable {α σ : Type} {spacing : Spacing}

/-- Behind a reader that succeeds, the second one goes on with the rest. -/
theorem bind_of_ok {read : Reader α} {f : α → Reader σ} {s t : List Char} {x : α}
    (h : read s = .ok (x, t)) : (read >>= f) s = f x t := by
  have hbind : (read >>= f) s = (read s).bind fun p => f p.1 p.2 := rfl
  rw [hbind, h]
  rfl

/-! ## Values of a known type -/

/-- A reader takes what is printed for a value, wherever that stands, as `x`. -/
def Takes (spacing : Spacing) (read : (fuel : Nat) → Reader α) (v : Json) (x : α) : Prop :=
  ∀ fuel level blanks rest, (∀ c ∈ blanks, isBlank c = true) → EndsNumber rest →
    (renderAt spacing level v rest).length ≤ fuel →
    read fuel (blanks ++ renderAt spacing level v rest) = .ok (x, rest)

theorem Takes.map {read : Nat → Reader α} {v : Json} {x : α} (f : α → σ)
    (h : Takes spacing read v x) : Takes spacing (fun fuel => f <$> read fuel) v (f x) :=
  fun fuel level blanks rest hb hrest hfuel =>
    map_of_ok f (h fuel level blanks rest hb hrest hfuel)

/-- A text is read back from its quotes. -/
theorem takes_text (s : String) : Takes spacing text (.string s) s := by
  intro fuel level blanks rest hb _ hfuel
  rw [renderAt, quote_append] at hfuel ⊢
  unfold text
  rw [skipBlanks_blanks hb (by decide)]
  exact (stringBody_of_quote (quote_append s rest).symm hfuel).1

/-- A truth value is read back from its word. -/
theorem takes_flag (b : Bool) : Takes spacing flag (.bool b) b := by
  intro fuel level blanks rest hb _ _
  unfold flag
  cases b with
  | true =>
    rw [renderAt, List.cons_append, skipBlanks_blanks hb (by decide)]
    rfl
  | false =>
    rw [renderAt, List.cons_append, skipBlanks_blanks hb (by decide)]
    rfl

/-- The digits of a word are read back as the word. -/
theorem takes_unsigned (n : UInt64) : Takes spacing unsigned (.ofUInt64 n) n := by
  intro fuel level blanks rest hb hrest _
  have hn : n.toNat < 0x10000000000000000 := n.toNat_lt
  have hmax : maxSignificand = 0xffffffffffffffff := rfl
  have hdigit : ∀ d < 10, isBlank (Nat.digitChar d) = false ∧ Nat.digitChar d ≠ '-' := by decide
  obtain ⟨d, more, hd, hcons⟩ := exists_digit_of_natChars n.toNat
  have hread := number_natChars false (by omega : n.toNat ≤ maxSignificand) hrest
  rw [hcons, List.cons_append, wholeNumber, if_neg Bool.false_ne_true, dif_pos hn] at hread
  show unsigned fuel (blanks ++ (natChars n.toNat ++ rest)) = _
  unfold unsigned
  rw [hcons, List.cons_append, skipBlanks_blanks hb (hdigit d hd).1]
  simp only [beq_iff_eq, if_neg (hdigit d hd).2, digit?_digitChar d hd, Option.isSome_some, if_true]
  -- the digits are collected to the number
  rw [bind_of_ok hread]
  -- the digits of a word have no sign
  simp only [wordOf, if_pos (Int.natCast_nonneg _), Int.toNat_natCast, Nat.toUInt64,
    UInt64.ofNat_toNat]

/-- What may be absent is read as absent from null. -/
theorem takes_null (read : Nat → Reader α) :
    Takes spacing (fun fuel => optional (read fuel)) .null none := by
  intro fuel level blanks rest hb _ _
  show optional (read fuel) (blanks ++ 'n' :: 'u' :: 'l' :: 'l' :: rest) = .ok (none, rest)
  unfold optional
  rw [skipBlanks_blanks hb (by decide)]
  rfl

/-- A value that does not begin like null is read as if it could not be absent. -/
theorem takes_some {read : Nat → Reader α} {v : Json} {x : α} {c : Char}
    (h : Takes spacing read v x) (hblank : isBlank c = false) (hnull : c ≠ 'n')
    (hbegins : ∀ level rest, ∃ more, renderAt spacing level v rest = c :: more) :
    Takes spacing (fun fuel => optional (read fuel)) v (some x) := by
  intro fuel level blanks rest hb hrest hfuel
  have hread := h fuel level [] rest (List.forall_mem_nil _) hrest hfuel
  obtain ⟨more, hmore⟩ := hbegins level rest
  rw [List.nil_append, hmore] at hread
  rw [hmore]
  show optional (read fuel) (blanks ++ c :: more) = .ok (some x, rest)
  unfold optional
  rw [skipBlanks_blanks hb hblank]
  -- the first character is not that of null
  simp only [beq_iff_eq, if_neg hnull]
  exact map_of_ok some hread

/-! ## Members -/

section

variable {fields : List (Field σ)} {field : Field σ} {bound rounds : Nat} {seen : List String}
  {isFirst : Bool} {r r' : σ} {name : String} {s t u w x : List Char}

theorem fieldMembers_end (h : nextMember isFirst s = .ok (false, t)) :
    fieldMembers fields bound seen isFirst r (rounds + 1) s = .ok (r, t) := by
  unfold fieldMembers
  rw [bind_of_ok h]
  rfl

/-- A member that has a field, and whose name is new. -/
theorem fieldMembers_next (h : nextMember isFirst s = .ok (true, t))
    (hname : stringBody bound t = .ok (name, u))
    (hfield : fields.find? (·.name == name) = some field) (hnew : name ∉ seen)
    (hcolon : colon u = .ok ((), w)) (hread : field.read bound r w = .ok (r', x)) :
    fieldMembers fields bound seen isFirst r (rounds + 1) s =
      fieldMembers fields bound (name :: seen) false r' rounds x := by
  have hseen : ¬ seen.contains name = true := by simpa using hnew
  -- the name finds its field, and the field reads the value
  rw [fieldMembers, bind_of_ok h, if_pos rfl, bind_of_ok hname, hfield]
  simp only [if_neg hseen]
  rw [bind_of_ok hcolon, bind_of_ok hread]

end

/-- The field of a member's name takes the value, and makes `f r` of a record `r`. -/
def Changes (spacing : Spacing) (fields : List (Field σ)) (p : String × Json) (f : σ → σ) : Prop :=
  ∃ field, fields.find? (·.name == p.1) = some field ∧
    ∀ r, Takes spacing (fun fuel => field.read fuel r) p.2 (f r)

section

variable {fields : List (Field σ)} {bound level : Nat} {blanks : List Char} {seen : List String}
  (hs : spacing.Blank) (hb : ∀ c ∈ blanks, isBlank c = true)

include hs hb

/-- A member, where the text goes on with it and the quote of its name has been taken. -/
theorem fieldMembers_member {name : String} {v : Json} {f : σ → σ}
    (hf : Changes spacing fields (name, v) f) (hnew : name ∉ seen) {vs : List (String × Json)}
    {isFirst : Bool} {s t rest : List Char} (hnext : nextMember isFirst s = .ok (true, t))
    (ht : '"' :: t = quote name ++ ':' :: (spacing.afterColon ++ renderAt spacing level v
      (renderMembers spacing level vs (blanks ++ '\x7d' :: rest))))
    (hlen : t.length < bound) (r : σ) (rounds : Nat) :
    fieldMembers fields bound seen isFirst r (rounds + 1) s =
      fieldMembers fields bound (name :: seen) false (f r) rounds
        (renderMembers spacing level vs (blanks ++ '\x7d' :: rest)) := by
  obtain ⟨field, hfield, hread⟩ := hf
  have hvalue : Takes spacing (fun fuel => field.read fuel r) v (f r) := hread r
  obtain ⟨hname, hbehind⟩ := stringBody_of_quote ht hlen
  simp only [List.length_append, List.length_cons] at hbehind
  refine fieldMembers_next hnext hname hfield hnew (colon_cons _) ?_
  exact hvalue bound level _ _ hs.afterColon (endsNumber_renderMembers hb level vs rest) (by omega)

/-- The members behind those that were seen, and the end of their object. -/
theorem fieldMembers_members {vs : List (String × Json)} {fs : List (σ → σ)}
    (h : List.Forall₂ (Changes spacing fields) vs fs) (hd : Fields.Distinct vs)
    (hnew : ∀ p ∈ vs, p.1 ∉ seen) {rounds : Nat} (hrounds : vs.length < rounds) {rest : List Char}
    (hlen : (renderMembers spacing level vs (blanks ++ '\x7d' :: rest)).length ≤ bound) (r : σ) :
    fieldMembers fields bound seen false r rounds
        (renderMembers spacing level vs (blanks ++ '\x7d' :: rest)) =
      .ok (fs.foldl (fun r f => f r) r, rest) := by
  induction h generalizing seen rounds r with
  | nil =>
    obtain ⟨rounds, rfl⟩ := Nat.exists_eq_add_one_of_ne_zero (Nat.ne_zero_of_lt hrounds)
    rw [renderMembers, fieldMembers_end (nextMember_end hb false rest), List.foldl_nil]
  | @cons p f vs fs hf _ ih =>
    obtain ⟨name, v⟩ := p
    obtain ⟨rounds, rfl⟩ := Nat.exists_eq_add_one_of_ne_zero (Nat.ne_zero_of_lt hrounds)
    obtain ⟨hname, hbehind⟩ := List.forall_mem_cons.mp hnew
    rw [Fields.Distinct, Fields.names, List.map_cons, List.nodup_cons] at hd
    have hvalue :=
      length_le_renderAt spacing v level (renderMembers spacing level vs (blanks ++ '\x7d' :: rest))
    simp only [renderMembers, quote_append, List.length_cons, List.length_append] at hlen
    -- the other names differ from this one, which is seen from now on
    have hnew' : ∀ p ∈ vs, p.1 ∉ name :: seen := by
      intro p hp hmem
      rcases List.mem_cons.mp hmem with heq | hmem
      · exact hd.1 (List.mem_map.mpr ⟨p, hp, heq⟩)
      · exact hbehind p hp hmem
    rw [renderMembers, quote_append, List.foldl_cons]
    rw [fieldMembers_member hs hb hf hname (nextMember_comma (hs.lineBreak level) _)
      (quote_append _ _).symm ?_ r rounds]
    · exact ih hd.2 hnew' (Nat.lt_of_succ_lt_succ hrounds) (by omega) (f r)
    · simp only [List.length_append, List.length_cons]
      omega

end

/-! ## Records -/

/-- A brace opens a record that is given by its names. -/
theorem record_object (expected : String) (fields : List (Field σ)) (r : σ) (fuel : Nat)
    {blanks : List Char} (hb : ∀ c ∈ blanks, isBlank c = true) (rest : List Char) :
    record expected fields r fuel (blanks ++ '\x7b' :: rest) =
      fieldMembers fields fuel [] true r fuel rest := by
  unfold record
  rw [skipBlanks_blanks hb (by decide)]
  rfl

/-- An object is read as the record that its members make of the first one. -/
theorem takes_record (hs : spacing.Blank) {fields : List (Field σ)} {vs : List (String × Json)}
    {fs : List (σ → σ)} (h : List.Forall₂ (Changes spacing fields) vs fs)
    (hd : Fields.Distinct vs) (expected : String) (r : σ) :
    Takes spacing (record expected fields r) (.object vs) (fs.foldl (fun r f => f r) r) := by
  intro fuel level blanks rest hb _ hfuel
  cases h with
  | nil =>
    rw [renderAt, List.length_cons] at hfuel
    obtain ⟨rounds, rfl⟩ : ∃ rounds, fuel = rounds + 1 := ⟨fuel - 1, by omega⟩
    -- no members, and so no changes
    have hend := nextMember_end (List.forall_mem_nil _) true rest
    rw [renderAt, record_object expected fields r _ hb]
    exact fieldMembers_end hend
  | @cons p f vs fs hf htail =>
    obtain ⟨name, v⟩ := p
    rw [Fields.Distinct, Fields.names, List.map_cons, List.nodup_cons] at hd
    -- the text is longer than there are members, and than what stands behind the first name
    have hvalue := length_le_renderAt spacing v (level + 1)
      (renderMembers spacing (level + 1) vs (spacing.lineBreak level ++ '\x7d' :: rest))
    have hcount := length_le_renderMembers spacing vs (level + 1)
      (spacing.lineBreak level ++ '\x7d' :: rest)
    simp only [renderAt, quote_append, List.length_cons, List.length_append] at hfuel hcount
    obtain ⟨rounds, rfl⟩ : ∃ rounds, fuel = rounds + 1 := ⟨fuel - 1, by omega⟩
    have hnew : ∀ p ∈ vs, p.1 ∉ [name] := by
      intro p hp hmem
      exact hd.1 (List.mem_map.mpr ⟨p, hp, List.mem_singleton.mp hmem⟩)
    rw [renderAt, quote_append, record_object expected fields r _ hb, List.foldl_cons]
    rw [fieldMembers_member hs (hs.lineBreak level) hf List.not_mem_nil
      (nextMember_first (hs.lineBreak (level + 1)) _) (quote_append _ _).symm ?_ r rounds]
    · exact fieldMembers_members hs (hs.lineBreak level) htail hd.2 hnew (by omega) (by omega) (f r)
    · simp only [List.length_append, List.length_cons]
      omega

/-- What a reader takes of a printed value is what it makes of the whole text. -/
theorem run_of_takes {read : Nat → Reader α} {v : Json} {x : α} (h : Takes spacing read v x) :
    run read (v.render spacing) = .ok x := by
  have hends : EndsNumber [] := nofun
  have hread := h ((renderAt spacing 0 v []).length + 1) 0 [] [] (List.forall_mem_nil _) hends
    (Nat.le_succ _)
  rw [List.nil_append] at hread
  unfold run render
  simp only [String.toList_ofList, bind_of_ok hread]
  rfl

end ManagementModel.Json.Reader
