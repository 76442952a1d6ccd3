import ManagementModel.Proofs.Fields
import ManagementModel.Proofs.Json.Induction
import ManagementModel.Proofs.Json.Words
import ManagementModel.Proofs.Text.Split

/-!
# ManagementModel — printed documents are read back

A document is read back from its text as long as no more than 127 containers are open at once; the
printer knows no such limit. In a deeper document everything up to the container that is one too
many is read, and that this container cannot be opened is all that is ever wrong with the text.

Both are one statement about each part of a document (`Answers`): what is read is the part if it
fits into the levels that are left, and the fault of the limit otherwise. A container fits if all of
its parts do, so that its answer is put together of theirs. Layouts differ only in the blanks
between the parts, which the reader skips.

Main results:

* `answers_value` — the reader of some levels on a part of a printed document.
* `parse_render`, `parse_render_deep` — the same for a whole text.
-/

namespace ManagementModel.Json

/-- A layout puts nothing but blanks between the parts of a document. -/
structure Spacing.Blank (spacing : Spacing) : Prop where
  lineBreak : ∀ level, ∀ c ∈ spacing.lineBreak level, Reader.isBlank c = true
  afterColon : ∀ c ∈ spacing.afterColon, Reader.isBlank c = true

theorem Spacing.blank_compact : Spacing.compact.Blank :=
  ⟨nofun, nofun⟩

/-- Indented, line breaks and spaces stand between the parts. -/
theorem Spacing.blank_pretty : Spacing.pretty.Blank := by
  constructor
  · intro level c hc
    rcases List.mem_cons.mp hc with rfl | hc
    · rfl
    · rw [List.eq_of_mem_replicate hc]
      rfl
  · intro c hc
    rw [List.mem_singleton.mp hc]
    rfl

/-- Documents that their text tells exactly: the numbers are whole, and no name stands twice in an
object. -/
inductive Exact : Json → Prop
  | null : Exact null
  | bool (value : Bool) : Exact (bool value)
  | whole {n : Int} (h : -0x8000000000000000 ≤ n ∧ n < 0x10000000000000000) :
    Exact (number (.whole n h))
  | string (text : String) : Exact (string text)
  | array {items : List Json} (h : ∀ item ∈ items, Exact item) : Exact (array items)
  | object {members : List (String × Json)} (hd : Fields.Distinct members)
    (h : ∀ p ∈ members, Exact p.2) : Exact (object members)

/-! ## Texts of the parts -/

section

variable {spacing : Spacing}

/-- What follows the items stands behind their text, if that is so for each item. -/
theorem renderItems_append {items : List Json} (h : ∀ item ∈ items, ∀ level rest,
      renderAt spacing level item rest = renderAt spacing level item [] ++ rest)
    (level : Nat) (rest : List Char) :
    renderItems spacing level items rest = renderItems spacing level items [] ++ rest := by
  induction items with
  | nil => rw [renderItems, renderItems, List.nil_append]
  | cons item items ih =>
    obtain ⟨hitem, hitems⟩ := List.forall_mem_cons.mp h
    rw [renderItems, renderItems, hitem, ih hitems,
      hitem level (renderItems spacing level items [])]
    simp only [List.cons_append, List.append_assoc]

/-- What follows the members stands behind their text, if that is so for each value. -/
theorem renderMembers_append {members : List (String × Json)} (h : ∀ p ∈ members, ∀ level rest,
      renderAt spacing level p.2 rest = renderAt spacing level p.2 [] ++ rest)
    (level : Nat) (rest : List Char) :
    renderMembers spacing level members rest = renderMembers spacing level members [] ++ rest := by
  induction members with
  | nil => rw [renderMembers, renderMembers, List.nil_append]
  | cons p members ih =>
    obtain ⟨hp, hmembers⟩ := List.forall_mem_cons.mp h
    rw [renderMembers, renderMembers, hp, ih hmembers,
      hp level (renderMembers spacing level members [])]
    simp only [List.cons_append, List.append_assoc]

/-- What follows a value stands behind its text. -/
theorem renderAt_append (v : Json) (level : Nat) (rest : List Char) :
    renderAt spacing level v rest = renderAt spacing level v [] ++ rest := by
  induction v using Json.induct generalizing level rest with
  | scalar v hv =>
    cases v with
    | array | object => cases hv
    | bool value => cases value <;> simp only [renderAt, List.append_nil]
    | _ => simp only [renderAt, List.append_nil]
  | array items ih =>
    cases items with
    | nil => simp only [renderAt, List.cons_append, List.nil_append]
    | cons item items =>
      obtain ⟨hitem, hitems⟩ := List.forall_mem_cons.mp ih
      -- the first item, the others and the closing bracket stand behind each other
      rw [renderAt, renderAt, hitem, renderItems_append hitems,
        hitem (level + 1) (renderItems _ _ _ (_ ++ [_])), renderItems_append hitems _ (_ ++ [_])]
      simp only [List.cons_append, List.append_assoc, List.nil_append]
  | object members ih =>
    cases members with
    | nil => simp only [renderAt, List.cons_append, List.nil_append]
    | cons p members =>
      obtain ⟨hp, hmembers⟩ := List.forall_mem_cons.mp ih
      rw [renderAt, renderAt, hp, renderMembers_append hmembers,
        hp (level + 1) (renderMembers _ _ _ (_ ++ [_])),
        renderMembers_append hmembers _ (_ ++ [_])]
      simp only [List.cons_append, List.append_assoc, List.nil_append]

end

namespace Reader

/-- What reading leads to where a printed part fits, and where it does not. -/
structure Answers {α : Type} (fits : Prop) (v : α) (rest : List Char)
    (answer : Except Fault (α × List Char)) : Prop where
  read : fits → answer = .ok (v, rest)
  fault : ¬ fits → ∃ behind, answer = .error ⟨.recursionLimit, behind⟩

theorem Answers.of_ok {α : Type} {fits : Prop} {v : α} {rest : List Char}
    {answer : Except Fault (α × List Char)} (hfits : fits) (hread : answer = .ok (v, rest)) :
    Answers fits v rest answer :=
  ⟨fun _ => hread, fun hnot => absurd hfits hnot⟩

/-- Whether a part fits may be described in another way. -/
theorem Answers.congr {α : Type} {p q : Prop} {v : α} {rest : List Char}
    {answer : Except Fault (α × List Char)} (h : Answers p v rest answer) (hpq : p ↔ q) :
    Answers q v rest answer :=
  ⟨fun hq => h.read (hpq.mpr hq), fun hq => h.fault (mt hpq.mp hq)⟩

theorem Answers.map {α β : Type} {fits : Prop} {v : α} {s rest : List Char} {read : Reader α}
    (f : α → β) (h : Answers fits v rest (read s)) : Answers fits (f v) rest ((f <$> read) s) := by
  refine ⟨fun hfits => map_of_ok f (h.read hfits), fun hnot => ?_⟩
  obtain ⟨behind, hfault⟩ := h.fault hnot
  have hmap : (f <$> read) s = (read s).bind fun p => .ok (f p.1, p.2) := rfl
  exact ⟨behind, by rw [hmap, hfault]; rfl⟩

/-! ## Blanks -/

/-- All blanks in front are skipped. -/
theorem skipBlanks_append {blanks : List Char} (hb : ∀ c ∈ blanks, isBlank c = true)
    (s : List Char) : skipBlanks (blanks ++ s) = skipBlanks s :=
  List.dropWhile_append_of_pos hb

theorem skipBlanks_cons {c : Char} (hc : isBlank c = false) (rest : List Char) :
    skipBlanks (c :: rest) = c :: rest :=
  List.dropWhile_cons_of_neg (by simp [hc])

/-- Blanks are skipped up to the first character that is none. -/
theorem skipBlanks_blanks {blanks : List Char} (hb : ∀ c ∈ blanks, isBlank c = true) {c : Char}
    (hc : isBlank c = false) (rest : List Char) :
    skipBlanks (blanks ++ c :: rest) = c :: rest := by
  rw [skipBlanks_append hb, skipBlanks_cons hc]

/-- Neither a blank nor a sign between the parts goes on with a number. -/
theorem endsNumber_of_blank {blanks : List Char} (hb : ∀ c ∈ blanks, isBlank c = true) {c : Char}
    (hc : c ∈ [',', ']', '\x7d']) (rest : List Char) : EndsNumber (blanks ++ c :: rest) := by
  have hends : ∀ d, isBlank d = true ∨ d ∈ [',', ']', '\x7d'] →
      Decimal.digit? d = none ∧ d ≠ '.' ∧ d ≠ 'e' ∧ d ≠ 'E' := by
    intro d hd
    simp only [isBlank, Bool.or_eq_true, beq_iff_eq, List.mem_cons, List.not_mem_nil,
      or_false] at hd
    -- neither a blank nor one of the three signs
    rcases hd with ((((rfl | rfl) | rfl) | rfl) | rfl | rfl | rfl) <;> decide
  intro d hd
  cases blanks with
  | nil =>
    cases hd
    exact hends _ (.inr hc)
  | cons b blanks =>
    cases hd
    exact hends _ (.inl (hb _ List.mem_cons_self))

/-! ## Steps of the readers -/

/-- What an item of a list begins with is neither a blank nor the end of the list. -/
def BeginsItem (s : List Char) : Prop :=
  ∃ c rest, s = c :: rest ∧ isBlank c = false ∧ c ≠ ']'

section

variable {blanks : List Char} (hb : ∀ c ∈ blanks, isBlank c = true)

include hb

/-- Blanks in front of a value do not count. -/
theorem value_blanks (fuel levels : Nat) (s : List Char) :
    value fuel levels (blanks ++ s) = value fuel levels s := by
  cases levels <;> simp only [value, skipBlanks_append hb]

theorem nextItem_end (isFirst : Bool) (rest : List Char) :
    nextItem isFirst (blanks ++ ']' :: rest) = .ok (false, rest) := by
  rw [nextItem, skipBlanks_blanks hb (by decide)]
  rfl

theorem nextItem_first {s : List Char} (hs : BeginsItem s) :
    nextItem true (blanks ++ s) = .ok (true, s) := by
  obtain ⟨c, rest, rfl, hc, hend⟩ := hs
  rw [nextItem, skipBlanks_blanks hb hc]
  simp [hend]

theorem nextItem_comma {s : List Char} (hs : BeginsItem s) :
    nextItem false (',' :: (blanks ++ s)) = .ok (true, s) := by
  obtain ⟨c, rest, rfl, hc, hend⟩ := hs
  rw [nextItem, skipBlanks_cons (by decide)]
  simp [skipBlanks_blanks hb hc, hend]

theorem nextMember_end (isFirst : Bool) (rest : List Char) :
    nextMember isFirst (blanks ++ '\x7d' :: rest) = .ok (false, rest) := by
  rw [nextMember, skipBlanks_blanks hb (by decide)]
  rfl

/-- The first member stands behind blanks; the quote of its name is taken. -/
theorem nextMember_first (rest : List Char) :
    nextMember true (blanks ++ '"' :: rest) = .ok (true, rest) := by
  rw [nextMember, skipBlanks_blanks hb (by decide)]
  rfl

theorem nextMember_comma (rest : List Char) :
    nextMember false (',' :: (blanks ++ '"' :: rest)) = .ok (true, rest) := by
  rw [nextMember, skipBlanks_cons (by decide)]
  simp [skipBlanks_blanks hb (by decide : isBlank '"' = false)]

end

/-- What begins with neither a bracket nor a brace is a value without parts. -/
theorem value_scalar (fuel levels : Nat) {c : Char} (hc : isBlank c = false) (harray : c ≠ '[')
    (hobject : c ≠ '\x7b') (rest : List Char) :
    value fuel levels (c :: rest) = scalar fuel c rest := by
  cases levels <;> simp [value, skipBlanks_cons hc, harray, hobject]

/-- The container that is one too many. -/
theorem answers_too_deep (fuel : Nat) {c : Char} (hc : c = '[' ∨ c = '\x7b') {v : Json}
    (hv : v.isScalar = false) (rest more : List Char) :
    Answers (v.nesting ≤ 0) v rest (value fuel 0 (c :: more)) := by
  have hnot : ¬ v.nesting ≤ 0 := by
    cases v with
    | array items => exact Nat.not_succ_le_zero _
    | object members => exact Nat.not_succ_le_zero _
    | _ => cases hv
  refine ⟨fun h => absurd h hnot, fun _ => ?_⟩
  rcases hc with rfl | rfl
  · exact ⟨_, rfl⟩
  · exact ⟨_, rfl⟩

theorem value_array (fuel levels : Nat) (rest : List Char) :
    value fuel (levels + 1) ('[' :: rest) =
      (Json.array <$> items (value fuel levels) true [] fuel) rest :=
  rfl

theorem value_object (fuel levels : Nat) (rest : List Char) :
    value fuel (levels + 1) ('\x7b' :: rest) =
      (Json.object <$> members (value fuel levels) fuel true [] fuel) rest :=
  rfl

/-! ## Items -/

section

variable {α : Type} {item : Reader α} {isFirst : Bool} {s t rest : List Char} {fuel : Nat}

theorem items_end (item : Reader α) (fuel : Nat) (acc : List α)
    (h : nextItem isFirst s = .ok (false, t)) :
    items item isFirst acc (fuel + 1) s = .ok (acc.reverse, t) := by
  rw [items]
  simp only [h]

/-- The items from one on: the answer for this item, and then that for the others. -/
theorem items_next {acc vs : List α} {v : α} {p q : Prop} (h : nextItem isFirst s = .ok (true, t))
    {u : List Char} (hitem : Answers p v u (item t))
    (hitems : Answers q vs rest (items item false (v :: acc) fuel u)) :
    Answers (p ∧ q) vs rest (items item isFirst acc (fuel + 1) s) := by
  rw [items]
  simp only [h]
  by_cases hp : p
  · -- the item is read, so the answer is that for the others
    rw [hitem.read hp]
    exact hitems.congr (and_iff_right hp).symm
  · -- the item is too deep, and nothing behind it is looked at
    obtain ⟨behind, hfault⟩ := hitem.fault hp
    rw [hfault]
    exact ⟨fun hpq => absurd hpq.1 hp, fun _ => ⟨behind, rfl⟩⟩

theorem members_end (item : Reader α) (bound fuel : Nat) (acc : Fields α)
    (h : nextMember isFirst s = .ok (false, t)) :
    members item bound isFirst acc (fuel + 1) s = .ok (acc, t) := by
  rw [members]
  simp only [h]

/-- The members from one on: the name, the answer for the value, and then that for the others. -/
theorem members_next {bound : Nat} {acc all : Fields α} {name : String} {v : α} {p q : Prop}
    (h : nextMember isFirst s = .ok (true, t)) {u w : List Char}
    (hname : stringBody bound t = .ok (name, u)) (hcolon : colon u = .ok ((), w)) {x : List Char}
    (hitem : Answers p v x (item w))
    (hmembers : Answers q all rest (members item bound false (Fields.insert name v acc) fuel x)) :
    Answers (p ∧ q) all rest (members item bound isFirst acc (fuel + 1) s) := by
  have hbody : memberBody item bound t = (item w).bind fun p => .ok ((name, p.1), p.2) := by
    simp only [memberBody, bind, StateT.bind, hname, hcolon, Except.bind]
    rfl
  rw [members]
  simp only [h, hbody]
  by_cases hp : p
  · rw [hitem.read hp]
    exact hmembers.congr (and_iff_right hp).symm
  · obtain ⟨behind, hfault⟩ := hitem.fault hp
    rw [hfault]
    exact ⟨fun hpq => absurd hpq.1 hp, fun _ => ⟨behind, rfl⟩⟩

end

theorem colon_cons (rest : List Char) : colon (':' :: rest) = .ok ((), rest) :=
  rfl

/-! ## What a part of a document begins with, and how long it is -/

section

variable {spacing : Spacing} {level : Nat} {rest : List Char}

theorem exists_renderAt_array (items : List Json) :
    ∃ more, renderAt spacing level (array items) rest = '[' :: more := by
  cases items with
  | nil => exact ⟨_, rfl⟩
  | cons item items => exact ⟨_, by rw [renderAt]⟩

theorem exists_renderAt_object (members : List (String × Json)) :
    ∃ more, renderAt spacing level (object members) rest = '\x7b' :: more := by
  cases members with
  | nil => exact ⟨_, rfl⟩
  | cons p members => exact ⟨_, by rw [renderAt]⟩

/-- The text of a value begins with neither a blank nor a closing bracket. -/
theorem beginsItem_renderAt {v : Json} (hv : v.Exact) :
    BeginsItem (renderAt spacing level v rest) := by
  cases hv with
  | null => exact ⟨'n', _, rfl, by decide, by decide⟩
  | bool value =>
    cases value
    · exact ⟨'f', _, rfl, by decide, by decide⟩
    · exact ⟨'t', _, rfl, by decide, by decide⟩
  | @whole n h =>
    rw [renderAt, Number.chars]
    cases n with
    | ofNat n =>
      -- a number begins with its first digit or with its sign
      have hdigit : ∀ d < 10, isBlank (Nat.digitChar d) = false ∧ Nat.digitChar d ≠ ']' := by decide
      obtain ⟨d, more, hd, hcons⟩ := exists_digit_of_natChars n
      exact ⟨_, more ++ rest, by rw [Decimal.intChars, hcons, List.cons_append], hdigit d hd⟩
    | negSucc n => exact ⟨'-', _, rfl, by decide, by decide⟩
  | string text => exact ⟨'"', _, rfl, by decide, by decide⟩
  | @array items =>
    obtain ⟨more, htext⟩ := exists_renderAt_array items
    exact ⟨'[', more, htext, by decide, by decide⟩
  | @object members =>
    obtain ⟨more, htext⟩ := exists_renderAt_object members
    exact ⟨'\x7b', more, htext, by decide, by decide⟩

/-- The text of a value is as long at least as what follows it. -/
theorem length_le_renderAt (spacing : Spacing) (v : Json) (level : Nat) (rest : List Char) :
    rest.length ≤ (renderAt spacing level v rest).length := by
  rw [renderAt_append, List.length_append]
  omega

/-- Each item takes a character, its comma. -/
theorem length_le_renderItems (spacing : Spacing) (items : List Json) (level : Nat)
    (rest : List Char) :
    items.length + rest.length ≤ (renderItems spacing level items rest).length := by
  induction items with
  | nil => simp only [renderItems, List.length_nil, Nat.zero_add, Nat.le_refl]
  | cons item items ih =>
    have h := length_le_renderAt spacing item level (renderItems spacing level items rest)
    simp only [renderItems, List.length_cons, List.length_append]
    omega

/-- Each member takes a character, its comma. -/
theorem length_le_renderMembers (spacing : Spacing) (members : List (String × Json)) (level : Nat)
    (rest : List Char) :
    members.length + rest.length ≤ (renderMembers spacing level members rest).length := by
  induction members with
  | nil => simp only [renderMembers, List.length_nil, Nat.zero_add, Nat.le_refl]
  | cons p members ih =>
    have h := length_le_renderAt spacing p.2 level (renderMembers spacing level members rest)
    simp only [renderMembers, List.length_cons, List.length_append]
    omega

/-- Each character of a string takes one or more. -/
theorem length_le_escape (s : List Char) : s.length ≤ (s.flatMap escape).length := by
  induction s with
  | nil => exact Nat.le_refl _
  | cons c s ih =>
    have hc : 1 ≤ (escape c).length := by
      simp only [escape]
      repeat' split
      all_goals simp
    simp only [List.flatMap_cons, List.length_append, List.length_cons]
    omega

/-- A printed string, whose quote has been taken, is read if the rounds are enough for its text, and
then they are enough for what follows. -/
theorem stringBody_of_quote {s : String} {t : List Char} (ht : '"' :: t = quote s ++ rest)
    {fuel : Nat} (hlen : t.length < fuel) :
    stringBody fuel t = .ok (s, rest) ∧ rest.length < fuel := by
  rw [quote_append, List.cons.injEq] at ht
  obtain ⟨-, rfl⟩ := ht
  -- the characters of the string all stand in the text
  have hescape := length_le_escape s.toList
  simp only [List.length_append, List.length_cons] at hlen
  exact ⟨stringBody_quote s rest (by omega), by omega⟩

end

/-! ## Whole documents -/

section

variable {spacing : Spacing} (hs : spacing.Blank) {fuel levels : Nat}

/-- The answer for a value, wherever it is printed in a text that the rounds are enough for. -/
def Answered (spacing : Spacing) (fuel levels : Nat) (v : Json) : Prop :=
  ∀ level rest, EndsNumber rest → (renderAt spacing level v rest).length ≤ fuel →
    Answers (v.nesting ≤ levels) v rest (value fuel levels (renderAt spacing level v rest))

/-- The text behind a value in a container does not go on with a number. -/
theorem endsNumber_renderItems {blanks : List Char} (hb : ∀ c ∈ blanks, isBlank c = true)
    (level : Nat) (items : List Json) (rest : List Char) :
    EndsNumber (renderItems spacing level items (blanks ++ ']' :: rest)) := by
  cases items with
  | nil =>
    rw [renderItems]
    exact endsNumber_of_blank hb (by decide) rest
  | cons item items =>
    rw [renderItems]
    exact endsNumber_of_blank (List.forall_mem_nil _) (by decide) _

/-- The text behind a value in an object does not go on with a number. -/
theorem endsNumber_renderMembers {blanks : List Char} (hb : ∀ c ∈ blanks, isBlank c = true)
    (level : Nat) (members : List (String × Json)) (rest : List Char) :
    EndsNumber (renderMembers spacing level members (blanks ++ '\x7d' :: rest)) := by
  cases members with
  | nil =>
    rw [renderMembers]
    exact endsNumber_of_blank hb (by decide) rest
  | cons p members =>
    rw [renderMembers]
    exact endsNumber_of_blank (List.forall_mem_nil _) (by decide) _

/-- The items from one on, where the text goes on with an item. -/
theorem answers_item {level : Nat} {v : Json} {vs : List Json} (hv : Answered spacing fuel levels v)
    {blanks rest : List Char} (hb : ∀ c ∈ blanks, isBlank c = true) {isFirst : Bool} {s : List Char}
    (hnext : nextItem isFirst s = .ok (true, renderAt spacing level v
      (renderItems spacing level vs (blanks ++ ']' :: rest))))
    (hlen : (renderAt spacing level v
      (renderItems spacing level vs (blanks ++ ']' :: rest))).length ≤ fuel)
    {acc : List Json} {rounds : Nat}
    (hitems : Answers (nestingItems vs ≤ levels) ((v :: acc).reverse ++ vs) rest
      (items (value fuel levels) false (v :: acc) rounds
        (renderItems spacing level vs (blanks ++ ']' :: rest)))) :
    Answers (nestingItems (v :: vs) ≤ levels) (acc.reverse ++ v :: vs) rest
      (items (value fuel levels) isFirst acc (rounds + 1) s) := by
  have hitem := hv level _ (endsNumber_renderItems hb level vs rest) hlen
  rw [List.reverse_cons, List.append_assoc, List.singleton_append] at hitems
  -- the deepest of the items is the first one or one of the others
  refine (items_next hnext hitem hitems).congr ?_
  rw [nestingItems, Nat.max_le]

/-- The members from one on, where the text goes on with a member, whose quote has been taken. -/
theorem answers_member (hs : spacing.Blank) {level : Nat} {name : String} {v : Json}
    {vs : List (String × Json)} (hv : Answered spacing fuel levels v) {blanks rest : List Char}
    (hb : ∀ c ∈ blanks, isBlank c = true) {isFirst : Bool} {s t : List Char}
    (hnext : nextMember isFirst s = .ok (true, t))
    (ht : '"' :: t = quote name ++ ':' :: (spacing.afterColon ++ renderAt spacing level v
      (renderMembers spacing level vs (blanks ++ '\x7d' :: rest))))
    (hlen : t.length < fuel) {acc : Fields Json} (hname : name ∉ Fields.names acc) {rounds : Nat}
    (hmembers : Answers (nestingMembers vs ≤ levels) ((acc ++ [(name, v)]) ++ vs) rest
      (members (value fuel levels) fuel false (acc ++ [(name, v)]) rounds
        (renderMembers spacing level vs (blanks ++ '\x7d' :: rest)))) :
    Answers (nestingMembers ((name, v) :: vs) ≤ levels) (acc ++ (name, v) :: vs) rest
      (members (value fuel levels) fuel isFirst acc (rounds + 1) s) := by
  obtain ⟨hread, hbehind⟩ := stringBody_of_quote ht hlen
  simp only [List.length_append, List.length_cons] at hbehind
  have hitem := hv level (renderMembers spacing level vs (blanks ++ '\x7d' :: rest))
    (endsNumber_renderMembers hb level vs rest) (by omega)
  rw [← value_blanks hs.afterColon fuel levels] at hitem
  -- the name is new, so the member is kept behind those before it
  rw [List.append_assoc, List.singleton_append, ← Fields.insert_eq_append hname] at hmembers
  refine (members_next hnext hread (colon_cons _) hitem hmembers).congr ?_
  rw [nestingMembers, Nat.max_le]

include hs

/-- The items behind those of `acc`, and the end of their list. -/
theorem answers_items {level : Nat} {vs : List Json} (hv : ∀ v ∈ vs, v.Exact)
    (ih : ∀ v ∈ vs, Answered spacing fuel levels v) {blanks : List Char}
    (hb : ∀ c ∈ blanks, isBlank c = true) (acc : List Json) {rounds : Nat}
    (hrounds : vs.length < rounds) {rest : List Char}
    (hlen : (renderItems spacing level vs (blanks ++ ']' :: rest)).length ≤ fuel) :
    Answers (nestingItems vs ≤ levels) (acc.reverse ++ vs) rest
      (items (value fuel levels) false acc rounds
        (renderItems spacing level vs (blanks ++ ']' :: rest))) := by
  induction vs generalizing acc rounds with
  | nil =>
    obtain ⟨rounds, rfl⟩ := Nat.exists_eq_add_one_of_ne_zero (Nat.ne_zero_of_lt hrounds)
    rw [renderItems, items_end _ rounds acc (nextItem_end hb false rest), List.append_nil]
    exact .of_ok (Nat.zero_le _) rfl
  | cons v vs ihvs =>
    obtain ⟨rounds, rfl⟩ := Nat.exists_eq_add_one_of_ne_zero (Nat.ne_zero_of_lt hrounds)
    obtain ⟨hvhead, hvtail⟩ := List.forall_mem_cons.mp hv
    obtain ⟨ihhead, ihtail⟩ := List.forall_mem_cons.mp ih
    have hbehind :=
      length_le_renderAt spacing v level (renderItems spacing level vs (blanks ++ ']' :: rest))
    simp only [renderItems, List.length_cons, List.length_append] at hlen
    -- one round less is left for one item less
    have hitems := ihvs hvtail ihtail (v :: acc) (Nat.lt_of_succ_lt_succ hrounds) (by omega)
    rw [renderItems]
    exact answers_item ihhead hb (nextItem_comma (hs.lineBreak level) (beginsItem_renderAt hvhead))
      (by omega) hitems

/-- The members behind those of `acc`, and the end of their object. -/
theorem answers_members {level : Nat} {vs : List (String × Json)}
    (ih : ∀ p ∈ vs, Answered spacing fuel levels p.2) {blanks : List Char}
    (hb : ∀ c ∈ blanks, isBlank c = true) {acc : Fields Json} (hd : Fields.Distinct (acc ++ vs))
    {rounds : Nat} (hrounds : vs.length < rounds) {rest : List Char}
    (hlen : (renderMembers spacing level vs (blanks ++ '\x7d' :: rest)).length ≤ fuel) :
    Answers (nestingMembers vs ≤ levels) (acc ++ vs) rest
      (members (value fuel levels) fuel false acc rounds
        (renderMembers spacing level vs (blanks ++ '\x7d' :: rest))) := by
  induction vs generalizing acc rounds with
  | nil =>
    obtain ⟨rounds, rfl⟩ := Nat.exists_eq_add_one_of_ne_zero (Nat.ne_zero_of_lt hrounds)
    rw [renderMembers, members_end _ _ rounds acc (nextMember_end hb false rest), List.append_nil]
    exact .of_ok (Nat.zero_le _) rfl
  | cons p vs ihvs =>
    obtain ⟨name, v⟩ := p
    obtain ⟨rounds, rfl⟩ := Nat.exists_eq_add_one_of_ne_zero (Nat.ne_zero_of_lt hrounds)
    obtain ⟨ihhead, ihtail⟩ := List.forall_mem_cons.mp ih
    -- no name stands twice, so this one is not among those that were read
    have hname : name ∉ Fields.names acc := Fields.not_mem_names_of_distinct hd
    have hbehind :=
      length_le_renderAt spacing v level (renderMembers spacing level vs (blanks ++ '\x7d' :: rest))
    simp only [renderMembers, quote_append, List.length_cons, List.length_append] at hlen
    have hd' : Fields.Distinct ((acc ++ [(name, v)]) ++ vs) := by
      rwa [List.append_assoc, List.singleton_append]
    have hmembers := ihvs ihtail hd' (Nat.lt_of_succ_lt_succ hrounds) (by omega)
    rw [renderMembers, quote_append]
    refine answers_member hs ihhead hb (nextMember_comma (hs.lineBreak level) _)
      (quote_append _ _).symm ?_ hname hmembers
    simp only [List.length_append, List.length_cons]
    omega

/-- The answer for a list, given those for its items on the next level. -/
theorem answers_array {vs : List Json} (hv : ∀ v ∈ vs, v.Exact)
    (ih : ∀ v ∈ vs, Answered spacing fuel levels v) :
    Answered spacing fuel (levels + 1) (array vs) := by
  intro level rest _ hlen
  have hnesting : nestingItems vs ≤ levels ↔ (array vs).nesting ≤ levels + 1 := by
    rw [nesting, Nat.add_le_add_iff_right]
  cases vs with
  | nil =>
    simp only [renderAt, List.length_cons] at hlen
    obtain ⟨rounds, rfl⟩ : ∃ rounds, fuel = rounds + 1 := ⟨fuel - 1, by omega⟩
    -- an empty list takes one round, which finds its end
    have hread := items_end (value (rounds + 1) levels) rounds []
      (nextItem_end (List.forall_mem_nil _) true rest)
    rw [renderAt, value_array]
    exact .of_ok (hnesting.mp (Nat.zero_le _)) (map_of_ok _ hread)
  | cons v vs =>
    obtain ⟨hvhead, hvtail⟩ := List.forall_mem_cons.mp hv
    obtain ⟨ihhead, ihtail⟩ := List.forall_mem_cons.mp ih
    -- each item takes a round, and a comma in the text
    have hbehind := length_le_renderAt spacing v (level + 1)
      (renderItems spacing (level + 1) vs (spacing.lineBreak level ++ ']' :: rest))
    have hcount := length_le_renderItems spacing vs (level + 1)
      (spacing.lineBreak level ++ ']' :: rest)
    simp only [renderAt, List.length_cons, List.length_append] at hlen hcount
    obtain ⟨rounds, hrounds⟩ : ∃ rounds, fuel = rounds + 1 := ⟨fuel - 1, by omega⟩
    have henough : vs.length < rounds := by omega
    have hfits : (renderItems spacing (level + 1) vs
        (spacing.lineBreak level ++ ']' :: rest)).length ≤ fuel := by omega
    have hitems := answers_items hs hvtail ihtail (hs.lineBreak level) [v] henough hfits
    have hall := answers_item ihhead (hs.lineBreak level)
      (nextItem_first (hs.lineBreak (level + 1)) (beginsItem_renderAt hvhead)) (by omega) hitems
    rw [← hrounds] at hall
    rw [renderAt, value_array]
    exact (hall.map Json.array).congr hnesting

/-- The answer for an object, given those for its values on the next level. -/
theorem answers_object {vs : List (String × Json)} (hd : Fields.Distinct vs)
    (ih : ∀ p ∈ vs, Answered spacing fuel levels p.2) :
    Answered spacing fuel (levels + 1) (object vs) := by
  intro level rest _ hlen
  have hnesting : nestingMembers vs ≤ levels ↔ (object vs).nesting ≤ levels + 1 := by
    rw [nesting, Nat.add_le_add_iff_right]
  cases vs with
  | nil =>
    simp only [renderAt, List.length_cons] at hlen
    obtain ⟨rounds, rfl⟩ : ∃ rounds, fuel = rounds + 1 := ⟨fuel - 1, by omega⟩
    -- an empty object takes one round, which finds its end
    have hread := members_end (value (rounds + 1) levels) (rounds + 1) rounds []
      (nextMember_end (List.forall_mem_nil _) true rest)
    rw [renderAt, value_object]
    exact .of_ok (hnesting.mp (Nat.zero_le _)) (map_of_ok _ hread)
  | cons p vs =>
    obtain ⟨name, v⟩ := p
    obtain ⟨ihhead, ihtail⟩ := List.forall_mem_cons.mp ih
    -- the text is longer than there are members, and than what stands behind the first name
    have hbehind := length_le_renderAt spacing v (level + 1)
      (renderMembers spacing (level + 1) vs (spacing.lineBreak level ++ '\x7d' :: rest))
    have hcount := length_le_renderMembers spacing vs (level + 1)
      (spacing.lineBreak level ++ '\x7d' :: rest)
    simp only [renderAt, quote_append, List.length_cons, List.length_append] at hlen hcount
    obtain ⟨rounds, hrounds⟩ : ∃ rounds, fuel = rounds + 1 := ⟨fuel - 1, by omega⟩
    have henough : vs.length < rounds := by omega
    have hfits : (renderMembers spacing (level + 1) vs
        (spacing.lineBreak level ++ '\x7d' :: rest)).length ≤ fuel := by omega
    have hd' : Fields.Distinct ([(name, v)] ++ vs) := hd
    have hname : name ∉ Fields.names ([] : Fields Json) := List.not_mem_nil
    have hmembers := answers_members hs ihtail (hs.lineBreak level) hd' henough hfits
    have hall := answers_member hs ihhead (hs.lineBreak level)
      (nextMember_first (hs.lineBreak (level + 1)) _) (quote_append _ _).symm
      (by simp only [List.length_append, List.length_cons]; omega) hname hmembers
    rw [← hrounds] at hall
    rw [renderAt, value_object, quote_append]
    exact (hall.map Json.object).congr hnesting

/-- A value that its text tells exactly is read as far as the levels allow. -/
theorem answers_value {v : Json} (hv : v.Exact) (levels : Nat) :
    Answered spacing fuel levels v := by
  induction hv generalizing levels with
  | null =>
    intro level rest _ _
    rw [renderAt, List.cons_append, value_scalar fuel levels (by decide) (by decide) (by decide)]
    exact .of_ok (Nat.zero_le _) rfl
  | bool value =>
    intro level rest _ _
    cases value
    all_goals
      rw [renderAt, List.cons_append, value_scalar fuel levels (by decide) (by decide) (by decide)]
      exact .of_ok (Nat.zero_le _) rfl
  | whole hrange =>
    intro level rest hrest _
    have hbegin : ∀ d < 10, isBlank (Nat.digitChar d) = false ∧ Nat.digitChar d ≠ '[' ∧
        Nat.digitChar d ≠ '\x7b' := by decide
    obtain ⟨c, more, hcons, hc, hread⟩ := scalar_whole hrange fuel hrest
    have hc' : isBlank c = false ∧ c ≠ '[' ∧ c ≠ '\x7b' := by
      rcases hc with rfl | ⟨d, hd, rfl⟩
      · decide
      · exact hbegin d hd
    -- a number is told from a container by its first character
    rw [renderAt, Number.chars, hcons, value_scalar fuel levels hc'.1 hc'.2.1 hc'.2.2, hread]
    exact .of_ok (Nat.zero_le _) rfl
  | string text =>
    intro level rest _ hlen
    rw [renderAt, quote_append] at hlen ⊢
    obtain ⟨hread, -⟩ := stringBody_of_quote (quote_append text rest).symm hlen
    rw [value_scalar fuel levels (by decide) (by decide) (by decide)]
    exact .of_ok (Nat.zero_le _) (map_of_ok _ hread)
  | @array vs hv ih =>
    cases levels with
    | zero =>
      intro level rest _ _
      obtain ⟨more, htext⟩ := exists_renderAt_array vs
      rw [htext]
      -- no level is left for the list
      exact answers_too_deep fuel (.inl rfl) rfl rest more
    | succ levels => exact answers_array hs hv fun v hmem => ih v hmem levels
  | @object vs hd hv ih =>
    cases levels with
    | zero =>
      intro level rest _ _
      obtain ⟨more, htext⟩ := exists_renderAt_object vs
      rw [htext]
      -- no level is left for the object
      exact answers_too_deep fuel (.inr rfl) rfl rest more
    | succ levels => exact answers_object hs hd fun p hmem => ih p hmem levels

end

/-! ## Texts -/

/-- A text that a reader takes as a whole, or that has the fault of the limit. -/
theorem run_of_answers {read : Nat → Reader Json} {v : Json} {text : String} {fits : Prop}
    (h : Answers fits v [] (read (text.toList.length + 1) text.toList)) :
    (fits → run read text = .ok v) ∧
      (¬ fits → ∃ e, run read text = .error e ∧ e.cause = .recursionLimit) := by
  constructor
  · intro hfits
    -- the whole text is taken, so nothing is left at the end
    simp only [run, bind, StateT.bind, h.read hfits, Except.bind]
    rfl
  · intro hnot
    obtain ⟨behind, hfault⟩ := h.fault hnot
    refine ⟨Fault.locate text ⟨.recursionLimit, behind⟩, ?_, rfl⟩
    simp only [run, bind, StateT.bind, hfault, Except.bind]

end Reader

variable {spacing : Spacing} (hs : spacing.Blank) {v : Json} (hv : v.Exact)

include hs hv

/-- The answer for a whole document. -/
theorem answers_render :
    Reader.Answers (v.nesting ≤ maxNesting) v [] (Reader.value
      ((v.render spacing).toList.length + 1) maxNesting (v.render spacing).toList) := by
  have hends : Reader.EndsNumber [] := nofun
  rw [render, String.toList_ofList]
  exact Reader.answers_value hs hv maxNesting 0 [] hends (Nat.le_succ _)

/-- A document that is not too deep is read back from its text. -/
theorem parse_render (hfits : v.nesting ≤ maxNesting) : parse (v.render spacing) = .ok v :=
  (Reader.run_of_answers (answers_render hs hv)).1 hfits

/-- A document that is too deep is refused for that alone. -/
theorem parse_render_deep (hdeep : maxNesting < v.nesting) :
    ∃ e, parse (v.render spacing) = .error e ∧ e.cause = .recursionLimit :=
  (Reader.run_of_answers (answers_render hs hv)).2 (Nat.not_le.mpr hdeep)

end ManagementModel.Json
