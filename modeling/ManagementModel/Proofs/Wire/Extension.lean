import ManagementModel.Proofs.Wire.Language

/-!
# ManagementModel — what more input changes

A reader decides by the bytes in front of it. Where it succeeds, bytes that are put behind the input
are left together with what was left before. Where it refuses a tag, a count, a text or a depth, it
does so whatever follows. Only a reader that ran short may say something else on a longer input.
`Steady` is this property; it goes through all ways of putting readers together, the demands on the
length of what is left included, since such a demand fails for a shortage only.

It follows that a payload tells its own end: no byte can be added to it, and one that is cut off
anywhere is found to be too short, never to be wrong in another way.

Main results:

* `steady_value` — the reader of trees is steady.
* `ofBytes_delimited` — a payload that is read, with more behind it and cut off.
-/

namespace ManagementModel.Wire

variable {α β : Type}

/-- The input is too short: it ends inside a value, or a length exceeds what is left. -/
def DecodeError.IsShortage : DecodeError → Prop
  | .endOfInput => True
  | .lengthExceedsInput length remaining => remaining < length
  | _ => False

/-- More input changes nothing, unless the input ran short. -/
structure Steady (r : Reader α) : Prop where
  ok : ∀ {input a rest}, r input = .ok (a, rest) → ∀ more, r (input ++ more) = .ok (a, rest ++ more)
  error : ∀ {input e}, r input = .error e → e.IsShortage ∨ ∀ more, r (input ++ more) = .error e

/-! ## Putting readers together -/

/-- What reads nothing is steady. -/
theorem Steady.pure (a : α) : Steady (pure a : Reader α) := by
  constructor
  · intro input b rest h more
    cases h
    rfl
  · intro input e h
    cases h

/-- What always fails is steady. -/
theorem Steady.throw (e : DecodeError) : Steady (throw e : Reader α) := by
  constructor
  · intro input a rest h
    cases h
  · intro input e' h
    -- the refusal does not look at the input
    cases h
    exact .inr fun _ => rfl

/-- One steady reader after the other is steady. -/
theorem Steady.bind {r : Reader α} {f : α → Reader β} (hr : Steady r) (hf : ∀ a, Steady (f a)) :
    Steady (r >>= f) := by
  constructor
  · intro input b rest h more
    obtain ⟨a, mid, hra, hfb⟩ := bind_eq_ok.mp h
    rw [bind_of_ok (hr.ok hra more)]
    exact (hf a).ok hfb more
  · intro input e h
    cases hra : r input with
    | error e' =>
      -- the first reader fails
      rw [bind_of_error hra] at h
      cases h
      exact (hr.error hra).imp_right fun hmore more => bind_of_error (hmore more) f
    | ok p =>
      obtain ⟨a, mid⟩ := p
      rw [bind_of_ok hra] at h
      -- the second reader goes on behind the first one, on the longer input too
      refine ((hf a).error h).imp_right fun hmore more => ?_
      rw [bind_of_ok (hr.ok hra more)]
      exact hmore more

/-- Passing what is read through a function keeps a reader steady. -/
theorem Steady.map {r : Reader α} (hr : Steady r) (f : α → β) : Steady (do return f (← r)) :=
  hr.bind fun a => Steady.pure (f a)

/-- What a reader accepts it accepts in front of more. -/
theorem Reads.ok_append {r : Reader α} {P : List UInt8 → α → Prop} (hr : Reads r P)
    {input rest : List UInt8} {a : α} (h : r input = .ok (a, rest)) (more : List UInt8) :
    r (input ++ more) = .ok (a, rest ++ more) := by
  obtain ⟨bs, rfl, hbs⟩ := (hr _ _ _).mp h
  rw [List.append_assoc]
  exact hr.apply hbs _

/-- A reader whose only refusal is a shortage is steady. -/
theorem Reads.steady {r : Reader α} {P : List UInt8 → α → Prop} (hr : Reads r P)
    (he : ∀ {input e}, r input = .error e → e.IsShortage) : Steady r :=
  ⟨hr.ok_append, fun h => .inl (he h)⟩

/-! ## Bytes, numbers and counts -/

/-- A byte is missing only at the end of the input. -/
theorem steady_byte : Steady byte := by
  refine reads_byte.steady fun {input e} h => ?_
  cases input with
  | nil =>
    cases h
    trivial
  | cons b rest => cases h

/-- A number is refused only if the input ends within it. -/
theorem steady_number (width : Nat) : Steady (number width) := by
  refine (reads_number width).steady fun {input e} h => ?_
  rw [number] at h
  split at h
  · cases h
  · cases h
    trivial

/-- A demand on the length fails for a shortage only. -/
theorem shortage_of_require {length : Nat} {input : List UInt8} {e : DecodeError}
    (h : require length input = .error e) : e.IsShortage := by
  by_cases hle : length ≤ input.length
  · rw [require_of_le hle] at h
    cases h
  · have hne : ¬ (input.take length).length = length := by
      rw [List.length_take]
      omega
    rw [require, if_neg hne] at h
    cases h
    exact Nat.lt_of_not_le hle

/-- A demand that is met is met by more. -/
theorem steady_require (length : Nat) : Steady (require length) := by
  constructor
  · intro input u rest h more
    obtain ⟨hle, rfl⟩ := require_eq_ok.mp h
    have hmore : length ≤ (input ++ more).length := by
      rw [List.length_append]
      omega
    exact require_of_le hmore
  · intro input e h
    exact .inl (shortage_of_require h)

/-- Bytes are refused only if there are too few. -/
theorem steady_take (length : Nat) : Steady (take length) := by
  refine (reads_take length).steady fun {input e} h => ?_
  cases hreq : require length input with
  | error e' =>
    rw [take, bind_of_error hreq] at h
    cases h
    exact shortage_of_require hreq
  | ok p =>
    -- bytes that are there are taken
    rw [take, bind_of_ok hreq] at h
    cases h

/-- A count is steady: negative or not, the bytes behind it have no say. -/
theorem steady_count : Steady count := by
  refine (steady_number 4).bind fun n => ?_
  -- a negative count stays negative
  split
  · exact Steady.pure n
  · exact Steady.throw _

/-! ## Texts and kinds -/

/-- A text is steady: its length says which bytes belong to it. -/
theorem steady_text : Steady text := by
  refine (steady_number 2).bind fun length => (steady_take length).bind fun encoded => ?_
  -- whether bytes spell a text does not depend on what follows them
  split
  · exact Steady.pure _
  · exact Steady.throw _

/-- A kind is steady, since it is told by one byte. -/
theorem steady_kind : Steady kind := by
  refine steady_byte.bind fun tag => ?_
  split
  · exact Steady.pure _
  · exact Steady.throw _

/-! ## Trees -/

section

variable {item : Reader Node}

/-- Any number of items is read steadily if one is. -/
theorem steady_itemsOnto (hi : Steady item) (n : Nat) (acc : List Node) :
    Steady (itemsOnto item acc n) := by
  induction n generalizing acc with
  | zero => exact Steady.pure _
  | succ n ih => exact hi.bind fun node => ih (node :: acc)

/-- Any number of fields is read steadily if one value is. -/
theorem steady_fieldsInto (hi : Steady item) (n : Nat) (acc : Fields Node) :
    Steady (fieldsInto item acc n) := by
  induction n generalizing acc with
  | zero => exact Steady.pure _
  | succ n ih =>
    exact steady_text.bind fun name => hi.bind fun node => ih (Fields.insert name node acc)

end

/-- Where no level is left a container is refused, and no more input makes room for it. -/
theorem steady_container {inner : Option (Reader Node)} (hi : ∀ item ∈ inner, Steady item)
    {read : Reader Node → Reader Node} (h : ∀ item, Steady item → Steady (read item)) :
    Steady (container inner read) := by
  cases inner with
  | some item => exact h item (hi item rfl)
  | none => exact Steady.throw _

/-- The data of every kind is read steadily. -/
theorem steady_data {inner : Option (Reader Node)} (hi : ∀ item ∈ inner, Steady item) (k : Kind) :
    Steady (data inner k) := by
  cases k with
  | undefined => exact Steady.pure _
  | boolean => exact steady_byte.map fun b => Node.boolean (b != 0)
  | int => exact (steady_number 4).map fun m => Node.int m.toUInt32.toInt32
  | long => exact (steady_number 8).map fun m => Node.long m.toUInt64.toInt64
  | double => exact (steady_number 8).map fun m => Node.double m.toUInt64
  | string => exact steady_text.map Node.string
  | expression => exact steady_text.map Node.expression
  | bytes => exact steady_count.bind fun n => (steady_take n).map Node.bytes
  | type => exact steady_kind.map Node.type
  | list =>
    -- the count is held against what is left before any item is read, which only a cut can fail
    refine steady_container hi fun item hitem => steady_count.bind fun n => ?_
    exact (steady_require n).bind fun _ => (steady_itemsOnto hitem n []).map Node.list
  | object =>
    refine steady_container hi fun item hitem => steady_count.bind fun n => ?_
    exact (steady_require (n * 3)).bind fun _ => (steady_fieldsInto hitem n []).map Node.object
  | property =>
    refine steady_container hi fun item hitem => steady_text.bind fun name => ?_
    exact hitem.map (Node.property name)
  | bigDecimal => exact Steady.throw _
  | bigInteger => exact Steady.throw _

/-- The reader of trees is steady, with any number of levels. -/
theorem steady_value (levels : Nat) : Steady (value levels) := by
  induction levels with
  | zero => exact steady_kind.bind (steady_data fun _ h => nomatch h)
  | succ levels ih =>
    refine steady_kind.bind (steady_data ?_)
    rintro _ ⟨⟩
    exact ih

/-! ## Whole inputs -/

/-- What is left behind a tree is reported as trailing. -/
theorem ofBytes_of_rest {input rest : List UInt8} {n : Node}
    (h : value maxNesting input = .ok (n, rest)) (hrest : rest ≠ []) :
    Node.ofBytes input = .error (.trailingBytes rest.length) := by
  rw [Node.ofBytes, h]
  cases rest with
  | nil => exact absurd rfl hrest
  | cons b rest => rfl

/-- A payload tells its own end. Whatever follows it is reported as trailing, and a payload that is
cut off is too short for the reader, wherever the cut is. -/
theorem ofBytes_delimited {bs : List UInt8} {n : Node} (h : Node.ofBytes bs = .ok n) :
    (∀ more, more ≠ [] →
      Node.ofBytes (bs ++ more) = .error (.trailingBytes more.length)) ∧
    ∀ cut, cut <+: bs → cut ≠ bs → ∃ e, Node.ofBytes cut = .error e ∧ e.IsShortage := by
  have hbs : value maxNesting bs = .ok (n, []) := value_of_ofBytes h
  constructor
  · -- the tree is read as before, and what follows is left behind it
    intro more hmore
    exact ofBytes_of_rest ((steady_value maxNesting).ok hbs more) hmore
  · rintro cut ⟨lost, rfl⟩ hne
    have hlost : lost ≠ [] := fun hnil => hne (by rw [hnil, List.append_nil])
    cases hcut : value maxNesting cut with
    | ok p =>
      -- a tree that ends within the cut leaves the lost bytes unread in the whole payload
      obtain ⟨m, rest⟩ := p
      have hwhole := (steady_value maxNesting).ok hcut lost
      rw [hbs] at hwhole
      have hnil : rest ++ lost = [] := (Prod.mk.inj (Except.ok.inj hwhole)).2.symm
      exact absurd (List.append_eq_nil_iff.mp hnil).2 hlost
    | error e =>
      refine ⟨e, ofBytes_of_error hcut, ?_⟩
      -- any other refusal would be that of the whole payload
      refine ((steady_value maxNesting).error hcut).resolve_right fun hwhole => ?_
      have herror := hwhole lost
      rw [hbs] at herror
      cases herror

/-- A list of a text with a character of three bytes and of an object with one field, with one more
value behind it and cut off at every place. -/
theorem ofBytes_delimited_everywhere :
    let bs := [0x6c, 0, 0, 0, 2, 0x73, 0, 3, 0xe2, 0x82, 0xac, 0x6f, 0, 0, 0, 1, 0, 1, 0x61, 0x75]
    let n := Node.list [.string "€", .object [("a", .undefined)]]
    Node.ofBytes bs = .ok n ∧ Node.ofBytes (bs ++ [0x75]) = .error (.trailingBytes 1) ∧
      ∀ k < 20, ∃ e, Node.ofBytes (bs.take k) = .error e ∧ e.IsShortage := by
  intro bs n
  have h : Node.ofBytes bs = .ok n := rfl
  obtain ⟨hmore, hcut⟩ := ofBytes_delimited h
  refine ⟨h, hmore [0x75] (List.cons_ne_nil _ _), fun k hk => ?_⟩
  refine hcut _ (List.take_prefix k bs) fun heq => ?_
  have hlength := congrArg List.length heq
  -- a cut at an earlier place is shorter
  rw [List.length_take, show bs.length = 20 from rfl] at hlength
  omega

end ManagementModel.Wire
