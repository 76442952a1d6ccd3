import ManagementModel.Proofs.Wire.Grammar

/-!
# ManagementModel — what a reader accepts

`Reads r P` says that a reader succeeds exactly where one of the forms `P` stands at the front of
the input, that it then has the value of the form, and that it leaves what follows. The property
goes through all ways of putting readers together. A reader may also look ahead: a demand on the
length of what is left changes nothing if every form is at least that long (`Reads.require`).

The readers of numbers, counts, texts and kinds are shown to accept their forms.
-/

namespace ManagementModel.Wire

variable {α β : Type}

/-- The reader accepts exactly the forms at the front of an input. -/
def Reads (r : Reader α) (P : List UInt8 → α → Prop) : Prop :=
  ∀ input a rest, r input = .ok (a, rest) ↔ ∃ bs, input = bs ++ rest ∧ P bs a

/-- A form is read and what follows it is left. -/
theorem Reads.apply {r : Reader α} {P : List UInt8 → α → Prop} (hr : Reads r P)
    {bs : List UInt8} {a : α} (h : P bs a) (rest : List UInt8) : r (bs ++ rest) = .ok (a, rest) :=
  (hr _ _ _).mpr ⟨bs, rfl, h⟩

/-! ## Steps of a reader -/

/-- Behind a reader that succeeds, the second one goes on where the first one stopped. -/
theorem bind_of_ok {r : Reader α} {input rest : List UInt8} {a : α} (h : r input = .ok (a, rest))
    (f : α → Reader β) : (r >>= f) input = f a rest := by
  show (r input >>= fun p => f p.1 p.2) = f a rest
  rw [h]
  rfl

/-- Behind a reader that fails, nothing is read. -/
theorem bind_of_error {r : Reader α} {input : List UInt8} {e : DecodeError}
    (h : r input = .error e) (f : α → Reader β) : (r >>= f) input = .error e := by
  show (r input >>= fun p => f p.1 p.2) = .error e
  rw [h]
  rfl

/-- Two readers succeed if the first does and the second does on what the first one leaves. -/
theorem bind_eq_ok {r : Reader α} {f : α → Reader β} {input rest : List UInt8} {b : β} :
    (r >>= f) input = .ok (b, rest) ↔
      ∃ a mid, r input = .ok (a, mid) ∧ f a mid = .ok (b, rest) := by
  constructor
  · intro h
    cases hr : r input with
    | error e =>
      rw [bind_of_error hr] at h
      cases h
    | ok p =>
      obtain ⟨a, mid⟩ := p
      rw [bind_of_ok hr] at h
      exact ⟨a, mid, rfl, h⟩
  · rintro ⟨a, mid, hr, hf⟩
    rw [bind_of_ok hr, hf]

/-! ## Putting readers together -/

/-- Forms may be described in another way. -/
theorem Reads.congr {r : Reader α} {P Q : List UInt8 → α → Prop} (hr : Reads r P)
    (h : ∀ bs a, P bs a ↔ Q bs a) : Reads r Q := by
  intro input a rest
  rw [hr]
  simp only [h]

/-- A reader that only returns a value accepts the empty form. -/
theorem Reads.pure (a : α) : Reads (pure a) (fun bs b => bs = [] ∧ b = a) := by
  intro input b rest
  show Except.ok (a, input) = .ok (b, rest) ↔ _
  constructor
  · intro h
    cases h
    exact ⟨[], rfl, rfl, rfl⟩
  · rintro ⟨bs, rfl, rfl, rfl⟩
    rfl

/-- A reader that only fails accepts nothing. -/
theorem Reads.throw (e : DecodeError) : Reads (α := α) (throw e) (fun _ _ => False) := by
  intro input a rest
  constructor
  · intro h
    cases h
  · rintro ⟨bs, -, h⟩
    exact h.elim

/-- One reader after the other accepts a form of the first followed by one of the second. -/
theorem Reads.bind {r : Reader α} {f : α → Reader β} {P : List UInt8 → α → Prop}
    {Q : α → List UInt8 → β → Prop} (hr : Reads r P) (hf : ∀ a, Reads (f a) (Q a)) :
    Reads (r >>= f) (fun bs b => ∃ a u v, bs = u ++ v ∧ P u a ∧ Q a v b) := by
  intro input b rest
  rw [bind_eq_ok]
  constructor
  · rintro ⟨a, mid, hra, hfb⟩
    -- the form of the first reader, and that of the second behind it
    obtain ⟨u, rfl, hu⟩ := (hr _ _ _).mp hra
    obtain ⟨v, rfl, hv⟩ := (hf a _ _ _).mp hfb
    exact ⟨u ++ v, (List.append_assoc u v rest).symm, a, u, v, rfl, hu, hv⟩
  · rintro ⟨bs, rfl, a, u, v, rfl, hu, hv⟩
    rw [List.append_assoc]
    exact ⟨a, v ++ rest, hr.apply hu _, (hf a).apply hv _⟩

/-- What is read is passed through a function. -/
theorem Reads.map {r : Reader α} {P : List UInt8 → α → Prop} (hr : Reads r P) (f : α → β) :
    Reads (do return f (← r)) (fun bs b => ∃ a, P bs a ∧ b = f a) := by
  refine (hr.bind fun a => Reads.pure (f a)).congr fun bs b => ?_
  constructor
  · rintro ⟨a, u, v, rfl, hu, rfl, rfl⟩
    exact ⟨a, by rwa [List.append_nil], rfl⟩
  · rintro ⟨a, ha, rfl⟩
    exact ⟨a, bs, [], (List.append_nil bs).symm, ha, rfl, rfl⟩

/-! ## Looking ahead -/

theorem require_of_le {length : Nat} {input : List UInt8} (h : length ≤ input.length) :
    require length input = .ok ((), input) := by
  rw [Wire.require, if_pos (List.length_take_of_le h)]

/-- A demand on the length takes nothing from the input. -/
theorem require_eq_ok {length : Nat} {input rest : List UInt8} {u : Unit} :
    require length input = .ok (u, rest) ↔ length ≤ input.length ∧ input = rest := by
  constructor
  · intro h
    by_cases hl : length ≤ input.length
    · rw [require_of_le hl] at h
      cases h
      exact ⟨hl, rfl⟩
    · have hne : ¬ (input.take length).length = length := by
        rw [List.length_take]
        omega
      rw [Wire.require, if_neg hne] at h
      cases h
  · rintro ⟨hl, rfl⟩
    exact require_of_le hl

/-- A demand that every form meets by its own length changes neither what is accepted nor the
result, although it is made before anything is read. -/
theorem Reads.require {r : Reader α} {P : List UInt8 → α → Prop} {length : Nat} (hr : Reads r P)
    (hlen : ∀ bs a, P bs a → length ≤ bs.length) :
    Reads (do Wire.require length; r) P := by
  intro input a rest
  rw [bind_eq_ok, ← hr]
  constructor
  · rintro ⟨u, mid, hreq, h⟩
    obtain ⟨-, rfl⟩ := require_eq_ok.mp hreq
    exact h
  · intro h
    obtain ⟨bs, hin, hp⟩ := (hr _ _ _).mp h
    -- the form alone is as long as is demanded, so what is left is too
    have hle : length ≤ input.length := by
      have := hlen bs a hp
      rw [hin, List.length_append]
      omega
    exact ⟨(), input, require_of_le hle, h⟩

/-! ## Bytes, numbers and counts -/

/-- A byte is read as it is. -/
theorem reads_byte : Reads byte (fun bs b => bs = [b]) := by
  intro input b rest
  cases input with
  | nil =>
    constructor
    · intro h
      cases h
    · rintro ⟨bs, hin, rfl⟩
      cases hin
  | cons c input =>
    constructor
    · intro h
      cases h
      exact ⟨[b], rfl, rfl⟩
    · rintro ⟨bs, hin, rfl⟩
      cases hin
      rfl

/-- As many bytes as the width says are read as the number that they spell. -/
theorem reads_number (width : Nat) : Reads (number width) (NumberForm width) := by
  intro input n rest
  by_cases hw : (input.take width).length = width
  · -- there are enough bytes
    rw [number, if_pos hw, foldl_eq_ofBigEndian, Nat.zero_mul, Nat.zero_add]
    constructor
    · intro h
      cases h
      exact ⟨input.take width, (List.take_append_drop width input).symm, hw, rfl⟩
    · rintro ⟨bs, rfl, rfl, rfl⟩
      rw [List.take_left, List.drop_left]
  · -- too few bytes are left, so no form stands there
    rw [number, if_neg hw]
    constructor
    · intro h
      cases h
    · rintro ⟨bs, rfl, rfl, -⟩
      exact absurd (by rw [List.take_left]) hw

/-- As many bytes as are asked for are taken as they are. -/
theorem reads_take (length : Nat) :
    Reads (take length) (fun bs data => bs = data ∧ data.length = length) := by
  intro input data rest
  rw [take, bind_eq_ok]
  constructor
  · rintro ⟨u, mid, hreq, h⟩
    -- the demand has made sure that the bytes are there
    obtain ⟨hle, rfl⟩ := require_eq_ok.mp hreq
    cases h
    exact ⟨input.take length, (List.take_append_drop length input).symm, rfl,
      List.length_take_of_le hle⟩
  · rintro ⟨bs, rfl, rfl, rfl⟩
    refine ⟨(), bs ++ rest, require_of_le ?_, ?_⟩
    · rw [List.length_append]
      omega
    · show Except.ok _ = Except.ok _
      rw [List.take_left, List.drop_left]

/-- A count is a number of four bytes with a sign, and is refused if it is negative. -/
theorem reads_count : Reads count CountForm := by
  -- behind the number nothing is read, but it may be refused
  refine ((reads_number 4).bind fun n => (?_ : Reads _
    (fun bs m => (bs = [] ∧ m = n) ∧ n ≤ maxCount))).congr fun bs n => ?_
  · by_cases hn : n ≤ maxCount
    · rw [if_pos hn]
      exact (Reads.pure n).congr fun bs m => (and_iff_left hn).symm
    · rw [if_neg hn]
      exact (Reads.throw _).congr fun bs m => ⟨False.elim, fun h => hn h.2⟩
  · rw [CountForm]
    constructor
    · rintro ⟨n, u, v, rfl, hu, ⟨rfl, rfl⟩, hn⟩
      rw [List.append_nil]
      exact ⟨hu, Nat.lt_succ_of_le hn⟩
    · rintro ⟨hu, hn⟩
      exact ⟨n, bs, [], (List.append_nil bs).symm, hu, ⟨rfl, rfl⟩, Nat.le_of_lt_succ hn⟩

/-! ## Texts and kinds -/

/-- A text in the liberal dialect is a length and as many bytes that spell the text. -/
theorem textForm_liberal_iff {bs : List UInt8} {s : String} :
    TextForm .liberal bs s ↔ ∃ length encoded, bs = length ++ encoded ∧
      NumberForm 2 length encoded.length ∧ Text.ModifiedUtf8.Spelling encoded s := by
  constructor
  · rintro ⟨length, groups, hl, hg, rfl⟩
    exact ⟨length, groups.flatten, rfl, hl, groups, hg.imp fun _ _ h => h.1, rfl⟩
  · rintro ⟨length, encoded, rfl, hl, groups, hg, rfl⟩
    exact ⟨length, groups, hl, hg.imp fun _ _ h => ⟨h, trivial⟩, rfl⟩

/-- The reader of texts accepts every spelling behind its length. -/
theorem reads_text : Reads text (TextForm .liberal) := by
  -- behind the encoded bytes nothing is read; they spell a text or are refused
  refine ((reads_number 2).bind fun length => (reads_take length).bind fun encoded =>
    (?_ : Reads _ (fun bs s => bs = [] ∧ Text.ModifiedUtf8.Spelling encoded s))).congr
    fun bs s => ?_
  · simp only [← Text.ModifiedUtf8.decode?_eq_some_iff]
    cases hd : Text.ModifiedUtf8.decode? encoded with
    | some s => exact (Reads.pure s).congr fun bs t => by rw [Option.some.injEq, eq_comm (a := t)]
    | none => exact (Reads.throw _).congr fun bs t => by simp
  · rw [textForm_liberal_iff]
    constructor
    · rintro ⟨n, length, _, rfl, hl, encoded, _, _, rfl, ⟨rfl, rfl⟩, rfl, hs⟩
      exact ⟨length, _, by rw [List.append_nil], hl, hs⟩
    · rintro ⟨length, encoded, rfl, hl, hs⟩
      exact ⟨_, length, encoded, rfl, hl, encoded, encoded, [], (List.append_nil _).symm,
        ⟨rfl, rfl⟩, rfl, hs⟩

/-- The reader of kinds accepts exactly the tags. -/
theorem reads_kind : Reads kind (fun bs k => bs = [k.tag]) := by
  refine (reads_byte.bind fun tag => (?_ : Reads _ (fun bs k => bs = [] ∧ k.tag = tag))).congr
    fun bs k => ?_
  · -- tags and kinds correspond one to one
    cases hk : Kind.ofTag? tag with
    | some k =>
      refine (Reads.pure k).congr fun bs k' => and_congr_right fun _ => ?_
      constructor
      · rintro rfl
        exact Kind.tag_of_ofTag? hk
      · rintro rfl
        rw [Kind.ofTag?_tag] at hk
        exact Option.some.inj hk
    | none =>
      refine (Reads.throw _).congr fun bs k' => ⟨False.elim, ?_⟩
      rintro ⟨-, rfl⟩
      rw [Kind.ofTag?_tag] at hk
      cases hk
  · constructor
    · rintro ⟨tag, _, _, rfl, rfl, rfl, rfl⟩
      rfl
    · rintro rfl
      exact ⟨k.tag, [k.tag], [], rfl, rfl, rfl, rfl⟩

end ManagementModel.Wire
