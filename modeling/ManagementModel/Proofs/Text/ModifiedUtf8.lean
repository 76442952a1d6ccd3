import ManagementModel.Proofs.Text.Utf16
import ManagementModel.Text.ModifiedUtf8
import Mathlib.Algebra.GroupWithZero.Nat
import Mathlib.Data.List.Forall2

/-!
# ManagementModel — spellings of a text in modified UTF-8

A spelling of a text cuts into groups, one for each of its units. A unit has up to three groups,
so a text has many spellings. This module says what a group is without regard to the reader, and
shows that the reader takes exactly the sequences of groups. Of all spellings of a text the writer
takes the one without a raw zero byte and without a group that is longer than its unit needs.

Main results:

* `decode?_eq_some_iff` — the reader accepts exactly the spellings, for the text they spell.
* `decode?_encode` — what the writer writes is read as the text.
* `shortest_iff` — a group is neither a raw zero nor overlong exactly if it is the written one.
* `length_encodeUnit_le` — the written group is the shortest, the raw zero apart.
* `length_encode` — the number of bytes that are written for a text, counted by its characters.
-/

namespace ManagementModel.Text.ModifiedUtf8

/-! ## Groups -/

/-- A group of bytes and the unit that it spells. The unit has the bits marked `x` of `0xxxxxxx`,
`110xxxxx 10xxxxxx` or `1110xxxx 10xxxxxx 10xxxxxx`. -/
inductive Group : List UInt8 → UInt16 → Prop
  | one {x : Nat} (hx : x < 0x80) : Group [x.toUInt8] x.toUInt16
  | two {x y : Nat} (hx : x < 0x20) (hy : y < 0x40) :
    Group [(0xc0 + x).toUInt8, (0x80 + y).toUInt8] (x * 0x40 + y).toUInt16
  | three {x y z : Nat} (hx : x < 0x10) (hy : y < 0x40) (hz : z < 0x40) :
    Group [(0xe0 + x).toUInt8, (0x80 + y).toUInt8, (0x80 + z).toUInt8]
      ((x * 0x40 + y) * 0x40 + z).toUInt16

/-- The bytes of the groups of all units of a text. -/
def Spelling (bs : List UInt8) (s : String) : Prop :=
  ∃ groups, List.Forall₂ Group groups (Utf16.units s.toList) ∧ bs = groups.flatten

/-- A group that is longer than its unit needs; `0` needs two bytes. -/
def Overlong (g : List UInt8) (u : UInt16) : Prop :=
  (g.length = 2 ∧ u.toNat < 0x80 ∧ u ≠ 0) ∨ (g.length = 3 ∧ u.toNat < 0x800)

theorem toNat_toUInt8 {n : Nat} (h : n < 0x100) : n.toUInt8.toNat = n := by
  simp [Nat.mod_eq_of_lt h]

theorem isContinuation_iff (b : UInt8) :
    isContinuation b = true ↔ 0x80 ≤ b.toNat ∧ b.toNat < 0xc0 := by
  simp [isContinuation, UInt8.le_iff_toNat_le, UInt8.lt_iff_toNat_lt]

theorem isContinuation_toUInt8 {y : Nat} (hy : y < 0x40) :
    isContinuation (0x80 + y).toUInt8 = true := by
  rw [isContinuation_iff, toNat_toUInt8 (by omega)]
  omega

/-- A first byte announces its group by the range it lies in. -/
theorem isLeader_iff (lo hi a : UInt8) :
    (lo ≤ a && a < hi) = true ↔ lo.toNat ≤ a.toNat ∧ a.toNat < hi.toNat := by
  simp [UInt8.le_iff_toNat_le, UInt8.lt_iff_toNat_lt]

/-! ## Reading groups -/

/-- A first byte below `0x80` is a unit by itself. -/
theorem unitsOnto_one {a : UInt8} (ha : a.toNat < 0x80) (acc : List UInt16) (bs : List UInt8) :
    unitsOnto acc (a :: bs) = unitsOnto (a.toNat.toUInt16 :: acc) bs := by
  rw [unitsOnto.eq_def]
  exact if_pos (UInt8.lt_iff_toNat_lt.mpr ha)

/-! The range of a first byte fixes which bytes have to follow it. -/

/-- A first byte `110xxxxx` asks for one byte that goes on with its group. -/
theorem unitsOnto_leader_two {a : UInt8} (ha : 0xc0 ≤ a.toNat ∧ a.toNat < 0xe0)
    (acc : List UInt16) (bs : List UInt8) :
    unitsOnto acc (a :: bs) =
      match bs with
      | b :: bs => if isContinuation b then unitsOnto (unitOfTwo a b :: acc) bs else none
      | [] => none := by
  have h1 : ¬ a < 0x80 := by
    rw [UInt8.lt_iff_toNat_lt, show (0x80 : UInt8).toNat = 0x80 from rfl]
    omega
  have h2 : (0xc0 ≤ a && a < 0xe0) = true := (isLeader_iff 0xc0 0xe0 a).mpr ha
  -- the first test fails, and the second one holds
  rw [unitsOnto.eq_def]
  refine (if_neg h1).trans ((if_pos h2).trans ?_)
  cases bs <;> rfl

/-- A first byte `1110xxxx` asks for two bytes that go on with its group. -/
theorem unitsOnto_leader_three {a : UInt8} (ha : 0xe0 ≤ a.toNat ∧ a.toNat < 0xf0)
    (acc : List UInt16) (bs : List UInt8) :
    unitsOnto acc (a :: bs) =
      match bs with
      | b :: c :: bs =>
        if isContinuation b && isContinuation c then unitsOnto (unitOfThree a b c :: acc) bs
        else none
      | _ => none := by
  have h1 : ¬ a < 0x80 := by
    rw [UInt8.lt_iff_toNat_lt, show (0x80 : UInt8).toNat = 0x80 from rfl]
    omega
  have h2 : ¬ (0xc0 ≤ a && a < 0xe0) = true := by
    rw [isLeader_iff, show (0xe0 : UInt8).toNat = 0xe0 from rfl]
    omega
  have h3 : (0xe0 ≤ a && a < 0xf0) = true := (isLeader_iff 0xe0 0xf0 a).mpr ha
  -- the first two tests fail, and the third one holds
  rw [unitsOnto.eq_def]
  refine (if_neg h1).trans ((if_neg h2).trans ((if_pos h3).trans ?_))
  -- fewer than two bytes may follow, by two patterns of the reader
  match bs with
  | [] | [_] | _ :: _ :: _ => rfl

/-- A byte `10xxxxxx` or `1111xxxx` begins no group, and the reader stops at it. -/
theorem unitsOnto_no_leader {a : UInt8}
    (ha : (0x80 ≤ a.toNat ∧ a.toNat < 0xc0) ∨ 0xf0 ≤ a.toNat) (acc : List UInt16)
    (bs : List UInt8) : unitsOnto acc (a :: bs) = none := by
  -- all three tests fail
  have h1 : ¬ a < 0x80 := by
    rw [UInt8.lt_iff_toNat_lt, show (0x80 : UInt8).toNat = 0x80 from rfl]
    omega
  have h2 : ¬ (0xc0 ≤ a && a < 0xe0) = true := by
    rw [isLeader_iff, show (0xc0 : UInt8).toNat = 0xc0 from rfl,
      show (0xe0 : UInt8).toNat = 0xe0 from rfl]
    omega
  have h3 : ¬ (0xe0 ≤ a && a < 0xf0) = true := by
    rw [isLeader_iff, show (0xe0 : UInt8).toNat = 0xe0 from rfl,
      show (0xf0 : UInt8).toNat = 0xf0 from rfl]
    omega
  rw [unitsOnto.eq_def]
  dsimp only
  rw [if_neg h1, if_neg h2, if_neg h3]

theorem unitsOnto_two {a b : UInt8} (ha : 0xc0 ≤ a.toNat ∧ a.toNat < 0xe0)
    (hb : isContinuation b = true) (acc : List UInt16) (bs : List UInt8) :
    unitsOnto acc (a :: b :: bs) = unitsOnto (unitOfTwo a b :: acc) bs := by
  rw [unitsOnto_leader_two ha]
  exact if_pos hb

theorem unitsOnto_three {a b c : UInt8} (ha : 0xe0 ≤ a.toNat ∧ a.toNat < 0xf0)
    (hbc : (isContinuation b && isContinuation c) = true) (acc : List UInt16) (bs : List UInt8) :
    unitsOnto acc (a :: b :: c :: bs) = unitsOnto (unitOfThree a b c :: acc) bs := by
  rw [unitsOnto_leader_three ha]
  exact if_pos hbc

/-- One group at the front of the input is read as its unit, whatever follows. -/
theorem unitsOnto_group {g : List UInt8} {u : UInt16} (h : Group g u) (acc : List UInt16)
    (bs : List UInt8) : unitsOnto acc (g ++ bs) = unitsOnto (u :: acc) bs := by
  cases h with
  | @one x hx =>
    have hn := toNat_toUInt8 (n := x) (by omega)
    rw [List.singleton_append, unitsOnto_one (by omega), hn]
  | @two x y hx hy =>
    -- the marks `110` and `10` do not get into the bits that are kept
    have hn := toNat_toUInt8 (n := 0xc0 + x) (by omega)
    have hm := toNat_toUInt8 (n := 0x80 + y) (by omega)
    rw [List.cons_append, List.singleton_append,
      unitsOnto_two (by omega) (isContinuation_toUInt8 hy), unitOfTwo, hn, hm,
      show (0xc0 + x) % 0x20 = x by omega, show (0x80 + y) % 0x40 = y by omega]
  | @three x y z hx hy hz =>
    -- the marks of the bytes are multiples of what their bits count
    have hn := toNat_toUInt8 (n := 0xe0 + x) (by omega)
    have hm := toNat_toUInt8 (n := 0x80 + y) (by omega)
    have hk := toNat_toUInt8 (n := 0x80 + z) (by omega)
    have hyz : (isContinuation (0x80 + y).toUInt8 && isContinuation (0x80 + z).toUInt8) = true := by
      rw [isContinuation_toUInt8 hy, isContinuation_toUInt8 hz]
      rfl
    rw [List.cons_append, List.cons_append, List.singleton_append,
      unitsOnto_three (by omega) hyz, unitOfThree, hn, hm, hk,
      show (0xe0 + x) % 0x10 = x by omega, show (0x80 + y) % 0x40 = y by omega,
      show (0x80 + z) % 0x40 = z by omega,
      show x * 0x1000 + y * 0x40 + z = (x * 0x40 + y) * 0x40 + z by omega]

/-- Groups are read as their units, behind the units that were read before them. -/
theorem unitsOnto_flatten {groups : List (List UInt8)} {us : List UInt16}
    (h : List.Forall₂ Group groups us) (acc : List UInt16) :
    unitsOnto acc groups.flatten = some (acc.reverse ++ us) := by
  induction h generalizing acc with
  | nil => simp [unitsOnto]
  -- the first group, and then the others
  | cons hg _ ih =>
    rw [List.flatten_cons, unitsOnto_group hg, ih]
    simp

/-! A first byte and what the reader has checked of the others make up a group. -/

theorem group_one {a : UInt8} (h : a < 0x80) : Group [a] a.toNat.toUInt16 := by
  rw [UInt8.lt_iff_toNat_lt] at h
  simpa using Group.one h

/-- The bytes that the reader takes as two of a unit are a group of this unit. -/
theorem group_two {a b : UInt8} (h : (0xc0 ≤ a && a < 0xe0) = true)
    (hb : isContinuation b = true) : Group [a, b] (unitOfTwo a b) := by
  rw [isLeader_iff, show (0xc0 : UInt8).toNat = 0xc0 from rfl,
    show (0xe0 : UInt8).toNat = 0xe0 from rfl] at h
  rw [isContinuation_iff] at hb
  -- without their marks the bytes are the two parts of the unit
  have hg := Group.two (x := a.toNat % 0x20) (y := b.toNat % 0x40) (by omega) (by omega)
  rw [show 0xc0 + a.toNat % 0x20 = a.toNat by omega,
    show 0x80 + b.toNat % 0x40 = b.toNat by omega] at hg
  simpa [unitOfTwo] using hg

/-- The bytes that the reader takes as three of a unit are a group of this unit. -/
theorem group_three {a b c : UInt8} (h : (0xe0 ≤ a && a < 0xf0) = true)
    (hbc : (isContinuation b && isContinuation c) = true) :
    Group [a, b, c] (unitOfThree a b c) := by
  rw [isLeader_iff, show (0xe0 : UInt8).toNat = 0xe0 from rfl,
    show (0xf0 : UInt8).toNat = 0xf0 from rfl] at h
  rw [Bool.and_eq_true, isContinuation_iff, isContinuation_iff] at hbc
  -- without their marks the bytes are the three parts of the unit
  have hg := Group.three (x := a.toNat % 0x10) (y := b.toNat % 0x40) (z := c.toNat % 0x40)
    (by omega) (by omega) (by omega)
  rw [show 0xe0 + a.toNat % 0x10 = a.toNat by omega,
    show 0x80 + b.toNat % 0x40 = b.toNat by omega,
    show 0x80 + c.toNat % 0x40 = c.toNat by omega,
    show (a.toNat % 0x10 * 0x40 + b.toNat % 0x40) * 0x40 + c.toNat % 0x40 =
      a.toNat % 0x10 * 0x1000 + b.toNat % 0x40 * 0x40 + c.toNat % 0x40 by omega] at hg
  simpa [unitOfThree] using hg

/-- Whatever the reader takes cuts into groups. -/
theorem groups_of_unitsOnto {acc us : List UInt16} {bs : List UInt8}
    (h : unitsOnto acc bs = some us) :
    ∃ groups vs, List.Forall₂ Group groups vs ∧ bs = groups.flatten ∧ us = acc.reverse ++ vs := by
  fun_induction unitsOnto acc bs with
  | case1 acc => exact ⟨[], [], .nil, rfl, by simp_all⟩
  | case2 acc a rest ha ih =>
    -- one byte
    obtain ⟨groups, vs, hg, rfl, rfl⟩ := ih h
    exact ⟨[a] :: groups, _ :: vs, .cons (group_one ha) hg, rfl, by simp⟩
  | case3 acc a _ ha b rest hb ih =>
    -- two bytes
    obtain ⟨groups, vs, hg, rfl, rfl⟩ := ih h
    exact ⟨[a, b] :: groups, _ :: vs, .cons (group_two ha hb) hg, rfl, by simp⟩
  | case6 acc a _ _ ha b c rest hbc ih =>
    -- three bytes; all other cases are refused
    obtain ⟨groups, vs, hg, rfl, rfl⟩ := ih h
    exact ⟨[a, b, c] :: groups, _ :: vs, .cons (group_three ha hbc) hg, rfl, by simp⟩
  | _ => simp at h

/-- The reader accepts the spellings of texts, and nothing else. -/
theorem decode?_eq_some_iff {bs : List UInt8} {s : String} :
    decode? bs = some s ↔ Spelling bs s := by
  constructor
  · intro h
    simp only [decode?, bind, Option.bind_eq_some_iff, pure, Option.some.injEq] at h
    -- the bytes spell units, and the units spell characters
    obtain ⟨us, hus, cs, hcs, rfl⟩ := h
    obtain ⟨groups, vs, hg, rfl, rfl⟩ := groups_of_unitsOnto hus
    rw [Utf16.chars?_eq_some_iff] at hcs
    refine ⟨groups, ?_, rfl⟩
    rw [String.toList_ofList, ← hcs]
    simpa using hg
  · rintro ⟨groups, hg, rfl⟩
    -- the units of a text are read from its groups, and the text from its units
    have hus : units? groups.flatten = some (Utf16.units s.toList) := unitsOnto_flatten hg []
    have hcs : Utf16.chars? (Utf16.units s.toList) = some s.toList :=
      Utf16.chars?_eq_some_iff.mpr rfl
    simp [decode?, hus, hcs]

/-! ## The written group of a unit -/

/-- What is written for a unit, by the size of the unit. -/
theorem encodeUnit_cases (u : UInt16) :
    (u.toNat ≠ 0 ∧ u.toNat < 0x80 ∧ encodeUnit u = [u.toNat.toUInt8]) ∨
    ((u.toNat = 0 ∨ 0x80 ≤ u.toNat) ∧ u.toNat < 0x800 ∧
      encodeUnit u = [(0xc0 + u.toNat / 0x40).toUInt8, (0x80 + u.toNat % 0x40).toUInt8]) ∨
    (0x800 ≤ u.toNat ∧
      encodeUnit u = [(0xe0 + u.toNat / 0x1000).toUInt8, (0x80 + u.toNat / 0x40 % 0x40).toUInt8,
        (0x80 + u.toNat % 0x40).toUInt8]) := by
  simp only [encodeUnit]
  split
  · next h =>
    -- a small unit other than zero
    simp only [Bool.and_eq_true, bne_iff_ne, decide_eq_true_eq] at h
    exact .inl ⟨h.1, h.2, rfl⟩
  · next h =>
    simp only [Bool.and_eq_true, bne_iff_ne, decide_eq_true_eq] at h
    split
    · next h' => exact .inr (.inl ⟨by omega, h', rfl⟩)
    · next h' => exact .inr (.inr ⟨by omega, rfl⟩)

/-- What is written for a unit is one of its groups. -/
theorem group_encodeUnit (u : UInt16) : Group (encodeUnit u) u := by
  have hu := u.toNat_lt
  rcases encodeUnit_cases u with ⟨-, h, he⟩ | ⟨-, h, he⟩ | ⟨-, he⟩
  · rw [he]
    simpa using Group.one h
  · -- five bits and six bits
    have hg := Group.two (x := u.toNat / 0x40) (y := u.toNat % 0x40) (by omega) (by omega)
    rw [show u.toNat / 0x40 * 0x40 + u.toNat % 0x40 = u.toNat by omega] at hg
    rw [he]
    simpa using hg
  · -- four bits, six bits and six bits
    have hg := Group.three (x := u.toNat / 0x1000) (y := u.toNat / 0x40 % 0x40)
      (z := u.toNat % 0x40) (by omega) (by omega) (by omega)
    rw [show (u.toNat / 0x1000 * 0x40 + u.toNat / 0x40 % 0x40) * 0x40 + u.toNat % 0x40 =
      u.toNat by omega] at hg
    rw [he]
    simpa using hg

/-- Every group of a unit is the written one, a raw zero, or longer than the unit needs. -/
theorem Group.cases_encodeUnit {g : List UInt8} {u : UInt16} (h : Group g u) :
    g = encodeUnit u ∨ g = [0] ∨ Overlong g u := by
  cases h with
  | @one x hx =>
    -- one byte is the written group, unless it is zero
    have hn := Utf16.toNat_toUInt16 (n := x) (by omega)
    by_cases h0 : x = 0
    · exact .inr (.inl (by simp [h0]))
    · rcases encodeUnit_cases x.toUInt16 with ⟨-, -, he⟩ | ⟨h1, -, -⟩ | ⟨h1, -⟩
      · exact .inl (by rw [he, hn])
      · omega
      · omega
  | @two x y hx hy =>
    -- a small unit makes the group overlong, unless it is zero
    have hn := Utf16.toNat_toUInt16 (n := x * 0x40 + y) (by omega)
    rcases encodeUnit_cases (x * 0x40 + y).toUInt16 with ⟨h0, h1, -⟩ | ⟨-, -, he⟩ | ⟨h1, -⟩
    · refine .inr (.inr (.inl ⟨rfl, h1, ?_⟩))
      intro h'
      rw [h'] at h0
      exact h0 rfl
    · refine .inl ?_
      rw [he, hn, show (x * 0x40 + y) / 0x40 = x by omega,
        show (x * 0x40 + y) % 0x40 = y by omega]
    · omega
  | @three x y z hx hy hz =>
    -- three bytes are too many for a unit below `0x800`
    have hn := Utf16.toNat_toUInt16 (n := (x * 0x40 + y) * 0x40 + z) (by omega)
    rcases encodeUnit_cases ((x * 0x40 + y) * 0x40 + z).toUInt16 with
      ⟨-, h1, -⟩ | ⟨-, h1, -⟩ | ⟨-, he⟩
    · exact .inr (.inr (.inr ⟨rfl, by omega⟩))
    · exact .inr (.inr (.inr ⟨rfl, h1⟩))
    · refine .inl ?_
      rw [he, hn, show ((x * 0x40 + y) * 0x40 + z) / 0x1000 = x by omega,
        show ((x * 0x40 + y) * 0x40 + z) / 0x40 % 0x40 = y by omega,
        show ((x * 0x40 + y) * 0x40 + z) % 0x40 = z by omega]

theorem zero_ne_toUInt8 {n : Nat} (h0 : n ≠ 0) (h : n < 0x100) : (0 : UInt8) ≠ n.toUInt8 := by
  intro heq
  have hn := toNat_toUInt8 h
  rw [← heq] at hn
  exact h0 hn.symm

/-- No byte of a written group is zero, not even for the unit `0`. -/
theorem zero_notMem_encodeUnit (u : UInt16) : 0 ∉ encodeUnit u := by
  have hu := u.toNat_lt
  -- the last byte of a longer group is marked, so it is not zero
  have hmid : (0 : UInt8) ≠ (0x80 + u.toNat % 0x40).toUInt8 := zero_ne_toUInt8 (by omega) (by omega)
  rcases encodeUnit_cases u with ⟨h0, h, he⟩ | ⟨-, h, he⟩ | ⟨-, he⟩
  · rw [he, List.mem_singleton]
    exact zero_ne_toUInt8 h0 (by omega)
  · simp only [he, List.mem_cons, List.not_mem_nil, or_false, not_or]
    exact ⟨zero_ne_toUInt8 (by omega) (by omega), hmid⟩
  · simp only [he, List.mem_cons, List.not_mem_nil, or_false, not_or]
    exact ⟨zero_ne_toUInt8 (by omega) (by omega), zero_ne_toUInt8 (by omega) (by omega), hmid⟩

/-- A written group is no longer than its unit needs. -/
theorem not_overlong_encodeUnit (u : UInt16) : ¬ Overlong (encodeUnit u) u := by
  rcases encodeUnit_cases u with ⟨-, -, he⟩ | ⟨h, -, he⟩ | ⟨h, he⟩
  · simp [Overlong, he]
  · -- a unit below `0x80` has two bytes only if it is zero
    have h0 : u.toNat = 0 → u = 0 := fun h => UInt16.toNat_inj.mp h
    simp only [Overlong, he, List.length_cons, List.length_nil]
    intro h'
    rcases h' with ⟨-, h1, h2⟩ | ⟨h1, -⟩
    · exact h2 (h0 (by omega))
    · omega
  · simp only [Overlong, he, List.length_cons, List.length_nil]
    omega

/-- A group is the written one exactly if it is neither a raw zero nor overlong. -/
theorem shortest_iff {g : List UInt8} {u : UInt16} (h : Group g u) :
    (0 ∉ g ∧ ¬ Overlong g u) ↔ g = encodeUnit u := by
  constructor
  · rintro ⟨h0, h1⟩
    -- the two other possibilities are excluded
    rcases h.cases_encodeUnit with h' | rfl | h'
    · exact h'
    · exact absurd (List.mem_singleton_self 0) h0
    · exact absurd h' h1
  · rintro rfl
    exact ⟨zero_notMem_encodeUnit u, not_overlong_encodeUnit u⟩

/-- No group of a unit is shorter than the written one, except for a raw zero. -/
theorem length_encodeUnit_le {g : List UInt8} {u : UInt16} (h : Group g u) (h0 : 0 ∉ g) :
    (encodeUnit u).length ≤ g.length := by
  rcases h.cases_encodeUnit with rfl | rfl | ⟨hl, hu, -⟩ | ⟨hl, hu⟩
  · exact Nat.le_refl _
  · exact absurd (List.mem_singleton_self 0) h0
  · -- two bytes for a unit below `0x80`
    rcases encodeUnit_cases u with ⟨-, -, he⟩ | ⟨-, -, he⟩ | ⟨h1, -⟩
    · simp [he, hl]
    · simp [he, hl]
    · omega
  · -- three bytes for a unit below `0x800`
    rcases encodeUnit_cases u with ⟨-, -, he⟩ | ⟨-, -, he⟩ | ⟨h1, -⟩
    · simp [he, hl]
    · simp [he, hl]
    · omega

/-! ## The written spelling of a text -/

theorem forall₂_encodeUnit (us : List UInt16) : List.Forall₂ Group (us.map encodeUnit) us := by
  induction us with
  | nil => exact .nil
  | cons u rest ih => exact .cons (group_encodeUnit u) ih

/-- The groups without a raw zero and an overlong one are those that are written. -/
theorem shortest_groups_iff {groups : List (List UInt8)} {us : List UInt16} :
    List.Forall₂ (fun g u => Group g u ∧ 0 ∉ g ∧ ¬ Overlong g u) groups us ↔
      groups = us.map encodeUnit := by
  -- one group at a time
  have hgroup : ∀ g u, Group g u ∧ 0 ∉ g ∧ ¬ Overlong g u ↔ g = encodeUnit u := by
    intro g u
    constructor
    · exact fun ⟨hg, hs⟩ => (shortest_iff hg).mp hs
    · rintro rfl
      exact ⟨group_encodeUnit u, (shortest_iff (group_encodeUnit u)).mpr rfl⟩
  simp only [hgroup]
  rw [← List.forall₂_map_right_iff, List.forall₂_eq_eq_eq]

theorem encode_eq_flatten (s : String) :
    encode s = ((Utf16.units s.toList).map encodeUnit).flatten :=
  List.flatMap_def ..

theorem spelling_encode (s : String) : Spelling (encode s) s :=
  ⟨_, forall₂_encodeUnit _, encode_eq_flatten s⟩

/-- What is written for a text is read as that text. -/
theorem decode?_encode (s : String) : decode? (encode s) = some s :=
  decode?_eq_some_iff.mpr (spelling_encode s)

/-! ## The length of the written spelling -/

/-- The number of bytes of a character. `U+0000` takes two, so that no byte is zero, and a character
beyond `U+FFFF` takes three for each of its surrogates. -/
def charLength (c : Char) : Nat :=
  if c.toNat = 0 then 2
  else if c.toNat < 0x80 then 1
  else if c.toNat < 0x800 then 2
  else if c.toNat < 0x10000 then 3
  else 6

/-- The number of bytes of a text. -/
def textLength (s : String) : Nat := (s.toList.map charLength).sum

/-- A unit from `0x800` on takes three bytes. -/
theorem length_encodeUnit_of_le {u : UInt16} (h : 0x800 ≤ u.toNat) : (encodeUnit u).length = 3 := by
  -- the unit is too large for the groups of one and two bytes
  rcases encodeUnit_cases u with ⟨-, hu, -⟩ | ⟨-, hu, -⟩ | ⟨-, he⟩
  · omega
  · omega
  · rw [he]
    rfl

/-- The groups of the units of a character have as many bytes as are counted for it. -/
theorem length_flatMap_unitsOfChar (c : Char) :
    ((Utf16.unitsOfChar c).flatMap encodeUnit).length = charLength c := by
  have hc := Utf16.toNat_bounds c
  unfold charLength
  by_cases h : c.toNat < 0x10000
  · -- the character is a unit, and its size decides which group is written
    have hu := Utf16.toNat_toUInt16 h
    rw [Utf16.unitsOfChar, if_pos h, List.flatMap_singleton]
    rcases encodeUnit_cases c.toNat.toUInt16 with ⟨h0, h1, he⟩ | ⟨h0, h1, he⟩ | ⟨h1, he⟩
    · rw [he, if_neg (by omega), if_pos (by omega)]
      rfl
    · rw [he, List.length_cons, List.length_singleton]
      split_ifs <;> omega
    · rw [he, if_neg (by omega), if_neg (by omega), if_neg (by omega), if_pos h]
      rfl
  · -- both surrogates are beyond the groups of one and two bytes
    have hhi : 0x800 ≤ (0xd800 + (c.toNat - 0x10000) / 0x400).toUInt16.toNat := by
      rw [Utf16.toNat_toUInt16 (by omega)]
      omega
    have hlo : 0x800 ≤ (0xdc00 + (c.toNat - 0x10000) % 0x400).toUInt16.toNat := by
      rw [Utf16.toNat_toUInt16 (by omega)]
      omega
    rw [Utf16.unitsOfChar, if_neg h, List.flatMap_cons, List.flatMap_singleton, List.length_append,
      length_encodeUnit_of_le hhi, length_encodeUnit_of_le hlo]
    split_ifs <;> omega

/-- The number of bytes that are written for a text is the sum over its characters. -/
theorem length_encode (s : String) : (encode s).length = textLength s := by
  unfold encode textLength
  -- the induction is on the characters
  generalize s.toList = cs
  induction cs with
  | nil => rfl
  | cons c rest ih =>
    rw [Utf16.units_cons, List.flatMap_append, List.length_append, ih, length_flatMap_unitsOfChar,
      List.map_cons, List.sum_cons]

end ManagementModel.Text.ModifiedUtf8
