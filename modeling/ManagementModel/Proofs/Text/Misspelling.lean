import ManagementModel.Proofs.Text.ModifiedUtf8

/-!
# ManagementModel — bytes that spell no text

The first byte of a group tells how many bytes it has, so there is at most one way to cut bytes into
groups, and it goes from left to right. Where it comes to an end too early, the next byte begins no
group, or lacks the bytes that go on with its group. That, and a surrogate without its partner, is
all that keeps bytes from being a spelling.

Since the groups of a spelling are fixed, a spelling as a whole can be called free of overlong
groups. The written one is the only tight spelling.

Main results:

* `groups_unique` — bytes cut into groups in one way at most.
* `decode?_eq_none_iff` — what is wrong with bytes that are not read.
* `tight_iff` — the written spelling is the only one without a raw zero and an overlong group.
-/

namespace ManagementModel.Text.ModifiedUtf8

/-! ## Cutting into groups -/

/-- A group by its first byte: the range of that byte, and how long the group is. -/
theorem Group.exists_head {g : List UInt8} {u : UInt16} (h : Group g u) : ∃ a more, g = a :: more ∧
    ((a.toNat < 0x80 ∧ g.length = 1) ∨ (0xc0 ≤ a.toNat ∧ a.toNat < 0xe0 ∧ g.length = 2) ∨
      (0xe0 ≤ a.toNat ∧ a.toNat < 0xf0 ∧ g.length = 3)) := by
  cases h with
  | @one x hx =>
    have hn := toNat_toUInt8 (n := x) (by omega)
    exact ⟨_, _, rfl, .inl ⟨by omega, rfl⟩⟩
  | @two x y hx hy =>
    have hn := toNat_toUInt8 (n := 0xc0 + x) (by omega)
    exact ⟨_, _, rfl, .inr (.inl ⟨by omega, by omega, rfl⟩)⟩
  | @three x y z hx hy hz =>
    have hn := toNat_toUInt8 (n := 0xe0 + x) (by omega)
    exact ⟨_, _, rfl, .inr (.inr ⟨by omega, by omega, rfl⟩)⟩

/-- Bytes begin with one group at most. -/
theorem Group.eq_of_append {g g' : List UInt8} {u u' : UInt16} (h : Group g u) (h' : Group g' u')
    {bs bs' : List UInt8} (heq : g ++ bs = g' ++ bs') : g = g' := by
  obtain ⟨a, more, hg, ha⟩ := h.exists_head
  obtain ⟨a', more', hg', ha'⟩ := h'.exists_head
  -- both have the same first byte, and with it the same length
  have hfirst : a = a' := by
    rw [hg, hg', List.cons_append, List.cons_append] at heq
    exact (List.cons.inj heq).1
  have hlen : g.length = g'.length := by
    rw [hfirst] at ha
    omega
  exact (List.append_inj heq hlen).1

/-- Bytes cut into groups in one way at most. -/
theorem groups_unique {groups groups' : List (List UInt8)} {us us' : List UInt16}
    (h : List.Forall₂ Group groups us) (h' : List.Forall₂ Group groups' us')
    (heq : groups.flatten = groups'.flatten) : groups = groups' := by
  induction h generalizing groups' us' with
  | nil =>
    cases h' with
    | nil => rfl
    | cons hg' _ =>
      -- a group is not empty
      obtain ⟨a, more, rfl, -⟩ := hg'.exists_head
      simp at heq
  | cons hg _ ih =>
    cases h' with
    | nil =>
      obtain ⟨a, more, rfl, -⟩ := hg.exists_head
      simp at heq
    | cons hg' hgs' =>
      rw [List.flatten_cons, List.flatten_cons] at heq
      obtain rfl := hg.eq_of_append hg' heq
      rw [ih hgs' (List.append_cancel_left heq)]

/-! ## Where no group begins -/

/-- There is a byte, but no group begins with it. -/
inductive Stuck : List UInt8 → Prop
  /-- A byte `10xxxxxx`, which only goes on with a group, or a byte `1111xxxx`. -/
  | noLeader {a : UInt8} {rest : List UInt8}
    (ha : (0x80 ≤ a.toNat ∧ a.toNat < 0xc0) ∨ 0xf0 ≤ a.toNat) : Stuck (a :: rest)
  /-- A byte `110xxxxx`, and behind it the end or another byte than `10xxxxxx`. -/
  | two {a : UInt8} {rest : List UInt8} (ha : 0xc0 ≤ a.toNat ∧ a.toNat < 0xe0)
    (hrest : ∀ b ∈ rest.head?, isContinuation b = false) : Stuck (a :: rest)
  /-- A byte `1110xxxx` without two bytes `10xxxxxx` behind it. -/
  | three {a : UInt8} {rest : List UInt8} (ha : 0xe0 ≤ a.toNat ∧ a.toNat < 0xf0)
    (hrest : ∀ b c more, rest = b :: c :: more →
      isContinuation b = false ∨ isContinuation c = false) : Stuck (a :: rest)

/-- What keeps bytes from spelling a text. -/
inductive Misspelled : List UInt8 → Prop
  /-- Behind some groups no other group begins. -/
  | stuck {groups : List (List UInt8)} {us : List UInt16} {bad : List UInt8}
    (hg : List.Forall₂ Group groups us) (hbad : Stuck bad) : Misspelled (groups.flatten ++ bad)
  /-- There are groups throughout, but a surrogate of their units stands alone. -/
  | unpaired {groups : List (List UInt8)} {us : List UInt16}
    (hg : List.Forall₂ Group groups us) (hu : Utf16.LoneSurrogate us) : Misspelled groups.flatten

/-- Where no group begins, the reader finds no units. -/
theorem unitsOnto_of_stuck {bad : List UInt8} (h : Stuck bad) (acc : List UInt16) :
    unitsOnto acc bad = none := by
  cases h with
  | noLeader ha => exact unitsOnto_no_leader ha acc _
  | @two a rest ha hrest =>
    rw [unitsOnto_leader_two ha]
    cases rest with
    | nil => rfl
    | cons b rest => exact if_neg (by simp [hrest b rfl])
  | @three a rest ha hrest =>
    rw [unitsOnto_leader_three ha]
    -- fewer than two bytes follow, or one of two does not go on with the group
    match rest with
    | [] | [_] => rfl
    | b :: c :: more =>
      refine if_neg ?_
      rcases hrest b c more rfl with h | h <;> simp [h]

/-- The bytes at which the cutting comes to an end, behind groups of some units. -/
def EndsAt (bs bad : List UInt8) : Prop :=
  ∃ groups us, List.Forall₂ Group groups us ∧ bs = groups.flatten ++ bad

/-- A group in front does not change where the cutting comes to an end. -/
theorem EndsAt.behind {bs bad : List UInt8} (h : EndsAt bs bad) {g : List UInt8} {u : UInt16}
    (hg : Group g u) : EndsAt (g ++ bs) bad := by
  obtain ⟨groups, us, hgs, rfl⟩ := h
  exact ⟨g :: groups, u :: us, .cons hg hgs, (List.append_assoc ..).symm⟩

theorem EndsAt.here (bs : List UInt8) : EndsAt bs bs :=
  ⟨[], [], .nil, rfl⟩

/-- Where the reader stops, no group begins. -/
theorem exists_stuck_of_unitsOnto {acc : List UInt16} {bs : List UInt8}
    (h : unitsOnto acc bs = none) : ∃ bad, EndsAt bs bad ∧ Stuck bad := by
  fun_induction unitsOnto acc bs with
  | case1 acc => simp at h
  | case2 acc a rest ha ih =>
    -- one byte
    obtain ⟨bad, hends, hbad⟩ := ih h
    exact ⟨bad, hends.behind (group_one ha), hbad⟩
  | case3 acc a h1 ha b rest hb ih =>
    -- two bytes
    obtain ⟨bad, hends, hbad⟩ := ih h
    exact ⟨bad, hends.behind (group_two ha hb), hbad⟩
  | case4 acc a h1 ha b rest hb =>
    -- the byte that follows does not go on with the group
    refine ⟨_, .here _, .two ((isLeader_iff 0xc0 0xe0 a).mp ha) ?_⟩
    rintro c ⟨⟩
    exact Bool.eq_false_iff.mpr hb
  | case5 acc a h1 ha =>
    -- nothing follows
    refine ⟨_, .here _, .two ((isLeader_iff 0xc0 0xe0 a).mp ha) ?_⟩
    rintro c ⟨⟩
  | case6 acc a h1 h2 ha b c rest hbc ih =>
    -- three bytes
    obtain ⟨bad, hends, hbad⟩ := ih h
    exact ⟨bad, hends.behind (group_three ha hbc), hbad⟩
  | case7 acc a h1 h2 ha b c rest hbc =>
    -- one of the two bytes that follow does not go on with the group
    refine ⟨_, .here _, .three ((isLeader_iff 0xe0 0xf0 a).mp ha) ?_⟩
    rintro b' c' more ⟨⟩
    rwa [Bool.and_eq_true, not_and_or, Bool.not_eq_true, Bool.not_eq_true] at hbc
  | case8 acc a rest h1 h2 ha hshort =>
    -- fewer than two bytes follow
    refine ⟨_, .here _, .three ((isLeader_iff 0xe0 0xf0 a).mp ha) ?_⟩
    intro b c more hrest
    exact absurd hrest (hshort b c more)
  | case9 acc a rest h1 h2 h3 =>
    refine ⟨_, .here _, .noLeader ?_⟩
    -- the byte is in none of the ranges of first bytes
    rw [UInt8.lt_iff_toNat_lt, show (0x80 : UInt8).toNat = 0x80 from rfl] at h1
    rw [isLeader_iff, show (0xc0 : UInt8).toNat = 0xc0 from rfl,
      show (0xe0 : UInt8).toNat = 0xe0 from rfl] at h2
    rw [isLeader_iff, show (0xe0 : UInt8).toNat = 0xe0 from rfl,
      show (0xf0 : UInt8).toNat = 0xf0 from rfl] at h3
    omega

/-- Groups in front of where no group begins are taken, and then the reader stops. -/
theorem unitsOnto_flatten_append {groups : List (List UInt8)} {us : List UInt16}
    (h : List.Forall₂ Group groups us) (acc : List UInt16) (bs : List UInt8) :
    unitsOnto acc (groups.flatten ++ bs) = unitsOnto (us.reverse ++ acc) bs := by
  induction h generalizing acc with
  | nil => rfl
  | cons hg _ ih =>
    rw [List.flatten_cons, List.append_assoc, unitsOnto_group hg, ih, List.reverse_cons,
      List.append_assoc, List.singleton_append]

/-- Bytes are not read exactly when no group begins somewhere behind groups, or a surrogate stands
alone. -/
theorem decode?_eq_none_iff {bs : List UInt8} : decode? bs = none ↔ Misspelled bs := by
  simp only [decode?, units?, bind, pure]
  constructor
  · intro h
    cases hus : unitsOnto [] bs with
    | none =>
      -- the bytes do not cut into groups
      obtain ⟨bad, ⟨groups, us, hg, rfl⟩, hbad⟩ := exists_stuck_of_unitsOnto hus
      exact .stuck hg hbad
    | some us =>
      -- they do, but their units spell no text
      obtain ⟨groups, vs, hg, rfl, rfl⟩ := groups_of_unitsOnto hus
      refine .unpaired hg (Utf16.chars?_eq_none_iff.mp ?_)
      rw [Option.eq_none_iff_forall_ne_some]
      simpa [hus] using h
  · intro h
    cases h with
    | @stuck groups us bad hg hbad =>
      -- the reader stops where no group begins
      rw [unitsOnto_flatten_append hg, unitsOnto_of_stuck hbad]
      rfl
    | @unpaired groups us hg hu =>
      -- the reader gets through, but pairs no surrogates
      have hchars := Utf16.chars?_eq_none_iff.mpr hu
      rw [unitsOnto_flatten hg]
      show (Utf16.chars? us).bind _ = none
      rw [hchars]
      rfl

/-- Bytes spell no text exactly if something keeps them from it. -/
theorem not_exists_spelling_iff {bs : List UInt8} : (¬ ∃ s, Spelling bs s) ↔ Misspelled bs := by
  simp only [← decode?_eq_none_iff, ← decode?_eq_some_iff, Option.eq_none_iff_forall_ne_some,
    not_exists]

/-! ## Tight spellings -/

/-- A spelling without a raw zero byte, none of whose groups is longer than its unit needs. -/
structure Tight (bs : List UInt8) (s : String) : Prop where
  spelling : Spelling bs s
  zeroFree : 0 ∉ bs
  notOverlong : ∀ groups, List.Forall₂ Group groups (Utf16.units s.toList) → bs = groups.flatten →
    List.Forall₂ (fun g u => ¬ Overlong g u) groups (Utf16.units s.toList)

/-- The spelling that is written is the only tight one. -/
theorem tight_iff {bs : List UInt8} {s : String} : Tight bs s ↔ bs = encode s := by
  have hwritten := forall₂_encodeUnit (Utf16.units s.toList)
  rw [encode_eq_flatten]
  constructor
  · rintro ⟨⟨groups, hg, rfl⟩, hzero, hshort⟩
    -- a zero in a group would be one of the bytes
    have hgroups : ∀ g ∈ groups, 0 ∉ g := fun g hmem h => hzero (List.mem_flatten_of_mem hmem h)
    have hfree := (List.forall₂_and_left _ _).mpr ⟨hgroups, hg⟩
    rw [shortest_groups_iff.mp (.mp (fun g u h hs => ⟨h.2, h.1, hs⟩) hfree
      (hshort groups hg rfl))]
  · rintro rfl
    refine ⟨⟨_, hwritten, rfl⟩, ?_, ?_⟩
    · intro hzero
      -- a zero would be a byte of one of the written groups
      obtain ⟨g, hmem, h⟩ := List.mem_flatten.mp hzero
      obtain ⟨u, -, rfl⟩ := List.mem_map.mp hmem
      exact zero_notMem_encodeUnit u h
    · intro groups hg heq
      -- the bytes cut into the written groups only
      obtain rfl := groups_unique hwritten hg heq
      exact (shortest_groups_iff.mpr rfl).imp fun g u h => h.2.2

end ManagementModel.Text.ModifiedUtf8
