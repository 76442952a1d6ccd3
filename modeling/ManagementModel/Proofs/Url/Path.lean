import ManagementModel.Proofs.Text.Percent
import ManagementModel.Proofs.Text.Split
import ManagementModel.Url.Parser

/-!
# ManagementModel — what becomes of the segments of a path

Reading a path cuts it at the slashes, resolves the segments that stand for others, and encodes what
may not stand in a path. A backslash counts as a slash in the paths of special schemes, and a
segment of dots stands for another one even if its dots are encoded. So there is no way to write a
segment that consists of one or two dots.

Main results:

* `resolveOnto_of_no_dots` — segments that stand for no others are kept in order.
* `segment_of_mem_resolveOnto` — what a segment that was read cannot be.
* `isDots_encode_iff` — the texts that are dots once they are encoded.
-/

namespace ManagementModel.Url

open Text.Percent (decode encode)

/-! ## Cutting at slashes -/

variable {kind : SchemeKind}

/-- Without backslashes there is one way to separate segments. -/
theorem splitSlashes_eq_splitOn {s : List Char} (h : '\\' ∉ s) :
    splitSlashes kind s = s.splitOn '/' := by
  rw [List.splitOn_eq_splitOnP]
  induction s with
  | nil => rfl
  | cons c rest ih =>
    obtain ⟨hc, hrest⟩ := not_or.mp (mt List.mem_cons.mpr h)
    have hslash : isSlash kind c = (c == '/') := by
      rw [isSlash, beq_false_of_ne (Ne.symm hc), Bool.and_false, Bool.or_false]
    rw [splitSlashes, hslash, List.splitOnP_cons_eq_if_modifyHead, ih hrest]
    split
    · rfl
    · -- the character goes in front of the first piece, and there always is one
      cases hpieces : rest.splitOnP (· == '/') with
      | nil => exact absurd hpieces (List.splitOnP_ne_nil _ _)
      | cons piece more => rfl

/-- No slash is in a segment. -/
theorem isSlash_of_mem_splitSlashes {s piece : List Char} (h : piece ∈ splitSlashes kind s)
    {c : Char} (hc : c ∈ piece) : isSlash kind c = false := by
  induction s generalizing piece with
  | nil =>
    obtain rfl := List.mem_singleton.mp h
    cases hc
  | cons d rest ih =>
    rw [splitSlashes] at h
    split at h
    · rcases List.mem_cons.mp h with rfl | h
      · cases hc
      · exact ih h hc
    · next hd =>
      split at h
      · next first more hpieces =>
        -- the character goes in front of the first segment
        rw [hpieces] at ih
        rcases List.mem_cons.mp h with rfl | h
        · rcases List.mem_cons.mp hc with rfl | hc
          · exact Bool.eq_false_iff.mpr hd
          · exact ih List.mem_cons_self hc
        · exact ih (List.mem_cons_of_mem _ h) hc
      · obtain rfl := List.mem_singleton.mp h
        obtain rfl := List.mem_singleton.mp hc
        exact Bool.eq_false_iff.mpr hd

/-! ## Segments of dots -/

/-- Segments that stand for another one. -/
def isDots (s : List Char) : Bool := isDoubleDot s || isSingleDot s

theorem toNat_toLower (c : Char) :
    c.toLower.toNat = if 65 ≤ c.toNat ∧ c.toNat ≤ 90 then c.toNat + 32 else c.toNat := by
  by_cases h : 65 ≤ c.toNat ∧ c.toNat ≤ 90
  · have hlower : c.toLower.toNat = (c.val + ('a'.val - 'A'.val)).toNat :=
      congrArg Char.toNat (dif_pos h)
    have hadd : (c.val + ('a'.val - 'A'.val)).toNat = (c.toNat + 32) % 2 ^ 32 :=
      UInt32.toNat_add _ _
    rw [if_pos h, hlower, hadd]
    omega
  · have hkept : c.toLower = c := dif_neg h
    rw [if_neg h, hkept]

/-- A character is its own lower case, or a capital letter. -/
theorem toLower_eq {c d : Char} (h : c.toLower = d) :
    c = d ∨ 65 ≤ c.toNat ∧ d.toNat = c.toNat + 32 := by
  have hnat := congrArg Char.toNat h
  rw [toNat_toLower] at hnat
  split at hnat
  · omega
  · exact .inl (Char.toNat_inj.mp hnat)

/-- Signs and digits have no other case. -/
theorem eq_of_toLower_eq {c d : Char} (hd : d.toNat < 97) (h : c.toLower = d) : c = d := by
  rcases toLower_eq h with h | ⟨hlow, hnat⟩
  · exact h
  · omega

/-- A dot that is encoded or not is a dot once it is decoded. -/
theorem decode_of_isSingleDot {s : List Char} (h : isSingleDot s = true) (rest : List UInt8) :
    decode (s.map Char.toUInt8 ++ rest) = 46 :: decode rest := by
  rw [isSingleDot, decide_eq_true_eq, List.mem_cons, List.mem_singleton] at h
  rcases h with h | h
  · obtain ⟨c, t, rfl, hc, ht⟩ := List.map_eq_cons_iff.mp h
    obtain rfl := List.map_eq_nil_iff.mp ht
    obtain rfl := eq_of_toLower_eq (by decide) hc
    exact Text.Percent.decode_cons_of_ne (by decide) rest
  · obtain ⟨c, t, rfl, hc, ht⟩ := List.map_eq_cons_iff.mp h
    obtain ⟨d, t, rfl, hd, ht⟩ := List.map_eq_cons_iff.mp ht
    obtain ⟨e, t, rfl, he, ht⟩ := List.map_eq_cons_iff.mp ht
    obtain rfl := List.map_eq_nil_iff.mp ht
    obtain rfl := eq_of_toLower_eq (by decide) hc
    obtain rfl := eq_of_toLower_eq (by decide) hd
    -- only the letter may come in either case
    rcases toLower_eq he with rfl | ⟨-, hnat⟩
    · rfl
    · have hupper : e = 'E' := Char.toNat_inj.mp (Nat.add_right_cancel hnat.symm)
      rw [hupper]
      exact Text.Percent.decode_encodeByte 46 rest

/-- Two dots are a dot and a dot, each encoded or not. -/
theorem split_of_isDoubleDot {s : List Char} (h : isDoubleDot s = true) :
    ∃ a b, s = a ++ b ∧ isSingleDot a = true ∧ isSingleDot b = true := by
  have hsplit : ∃ x y : List Char, s.map Char.toLower = x ++ y ∧
      x ∈ [".".toList, "%2e".toList] ∧ y ∈ [".".toList, "%2e".toList] := by
    rw [isDoubleDot, decide_eq_true_eq] at h
    simp only [List.mem_cons, List.not_mem_nil, or_false] at h
    rcases h with h | h | h | h
    · exact ⟨".".toList, ".".toList, h, by simp, by simp⟩
    · exact ⟨".".toList, "%2e".toList, h, by simp, by simp⟩
    · exact ⟨"%2e".toList, ".".toList, h, by simp, by simp⟩
    · exact ⟨"%2e".toList, "%2e".toList, h, by simp, by simp⟩
  obtain ⟨x, y, hs, hx, hy⟩ := hsplit
  obtain ⟨a, b, rfl, rfl, rfl⟩ := List.map_eq_append_iff.mp hs
  exact ⟨a, b, rfl, decide_eq_true hx, decide_eq_true hy⟩

theorem decode_of_isDoubleDot {s : List Char} (h : isDoubleDot s = true) :
    decode (s.map Char.toUInt8) = [46, 46] := by
  obtain ⟨a, b, rfl, ha, hb⟩ := split_of_isDoubleDot h
  rw [List.map_append, decode_of_isSingleDot ha, ← List.append_nil (b.map _),
    decode_of_isSingleDot hb, decode]

/-- Encoding a text with its percent signs makes dots of dots only. -/
theorem isDots_encode_iff {reserved : Char → Bool} (hpercent : reserved '%' = true)
    (hdot : reserved '.' = false) (s : String) :
    isDots (encode reserved s.toList) = true ↔ s = "." ∨ s = ".." := by
  constructor
  · intro h
    -- both ways lead to the bytes of the text: decoding what was encoded, and decoding dots
    have hread := Text.Percent.decode_encode hpercent s.toList
    rcases Bool.or_eq_true_iff.mp h with h | h
    · rw [decode_of_isDoubleDot h] at hread
      exact .inr (Text.Utf8.bytes_inj hread.symm)
    · rw [← List.append_nil (List.map _ _), decode_of_isSingleDot h] at hread
      exact .inl (Text.Utf8.bytes_inj hread.symm)
  · have hkept : ∀ t : String, (∀ c ∈ t.toList, c = '.') → encode reserved t.toList = t.toList := by
      intro t ht
      refine Text.Percent.encode_eq_self fun c hc => ?_
      rw [ht c hc]
      exact ⟨by decide, hdot⟩
    rintro (rfl | rfl)
    · rw [hkept "." (by simp)]
      decide
    · rw [hkept ".." (by simp)]
      decide

/-! ## Resolving -/

/-- Segments that are no dots are kept in order, and encoded. -/
theorem resolveOnto_of_no_dots {pieces : List (List Char)} (h : ∀ s ∈ pieces, isDots s = false)
    (acc : List String) :
    resolveOnto acc pieces = acc.reverse ++ pieces.map (encoded reservedInSegment) := by
  induction pieces generalizing acc with
  | nil => rw [resolveOnto, List.map_nil, List.append_nil]
  | cons s rest ih =>
    obtain ⟨hs, hrest⟩ := List.forall_mem_cons.mp h
    obtain ⟨hdouble, hsingle⟩ := Bool.or_eq_false_iff.mp hs
    rw [resolveOnto, hdouble, hsingle, ih hrest]
    simp

/-- What is left of the segments are empty ones and encoded ones. -/
theorem mem_resolveOnto {pieces : List (List Char)} {acc : List String} {t : String}
    (h : t ∈ resolveOnto acc pieces) :
    t ∈ acc ∨ t = "" ∨ ∃ s ∈ pieces, isDots s = false ∧ t = encoded reservedInSegment s := by
  induction pieces generalizing acc with
  | nil => exact .inl (List.mem_reverse.mp h)
  | cons s rest ih =>
    obtain ⟨acc', h, hnew⟩ : ∃ acc', t ∈ resolveOnto acc' rest ∧ ∀ u ∈ acc',
        u ∈ acc ∨ u = "" ∨ isDots s = false ∧ u = encoded reservedInSegment s := by
      rw [resolveOnto] at h
      refine ⟨_, h, fun u hu => ?_⟩
      -- two dots take a segment away and bring none in
      have hdrop : ∀ u ∈ if isDoubleDot s then acc.drop 1 else acc, u ∈ acc := by
        intro u hu
        split at hu
        · exact List.mem_of_mem_drop hu
        · exact hu
      split at hu
      · split at hu
        · rcases List.mem_cons.mp hu with rfl | hu
          · exact .inr (.inl rfl)
          · exact .inl (hdrop u hu)
        · exact .inl (hdrop u hu)
      · next hs =>
        rcases List.mem_cons.mp hu with rfl | hu
        · exact .inr (.inr ⟨Bool.eq_false_iff.mpr hs, rfl⟩)
        · exact .inl (hdrop u hu)
    -- what was put behind the segments before is found among them, or later
    rcases ih h with h | h | ⟨s', hs', h⟩
    · rcases hnew t h with h | h | h
      · exact .inl h
      · exact .inr (.inl h)
      · exact .inr (.inr ⟨s, List.mem_cons_self, h⟩)
    · exact .inr (.inl h)
    · exact .inr (.inr ⟨s', List.mem_cons_of_mem _ hs', h⟩)

/-- A segment that was read of a special scheme holds no backslash and is no dots. -/
theorem segment_of_mem_resolveOnto {s : List Char} {t : String}
    (h : t ∈ resolveOnto [] (splitSlashes .special s)) :
    '\\' ∉ t.toList ∧ t ≠ "." ∧ t ≠ ".." := by
  rcases mem_resolveOnto h with h | rfl | ⟨piece, hpiece, hdots, rfl⟩
  · cases h
  · decide
  · rw [encoded, String.toList_ofList]
    constructor
    · refine Text.Percent.notMem_encode_of_notMem (fun hslash => ?_) (by decide) (by decide)
      have hnot := isSlash_of_mem_splitSlashes hpiece hslash
      cases hnot
    · -- what is encoded holds a percent sign, and then it is not a dot or two
      have hkept : ∀ u : String, '%' ∉ u.toList → isDots u.toList = true →
          String.ofList (encode reservedInSegment piece) ≠ u := by
        rintro u hpercent hu rfl
        rw [String.toList_ofList] at hpercent hu
        rw [Text.Percent.encode_eq_self_of_notMem hpercent, hdots] at hu
        cases hu
      exact ⟨hkept "." (by decide) (by decide), hkept ".." (by decide) (by decide)⟩

end ManagementModel.Url
