import ManagementModel.Proofs.Sequence
import ManagementModel.Proofs.Text.Blank
import ManagementModel.Proofs.Text.Split
import ManagementModel.Template.Basic

/-!
# ManagementModel — the text of a template

A template is written as text and read back segment by segment. Reading forgives blanks and slashes
too many, and it decides by its form alone whether a segment is a literal, a placeholder or a tuple.
So not every sequence of segments survives: a literal whose value is a token in braces comes back as
a placeholder, and a slash or a blank in the wrong place is lost or moved.

The segments that survive are the `WellFormed` ones, and reading yields no others.

Main results:

* `Segment.parse_text` — a well-formed segment is read back.
* `Segment.wellFormed_of_parse` — what is read is well-formed.
* `parse_text_eq_ok_iff` — a template is read back exactly if its segments are well-formed.
-/

namespace ManagementModel.Template

/-! ## Placeholders -/

/-- A token in braces, and nothing else. -/
def IsToken (s : List Char) : Prop :=
  ∃ token, token ≠ [] ∧ (∀ c ∈ token, isTokenChar c = true) ∧ s = '\x7b' :: (token ++ ['\x7d'])

/-- The reader takes exactly tokens in braces for placeholders. -/
theorem isPlaceholder_iff {s : List Char} : isPlaceholder s = true ↔ IsToken s := by
  constructor
  · intro h
    unfold isPlaceholder at h
    split at h
    · next rest =>
      simp only [Bool.and_eq_true, beq_iff_eq, Bool.not_eq_true', List.isEmpty_eq_false_iff,
        List.all_eq_true] at h
      obtain ⟨⟨hlast, hne⟩, hall⟩ := h
      -- the token is what stands between the first character and the last one
      have hrest : rest.dropLast ++ ['\x7d'] = rest := List.dropLast_append_getLast? _ hlast
      exact ⟨rest.dropLast, hne, hall, by rw [hrest]⟩
    · cases h
  · rintro ⟨token, hne, hall, rfl⟩
    simp only [isPlaceholder, List.getLast?_concat, List.dropLast_concat]
    simpa [hne] using hall

/-- A token in braces consists of token characters and of braces. -/
theorem isTokenChar_of_mem {s : List Char} (h : IsToken s) {c : Char} (hc : c ∈ s) :
    isTokenChar c = true ∨ c = '\x7b' ∨ c = '\x7d' := by
  obtain ⟨token, -, hall, rfl⟩ := h
  simp only [List.mem_cons, List.mem_append, List.not_mem_nil, or_false] at hc
  rcases hc with rfl | hc | rfl
  · exact .inr (.inl rfl)
  · exact .inl (hall c hc)
  · exact .inr (.inr rfl)

/-! ## Well-formed segments -/

/-- A text that reading leaves as it is between slashes, alone or beside an equals sign. -/
structure Part (s : List Char) : Prop where
  ne_nil : s ≠ []
  unpadded : Text.Unpadded s
  no_slash : '/' ∉ s

/-- The braces of a token are its ends. -/
theorem IsToken.part {s : List Char} (h : IsToken s) : Part s := by
  -- a slash is no character of a token, and no brace
  have hslash : '/' ∉ s := by
    intro hmem
    rcases isTokenChar_of_mem h hmem with h' | h' | h' <;> exact absurd h' (by decide)
  obtain ⟨token, -, -, rfl⟩ := h
  refine ⟨List.cons_ne_nil _ _, ⟨?_, ?_⟩, hslash⟩
  · rintro c ⟨⟩
    rfl
  · intro c hc
    rw [← List.cons_append, List.getLast?_concat] at hc
    cases hc
    rfl

/-- Two parts and an equals sign between them make a part. -/
theorem Part.pair {name value : List Char} (hn : Part name) (hv : Part value) :
    Part (name ++ '=' :: value) := by
  refine ⟨by simp, ⟨?_, ?_⟩, ?_⟩
  · -- the first character is that of the name, and the last one that of the value
    rw [List.head?_append_of_ne_nil _ hn.ne_nil]
    exact hn.unpadded.head
  · rw [List.getLast?_append_of_ne_nil _ (List.cons_ne_nil _ _),
      List.getLast?_cons_of_ne_nil hv.ne_nil]
    exact hv.unpadded.last
  · rw [List.mem_append, List.mem_cons, not_or, not_or]
    exact ⟨hn.no_slash, by decide, hv.no_slash⟩

theorem isToken_placeholder (t : Tuple) : IsToken t.placeholder.toList := by
  rw [← isPlaceholder_iff]
  cases t <;> rfl

/-- Segments that templates can spell. A name has no equals sign, since the first one ends it; a
value may have some. -/
def Segment.WellFormed : Segment → Prop
  | .literal name value =>
    Part name.toList ∧ '=' ∉ name.toList ∧ Part value.toList ∧ ¬ IsToken value.toList
  | .placeholder name token => Part name.toList ∧ '=' ∉ name.toList ∧ IsToken token.toList
  | .tuple _ => True

/-! ## One segment -/

namespace Segment

/-- The segment of a name and a value: the form of the value decides. -/
def ofPair (name value : List Char) : Segment :=
  if isPlaceholder value then .placeholder (String.ofList name) (String.ofList value)
  else .literal (String.ofList name) (String.ofList value)

theorem ofPair_of_token {name token : List Char} (h : IsToken token) :
    ofPair name token = .placeholder (String.ofList name) (String.ofList token) := by
  rw [ofPair, if_pos (isPlaceholder_iff.mpr h)]

theorem ofPair_of_not_token {name value : List Char} (h : ¬ IsToken value) :
    ofPair name value = .literal (String.ofList name) (String.ofList value) := by
  rw [ofPair, if_neg fun hp => h (isPlaceholder_iff.mp hp)]

/-- The segment of two parts is well-formed, whichever form the value has. -/
theorem wellFormed_ofPair {name value : List Char} (hn : Part name) (he : '=' ∉ name)
    (hv : Part value) : (ofPair name value).WellFormed := by
  -- the form of the value decides
  by_cases ht : IsToken value
  · rw [ofPair_of_token ht]
    simpa [WellFormed] using ⟨hn, he, ht⟩
  · rw [ofPair_of_not_token ht]
    simpa [WellFormed] using ⟨hn, he, hv, ht⟩

/-- A name and a value around an equals sign are read as such. -/
theorem parse_pair {name value : List Char} (hn : Part name) (he : '=' ∉ name) (hv : Part value) :
    parse (name ++ '=' :: value) = .ok (ofPair name value) := by
  -- the equals sign keeps the text from being a placeholder as a whole
  have hwhole : isPlaceholder (name ++ '=' :: value) = false := by
    rw [← Bool.not_eq_true, isPlaceholder_iff]
    intro h
    have hmem : '=' ∈ name ++ '=' :: value := by simp
    rcases isTokenChar_of_mem h hmem with h' | h' | h' <;> exact absurd h' (by decide)
  rw [parse, if_neg (by simp [hwhole]), Text.dropWhile_append_cons value he]
  -- neither side is trimmed, and neither is empty
  simp only [Text.takeWhile_append_cons value he, Text.trimChars_eq_self hn.unpadded,
    Text.trimChars_eq_self hv.unpadded]
  have hempty : (name.isEmpty || value.isEmpty) = false := by
    simp [hn.ne_nil, hv.ne_nil]
  rw [if_neg (by simp [hempty]), ofPair]
  split <;> rfl

@[simp] theorem toList_literal (name value : String) :
    (text (.literal name value)).toList = name.toList ++ '=' :: value.toList := by
  simp [text]

@[simp] theorem toList_placeholder (name token : String) :
    (text (.placeholder name token)).toList = name.toList ++ '=' :: token.toList := by
  simp [text]

@[simp] theorem parse_placeholder (t : Tuple) : parse t.placeholder.toList = .ok (.tuple t) := by
  cases t <;> rfl

/-- A well-formed segment is read back from its text. -/
theorem parse_text {s : Segment} (h : s.WellFormed) : parse s.text.toList = .ok s := by
  cases s with
  | literal name value =>
    obtain ⟨hn, he, hv, hnot⟩ := h
    rw [toList_literal, parse_pair hn he hv, ofPair_of_not_token hnot, String.ofList_toList,
      String.ofList_toList]
  | placeholder name token =>
    obtain ⟨hn, he, ht⟩ := h
    rw [toList_placeholder, parse_pair hn he ht.part, ofPair_of_token ht, String.ofList_toList,
      String.ofList_toList]
  | tuple t => exact parse_placeholder t

/-- A well-formed segment is written without a slash, and with something else than a blank first
and last. -/
theorem WellFormed.part_text {s : Segment} (h : s.WellFormed) : Part s.text.toList := by
  cases s with
  | literal name value =>
    obtain ⟨hn, -, hv, -⟩ := h
    rw [toList_literal]
    exact hn.pair hv
  | placeholder name token =>
    obtain ⟨hn, -, ht⟩ := h
    rw [toList_placeholder]
    exact hn.pair ht.part
  | tuple t => exact (isToken_placeholder t).part

/-- What a text is read as: a tuple, or what stands around its first equals sign. -/
theorem cases_of_parse {raw : List Char} {s : Segment} (h : parse raw = .ok s) :
    (∃ t, s = .tuple t) ∨
      ∃ before after, raw = before ++ '=' :: after ∧ '=' ∉ before ∧
        Text.trimChars before ≠ [] ∧ Text.trimChars after ≠ [] ∧
        s = ofPair (Text.trimChars before) (Text.trimChars after) := by
  simp only [parse] at h
  split at h
  · -- a token in braces is a tuple or nothing
    split at h
    · next t _ => exact .inl ⟨t, (Except.ok.inj h).symm⟩
    · cases h
  · split at h
    · cases h
    · next c after hdrop =>
      -- what is left of the text begins with its first equals sign
      have hc : c = '=' := by
        have hnot := List.head?_dropWhile_not (· != '=') raw
        rw [hdrop] at hnot
        simpa using hnot
      subst hc
      split at h
      · cases h
      · next hne =>
        have hraw : raw = raw.takeWhile (· != '=') ++ '=' :: after := by
          rw [← hdrop, List.takeWhile_append_dropWhile]
        have hbefore : '=' ∉ raw.takeWhile (· != '=') := by
          intro hmem
          simpa using List.mem_takeWhile_imp hmem
        -- the reader has refused empty sides
        have hparts : Text.trimChars (raw.takeWhile (· != '=')) ≠ [] ∧
            Text.trimChars after ≠ [] := by
          simpa using hne
        refine .inr ⟨_, after, hraw, hbefore, hparts.1, hparts.2, ?_⟩
        rw [ofPair]
        split at h
        · next hp => rw [if_pos hp]; exact (Except.ok.inj h).symm
        · next hp => rw [if_neg hp]; exact (Except.ok.inj h).symm

/-- What is left of a text without slashes, when it is trimmed to something, is a part. -/
theorem part_trimChars {s : List Char} (hne : Text.trimChars s ≠ []) (hslash : '/' ∉ s) :
    Part (Text.trimChars s) :=
  ⟨hne, Text.unpadded_trimChars s, fun h => hslash (Text.mem_of_mem_trimChars h)⟩

/-- What is read from a text without slashes is well-formed. -/
theorem wellFormed_of_parse {raw : List Char} {s : Segment} (hslash : '/' ∉ raw)
    (h : parse raw = .ok s) : s.WellFormed := by
  rcases cases_of_parse h with ⟨t, rfl⟩ | ⟨before, after, rfl, hequals, hname, hvalue, hs⟩
  · exact trivial
  · have hn : Part (Text.trimChars before) :=
      part_trimChars hname fun h => hslash (List.mem_append_left _ h)
    have he : '=' ∉ Text.trimChars before := fun h => hequals (Text.mem_of_mem_trimChars h)
    have hv : Part (Text.trimChars after) :=
      part_trimChars hvalue fun h => hslash (List.mem_append_right _ (List.mem_cons_of_mem _ h))
    rw [hs]
    exact wellFormed_ofPair hn he hv

end Segment

/-! ## Segments between slashes -/

/-- Some texts, each behind a slash. -/
def slashed (segments : List (List Char)) : List Char :=
  segments.flatMap fun s => '/' :: s

theorem splitOn_append_slashed {s : List Char} {segments : List (List Char)} (hs : '/' ∉ s)
    (h : ∀ s ∈ segments, '/' ∉ s) : (s ++ slashed segments).splitOn '/' = s :: segments :=
  Text.splitOn_append_behind hs h

/-- Between slashes there is no slash. -/
theorem not_mem_of_mem_splitOn {s piece : List Char} (h : piece ∈ s.splitOn '/') :
    '/' ∉ piece := by
  induction s generalizing piece with
  | nil =>
    rw [List.splitOn_nil, List.mem_singleton] at h
    subst h
    exact List.not_mem_nil
  | cons c rest ih =>
    rw [List.splitOn_cons_eq_if_modifyHead] at h
    split at h
    · rcases List.mem_cons.mp h with rfl | h
      · exact List.not_mem_nil
      · exact ih h
    · next hc =>
      -- the character goes in front of the first piece
      obtain ⟨first, others, hpieces⟩ := List.exists_cons_of_ne_nil (List.splitOn_ne_nil '/' rest)
      rw [hpieces, List.modifyHead_cons] at h
      rw [hpieces] at ih
      rcases List.mem_cons.mp h with rfl | h
      · rw [List.mem_cons, not_or]
        exact ⟨fun heq => hc (beq_iff_eq.mpr heq.symm), ih List.mem_cons_self⟩
      · exact ih (List.mem_cons_of_mem _ h)

theorem not_mem_of_mem_chunks {s chunk : List Char} (h : chunk ∈ chunks s) : '/' ∉ chunk := by
  rw [chunks, List.mem_filter, List.mem_map] at h
  obtain ⟨⟨piece, hpiece, rfl⟩, -⟩ := h
  exact fun hmem => not_mem_of_mem_splitOn hpiece (Text.mem_of_mem_trimChars hmem)

/-- Parts behind slashes are read back one by one. -/
theorem chunks_slashed {segments : List (List Char)} (h : ∀ s ∈ segments, Part s) :
    chunks (slashed segments) = segments := by
  -- cutting finds the parts, trimming leaves them alone, and none of them is empty
  have hsplit : (slashed segments).splitOn '/' = [] :: segments :=
    splitOn_append_slashed List.not_mem_nil fun s hs => (h s hs).no_slash
  have htrim : segments.map Text.trimChars = segments := by
    rw [List.map_congr_left fun s hs => Text.trimChars_eq_self (h s hs).unpadded, List.map_id']
  have hfilter : segments.filter (fun chunk => !chunk.isEmpty) = segments :=
    List.filter_eq_self.mpr fun s hs => by simp [(h s hs).ne_nil]
  rw [chunks, hsplit, List.map_cons, htrim]
  exact hfilter

/-! ## Templates -/

/-- The text of a template is that of its segments, each behind a slash. -/
theorem text_of_ne_nil {t : Template} (h : t.segments ≠ []) :
    t.text.toList = slashed (t.segments.map fun s => s.text.toList) := by
  rw [text, if_neg (by simp [h]), String.toList_join, slashed, List.flatMap_map, List.flatMap_map]
  simp only [String.toList_append]
  rfl

/-- The chunks of a template's text are the texts of its segments. -/
theorem chunks_text {t : Template} (h : ∀ s ∈ t.segments, s.WellFormed) :
    chunks t.text.toList = t.segments.map fun s => s.text.toList := by
  by_cases hnil : t.segments = []
  · -- the template without segments is one slash
    obtain ⟨segments⟩ := t
    cases hnil
    rfl
  · rw [text_of_ne_nil hnil]
    refine chunks_slashed fun raw hraw => ?_
    obtain ⟨s, hs, rfl⟩ := List.mem_map.mp hraw
    exact (h s hs).part_text

/-- A text is read as a template if its chunks are read as the segments, one by one. -/
theorem parse_eq_ok_iff {s : String} {t : Template} :
    parse s = .ok t ↔
      List.Forall₂ (fun raw segment => Segment.parse raw = .ok segment) (chunks s.toList)
        t.segments := by
  obtain ⟨segments⟩ := t
  simp [← mapM_eq_ok_iff, parse]

/-- What is appended is what the text is read as. -/
theorem append_eq_ok_iff {t t' : Template} {s : String} :
    t.append s = .ok t' ↔ ∃ more, parse s = .ok more ∧ t' = ⟨t.segments ++ more.segments⟩ := by
  simp [append, eq_comm (a := t')]

/-- Reading yields well-formed segments only. -/
theorem wellFormed_of_parse {s : String} {t : Template} (h : parse s = .ok t) :
    ∀ segment ∈ t.segments, segment.WellFormed := by
  have hpairs := parse_eq_ok_iff.mp h
  intro segment hmem
  obtain ⟨i, hi, rfl⟩ := List.mem_iff_getElem.mp hmem
  have hi' : i < (chunks s.toList).length := by rwa [hpairs.length_eq]
  exact Segment.wellFormed_of_parse (not_mem_of_mem_chunks (List.getElem_mem hi'))
    (hpairs.get hi' hi)

/-- A template with well-formed segments is read back from its text. -/
theorem parse_text_of_wellFormed {t : Template} (h : ∀ s ∈ t.segments, s.WellFormed) :
    parse t.text = .ok t := by
  rw [parse_eq_ok_iff, chunks_text h, List.forall₂_map_left_iff, List.forall₂_same]
  exact fun s hs => Segment.parse_text (h s hs)

/-- Exactly the templates with well-formed segments are read back from their texts. Every template
that is read is one of them, and so is the empty one. -/
theorem parse_text_eq_ok_iff :
    (∀ t : Template, parse t.text = .ok t ↔ ∀ s ∈ t.segments, s.WellFormed) ∧
      (∀ (s : String) (t : Template), parse s = .ok t →
        (∀ segment ∈ t.segments, segment.WellFormed) ∧ parse t.text = .ok t) ∧
      root.text = "/" ∧ parse "/" = .ok root := by
  -- both directions for a template, whether it was read or made
  have hread : ∀ t : Template, parse t.text = .ok t ↔ ∀ s ∈ t.segments, s.WellFormed :=
    fun t => ⟨wellFormed_of_parse, parse_text_of_wellFormed⟩
  refine ⟨hread, ?_, rfl, (hread root).mpr fun s hs => by cases hs⟩
  intro s t h
  exact ⟨wellFormed_of_parse h, (hread t).mpr (wellFormed_of_parse h)⟩

/-- Slashes too many and blanks around a name are lost once; an equals sign may be in a value. -/
theorem parse_text_eq_ok_iff_untidy :
    let t : Template := ⟨[.tuple .selectedHost, .literal "profile" "a=b"]⟩
    parse "//\x7bselected.host\x7d/ profile = a=b /" = .ok t ∧ parse t.text = .ok t := by
  intro t
  have hparse : parse "//\x7bselected.host\x7d/ profile = a=b /" = .ok t := by decide
  exact ⟨hparse, (parse_text_eq_ok_iff.2.1 _ t hparse).2⟩

/-- A value that is a token in braces comes back as a placeholder. -/
example : parse (text ⟨[.literal "host" "\x7bprimary\x7d"]⟩) =
    .ok ⟨[.placeholder "host" "\x7bprimary\x7d"]⟩ := by
  decide

end ManagementModel.Template
