import ManagementModel.Proofs.Template.Text
import Mathlib.Logic.Function.Iterate

/-!
# ManagementModel — joining and editing templates

A slash between two texts joins what they are read as. It does not matter what the texts look like
around it: further slashes and blanks make empty chunks, which do not count. So appending a text to
a template is the same as writing the template down, a slash and the text behind it, and reading all
that; and since the segments of the template are read back, the only thing that can be wrong is a
segment of the text.

Editing is undone by editing. Dropping as many segments as were appended leaves the template, and
appending the text of the last segment puts back what was dropped.

Main results:

* `parse_append_slash` — what two texts with a slash between them are read as.
* `Segment.eq_fault_of_parse` — what is said about a chunk that is no segment.
* `joining_and_editing` — templates that were read, edited by texts.
-/

namespace ManagementModel.Template

/-! ## Joining texts -/

/-- A slash ends one chunk and begins another, whatever stands around it. -/
theorem chunks_append_slash (a b : List Char) : chunks (a ++ '/' :: b) = chunks a ++ chunks b := by
  unfold chunks
  rw [List.splitOn_append_cons_self, List.map_append, List.filter_append]

/-- Both texts are read, the first one first. -/
theorem parse_append_slash (a b : String) : parse (a ++ "/" ++ b) =
    match parse a, parse b with
    | .ok t, .ok u => .ok ⟨t.segments ++ u.segments⟩
    | .error e, _ => .error e
    | .ok _, .error e => .error e := by
  have hchunks : chunks (a ++ "/" ++ b).toList = chunks a.toList ++ chunks b.toList := by
    rw [String.toList_append, String.toList_append, List.append_assoc]
    exact chunks_append_slash a.toList b.toList
  unfold parse
  rw [hchunks, List.mapM_append]
  -- either list of chunks is read, or refused, as a whole
  cases (chunks a.toList).mapM Segment.parse with
  | error e => rfl
  | ok front => cases (chunks b.toList).mapM Segment.parse <;> rfl

/-- A slash in front changes nothing. -/
theorem parse_slash_append (s : String) : parse ("/" ++ s) = parse s := by
  have hnil : parse "" = .ok root := rfl
  -- the empty text in front is read as no segments
  have hjoin := parse_append_slash "" s
  rw [hnil, String.empty_append] at hjoin
  rw [hjoin]
  cases parse s <;> rfl

/-! ## Faults -/

/-- What is said about a chunk that is no segment: a token in braces is no tuple that is known, and
anything else does not have the form of a segment. -/
def Segment.fault (chunk : List Char) : TemplateError :=
  if isPlaceholder chunk then .unknownTuple (String.ofList chunk)
  else .malformed (String.ofList chunk)

/-- What is said about a chunk that is refused follows from its form. -/
theorem Segment.eq_fault_of_parse {chunk : List Char} {e : TemplateError}
    (h : Segment.parse chunk = .error e) : e = Segment.fault chunk := by
  simp only [Segment.parse] at h
  unfold Segment.fault
  split at h
  · next hplaceholder =>
    -- a token in braces is refused if no tuple has it
    rw [if_pos hplaceholder]
    split at h
    · cases h
    · exact (Except.error.inj h).symm
  · next hplaceholder =>
    rw [if_neg hplaceholder]
    split at h
    · exact (Except.error.inj h).symm
    · -- around an equals sign, only an empty side is wrong
      split at h
      · exact (Except.error.inj h).symm
      · split at h <;> cases h

/-- A text is refused for the first of its chunks that is no segment. -/
theorem parse_eq_error_iff {s : String} {e : TemplateError} :
    parse s = .error e ↔ ∃ chunk, FirstRefused Segment.parse (chunks s.toList) chunk e := by
  simp [← mapM_eq_error_iff, parse]

/-! ## Editing -/

/-- Appending fails exactly if the text cannot be read. -/
theorem append_eq_error_iff {t : Template} {s : String} {e : TemplateError} :
    t.append s = .error e ↔ parse s = .error e := by
  simp [append]

/-- Appending is reading the template and the text as one text. -/
theorem append_eq_parse {t : Template} (h : parse t.text = .ok t) (s : String) :
    t.append s = parse (t.text ++ "/" ++ s) := by
  -- the text of the template is read back, so only the other text can be wrong
  rw [parse_append_slash, h]
  unfold append
  cases parse s <;> rfl

@[simp] theorem parent_concat (segments : List Segment) (last : Segment) :
    parent ⟨segments ++ [last]⟩ = ⟨segments⟩ := by
  rw [parent, List.dropLast_concat]

/-- Dropping the last segment as often as there are segments drops them all. -/
theorem iterate_parent_append (segments more : List Segment) :
    parent^[more.length] ⟨segments ++ more⟩ = ⟨segments⟩ := by
  induction more using List.reverseRecOn with
  | nil => rw [List.append_nil, List.length_nil, Function.iterate_zero, id]
  | append_singleton more last ih =>
    rw [List.length_append, List.length_singleton, Function.iterate_succ_apply,
      ← List.append_assoc, parent_concat, ih]

/-- A segment that templates can spell is read from its text alone. -/
theorem parse_text_segment {s : Segment} (h : s.WellFormed) : parse s.text = .ok ⟨[s]⟩ := by
  have hread : parse (text ⟨[s]⟩) = .ok ⟨[s]⟩ :=
    parse_text_of_wellFormed (List.forall_mem_singleton.mpr h)
  have htext : text ⟨[s]⟩ = "/" ++ s.text := by
    simp [text, String.join]
  rwa [htext, parse_slash_append] at hread

/-- Two texts with a slash between them are read as the segments of the first and then those of the
second; the first text that is wrong decides on the error. So a text that is appended to a template
might as well be written behind it. It is refused for the first of its chunks that is no segment, by
name. The segments that were appended are dropped one by one, and a last segment that was dropped is
put back by its text. -/
theorem joining_and_editing :
    (∀ a b : String, parse (a ++ "/" ++ b) =
      match parse a, parse b with
      | .ok t, .ok u => .ok ⟨t.segments ++ u.segments⟩
      | .error e, _ => .error e
      | .ok _, .error e => .error e) ∧
    ∀ (text : String) (t : Template), parse text = .ok t →
      (∀ s, t.append s = parse (t.text ++ "/" ++ s)) ∧
      (∀ s e, t.append s = .error e ↔ ∃ chunk,
        FirstRefused Segment.parse (chunks s.toList) chunk e ∧ e = Segment.fault chunk) ∧
      (∀ s u, parse s = .ok u →
        ∃ t', t.append s = .ok t' ∧ parent^[u.segments.length] t' = t) ∧
      ∀ last, t.segments.getLast? = some last → t.parent.append last.text = .ok t := by
  refine ⟨parse_append_slash, ?_⟩
  intro text t h
  have hformed : ∀ s ∈ t.segments, s.WellFormed := wellFormed_of_parse h
  refine ⟨append_eq_parse (parse_text_of_wellFormed hformed), ?_, ?_, ?_⟩
  · intro s e
    rw [append_eq_error_iff, parse_eq_error_iff]
    -- what is said about a chunk follows from its being refused
    refine exists_congr fun chunk => ⟨fun hrefused => ⟨hrefused, ?_⟩, And.left⟩
    obtain ⟨before, after, -, -, hchunk⟩ := hrefused
    exact Segment.eq_fault_of_parse hchunk
  · intro s u hu
    exact ⟨_, append_eq_ok_iff.mpr ⟨u, hu, rfl⟩, iterate_parent_append t.segments u.segments⟩
  · intro last hlast
    -- the parent is what stands in front of the last segment
    obtain ⟨segments⟩ := t
    obtain ⟨front, rfl⟩ := List.getLast?_eq_some_iff.mp hlast
    have hmem : last ∈ front ++ [last] := List.mem_append_right _ List.mem_cons_self
    rw [parent_concat]
    exact append_eq_ok_iff.mpr ⟨⟨[last]⟩, parse_text_segment (hformed last hmem), rfl⟩

/-- Slashes and blanks around the joint do not count. The tuple that is not known is named although
a segment behind it is wrong too. -/
theorem joining_and_editing_untidy :
    let t : Template := ⟨[.tuple .selectedHost, .literal "a" "b=c"]⟩
    parse "//\x7bselected.host\x7d / a= b=c" = .ok t ∧
      (∃ t', t.append "/ d=e // f=g/" = .ok t' ∧ t'.parent.parent = t) ∧
      t.append "d=e/ \x7bx\x7d /f" = .error (.unknownTuple "\x7bx\x7d") ∧
      t.parent.append "a=b=c" = .ok t := by
  intro t
  have hparse : parse "//\x7bselected.host\x7d / a= b=c" = .ok t := by decide
  have hmore : parse "/ d=e // f=g/" = .ok ⟨[.literal "d" "e", .literal "f" "g"]⟩ := by decide
  obtain ⟨-, herror, hparents, hlast⟩ := joining_and_editing.2 _ t hparse
  refine ⟨hparse, hparents _ _ hmore, (herror _ _).mpr ⟨"\x7bx\x7d".toList, ?_, by decide⟩, ?_⟩
  · have hfirst : Segment.parse "d=e".toList = .ok (.literal "d" "e") := by decide
    exact ⟨["d=e".toList], ["f".toList], by decide, List.forall_mem_singleton.mpr ⟨_, hfirst⟩,
      by decide⟩
  · exact hlast (.literal "a" "b=c") rfl

end ManagementModel.Template
