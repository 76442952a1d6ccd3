import ManagementModel.Proofs.Template.Text
import ManagementModel.Template.Resolution

/-!
# ManagementModel — resolving in stages

A template can be resolved while only a part of the session is set up. The address that comes out
is printed, read again as a template and resolved once more when the rest is known. That gives what
the whole selection would have given at once: the same address or the same refusal.

The first stage changes the segments. A placeholder with a value becomes a literal, and a tuple
becomes a literal or a placeholder for its resource type; `Segment.residual` is that change. The
printed address is the text of the residual template, and values that templates can spell keep its
segments well-formed. So it is the residual template that is read, and the second stage resolves
its segments to the pairs that the merged selection has for the original ones.

Main results:

* `parse_text_resolve` — reading a resolved template's text yields the residual template.
* `resolveWith_residual` — resolving the residual template resolves the rest.
* `resolve_in_stages` — two stages give what the merged selection gives at once.
-/

namespace ManagementModel.Template

/-! ## Selections -/

namespace Selection

/-- What comes of the empty selection by setting and clearing tuples. -/
inductive Made : Selection → Prop where
  | empty : Made empty
  | set {s : Selection} (h : Made s) (tuple : Tuple) (value : Option String) :
    Made (s.set tuple value)

/-- The value of the first selection that has one. -/
def or (first second : Selection) : Selection :=
  ⟨fun t => (first.value? t).or (second.value? t)⟩

/-- The values have a place in a template: no slash ends them early, no blank around them gets lost
and none of them is taken for a placeholder. -/
def Spellable (s : Selection) : Prop :=
  ∀ t v, s.value? t = some v → '/' ∉ v.toList ∧ Text.Unpadded v.toList ∧ ¬ IsToken v.toList

theorem spellable_empty : Spellable empty := by
  intro t v h
  cases h

@[simp] theorem empty_or (s : Selection) : empty.or s = s :=
  rfl

/-- A token has the value of the first selection that knows it. -/
theorem resolve?_or (first second : Selection) (placeholder : String) :
    (first.or second).resolve? placeholder =
      (first.resolve? placeholder).or (second.resolve? placeholder) := by
  rw [resolve?, resolve?, resolve?]
  cases Tuple.ofName? placeholder <;> rfl

/-- A blank value clears its tuple, so that no tuple has one. -/
theorem Made.isBlank_eq_false {s : Selection} (h : s.Made) {t : Tuple} {v : String}
    (hv : s.value? t = some v) : Text.isBlank v = false := by
  induction h with
  | empty => cases hv
  | @set s _ tuple value ih =>
    by_cases ht : t = tuple
    · -- the tuple that is set has the new value, unless that is blank
      have hfilter : value.filter (fun v => !Text.isBlank v) = some v := by
        simpa [Selection.set, ht] using hv
      simpa using (Option.filter_eq_some_iff.mp hfilter).2
    · exact ih (by simpa [Selection.set, ht] using hv)

/-- A selected value that can be spelled is a part of a template. -/
theorem Made.part {s : Selection} (h : s.Made) (hs : s.Spellable) {t : Tuple} {v : String}
    (hv : s.value? t = some v) : Part v.toList := by
  obtain ⟨hslash, hunpadded, -⟩ := hs t v hv
  refine ⟨fun hnil => ?_, hunpadded, hslash⟩
  -- an empty value would be blank
  have hblank : Text.isBlank v = false := h.isBlank_eq_false hv
  rw [Text.isBlank, hnil] at hblank
  cases hblank

end Selection

/-! ## One segment -/

namespace Segment

/-- What the pair is read as that a segment resolves to under a selection. -/
def residual (selection : Selection) (s : Segment) : Segment :=
  match s.resolve? selection with
  | some (name, value) => .literal name value
  | none => .placeholder s.name s.value

/-- A tuple written out as a placeholder for its resource type. -/
def spelledOut : Segment → Segment
  | .tuple t => .placeholder t.resource t.placeholder
  | s => s

variable {first second : Selection} {s : Segment}

/-- What is left of a segment is written like the pair that it resolves to. -/
theorem text_residual (selection : Selection) (s : Segment) :
    (s.residual selection).text =
      ((s.resolve? selection).getD (s.name, s.value)).1 ++ "=" ++
        ((s.resolve? selection).getD (s.name, s.value)).2 := by
  rw [residual]
  cases s.resolve? selection <;> rfl

/-- Without a selection a tuple is written out, and nothing else changes. -/
@[simp] theorem residual_empty (s : Segment) : s.residual .empty = s.spelledOut := by
  cases s with
  | literal name value => rfl
  | placeholder name token =>
    rw [residual, resolve?, Selection.resolve?]
    cases Tuple.ofName? (stripBraces token) <;> rfl
  | tuple t => rfl

/-- A resolved pair is the segment's own, or it has the segment's name and a selected value. -/
theorem cases_of_resolve? {name value : String} (h : s.resolve? first = some (name, value)) :
    s = .literal name value ∨ s.name = name ∧ ∃ t, first.value? t = some value := by
  cases s with
  | literal name' value' =>
    cases h
    exact .inl rfl
  | placeholder name' token =>
    -- the token names a tuple, and the tuple has the value
    obtain ⟨v, hv, hpair⟩ := Option.map_eq_some_iff.mp h
    obtain ⟨t, -, ht⟩ := Option.bind_eq_some_iff.mp hv
    cases hpair
    exact .inr ⟨rfl, t, ht⟩
  | tuple t =>
    obtain ⟨v, hv, hpair⟩ := Option.map_eq_some_iff.mp h
    cases hpair
    exact .inr ⟨rfl, t, hv⟩

/-- The name of a well-formed segment is a part without an equals sign. -/
theorem WellFormed.part_name (h : s.WellFormed) : Part s.name.toList ∧ '=' ∉ s.name.toList := by
  cases s with
  | literal name value => exact ⟨h.1, h.2.1⟩
  | placeholder name token => exact ⟨h.1, h.2.1⟩
  | tuple t =>
    -- the resource types of the tuples are fixed words
    have htrim : Text.trimChars t.resource.toList = t.resource.toList := by cases t <;> rfl
    refine ⟨⟨?_, Text.trimChars_eq_self_iff.mp htrim, ?_⟩, ?_⟩ <;> cases t <;> decide

/-- Only literals have a value that is no placeholder. -/
theorem WellFormed.isToken_value (h : s.WellFormed) (hs : s.resolve? first = none) :
    IsToken s.value.toList := by
  cases s with
  | literal name value => cases hs
  | placeholder name token => exact h.2.2
  | tuple t => exact isToken_placeholder t

/-- What is left of a well-formed segment is well-formed. -/
theorem WellFormed.residual (h : s.WellFormed) (hmade : first.Made) (hfirst : first.Spellable) :
    (s.residual first).WellFormed := by
  obtain ⟨hname, hequals⟩ := h.part_name
  rw [Segment.residual]
  cases hs : s.resolve? first with
  | none => exact ⟨hname, hequals, h.isToken_value hs⟩
  | some p =>
    obtain ⟨name, value⟩ := p
    -- a literal stays, and any other segment gets a selected value
    rcases cases_of_resolve? hs with rfl | ⟨rfl, t, hvalue⟩
    · exact h
    · exact ⟨hname, hequals, hmade.part hfirst hvalue, (hfirst t value hvalue).2.2⟩

/-- The first selection decides where it has a value. -/
theorem resolve?_or (first second : Selection) (s : Segment) :
    s.resolve? (first.or second) = (s.resolve? first).or (s.resolve? second) := by
  cases s with
  | literal name value => rfl
  | placeholder name token =>
    rw [resolve?, resolve?, resolve?, Selection.resolve?_or, Option.map_or]
  | tuple t => exact Option.map_or

/-- A segment without a value resolves as the placeholder for it does. -/
theorem resolve?_placeholder (hs : s.resolve? first = none) :
    (Segment.placeholder s.name s.value).resolve? second = s.resolve? second := by
  cases s with
  | literal name value => cases hs
  | placeholder name token => rfl
  | tuple t => cases t <;> rfl

theorem resolve_of_some {p : String × String} (hs : s.resolve? first = some p) (policy : Policy) :
    s.resolve first policy = .ok p := by
  unfold resolve
  rw [hs]

/-- Without a value, the policy decides on the name and the text of the placeholder. -/
theorem resolve_congr_of_none {s' : Segment} (hs : s.resolve? first = none)
    (hs' : s'.resolve? second = none) (hname : s'.name = s.name) (hvalue : s'.value = s.value)
    (policy : Policy) : s'.resolve second policy = s.resolve first policy := by
  unfold resolve
  rw [hs, hs', hname, hvalue]

/-- The second stage resolves what is left as the merged selection resolves the whole. -/
theorem resolve_residual (policy : Policy) :
    (s.residual first).resolve second policy = s.resolve (first.or second) policy := by
  have hor : s.resolve? (first.or second) = (s.resolve? first).or (s.resolve? second) :=
    resolve?_or first second s
  rw [residual]
  cases hs : s.resolve? first with
  | some p =>
    rw [hs, Option.some_or] at hor
    rw [resolve_of_some hor]
    rfl
  | none =>
    rw [hs, Option.none_or] at hor
    -- the placeholder stands for the segment with and without a value in the second selection
    have hplaceholder : (placeholder s.name s.value).resolve? second = s.resolve? second :=
      resolve?_placeholder hs
    cases hsecond : s.resolve? second with
    | some p =>
      rw [resolve_of_some (hor.trans hsecond), resolve_of_some (hplaceholder.trans hsecond)]
    | none => exact resolve_congr_of_none (hor.trans hsecond) (hplaceholder.trans hsecond) rfl rfl _

end Segment

/-! ## Templates -/

/-- The template of what is left of each segment. -/
def residual (selection : Selection) (t : Template) : Template :=
  ⟨t.segments.map (·.residual selection)⟩

variable {first second : Selection} {t : Template}

theorem text_resolve (t : Template) (selection : Selection) :
    (t.resolve selection).text = (t.residual selection).text := by
  simp only [Address.text, text, Address.isRoot, resolve, residual, List.isEmpty_map,
    List.map_map, Function.comp_def, Segment.text_residual, String.append_assoc]

/-- The text of a resolved template is read as what is left of the template. -/
theorem parse_text_resolve (h : ∀ s ∈ t.segments, s.WellFormed) (hmade : first.Made)
    (hfirst : first.Spellable) : parse (t.resolve first).text = .ok (t.residual first) := by
  rw [text_resolve]
  refine parse_text_of_wellFormed fun s hs => ?_
  obtain ⟨original, horiginal, rfl⟩ := List.mem_map.mp hs
  exact (h original horiginal).residual hmade hfirst

/-- Wildcards are handed out by the pairs alone, and the pairs are the same. -/
theorem resolveSegments_residual (policy : Policy) (wildcards : List String)
    (segments : List Segment) :
    resolveSegments second policy wildcards (segments.map (·.residual first)) =
      resolveSegments (first.or second) policy wildcards segments := by
  induction segments generalizing wildcards with
  | nil => rfl
  | cons s rest ih =>
    -- the texts that are left for the others depend on the pair alone
    rw [List.map_cons, resolveSegments, resolveSegments, Segment.resolve_residual]
    simp only [ih]

/-- What is left of a template resolves, in the second stage, as the template does under both
selections. -/
theorem resolveWith_residual (t : Template) (first second : Selection) (policy : Policy)
    (wildcards : List String) :
    (t.residual first).resolveWith second policy wildcards =
      t.resolveWith (first.or second) policy wildcards := by
  rw [resolveWith, resolveWith, residual, resolveSegments_residual]

/-- Resolving a template, printing the address, reading it and resolving it again gives what the
merged selection gives at once, the address or the refusal. Before anything is selected the first
stage only writes the tuples out. -/
theorem resolve_in_stages {s : String} (h : parse s = .ok t) :
    (∀ first : Selection, first.Made → first.Spellable →
      ∃ t₁, parse (t.resolve first).text = .ok t₁ ∧
        ∀ second policy wildcards, t₁.resolveWith second policy wildcards =
          t.resolveWith (first.or second) policy wildcards) ∧
    ∃ t₁, parse (t.resolve .empty).text = .ok t₁ ∧
      t₁.segments = t.segments.map Segment.spelledOut ∧
      ∀ selection policy wildcards, t₁.resolveWith selection policy wildcards =
        t.resolveWith selection policy wildcards := by
  -- reading is needed for this alone: the segments are well-formed
  have hformed : ∀ segment ∈ t.segments, segment.WellFormed := wellFormed_of_parse h
  constructor
  · intro first hmade hfirst
    exact ⟨_, parse_text_resolve hformed hmade hfirst, resolveWith_residual t first⟩
  · refine ⟨_, parse_text_resolve hformed .empty Selection.spellable_empty, ?_, ?_⟩
    · exact List.map_congr_left fun segment _ => segment.residual_empty
    · intro selection policy wildcards
      rw [resolveWith_residual, Selection.empty_or]

/-- The profile is known first and the host later; a host that is never selected is refused. -/
theorem resolve_in_stages_profile_then_host :
    let s := "/\x7bselected.host\x7d/profile=\x7bselected.profile\x7d/server=*"
    let t : Template :=
      ⟨[.tuple .selectedHost, .placeholder "profile" "\x7bselected.profile\x7d",
        .literal "server" "*"]⟩
    let profile := Selection.empty.set .selectedProfile (some "full")
    let host := Selection.empty.set .selectedHost (some "primary")
    parse s = .ok t ∧ profile.Made ∧ profile.Spellable ∧
      (∃ t₁, parse (t.resolve profile).text = .ok t₁ ∧
        t₁.resolveWith host .strict ["one"] =
          .ok ⟨[("host", "primary"), ("profile", "full"), ("server", "one")]⟩) ∧
      ∃ t₁, parse (t.resolve .empty).text = .ok t₁ ∧
        t₁.resolveWith profile .strict [] = .error (.unresolved "\x7bselected.host\x7d") := by
  intro s t profile host
  have hparse : parse s = .ok t := by decide
  have hmade : profile.Made := .set .empty _ _
  have hspellable : profile.Spellable := by
    intro tuple v hv
    have hfull : v = "full" := by
      cases tuple <;> cases hv
      rfl
    subst hfull
    rw [← isPlaceholder_iff]
    exact ⟨by decide, Text.trimChars_eq_self_iff.mp rfl, by decide⟩
  obtain ⟨hstages, t₂, hread₂, -, hresolve₂⟩ := resolve_in_stages hparse
  obtain ⟨t₁, hread₁, hresolve₁⟩ := hstages profile hmade hspellable
  exact ⟨hparse, hmade, hspellable, ⟨t₁, hread₁, by rw [hresolve₁]; decide⟩,
    t₂, hread₂, by rw [hresolve₂]; decide⟩

end ManagementModel.Template
