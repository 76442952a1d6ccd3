import ManagementModel.Proofs.Template.Wildcards

/-!
# ManagementModel — sessions without blanks

A session selects and clears values for a while, edits templates and resolves them. No blank text
gets into an address on the way. The selection takes none: a blank value clears its tuple, so what a
tuple has is the last value that it was given since everything was cleared, if that can be seen at
all. The templates hold none either, since reading refuses segments with a blank name or value and
editing only joins and drops what was read.

An address is made of both, name by name from the template and value by value from the template or
the selection.

Main results:

* `Selection.value?_ofActions_iff` — the value of a tuple by the actions of the session.
* `EditedTo.wellFormed` — editing keeps the segments well-formed.
* `Segment.WellFormed.clean_pair` — the pair that a segment resolves to.
* `session_resolves_cleanly` — whole sessions.
-/

namespace ManagementModel.Template

/-- A part begins with something that can be seen. -/
theorem Part.exists_visible {s : List Char} (h : Part s) :
    ∃ c ∈ s, Text.isBlankChar c = false := by
  obtain ⟨c, rest, rfl⟩ := List.exists_cons_of_ne_nil h.ne_nil
  exact ⟨c, List.mem_cons_self, h.unpadded.head c rfl⟩

/-! ## What a session selects -/

namespace Selection

/-- An action gives a tuple a value, or takes its value away. -/
inductive Action.Assigns (tuple : Tuple) : Option String → Action → Prop
  | set (value : Option String) : Assigns tuple value (.set tuple value)
  | select (value : String) : Assigns tuple (some value) (.select tuple value)

/-- An action that does not concern a tuple. -/
def Action.Spares (tuple : Tuple) (a : Action) : Prop :=
  a ≠ .clear ∧ ∀ value, ¬ a.Assigns tuple value

/-- The value that the last assignment to a tuple gave, if everything was not cleared since. -/
def LastAssigned (actions : List Action) (tuple : Tuple) (value : Option String) : Prop :=
  ∃ before last after, actions = before ++ last :: after ∧ last.Assigns tuple value ∧
    ∀ a ∈ after, a.Spares tuple

/-! ### One action -/

variable {s : Selection} {a : Action} {tuple : Tuple} {value : Option String}

/-- An assignment gives the tuple its value, unless that is blank. -/
theorem value?_act_of_assigns (h : a.Assigns tuple value) (s : Selection) :
    (s.act a).value? tuple = value.filter fun v => !Text.isBlank v := by
  cases h with
  | set => exact if_pos rfl
  | select => exact if_pos rfl

/-- An action on one tuple does not concern another. -/
theorem Action.Assigns.spares (h : a.Assigns tuple value) {other : Tuple} (hne : other ≠ tuple) :
    a.Spares other := by
  cases h with
  | set =>
    refine ⟨nofun, ?_⟩
    rintro w ⟨⟩
    exact hne rfl
  | select =>
    refine ⟨nofun, ?_⟩
    rintro w ⟨⟩
    exact hne rfl

theorem Action.Assigns.unique {other : Option String} (h : a.Assigns tuple value)
    (h' : a.Assigns tuple other) : other = value := by
  cases h <;> cases h' <;> rfl

/-- An action clears everything, or it assigns to one tuple and spares the others. -/
theorem Action.cases_of_tuple (a : Action) (tuple : Tuple) :
    a = .clear ∨ (∃ value, a.Assigns tuple value) ∨ a.Spares tuple := by
  cases a with
  | set other value =>
    -- the action assigns to the tuple, or to another one
    by_cases h : tuple = other
    · exact .inr (.inl ⟨value, h ▸ .set value⟩)
    · exact .inr (.inr ((Assigns.set value).spares h))
  | select other value =>
    by_cases h : tuple = other
    · exact .inr (.inl ⟨some value, h ▸ .select value⟩)
    · exact .inr (.inr ((Assigns.select value).spares h))
  | clear => exact .inl rfl

/-- An action that does not concern a tuple leaves its value alone. -/
theorem value?_act_of_spares (h : a.Spares tuple) (s : Selection) :
    (s.act a).value? tuple = s.value? tuple := by
  cases a with
  | set other value =>
    have hne : tuple ≠ other := fun heq => h.2 value (heq ▸ .set value)
    exact if_neg hne
  | select other value =>
    have hne : tuple ≠ other := fun heq => h.2 (some value) (heq ▸ .select value)
    exact if_neg hne
  | clear => exact absurd rfl h.1

/-! ### All actions -/

@[simp] theorem ofActions_concat (actions : List Action) (a : Action) :
    ofActions (actions ++ [a]) = (ofActions actions).act a := by
  unfold ofActions
  rw [List.foldl_append]
  rfl

/-- One more action assigns a value, or it spares the tuple and the value was assigned before. -/
theorem lastAssigned_concat_iff {actions : List Action} :
    LastAssigned (actions ++ [a]) tuple value ↔
      a.Assigns tuple value ∨ a.Spares tuple ∧ LastAssigned actions tuple value := by
  constructor
  · rintro ⟨before, last, after, heq, hlast, hafter⟩
    rcases List.eq_nil_or_concat after with rfl | ⟨after, new, rfl⟩
    · -- the assignment is the new action
      obtain ⟨-, hnew⟩ := List.append_inj' heq rfl
      cases hnew
      exact .inl hlast
    · -- the new action comes behind the assignment
      have hsplit : actions ++ [a] = (before ++ last :: after) ++ [new] := by simpa using heq
      obtain ⟨rfl, hnew⟩ := List.append_inj' hsplit rfl
      cases hnew
      rw [List.concat_eq_append, List.forall_mem_append] at hafter
      exact .inr ⟨hafter.2 a (List.mem_singleton.mpr rfl), before, last, after, rfl, hlast,
        hafter.1⟩
  · rintro (h | ⟨hspares, before, last, after, rfl, hlast, hafter⟩)
    · -- nothing comes behind the new assignment
      exact ⟨actions, a, [], rfl, h, fun _ h => nomatch h⟩
    · refine ⟨before, last, after ++ [a], ?_, hlast, ?_⟩
      · rw [List.append_assoc]
        rfl
      · intro b hb
        rcases List.mem_append.mp hb with hb | hb
        · exact hafter b hb
        · rw [List.mem_singleton.mp hb]
          exact hspares

/-- A tuple has the value that it was assigned last, if that was not cleared since and is not
blank. -/
theorem value?_ofActions_iff (actions : List Action) (tuple : Tuple) (v : String) :
    (ofActions actions).value? tuple = some v ↔
      LastAssigned actions tuple (some v) ∧ ∃ c ∈ v.toList, Text.isBlankChar c = false := by
  -- the induction takes the last action off: it clears, assigns to the tuple or spares it
  induction actions using List.reverseRecOn with
  | nil =>
    -- nothing is selected, and nothing was assigned
    constructor
    · intro h
      cases h
    · rintro ⟨⟨before, last, after, hnil, -⟩, -⟩
      exact absurd hnil.symm (by simp)
  | append_singleton actions a ih =>
    rw [ofActions_concat, lastAssigned_concat_iff]
    rcases a.cases_of_tuple tuple with rfl | ⟨value, hassigns⟩ | hspares
    · -- nothing has a value, and whatever was assigned is not the last any more
      have hnot : ¬ Action.clear.Assigns tuple (some v) := nofun
      have hclear : ¬ Action.clear.Spares tuple := fun h => h.1 rfl
      simp only [hnot, hclear, false_or, false_and]
      exact ⟨nofun, False.elim⟩
    · -- what counts is the new value alone
      have hspares : ¬ a.Spares tuple := fun h => h.2 value hassigns
      have hvalue : a.Assigns tuple (some v) ↔ value = some v :=
        ⟨fun h => (hassigns.unique h).symm, fun h => h ▸ hassigns⟩
      rw [value?_act_of_assigns hassigns, Option.filter_eq_some_iff, hvalue,
        Bool.not_eq_true', Text.isBlank_eq_false_iff]
      simp only [hspares, false_and, or_false]
    · -- the tuple is left as it was, and so is its last assignment
      have hnot : ¬ a.Assigns tuple (some v) := hspares.2 (some v)
      rw [value?_act_of_spares hspares, ih]
      simp only [hnot, hspares, false_or, true_and]

/-- No value of a session is blank. -/
theorem visible_of_ofActions {actions : List Action} {tuple : Tuple} {v : String}
    (h : (ofActions actions).value? tuple = some v) :
    ∃ c ∈ v.toList, Text.isBlankChar c = false :=
  ((value?_ofActions_iff actions tuple v).mp h).2

end Selection

/-! ## What a session edits -/

/-- What comes of a template by appending texts and dropping last segments. -/
inductive EditedTo (t : Template) : Template → Prop
  | self : EditedTo t t
  | append {u u' : Template} (h : EditedTo t u) (s : String) (ha : u.append s = .ok u') :
    EditedTo t u'
  | parent {u : Template} (h : EditedTo t u) : EditedTo t u.parent

/-- Editing joins and drops segments that were read. -/
theorem EditedTo.wellFormed {t u : Template} (h : EditedTo t u)
    (ht : ∀ s ∈ t.segments, s.WellFormed) : ∀ s ∈ u.segments, s.WellFormed := by
  induction h with
  | self => exact ht
  | append _ text ha ih =>
    -- what is appended was read as well
    obtain ⟨more, hmore, rfl⟩ := append_eq_ok_iff.mp ha
    exact List.forall_mem_append.mpr ⟨ih, wellFormed_of_parse hmore⟩
  | parent _ ih => exact fun s hs => ih s (List.dropLast_subset _ hs)

/-! ## What a session resolves -/

/-- A name that is not empty and has no blanks around it, and a value that is not blank. -/
structure Clean (p : String × String) : Prop where
  name_ne : p.1 ≠ ""
  name_unpadded : Text.Unpadded p.1.toList
  value_visible : ∃ c ∈ p.2.toList, Text.isBlankChar c = false

variable {selection : Selection}

/-- The name is that of the segment; the value is a part of the segment or was selected. -/
theorem Segment.WellFormed.clean_pair {s : Segment} (h : s.WellFormed)
    (hs : ∀ t v, selection.value? t = some v → ∃ c ∈ v.toList, Text.isBlankChar c = false) :
    Clean (s.pair selection) := by
  have hname : (s.pair selection).1 = s.name := s.fst_pair selection
  obtain ⟨hpart, -⟩ := h.part_name
  refine ⟨?_, ?_, ?_⟩
  · rw [hname]
    intro hnil
    exact hpart.ne_nil (by rw [hnil]; rfl)
  · rw [hname]
    exact hpart.unpadded
  · rw [Segment.pair]
    cases hres : s.resolve? selection with
    | none =>
      -- a token without a value stays, and its braces can be seen
      exact (h.isToken_value hres).part.exists_visible
    | some p =>
      obtain ⟨name, value⟩ := p
      -- a literal shows its own value, and anything else one that was selected
      rcases Segment.cases_of_resolve? hres with rfl | ⟨-, t, hvalue⟩
      · exact h.2.2.1.exists_visible
      · exact hs t value hvalue

/-- Under the permissive policy, and without wildcards, there always is an address. -/
theorem resolveWith_permissive (t : Template) (selection : Selection) :
    t.resolveWith selection .permissive [] = .ok (t.resolve selection) := by
  unfold resolveWith
  rw [resolveSegments_eq, mapM_resolve_permissive]
  simp [Except.map, resolve, Segment.pair]

/-- Without wildcards a policy decides only on whether there is an address. -/
theorem eq_resolve_of_resolveWith {t : Template} {policy : Policy} {address : Address}
    (h : t.resolveWith selection policy [] = .ok address) : address = t.resolve selection := by
  cases policy with
  | permissive => exact Except.ok.inj (h.symm.trans (resolveWith_permissive t selection))
  | strict =>
    -- the strict policy gives the pairs too, if it gives anything
    unfold resolveWith at h
    rw [resolveSegments_eq, mapM_resolve_strict] at h
    split at h
    · simp only [Except.map, substitute_no_texts] at h
      exact (Except.ok.inj h).symm
    · cases h

/-- Whatever a session selects and clears, a tuple has the last visible value that it was given
since everything was cleared, and no action on one tuple concerns another. Whatever it reads as a
template and edits, the addresses that come of it have no blank names or values and no blanks around
a name; under the permissive policy there always is one. -/
theorem session_resolves_cleanly (actions : List Selection.Action) :
    let selection := Selection.ofActions actions
    (∀ tuple v, selection.value? tuple = some v ↔
      Selection.LastAssigned actions tuple (some v) ∧ ∃ c ∈ v.toList, Text.isBlankChar c = false) ∧
    (∀ (s : Selection) (a : Selection.Action) (tuple : Tuple) (value : Option String),
      a.Assigns tuple value → ∀ other, other ≠ tuple → (s.act a).value? other = s.value? other) ∧
    ∀ (text : String) (t u : Template), parse text = .ok t → EditedTo t u →
      u.resolveWith selection .permissive [] = .ok (u.resolve selection) ∧
      ∀ policy address, u.resolveWith selection policy [] = .ok address →
        ∀ p ∈ address.segments, Clean p := by
  intro selection
  refine ⟨Selection.value?_ofActions_iff actions, ?_, ?_⟩
  · intro s a tuple value ha other hne
    exact Selection.value?_act_of_spares (ha.spares hne) s
  · intro text t u ht hu
    refine ⟨resolveWith_permissive u selection, ?_⟩
    intro policy address haddress p hp
    have hformed : ∀ s ∈ u.segments, s.WellFormed := hu.wellFormed (wellFormed_of_parse ht)
    -- each pair of the address is that of a segment
    rw [eq_resolve_of_resolveWith haddress] at hp
    obtain ⟨s, hs, rfl⟩ := List.mem_map.mp hp
    exact (hformed s hs).clean_pair fun _ _ hvalue => Selection.visible_of_ofActions hvalue

/-- The host is selected, cleared and then selected as an ideographic space, which counts as
nothing; a segment is dropped and one with blanks around its parts is appended. -/
theorem session_resolves_cleanly_blank_host :
    let actions : List Selection.Action :=
      [.select .selectedHost "primary", .clear, .set .selectedProfile (some "full"),
        .select .selectedHost "\u3000"]
    let selection := Selection.ofActions actions
    let profile := Segment.placeholder "profile" "\x7bselected.profile\x7d"
    let read : Template := ⟨[.tuple .selectedHost, profile, .literal "a" "b"]⟩
    let edited : Template := ⟨[.tuple .selectedHost, profile, .literal "server" "one"]⟩
    parse "\x7bselected.host\x7d/profile=\x7bselected.profile\x7d/a=b" = .ok read ∧
      EditedTo read edited ∧
      selection.value? .selectedProfile = some "full" ∧
      selection.value? .selectedHost ≠ some "primary" ∧
      edited.resolveWith selection .permissive [] =
        .ok ⟨[("host", "\x7bselected.host\x7d"), ("profile", "full"), ("server", "one")]⟩ ∧
      Clean ("host", "\x7bselected.host\x7d") := by
  intro actions selection profile read edited
  have hparse : parse "\x7bselected.host\x7d/profile=\x7bselected.profile\x7d/a=b" = .ok read := by
    decide
  have hedited : EditedTo read edited :=
    .append (.parent .self) " server = one " (by decide)
  obtain ⟨hvalue, -, haddress⟩ := session_resolves_cleanly actions
  obtain ⟨hpermissive, hclean⟩ := haddress _ read edited hparse hedited
  have hresolve : edited.resolveWith selection .permissive [] =
      .ok ⟨[("host", "\x7bselected.host\x7d"), ("profile", "full"), ("server", "one")]⟩ :=
    hpermissive.trans (by decide)
  refine ⟨hparse, hedited, ?_, ?_, hresolve, hclean _ _ hresolve _ List.mem_cons_self⟩
  · refine (hvalue .selectedProfile "full").mpr ⟨⟨[.select .selectedHost "primary", .clear], _,
      [.select .selectedHost "\u3000"], rfl, .set _, ?_⟩, 'f', by decide, by decide⟩
    intro a ha
    rw [List.mem_singleton.mp ha]
    exact (Selection.Action.Assigns.select _).spares nofun
  · decide

end ManagementModel.Template
