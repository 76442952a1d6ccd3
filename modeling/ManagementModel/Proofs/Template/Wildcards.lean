import ManagementModel.Proofs.Template.Stages

/-!
# ManagementModel — policies and wildcards

A template is resolved in one of three ways: as it is, which keeps every placeholder without a
value; under a policy, which may refuse such placeholders; and with wildcards, whose texts are
handed out one by one while the segments are resolved. All three give the same pairs.

Handing out the texts while resolving is the same as resolving first and replacing afterwards: a
text is used up by a pair that has the wildcard for its value, wherever that value comes from, and
what it puts there is not looked at again. So a wildcard is replaced by the text whose number is the
number of wildcards in front of it, which is what `substitute` says without any state.

Main results:

* `resolveSegments_eq` — resolving segments, then replacing wildcards.
* `mapM_resolve_strict` — the strict policy fails for the first segment without a value.
* `resolveWith_agrees` — both policies, and the resolution without wildcards, on one address.
-/

namespace ManagementModel.Template

/-! ## Wildcards -/

/-- Pairs with their wildcards replaced, each by the text that has its number. Wildcards beyond the
texts stay. -/
def substitute (texts : List String) (pairs : List (String × String)) : List (String × String) :=
  pairs.mapIdx fun i p =>
    if p.2 = wildcard then
      (p.1, texts.getD ((pairs.take i).countP fun q => q.2 = wildcard) p.2)
    else p

/-- A wildcard in front takes the first text, and anything else takes none. -/
theorem substitute_cons (texts : List String) (p : String × String)
    (rest : List (String × String)) :
    substitute texts (p :: rest) =
      if p.2 = wildcard then (p.1, texts.headD p.2) :: substitute texts.tail rest
      else p :: substitute texts rest := by
  by_cases hp : p.2 = wildcard
  · -- one more wildcard stands in front of each of the others
    have htail : ∀ k fallback, texts.getD (k + 1) fallback = texts.tail.getD k fallback := by
      intro k fallback
      cases texts <;> rfl
    have hhead : texts.getD 0 p.2 = texts.headD p.2 := by cases texts <;> rfl
    simp only [substitute, List.mapIdx_cons, List.take_succ_cons, List.countP_cons, hp,
      decide_true, if_true, htail, List.take_zero, List.countP_nil]
    rw [← hp, hhead]
  · -- the others are counted as if the pair were not there
    simp only [substitute, List.mapIdx_cons, List.take_succ_cons, List.countP_cons, hp,
      decide_false, Bool.false_eq_true, if_false, Nat.add_zero]

/-- Without texts every wildcard stays. -/
@[simp]
theorem substitute_no_texts (pairs : List (String × String)) : substitute [] pairs = pairs := by
  induction pairs with
  | nil => rfl
  | cons p rest ih =>
    rw [substitute_cons, List.tail_nil, ih, List.headD_nil]
    split <;> rfl

/-- Only values are replaced. -/
@[simp] theorem map_fst_substitute (texts : List String) (pairs : List (String × String)) :
    (substitute texts pairs).map (·.1) = pairs.map (·.1) := by
  induction pairs generalizing texts with
  | nil => rfl
  | cons p rest ih =>
    rw [substitute_cons]
    -- replaced or not, the name in front is that of the pair
    split <;> rw [List.map_cons, List.map_cons, ih]

/-! ## One segment -/

namespace Segment

/-- Literals need no value, anything else has one if the selection knows it. -/
def hasValue (selection : Selection) : Segment → Bool
  | literal _ _ => true
  | placeholder _ token => (selection.resolve? (stripBraces token)).isSome
  | tuple t => (selection.value? t).isSome

/-- The pair of a segment, which is the segment itself where there is no value. -/
def pair (selection : Selection) (s : Segment) : String × String :=
  (s.resolve? selection).getD (s.name, s.value)

variable {selection : Selection} {s : Segment}

/-- A segment has a value exactly if it resolves to a pair. -/
theorem hasValue_eq_isSome (selection : Selection) (s : Segment) :
    s.hasValue selection = (s.resolve? selection).isSome := by
  cases s with
  | literal name value => rfl
  | placeholder name token => exact Option.isSome_map.symm
  | tuple t => exact Option.isSome_map.symm

/-- A pair keeps the name of its segment. -/
@[simp] theorem fst_pair (selection : Selection) (s : Segment) : (s.pair selection).1 = s.name := by
  cases s with
  | literal name value => rfl
  | placeholder name token =>
    rw [pair, resolve?]
    cases selection.resolve? (stripBraces token) <;> rfl
  | tuple t =>
    rw [pair, resolve?]
    cases selection.value? t <;> rfl

@[simp] theorem resolve_permissive (selection : Selection) (s : Segment) :
    s.resolve selection .permissive = .ok (s.pair selection) := by
  unfold resolve pair
  cases s.resolve? selection <;> rfl

/-- A segment with a value resolves under every policy. -/
theorem resolve_of_hasValue (h : s.hasValue selection = true) (policy : Policy) :
    s.resolve selection policy = .ok (s.pair selection) := by
  rw [hasValue_eq_isSome] at h
  obtain ⟨p, hp⟩ := Option.isSome_iff_exists.mp h
  rw [resolve_of_some hp, pair, hp, Option.getD_some]

/-- The strict policy refuses a segment without a value, and names its placeholder. -/
theorem resolve_strict_of_not_hasValue (h : s.hasValue selection = false) :
    s.resolve selection .strict = .error (.unresolved s.value) := by
  rw [hasValue_eq_isSome, Option.isSome_eq_false_iff, Option.isNone_iff_eq_none] at h
  unfold resolve
  rw [h]

end Segment

/-! ## All segments -/

variable (selection : Selection)

/-- The texts may as well be handed out when all segments are resolved. -/
theorem resolveSegments_eq (policy : Policy) (texts : List String) (segments : List Segment) :
    resolveSegments selection policy texts segments =
      (segments.mapM (Segment.resolve selection policy)).map (substitute texts) := by
  induction segments generalizing texts with
  | nil => rfl
  | cons s rest ih =>
    rw [resolveSegments, List.mapM_cons]
    cases s.resolve selection policy with
    | error e => rfl
    | ok p =>
      obtain ⟨name, value⟩ := p
      -- the segment takes a text or none, and the others take theirs from what is left
      simp only [bind, Except.bind, ih]
      cases rest.mapM (Segment.resolve selection policy) with
      | error e =>
        -- a refusal further on comes out whatever has been replaced before it
        split
        · split <;> rfl
        · rfl
      | ok pairs =>
        simp only [Except.map, pure, Except.pure, substitute_cons]
        split
        · cases texts <;> rfl
        · rfl

theorem mapM_resolve_permissive (segments : List Segment) :
    segments.mapM (Segment.resolve selection .permissive) =
      .ok (segments.map (·.pair selection)) := by
  rw [mapM_eq_ok_iff, List.forall₂_map_right_iff, List.forall₂_same]
  exact fun s _ => s.resolve_permissive selection

/-- The segments are resolved in order, up to the first one without a value. -/
theorem mapM_resolve_strict (segments : List Segment) :
    segments.mapM (Segment.resolve selection .strict) =
      match segments.find? (fun s => !s.hasValue selection) with
      | none => .ok (segments.map (·.pair selection))
      | some s => .error (.unresolved s.value) := by
  induction segments with
  | nil => rfl
  | cons s rest ih =>
    rw [List.mapM_cons, List.find?_cons]
    cases hs : s.hasValue selection with
    | false =>
      -- the first segment is refused
      rw [Segment.resolve_strict_of_not_hasValue hs]
      rfl
    | true =>
      -- the first segment is resolved, so the others decide
      rw [Segment.resolve_of_hasValue hs, ih]
      simp only [Bool.not_true]
      cases rest.find? (fun s => !s.hasValue selection) <;> rfl

/-- The permissive policy accepts every segment, the strict one those that have a value. -/
theorem Segment.exists_resolve_iff (policy : Policy) (s : Segment) :
    (∃ p, s.resolve selection policy = .ok p) ↔
      (policy = .strict → s.hasValue selection = true) := by
  cases policy with
  | permissive => exact iff_of_true ⟨_, s.resolve_permissive selection⟩ nofun
  | strict =>
    rw [forall_prop_of_true rfl]
    cases hs : s.hasValue selection with
    | true => exact iff_of_true ⟨_, resolve_of_hasValue hs .strict⟩ rfl
    | false =>
      rw [resolve_strict_of_not_hasValue hs]
      exact iff_of_false nofun Bool.false_ne_true

/-! ## Templates -/

/-- A template resolves under a policy if each of its segments does. -/
theorem exists_resolveWith_iff (t : Template) (policy : Policy) (texts : List String) :
    (∃ address, t.resolveWith selection policy texts = .ok address) ↔
      (policy = .strict → ∀ s ∈ t.segments, s.hasValue selection = true) := by
  -- wildcards have no part in whether there is an address
  have hsegments : (∃ address, t.resolveWith selection policy texts = .ok address) ↔
      ∃ pairs, t.segments.mapM (Segment.resolve selection policy) = .ok pairs := by
    rw [resolveWith, resolveSegments_eq]
    cases t.segments.mapM (Segment.resolve selection policy) with
    | error e => constructor <;> rintro ⟨_, ⟨⟩⟩
    | ok pairs => exact iff_of_true ⟨_, rfl⟩ ⟨_, rfl⟩
  rw [hsegments, exists_mapM_eq_ok_iff]
  simp only [Segment.exists_resolve_iff]
  exact ⟨fun h hstrict s hs => h s hs hstrict, fun h s hs hstrict => h hstrict s hs⟩

/-- Under the permissive policy every template resolves, to the pairs that it has without wildcards
and with the texts in the places of the wildcards. The strict policy gives the same address if every
segment has a value, and otherwise refuses the first segment that has none, whatever the texts. -/
theorem resolveWith_agrees (t : Template) (selection : Selection) (texts : List String) :
    let address : Address := ⟨substitute texts (t.resolve selection).segments⟩
    t.resolveWith selection .permissive texts = .ok address ∧
      address.segments.map (·.1) = t.segments.map Segment.name ∧
      t.resolveWith selection .permissive [] = .ok (t.resolve selection) ∧
      (t.resolveWith selection .strict texts = .ok address ↔
        ∀ s ∈ t.segments, s.hasValue selection = true) ∧
      ∀ e, t.resolveWith selection .strict texts = .error e ↔
        ∃ s, t.segments.find? (fun s => !s.hasValue selection) = some s ∧
          e = .unresolved s.value := by
  intro address
  -- resolution without wildcards takes the pair of each segment
  have hsegments : (t.resolve selection).segments = t.segments.map (·.pair selection) := rfl
  have hpermissive : ∀ texts, t.resolveWith selection .permissive texts =
      .ok ⟨substitute texts (t.resolve selection).segments⟩ := by
    intro texts
    rw [resolveWith, resolveSegments_eq, mapM_resolve_permissive, hsegments]
    rfl
  have hstrict : t.resolveWith selection .strict texts =
      match t.segments.find? (fun s => !s.hasValue selection) with
      | none => .ok address
      | some s => .error (.unresolved s.value) := by
    rw [resolveWith, resolveSegments_eq, mapM_resolve_strict]
    cases t.segments.find? (fun s => !s.hasValue selection) <;> rfl
  refine ⟨hpermissive texts, ?_, ?_, ?_, ?_⟩
  · -- neither replacing wildcards nor resolving changes a name
    simp [address, hsegments, Function.comp_def]
  · rw [hpermissive, substitute_no_texts]
  · -- no segment lacks a value exactly if none is found
    have hnone : (∀ s ∈ t.segments, s.hasValue selection = true) ↔
        t.segments.find? (fun s => !s.hasValue selection) = none := by
      simp
    rw [hstrict, hnone]
    cases t.segments.find? (fun s => !s.hasValue selection) <;> simp
  · intro e
    rw [hstrict]
    cases t.segments.find? (fun s => !s.hasValue selection) <;> simp [eq_comm]

/-- A selected wildcard uses up a text as a written one does, and a text that is the wildcard itself
stays. The host is never selected. -/
theorem resolveWith_agrees_selected_wildcard :
    let t : Template :=
      ⟨[.placeholder "profile" "\x7bselected.profile\x7d", .literal "subsystem" "*",
        .tuple .selectedHost, .literal "server" "*"]⟩
    let selection := Selection.empty.set .selectedProfile (some "*")
    t.resolveWith selection .permissive ["*", "logging"] =
        .ok ⟨[("profile", "*"), ("subsystem", "logging"), ("host", "\x7bselected.host\x7d"),
          ("server", "*")]⟩ ∧
      t.resolveWith selection .strict ["*", "logging"] =
        .error (.unresolved "\x7bselected.host\x7d") := by
  intro t selection
  obtain ⟨hpermissive, -, -, -, hrefused⟩ := resolveWith_agrees t selection ["*", "logging"]
  exact ⟨hpermissive.trans rfl, (hrefused _).mpr ⟨.tuple .selectedHost, by decide, rfl⟩⟩

end ManagementModel.Template
