import ManagementModel.Proofs.Operation
import ManagementModel.Proofs.Text.Percent
import ManagementModel.Proofs.Text.Split
import ManagementModel.Request

/-!
# ManagementModel — what the URL of a description says

A description is asked for by its URL alone, so the URL has to tell resources and parameters apart.
It does, because every character that separates something is reserved in what it separates, and so
is the percent sign. Whoever cuts the URL at the question mark, the path at the slashes and the
query at the ampersands and equals signs, and resolves the percent signs last, has the names and
values of the address and the texts of the parameters again, whatever characters they consist of.

Main results:

* `readPath_descriptionPath` — the names and values in the path.
* `readQuery_descriptionQuery` — the parameters in the query.
* `description_urls` — the URL of a description, and when two of them are the same.
-/

namespace ManagementModel.Operation

open Text (behind)
open Text.Percent (encode isControl unescape? upperDigit)

/-! ## Reading a path and a query -/

/-- The texts of the pieces of a path that stand behind a slash. -/
def readPath (path : List Char) : List (Option String) :=
  ((path.splitOn '/').drop 1).map unescape?

/-- The texts around the first equals sign of each piece of a query. -/
def readQuery (query : List Char) : List (Option String × Option String) :=
  (query.splitOn '&').map fun piece =>
    (unescape? (piece.takeWhile (· != '=')), unescape? ((piece.dropWhile (· != '=')).drop 1))

/-- The parameters of a description that the operation has, each with its text. -/
def descriptionTexts (op : Operation) : List (String × String) :=
  descriptionParameters.filterMap fun name => (op.parameter? name).map fun v => (name, v.asString)

/-! ## Characters -/

/-- Printable characters of ASCII that nobody takes for the end of a URL. -/
def IsPlain (c : Char) : Prop :=
  0x20 < c.toNat ∧ c.toNat < 0x7f ∧ c ∉ [' ', '"', '#', '<', '>']

instance : DecidablePred IsPlain := fun c =>
  inferInstanceAs (Decidable (0x20 < c.toNat ∧ c.toNat < 0x7f ∧ c ∉ [' ', '"', '#', '<', '>']))

theorem reservedInPath_digit : ∀ n < 16, reservedInPath (upperDigit n) = false := by
  decide

theorem reservedInQuery_digit : ∀ n < 16, reservedInQuery (upperDigit n) = false := by
  decide

/-- The percent sign is reserved in a path, so that encoding can be undone. -/
@[simp] theorem reservedInPath_percent : reservedInPath '%' = true := by
  decide

@[simp] theorem reservedInQuery_percent : reservedInQuery '%' = true := by
  decide

/-- An encoded text is plain if controls and what is not plain otherwise are reserved. -/
theorem isPlain_of_mem_encode {reserved : Char → Bool}
    (hdigits : ∀ n < 16, reserved (upperDigit n) = false)
    (hcontrol : ∀ c, isControl c = true → reserved c = true)
    (hlist : [' ', '"', '#', '<', '>'].all reserved = true) {s : List Char} {c : Char}
    (h : c ∈ encode reserved s) : IsPlain c := by
  have hascii : c.toNat < 0x80 := Text.Percent.encode_ascii h
  rcases Text.Percent.not_reserved_of_mem_encode hdigits h with rfl | hfree
  · decide
  · -- what is left of ASCII without controls and the listed characters is plain
    have hfree' : ¬ reserved c = true := by simp [hfree]
    have hnot : ¬ isControl c = true := fun hc => hfree' (hcontrol c hc)
    have hmem : c ∉ [' ', '"', '#', '<', '>'] := fun hc =>
      hfree' (List.all_eq_true.mp hlist c hc)
    simp only [isControl, Bool.or_eq_true, decide_eq_true_eq, beq_iff_eq, not_or] at hnot
    -- the blank is on the list, so what is left lies beyond it
    have hspace : c.toNat ≠ 0x20 := by
      intro hc
      have hc' : c = ' ' := Char.toNat_inj.mp hc
      exact hmem (hc' ▸ List.mem_cons_self)
    exact ⟨by omega, by omega, hmem⟩

theorem isPlain_of_mem_encode_path {s : List Char} {c : Char} (h : c ∈ encode reservedInPath s) :
    IsPlain c :=
  isPlain_of_mem_encode reservedInPath_digit (fun c hc => by simp [reservedInPath, hc])
    (by decide) h

theorem isPlain_of_mem_encode_query {s : List Char} {c : Char}
    (h : c ∈ encode reservedInQuery s) : IsPlain c :=
  isPlain_of_mem_encode reservedInQuery_digit (fun c hc => by simp [reservedInQuery, hc])
    (by decide) h

/-! ## The path -/

/-- The names and values of an address, one after the other. -/
def addressTexts (address : Address) : List String :=
  address.segments.flatMap fun p => [p.1, p.2]

/-- The path consists of the encoded names and values, each behind a slash. -/
theorem descriptionPath_eq (address : Address) : descriptionPath address =
    behind '/' ((addressTexts address).map fun s => encode reservedInPath s.toList) := by
  obtain ⟨segments⟩ := address
  induction segments with
  | nil => rfl
  | cons p rest ih =>
    -- a pair is two pieces, and the others follow
    have hcons : descriptionPath ⟨p :: rest⟩ =
        pathSegment p.1 ++ pathSegment p.2 ++ descriptionPath ⟨rest⟩ := rfl
    rw [hcons, ih, List.append_assoc]
    rfl

/-- The slashes of a path stand before the names and values, and nowhere else. -/
theorem splitOn_append_descriptionPath {before : List Char} (h : '/' ∉ before) (address : Address) :
    (before ++ descriptionPath address).splitOn '/' =
      before :: (addressTexts address).map fun s => encode reservedInPath s.toList := by
  rw [descriptionPath_eq]
  refine Text.splitOn_append_behind h fun piece hpiece => ?_
  obtain ⟨s, -, rfl⟩ := List.mem_map.mp hpiece
  exact Text.Percent.notMem_encode reservedInPath_digit rfl (by decide)

/-- A path that is cut at its slashes is the encoded names and values, behind an empty piece. -/
theorem splitOn_descriptionPath (address : Address) : (descriptionPath address).splitOn '/' =
    [] :: (addressTexts address).map fun s => encode reservedInPath s.toList :=
  splitOn_append_descriptionPath List.not_mem_nil address

/-- The path spells the names and values of the address. -/
theorem readPath_descriptionPath (address : Address) :
    readPath (descriptionPath address) = (addressTexts address).map some := by
  rw [readPath, splitOn_descriptionPath, List.drop_one, List.tail_cons, List.map_map]
  refine List.map_congr_left fun s _ => ?_
  rw [Function.comp_apply, Text.Percent.unescape?_encode reservedInPath_percent]

/-- An address is known by its names and values. -/
theorem addressTexts_inj {a b : Address} (h : addressTexts a = addressTexts b) : a = b := by
  obtain ⟨s⟩ := a
  obtain ⟨t⟩ := b
  have hsegments : s = t := by
    induction s generalizing t with
    | nil =>
      cases t with
      | nil => rfl
      | cons q t => cases h
    | cons p s ih =>
      cases t with
      | nil => cases h
      | cons q t =>
        -- the first two texts are the first name and its value
        simp only [addressTexts, List.flatMap_cons, List.cons_append, List.nil_append,
          List.cons.injEq] at h
        obtain ⟨hname, hvalue, hrest⟩ := h
        rw [Prod.ext hname hvalue, ih t hrest]
  rw [hsegments]

/-- A character of a path is a slash, or it is in an encoded name or value. -/
theorem mem_descriptionPath {address : Address} {c : Char} (h : c ∈ descriptionPath address) :
    c = '/' ∨ ∃ s ∈ addressTexts address, c ∈ encode reservedInPath s.toList := by
  rw [descriptionPath_eq, behind, List.flatMap_map, List.mem_flatMap] at h
  obtain ⟨s, hs, hc⟩ := h
  rcases List.mem_cons.mp hc with rfl | hc
  · exact .inl rfl
  · exact .inr ⟨s, hs, hc⟩

theorem isPlain_of_mem_descriptionPath {address : Address} {c : Char}
    (h : c ∈ descriptionPath address) : IsPlain c := by
  rcases mem_descriptionPath h with rfl | ⟨s, -, h⟩
  · decide
  · exact isPlain_of_mem_encode_path h

/-- No question mark is in a path, so the first one in the URL begins the query. -/
theorem query_notMem_descriptionPath (address : Address) : '?' ∉ descriptionPath address := by
  intro h
  rcases mem_descriptionPath h with h | ⟨s, -, h⟩
  · exact absurd h (by decide)
  · exact Text.Percent.notMem_encode reservedInPath_digit rfl (by decide) h

/-! ## The query -/

/-- A name and a text of a query. -/
def queryPiece (p : String × String) : List Char :=
  p.1.toList ++ '=' :: encode reservedInQuery p.2.toList

/-- The query of a description. -/
def descriptionQuery (op : Operation) : List Char :=
  queryPiece ("operation", "resource-description") ++
    behind '&' (op.descriptionTexts.map queryPiece)

/-- Parameters that the operation has stand in the query, each behind an ampersand. -/
theorem flatMap_queryParameter (op : Operation) (names : List String) :
    names.flatMap op.queryParameter = behind '&' ((names.filterMap fun name =>
      (op.parameter? name).map fun v => (name, v.asString)).map queryPiece) := by
  induction names with
  | nil => rfl
  | cons name rest ih =>
    rw [List.flatMap_cons, ih, List.filterMap_cons, queryParameter]
    -- a parameter that the operation lacks is passed over
    cases op.parameter? name with
    | none => rfl
    | some v => simp [behind, queryPiece]

/-- The suffix is the path, a question mark and the query. -/
theorem descriptionSuffix_eq (op : Operation) :
    op.descriptionSuffix = descriptionPath op.address ++ '?' :: op.descriptionQuery := by
  -- the fixed beginning is a question mark and a piece like the others
  have hfixed : "?operation=resource-description".toList =
      '?' :: queryPiece ("operation", "resource-description") := by decide
  rw [descriptionSuffix, flatMap_queryParameter, hfixed, descriptionQuery, descriptionTexts,
    List.append_assoc, List.cons_append]

/-- A name that means the same in a query whether it is encoded or not. -/
def IsQueryName (name : String) : Prop :=
  ∀ c ∈ name.toList, c.toNat < 0x80 ∧ reservedInQuery c = false

instance : DecidablePred IsQueryName := fun name =>
  List.decidableBAll (fun c : Char => c.toNat < 0x80 ∧ reservedInQuery c = false) name.toList

/-- The names that stand in a query are written as they are, which is right for them. -/
theorem isQueryName (op : Operation) {p : String × String}
    (h : p ∈ ("operation", "resource-description") :: op.descriptionTexts) : IsQueryName p.1 := by
  have hname : p.1 ∈ "operation" :: descriptionParameters := by
    rcases List.mem_cons.mp h with rfl | h
    · exact List.mem_cons_self
    · obtain ⟨name, hname, hp⟩ := List.mem_filterMap.mp h
      obtain ⟨v, -, rfl⟩ := Option.map_eq_some_iff.mp hp
      exact List.mem_cons_of_mem _ hname
  -- the names are fixed words
  have hall : ∀ name ∈ "operation" :: descriptionParameters, IsQueryName name := by
    decide
  exact hall p.1 hname

section

variable {p : String × String} (h : IsQueryName p.1)

include h

/-- A piece of the query is read as its name and text. -/
theorem read_queryPiece :
    (unescape? ((queryPiece p).takeWhile (· != '=')),
      unescape? (((queryPiece p).dropWhile (· != '=')).drop 1)) = (some p.1, some p.2) := by
  -- a text may hold an equals sign, but only an encoded one
  have hequals : '=' ∉ p.1.toList := fun hmem => absurd (h _ hmem).2 (by decide)
  have hname : unescape? p.1.toList = some p.1 := by
    rw [← Text.Percent.encode_eq_self h]
    exact Text.Percent.unescape?_encode reservedInQuery_percent p.1
  rw [queryPiece, Text.takeWhile_append_cons _ hequals, Text.dropWhile_append_cons _ hequals,
    hname, List.drop_one, List.tail_cons, Text.Percent.unescape?_encode reservedInQuery_percent]

theorem ampersand_notMem_queryPiece : '&' ∉ queryPiece p := by
  rw [queryPiece, List.mem_append, List.mem_cons, not_or, not_or]
  exact ⟨fun hmem => absurd (h _ hmem).2 (by decide), by decide,
    Text.Percent.notMem_encode reservedInQuery_digit rfl (by decide)⟩

theorem isPlain_of_mem_queryPiece {c : Char} (hc : c ∈ queryPiece p) : IsPlain c := by
  rw [queryPiece, List.mem_append, List.mem_cons] at hc
  rcases hc with hc | rfl | hc
  · rw [← Text.Percent.encode_eq_self h] at hc
    exact isPlain_of_mem_encode_query hc
  · decide
  · exact isPlain_of_mem_encode_query hc

end

/-- The query spells the parameters. -/
theorem readQuery_descriptionQuery (op : Operation) : readQuery op.descriptionQuery =
    (("operation", "resource-description") :: op.descriptionTexts).map fun p =>
      (some p.1, some p.2) := by
  -- the ampersands of a query stand between its pieces, and nowhere else
  have hsplit : op.descriptionQuery.splitOn '&' =
      (("operation", "resource-description") :: op.descriptionTexts).map queryPiece := by
    refine Text.splitOn_append_behind ?_ fun piece hpiece => ?_
    · exact ampersand_notMem_queryPiece (isQueryName op List.mem_cons_self)
    · obtain ⟨p, hp, rfl⟩ := List.mem_map.mp hpiece
      exact ampersand_notMem_queryPiece (isQueryName op (List.mem_cons_of_mem _ hp))
  rw [readQuery, hsplit, List.map_map]
  exact List.map_congr_left fun p hp => read_queryPiece (isQueryName op hp)

theorem isPlain_of_mem_descriptionQuery {op : Operation} {c : Char}
    (h : c ∈ op.descriptionQuery) : IsPlain c := by
  rw [descriptionQuery, behind, List.flatMap_map, List.mem_append, List.mem_flatMap] at h
  rcases h with h | ⟨p, hp, h⟩
  · exact isPlain_of_mem_queryPiece (isQueryName op List.mem_cons_self) h
  · rcases List.mem_cons.mp h with rfl | h
    · decide
    · exact isPlain_of_mem_queryPiece (isQueryName op (List.mem_cons_of_mem _ hp)) h

/-! ## The whole URL -/

/-- The suffix is plain as a whole. -/
theorem isPlain_of_mem_descriptionSuffix {op : Operation} {c : Char}
    (h : c ∈ op.descriptionSuffix) : IsPlain c := by
  rw [descriptionSuffix_eq, List.mem_append, List.mem_cons] at h
  rcases h with h | rfl | h
  · exact isPlain_of_mem_descriptionPath h
  · decide
  · exact isPlain_of_mem_descriptionQuery h

theorem takeWhile_descriptionSuffix (op : Operation) :
    op.descriptionSuffix.takeWhile (· != '?') = descriptionPath op.address := by
  rw [descriptionSuffix_eq,
    Text.takeWhile_append_cons _ (query_notMem_descriptionPath op.address)]

theorem dropWhile_descriptionSuffix (op : Operation) :
    (op.descriptionSuffix.dropWhile (· != '?')).drop 1 = op.descriptionQuery := by
  rw [descriptionSuffix_eq,
    Text.dropWhile_append_cons _ (query_notMem_descriptionPath op.address), List.drop_one,
    List.tail_cons]

/-- A description is got from the endpoint without the slashes at its end and the suffix, without a
body. -/
theorem request_description {op : Operation} (h : op.name = descriptionName)
    (endpoints : Endpoints) : op.request endpoints = .ok
      { method := .get
        url := withoutSlashes endpoints.operations ++ String.ofList op.descriptionSuffix
        body := none } := by
  rw [request, isDescriptionRead, if_pos (by simp [h])]

/-- Two descriptions are asked for at the same place if the addresses and the parameters are the
same. -/
theorem descriptionSuffix_inj_iff (op other : Operation) :
    op.descriptionSuffix = other.descriptionSuffix ↔
      op.address = other.address ∧ op.descriptionTexts = other.descriptionTexts := by
  constructor
  · intro h
    -- one text cannot be read in two ways
    have hpath : readPath (descriptionPath op.address) =
        readPath (descriptionPath other.address) := by
      rw [← takeWhile_descriptionSuffix, h, takeWhile_descriptionSuffix]
    have hquery : readQuery op.descriptionQuery = readQuery other.descriptionQuery := by
      rw [← dropWhile_descriptionSuffix, h, dropWhile_descriptionSuffix]
    rw [readPath_descriptionPath, readPath_descriptionPath] at hpath
    rw [readQuery_descriptionQuery, readQuery_descriptionQuery] at hquery
    -- what is read tells the names and texts apart
    have hsome : Function.Injective (fun p : String × String => (some p.1, some p.2)) := by
      rintro ⟨a, b⟩ ⟨c, d⟩ h
      simpa using h
    have htexts := List.map_injective_iff.mpr (fun _ _ => Option.some.inj) hpath
    have hparameters := List.map_injective_iff.mpr hsome hquery
    exact ⟨addressTexts_inj htexts, (List.cons.inj hparameters).2⟩
  · rintro ⟨haddress, htexts⟩
    rw [descriptionSuffix_eq, descriptionSuffix_eq, descriptionQuery, descriptionQuery, haddress,
      htexts]

/-- A description is asked for by the endpoint without the slashes at its end and a suffix that
spells the address and the parameters. The suffix is plain. What stands before its first question
mark, cut at the slashes, is the names and values of the address, and what stands after it, cut at
the ampersands, is the operation and its parameters. So two descriptions have the same URL exactly
if they have the same address and the same parameters. -/
theorem description_urls (endpoints : Endpoints) :
    (∀ op : Operation, op.name = descriptionName → ∃ request suffix,
      op.request endpoints = .ok request ∧ request.method = .get ∧
      request.url = withoutSlashes endpoints.operations ++ String.ofList suffix ∧
      (∀ c ∈ suffix, IsPlain c) ∧
      ((suffix.takeWhile (· != '?')).splitOn '/').head? = some [] ∧
      readPath (suffix.takeWhile (· != '?')) = (addressTexts op.address).map some ∧
      readQuery ((suffix.dropWhile (· != '?')).drop 1) =
        (("operation", "resource-description") :: op.descriptionTexts).map fun p =>
          (some p.1, some p.2)) ∧
    ∀ op other : Operation, op.name = descriptionName → other.name = descriptionName →
      ∀ r r', op.request endpoints = .ok r → other.request endpoints = .ok r' →
        (r.url = r'.url ↔
          op.address = other.address ∧ op.descriptionTexts = other.descriptionTexts) := by
  constructor
  · intro op hname
    refine ⟨_, op.descriptionSuffix, request_description hname endpoints, rfl, rfl,
      fun c hc => isPlain_of_mem_descriptionSuffix hc, ?_, ?_, ?_⟩
    · rw [takeWhile_descriptionSuffix, splitOn_descriptionPath, List.head?_cons]
    · rw [takeWhile_descriptionSuffix, readPath_descriptionPath]
    · rw [dropWhile_descriptionSuffix, readQuery_descriptionQuery]
  · intro op other hop hother r r' hr hr'
    -- the endpoint is the same in both URLs, so the suffixes decide
    rw [request_description hop] at hr
    rw [request_description hother] at hr'
    cases hr
    cases hr'
    rw [← descriptionSuffix_inj_iff, String.append_right_inj, String.ofList_inj]

/-- Empty names, separators and other characters in an address, which is not taken for the one that
its slash would make of it; a parameter that no description has is left out. -/
theorem description_urls_separators :
    let op : Operation := .build ⟨[("a/b", ""), ("", "50%?é")]⟩ descriptionName
      [("locale", .string "a&b=c"), ("depth", .int 1), ("recursive", .boolean true)]
    let other : Operation := .build ⟨[("a", "b"), ("", "50%?é")]⟩ descriptionName []
    op.name = descriptionName ∧ other.name = descriptionName ∧
      ∃ request request', op.request ⟨"http://localhost/management/", ""⟩ = .ok request ∧
        other.request ⟨"http://localhost/management/", ""⟩ = .ok request' ∧
        request.url = "http://localhost/management/a%2Fb///50%25%3F%C3%A9" ++
          "?operation=resource-description&recursive=true&locale=a%26b%3Dc" ∧
        request.url ≠ request'.url := by
  intro op other
  have hop : op.name = descriptionName := name_build _ descriptionName _
  have hother : other.name = descriptionName := name_build _ descriptionName _
  obtain ⟨hreads, hsame⟩ := description_urls ⟨"http://localhost/management/", ""⟩
  obtain ⟨request, suffix, hrequest, -, hurl, -⟩ := hreads op hop
  obtain ⟨request', -, hrequest', -⟩ := hreads other hother
  have hdifferent : op.address ≠ other.address := by
    rw [address_build, address_build]
    decide
  refine ⟨hop, hother, request, request', hrequest, hrequest', ?_, fun h => ?_⟩
  · rw [request_description hop] at hrequest
    cases hrequest
    decide
  · exact hdifferent ((hsame op other hop hother _ _ hrequest hrequest').mp h).1

end ManagementModel.Operation
