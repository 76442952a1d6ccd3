import ManagementModel.Proofs.Request.Description
import ManagementModel.Proofs.Url.Authority
import ManagementModel.Proofs.Url.Path

/-!
# ManagementModel — the resource that a description URL leads to

The URL of a description is read again on its way, by rules under which the path is more than what
stands between slashes: a backslash is a slash too, and segments of dots are resolved. What is
encoded in the names and values of an address takes neither into account. A name or value keeps its
place in the path exactly if it holds no backslash and is neither one dot nor two.

Main results:

* `pathOf_descriptionPath_iff` — when the path that is read spells the address.
* `description_url_leads_to_resource_iff` — the same for the whole URL, whose scheme, host and port
  are always those of the endpoint.
-/

namespace ManagementModel.Operation

open Text.Percent (encode)
open Url (encoded)

/-! ## The path that is read -/

/-- Names and values that reading leaves where they are. -/
def KeepsPlace (s : String) : Prop :=
  '\\' ∉ s.toList ∧ s ≠ "." ∧ s ≠ ".."

instance : DecidablePred KeepsPlace := fun s =>
  inferInstanceAs (Decidable ('\\' ∉ s.toList ∧ s ≠ "." ∧ s ≠ ".."))

/-- What is free in the path of a description stays as it is when the URL is read. -/
theorem not_reservedInSegment {c : Char} (h : reservedInPath c = false) :
    Url.reservedInSegment c = false := by
  simp only [reservedInPath, Bool.or_eq_false_iff, List.contains_cons, List.contains_nil] at h
  simp only [Url.reservedInSegment, Url.reservedInFragment, List.contains_cons,
    List.contains_nil, h, Bool.or_false]

/-- Whatever is encoded in segments on reading has been encoded before. -/
theorem encoded_encode (s : List Char) :
    encoded Url.reservedInSegment (encode reservedInPath s) = encoded reservedInPath s := by
  rw [encoded, Text.Percent.encode_eq_self fun c hc => ⟨Text.Percent.encode_ascii hc, ?_⟩, encoded]
  rcases Text.Percent.not_reserved_of_mem_encode reservedInPath_digit hc with rfl | hfree
  · decide
  · exact not_reservedInSegment hfree

/-- A name or value that is found among the segments has kept its place. -/
theorem keepsPlace_of_mem {texts : List String} {s : List Char}
    (h : Url.resolveOnto [] (Url.splitSlashes .special s) = texts) {t : String}
    (ht : encoded reservedInPath t.toList ∈ texts) : KeepsPlace t := by
  rw [← h] at ht
  obtain ⟨hback, hdot, hdots⟩ := Url.segment_of_mem_resolveOnto ht
  -- a backslash or a dot is written as it is, so it would have been found on reading
  refine ⟨fun hmem => hback ?_, ?_, ?_⟩
  · rw [encoded, String.toList_ofList]
    exact Text.Percent.mem_encode_of_mem hmem (by decide) (by decide)
  · rintro rfl
    exact hdot (by decide)
  · rintro rfl
    exact hdots (by decide)

/-- The path that is read spells the address if every name and value keeps its place. -/
theorem pathOf_descriptionPath_iff (address : Address) :
    Url.pathOf .special ("/management".toList ++ descriptionPath address) =
        .segments ("management" :: (addressTexts address).map fun s =>
          encoded reservedInPath s.toList) ↔
      ∀ s ∈ addressTexts address, KeepsPlace s := by
  have hpath : Url.pathOf .special ("/management".toList ++ descriptionPath address) =
      .segments (Url.resolveOnto [] (Url.splitSlashes .special
        ("management".toList ++ descriptionPath address))) := rfl
  rw [hpath, Url.Path.segments.injEq]
  constructor
  · intro h s hs
    -- what is told by the path is among its segments
    exact keepsPlace_of_mem h (List.mem_cons_of_mem _ (List.mem_map_of_mem hs))
  · intro h
    -- without backslashes the path is cut where it was put together, and without dots nothing is
    -- resolved, so that the pieces only have to be encoded again
    have hback : '\\' ∉ "management".toList ++ descriptionPath address := by
      intro hmem
      rcases List.mem_append.mp hmem with hmem | hmem
      · exact absurd hmem (by decide)
      · rcases mem_descriptionPath hmem with hslash | ⟨s, hs, hmem⟩
        · exact absurd hslash (by decide)
        · exact Text.Percent.notMem_encode_of_notMem (h s hs).1 (by decide) (by decide) hmem
    have hdots : ∀ piece ∈ "management".toList :: (addressTexts address).map fun s =>
        encode reservedInPath s.toList, Url.isDots piece = false := by
      refine List.forall_mem_cons.mpr ⟨by decide, fun piece hpiece => ?_⟩
      obtain ⟨s, hs, rfl⟩ := List.mem_map.mp hpiece
      -- what is encoded counts as dots only if it is dots as it stands
      rw [Bool.eq_false_iff, ne_eq,
        Url.isDots_encode_iff reservedInPath_percent (by decide), not_or]
      exact (h s hs).2
    rw [Url.splitSlashes_eq_splitOn hback, splitOn_append_descriptionPath (by decide),
      Url.resolveOnto_of_no_dots hdots, List.map_cons, List.map_map]
    simp only [List.reverse_nil, List.nil_append, Function.comp_def, encoded_encode]
    rfl

/-! ## The URL that is read -/

/-- A text that does not end with a slash loses nothing. -/
theorem withoutSlashes_eq_self {s : String} (h : ∀ c ∈ s.toList.getLast?, c ≠ '/') :
    withoutSlashes s = s := by
  -- seen from its end, the text begins with something else
  have hkept : s.toList.reverse.dropWhile (· == '/') = s.toList.reverse := by
    cases hs : s.toList.reverse with
    | nil => rfl
    | cons c rest =>
      have hlast : s.toList.getLast? = some c := by
        rw [← List.head?_reverse, hs, List.head?_cons]
      exact List.dropWhile_cons_of_neg (by simp [h c hlast])
  rw [withoutSlashes, hkept, List.reverse_reverse, String.ofList_toList]

variable {scheme authority : String} {endpoints : Endpoints}

/-- The endpoints of a base address that is no more than a host, or a host and a port. -/
theorem operations_of_ofBase (hscheme : scheme ∈ managementSchemes)
    (hauthority : Url.IsAuthority authority.toList)
    (hendpoints : Endpoints.ofBase (scheme ++ "://" ++ authority) = .ok endpoints) :
    (∃ base, Url.ofBase (scheme ++ "://" ++ String.ofList authority.toList) = .ok base) ∧
      endpoints.operations = scheme ++ "://" ++ authority ++ "/management" ∧
      withoutSlashes endpoints.operations = endpoints.operations := by
  rw [Endpoints.ofBase] at hendpoints
  rw [String.ofList_toList]
  cases hbase : Url.ofBase (scheme ++ "://" ++ authority) with
  | error e =>
    rw [hbase] at hendpoints
    cases hendpoints
  | ok base =>
    rw [hbase] at hendpoints
    cases hendpoints
    rw [← String.ofList_toList (s := authority)] at hbase
    -- the address was accepted, so there is a host in the authority
    obtain ⟨hne, -⟩ := Url.exists_hostAndPort hscheme hauthority hbase
    -- neither text ends with a slash: one ends with the authority, the other with a letter
    have hbaseText : withoutSlashes (scheme ++ "://" ++ authority) =
        scheme ++ "://" ++ authority := by
      refine withoutSlashes_eq_self fun c hc => ?_
      rw [String.toList_append, List.getLast?_append_of_ne_nil _ hne] at hc
      rintro rfl
      exact (hauthority _ (List.mem_of_mem_getLast? hc)).2 (by decide)
    have hoperations : (Endpoints.below (scheme ++ "://" ++ authority)).operations =
        scheme ++ "://" ++ authority ++ "/management" := by
      rw [Endpoints.below, hbaseText]
    refine ⟨⟨base, rfl⟩, hoperations, ?_⟩
    rw [hoperations]
    refine withoutSlashes_eq_self fun c hc => ?_
    rw [String.toList_append, List.getLast?_append_of_ne_nil _ (by decide)] at hc
    have hlast : "/management".toList.getLast? = some 't' := by decide
    rw [hlast] at hc
    cases hc
    decide

/-- The path of the endpoint is plain, and no query begins in it. -/
theorem management_plain : ∀ c ∈ "/management".toList, IsPlain c ∧ c ≠ '?' := by
  simp [IsPlain]

/-- The path of the URL is what is read from that of the endpoint and the address. -/
theorem path_afterHost (hscheme : scheme ∈ managementSchemes) (user : String × String)
    (host : Option Url.Host) (port : Option Nat) (op : Operation) :
    (Url.afterHost scheme user host port ("/management".toList ++ op.descriptionSuffix)).path =
      Url.pathOf .special ("/management".toList ++ descriptionPath op.address) := by
  -- the question mark that begins the query is the first sign that ends a path
  have hpath : ∀ c ∈ "/management".toList ++ descriptionPath op.address,
      (!Url.endsPath c) = true := by
    intro c hc
    have hplain : IsPlain c ∧ c ≠ '?' := by
      rcases List.mem_append.mp hc with hc | hc
      · exact management_plain c hc
      · refine ⟨isPlain_of_mem_descriptionPath hc, ?_⟩
        rintro rfl
        exact query_notMem_descriptionPath op.address hc
    have hnumber : c ≠ '#' := by
      rintro rfl
      exact absurd hplain.1 (by decide)
    simp [Url.endsPath, hplain.2, hnumber]
  simp only [Url.afterHost, Url.schemeKind_of_mem scheme hscheme]
  rw [descriptionSuffix_eq, ← List.append_assoc,
    Text.takeWhile_append_of_head hpath (by simp; decide)]

/-- The URL of a description is accepted, and its scheme, host and port are those of the endpoint.
Its path is that of the endpoint with the encoded names and values of the address exactly if each of
them keeps its place. -/
theorem description_url_leads_to_resource_iff {op : Operation}
    (hscheme : scheme ∈ managementSchemes) (hauthority : Url.IsAuthority authority.toList)
    (hendpoints : Endpoints.ofBase (scheme ++ "://" ++ authority) = .ok endpoints)
    (hname : op.name = descriptionName) :
    ∃ request endpoint url, op.request endpoints = .ok request ∧
      Url.ofBase endpoints.operations = .ok endpoint ∧ Url.ofBase request.url = .ok url ∧
      url.scheme = endpoint.scheme ∧ url.host = endpoint.host ∧ url.port = endpoint.port ∧
      (url.path = .segments ("management" :: (addressTexts op.address).map fun s =>
          encoded reservedInPath s.toList) ↔
        ∀ s ∈ addressTexts op.address, KeepsPlace s) := by
  obtain ⟨⟨base, hbase⟩, hoperations, hslashes⟩ :=
    operations_of_ofBase hscheme hauthority hendpoints
  -- both URLs are the authority and a path, so the base that was accepted decides on them
  have hendpoint : endpoints.operations =
      scheme ++ "://" ++ String.ofList (authority.toList ++ "/management".toList) := by
    rw [hoperations, String.ofList_append, String.ofList_toList, String.ofList_toList,
      String.append_assoc, String.append_assoc]
  have hurl : endpoints.operations ++ String.ofList op.descriptionSuffix =
      scheme ++ "://" ++
        String.ofList (authority.toList ++ ("/management".toList ++ op.descriptionSuffix)) := by
    rw [hendpoint, String.append_assoc, ← String.ofList_append, List.append_assoc]
  have hplain : ∀ c ∈ "/management".toList ++ op.descriptionSuffix, 0x20 < c.toNat := by
    intro c hc
    rcases List.mem_append.mp hc with hc | hc
    · exact (management_plain c hc).1.1
    · exact (isPlain_of_mem_descriptionSuffix hc).1
  -- what is read of either is the host and the port of the base
  have hread : Url.ofBase (scheme ++ "://" ++
      String.ofList (authority.toList ++ "/management".toList)) =
      .ok (Url.afterHost scheme ("", "") base.host base.port "/management".toList) :=
    Url.ofBase_append hscheme hauthority hbase (by simp; decide) fun c hc =>
      (management_plain c hc).1.1
  have hreadUrl := Url.ofBase_append hscheme hauthority hbase (by simp; decide) hplain
  rw [← hendpoint] at hread
  rw [← hurl, ← hslashes] at hreadUrl
  refine ⟨_, _, _, request_description hname endpoints, hread, hreadUrl, rfl, rfl, rfl, ?_⟩
  rw [path_afterHost hscheme, pathOf_descriptionPath_iff]

/-- Slashes and dots that are encoded keep their place, but a backslash is read as a slash, so that
the URL is that of another resource. -/
theorem description_url_leads_elsewhere :
    let kept : Operation := .build ⟨[("", "%2e%2e"), ("deployment", "a/../b")]⟩ descriptionName []
    let moved : Operation := .build ⟨[("subsystem", "a\\b")]⟩ descriptionName []
    let endpoints : Endpoints := .below "http://localhost:9990"
    "http" ∈ managementSchemes ∧ Url.IsAuthority "localhost:9990".toList ∧
      Endpoints.ofBase ("http" ++ "://" ++ "localhost:9990") = .ok endpoints ∧
      kept.name = descriptionName ∧ moved.name = descriptionName ∧
      (∃ request url, kept.request endpoints = .ok request ∧ Url.ofBase request.url = .ok url ∧
        url.path = .segments ["management", "", "%252e%252e", "deployment", "a%2F..%2Fb"]) ∧
      ∃ request url, moved.request endpoints = .ok request ∧ Url.ofBase request.url = .ok url ∧
        request.url =
          "http://localhost:9990/management/subsystem/a\\b?operation=resource-description" ∧
        url.path ≠ .segments ("management" :: (addressTexts moved.address).map fun s =>
          encoded reservedInPath s.toList) ∧
        url.path = .segments ["management", "subsystem", "a", "b"] := by
  intro kept moved endpoints
  have hscheme : "http" ∈ managementSchemes := by decide
  have hauthority : Url.IsAuthority "localhost:9990".toList := by decide
  have hendpoints : Endpoints.ofBase ("http" ++ "://" ++ "localhost:9990") = .ok endpoints := by
    decide +kernel
  have hkept : kept.name = descriptionName := name_build _ descriptionName _
  have hmoved : moved.name = descriptionName := name_build _ descriptionName _
  refine ⟨hscheme, hauthority, hendpoints, hkept, hmoved, ?_, ?_⟩
  · obtain ⟨request, -, url, hrequest, -, hurl, -, -, -, hpath⟩ :=
      description_url_leads_to_resource_iff hscheme hauthority hendpoints hkept
    rw [address_build] at hpath
    exact ⟨request, url, hrequest, hurl, (hpath.mpr (by decide)).trans (by decide)⟩
  · obtain ⟨request, -, url, hrequest, -, hurl, -, -, -, hpath⟩ :=
      description_url_leads_to_resource_iff hscheme hauthority hendpoints hmoved
    have htext : request.url =
        "http://localhost:9990/management/subsystem/a\\b?operation=resource-description" := by
      rw [request_description hmoved] at hrequest
      cases hrequest
      decide
    have hread : (Url.ofBase request.url).toOption.map (·.path) =
        some (.segments ["management", "subsystem", "a", "b"]) := by
      rw [htext]
      decide +kernel
    rw [hurl] at hread
    refine ⟨request, url, hrequest, hurl, htext, fun h => ?_, Option.some.inj hread⟩
    rw [hpath, address_build] at h
    exact absurd h (by decide)

end ManagementModel.Operation
