import ManagementModel.Proofs.Url.Continued
import ManagementModel.Proofs.Url.OpenPath

/-!
# ManagementModel — endpoints of a base address

The endpoints are made from the text of a base address: its slashes at the end are replaced by a
slash and a name. Read as a URL, an endpoint is of the scheme, host and port of the base, if it can
be read at all, and it is below the path of the base unless something in the text of the base comes
between them: a query or a fragment, blanks at the end, which did not count before, or a slash at
the end that is not written as one.

Main results:

* `exists_reading` — how a base is read, and what is written behind it.
* `Reading.namesBelow_iff` — when a name behind a base is below it.
* `ofBase_usable_iff` — when the endpoints of a base are below it.
-/

namespace ManagementModel

namespace Url

/-- A text is the URL of a name below a base: it can be a base itself, is of the scheme, host and
port of the base, has the name behind the path of the base, and has neither query nor fragment. -/
def NamesBelow (base : Url) (name text : String) : Prop :=
  ∃ url, Url.ofBase text = .ok url ∧ url.scheme = base.scheme ∧ url.host = base.host ∧
    url.port = base.port ∧ url.path.text = withoutSlashes base.path.text ++ "/" ++ name ∧
    url.query = none ∧ url.fragment = none

/-! ## What follows the host -/

section

variable (scheme : String) (user : String × String) (host : Option Host) (port : Option Nat)
  {s : List Char}

/-- Only a sign that ends the path brings in a query or a fragment. -/
theorem query_fragment_eq_none_iff :
    ((afterHost scheme user host port s).query = none ∧
      (afterHost scheme user host port s).fragment = none) ↔ ∀ c ∈ s, endsPath c = false := by
  have hread : (afterHost scheme user host port s).query =
        (queryAndFragment (schemeKind scheme) (s.dropWhile fun c => !endsPath c)).1 ∧
      (afterHost scheme user host port s).fragment =
        (queryAndFragment (schemeKind scheme) (s.dropWhile fun c => !endsPath c)).2 := ⟨rfl, rfl⟩
  rw [hread.1, hread.2]
  have hnil : s.dropWhile (fun c => !endsPath c) = [] ↔ ∀ c ∈ s, endsPath c = false := by
    simp [List.dropWhile_eq_nil_iff]
  rw [← hnil]
  cases hrest : s.dropWhile (fun c => !endsPath c) with
  | nil => exact iff_of_true ⟨rfl, rfl⟩ rfl
  | cons c rest =>
    -- the first sign that ends the path begins the one or the other
    have hc : endsPath c = true := by
      have hhead := List.head?_dropWhile_not (fun c => !endsPath c) s
      simpa [hrest] using hhead
    refine iff_of_false ?_ (List.cons_ne_nil _ _)
    simp only [endsPath, Bool.or_eq_true, beq_iff_eq] at hc
    rcases hc with rfl | rfl
    · rintro ⟨⟨⟩, -⟩
    · rintro ⟨-, ⟨⟩⟩

/-- Without a sign that ends it, all that follows the host is the path. -/
theorem path_afterHost_of_plain (h : ∀ c ∈ s, endsPath c = false) :
    (afterHost scheme user host port s).path = pathOf (schemeKind scheme) s := by
  have htake : s.takeWhile (fun c => !endsPath c) = s :=
    List.takeWhile_eq_self_iff.mpr fun c hc => by rw [h c hc, Bool.not_false]
  have hread : (afterHost scheme user host port s).path =
      pathOf (schemeKind scheme) (s.takeWhile fun c => !endsPath c) := rfl
  rw [hread, htake]

end

/-! ## Reading a base -/

/-- How a base is read: as a user, a host and a port, what follows them, and the slashes at its end.
Blanks that count only when the text goes on stand in front of those. -/
structure Reading (text : String) (base : Url) (user : String × String) (tail blanks : List Char)
    (k : Nat) : Prop where
  blank : ∀ c ∈ blanks, c.toNat ≤ 0x20
  endsInBlank_iff : EndsInBlank text ↔ blanks ≠ []
  tail_head : ∀ c ∈ tail.head?, endsAuthority .special c = true
  kind : schemeKind base.scheme = .special
  base_eq : base =
    afterHost base.scheme user base.host base.port (tail ++ List.replicate k '/')
  /-- Behind a host or a port blanks cannot be read. -/
  refused : blanks ≠ [] → tail = [] → ∀ e, (∀ c ∈ e, 0x20 < c.toNat) →
    ∃ fault, Url.ofBase (withoutSlashes text ++ String.ofList ('/' :: e)) = .error fault
  accepted : blanks = [] ∨ tail ≠ [] → ∀ e, (∀ c ∈ e, 0x20 < c.toNat) →
    Url.ofBase (withoutSlashes text ++ String.ofList ('/' :: e)) =
      .ok (afterHost base.scheme user base.host base.port (tail ++ (blanks ++ '/' :: e)))

/-- The first character of two texts is that of the first one, unless that is empty. -/
theorem forall_head?_append {p : Char → Prop} {s t : List Char} (hs : ∀ c ∈ s.head?, p c)
    (ht : s = [] → ∀ c ∈ t.head?, p c) : ∀ c ∈ (s ++ t).head?, p c := by
  cases s with
  | nil => exact ht rfl
  | cons d s => exact hs

/-- Every base that was accepted is read in this way. -/
theorem exists_reading {text : String} {base : Url} (hbase : Url.ofBase text = .ok base) :
    ∃ user tail blanks k, Reading text base user tail blanks k := by
  obtain ⟨hparse, hscheme, hhost⟩ := ofBase_eq_ok_iff.mp hbase
  have hkind := schemeKind_of_mem base.scheme hscheme
  have hclean : clean text.toList ≠ [] := by
    intro hnil
    rw [parse, hnil] at hparse
    cases hparse
  -- what counts, the scheme and the slashes, and the authority, one after the other
  obtain ⟨w, blanks, k, hblank, hends, hw, happend⟩ := exists_clean_append hclean
  obtain ⟨s, -, hread⟩ := exists_parse_append hparse hscheme hw
  obtain ⟨authority, tail, rfl, hauthority, htail⟩ := exists_authority s
  -- a slash and what is written behind it take the place of the slashes at the end
  have hother : ∀ e, (∀ c ∈ e, 0x20 < c.toNat) →
      parse (withoutSlashes text ++ String.ofList ('/' :: e)) =
        afterSlashes base.scheme (authority ++ (tail ++ (blanks ++ '/' :: e))) := by
    intro e he
    have hplain : ∀ c ∈ '/' :: e, 0x20 < c.toNat :=
      List.forall_mem_cons.mpr ⟨by decide, he⟩
    have htext := happend ('/' :: e) (List.cons_ne_nil _ _) hplain
    rw [← String.toList_ofList (l := '/' :: e), ← String.toList_append] at htext
    rw [hread _ _ htext, String.toList_ofList, List.append_assoc]
  have hslashes : ∀ c ∈ (tail ++ List.replicate k '/').head?, endsAuthority .special c = true :=
    forall_head?_append htail fun _ c hc => by
      rw [List.eq_of_mem_replicate (List.mem_of_mem_head? hc)]
      rfl
  have hbaseRead := hread text (List.replicate k '/') hw
  rw [hparse, List.append_assoc] at hbaseRead
  obtain ⟨user, hbaseEq, hfollow⟩ := exists_afterHost hkind hauthority hslashes hbaseRead.symm
  refine ⟨user, tail, blanks, k, hblank, hends, htail, hkind, hbaseEq, ?_, ?_⟩
  · -- the blanks come to the authority, which cannot be read any more
    rintro hne rfl e he
    have hslash : ∀ c ∈ ('/' :: e).head?, endsAuthority .special c = true := by
      rintro c ⟨⟩
      rfl
    obtain ⟨fault, hfault⟩ := afterSlashes_of_blank hblank hkind hauthority hslash hne
    have hfail : parse (withoutSlashes text ++ String.ofList ('/' :: e)) = .error fault := by
      rw [hother e he, List.nil_append, hfault]
    exact ⟨_, by rw [ofBase, hfail]⟩
  · -- the authority ends where it ended before
    intro hor e he
    refine ofBase_eq_ok_iff.mpr ⟨?_, hscheme, hhost⟩
    rw [hother e he]
    refine hfollow _ (forall_head?_append htail fun htailNil => ?_)
    obtain rfl := hor.resolve_right (not_not.mpr htailNil)
    rintro c ⟨⟩
    rfl

/-! ## Names behind a base -/

/-- A name that stays what it is in a path. -/
structure IsName (name : String) : Prop where
  chars : ∀ c ∈ name.toList, 0x20 < c.toNat ∧ c ∉ ['/', '\\', '?', '#']
  encoded_eq : encoded reservedInSegment name.toList = name
  not_dots : isDots name.toList = false

theorem ofList_slash_cons (name : String) : String.ofList ('/' :: name.toList) = "/" ++ name := by
  rw [← List.singleton_append, String.ofList_append, String.ofList_toList]

variable {text : String} {base : Url} {user : String × String} {tail blanks : List Char} {k : Nat}

namespace Reading

variable (r : Reading text base user tail blanks k)

include r

/-- A base has neither a query nor a fragment if nothing behind its host begins one. -/
theorem query_fragment_base_iff :
    (base.query = none ∧ base.fragment = none) ↔ ∀ c ∈ tail, endsPath c = false := by
  rw [r.base_eq, query_fragment_eq_none_iff]
  constructor
  · exact fun h c hc => h c (List.mem_append_left _ hc)
  · intro h c hc
    rcases List.mem_append.mp hc with hc | hc
    · exact h c hc
    · rw [List.eq_of_mem_replicate hc]
      rfl

/-- The path of a base without the slashes at its end. -/
theorem withoutSlashes_path (hplain : ∀ c ∈ tail, endsPath c = false) :
    withoutSlashes base.path.text =
      String.ofList ((reversedText (opened .special tail)).rdropWhile (· == '/')) := by
  have hslashes : ∀ c ∈ tail ++ List.replicate k '/', endsPath c = false := by
    intro c hc
    rcases List.mem_append.mp hc with hc | hc
    · exact hplain c hc
    · rw [List.eq_of_mem_replicate hc]
      rfl
  have hspecial : SchemeKind.special ≠ .plain := by decide
  obtain ⟨j, hpath⟩ := exists_pathOf_append_slashes hspecial tail k
  rw [r.base_eq, path_afterHost_of_plain _ _ _ _ hslashes, r.kind, hpath, text_segments,
    flatMap_replicate_empty, withoutSlashes_ofList, rdropWhile_append_slashes]

/-- What is written behind a base begins a query or a fragment if something in the base does. -/
theorem endsPath_behind_iff {name : String} (hname : IsName name) :
    (∀ c ∈ tail ++ (blanks ++ '/' :: name.toList), endsPath c = false) ↔
      ∀ c ∈ tail, endsPath c = false := by
  constructor
  · exact fun h c hc => h c (List.mem_append_left _ hc)
  · intro h c hc
    simp only [List.mem_append, List.mem_cons] at hc
    rcases hc with hc | hc | rfl | hc
    · exact h c hc
    · exact endsPath_of_blank (r.blank c hc)
    · rfl
    · have hsigns := (hname.chars c hc).2
      simp only [List.mem_cons, not_or] at hsigns
      simp [endsPath, hsigns.2.2.1, hsigns.2.2.2.1]

/-- The text of the path of what is written behind a base. -/
theorem text_path_behind {name : String} (hname : IsName name)
    (hplain : ∀ c ∈ tail, endsPath c = false) :
    (afterHost base.scheme user base.host base.port
      (tail ++ (blanks ++ '/' :: name.toList))).path.text =
      String.ofList (reversedText (opened .special (tail ++ blanks)) ++ '/' :: name.toList) := by
  -- the name is one segment, and no dots
  have hno : ∀ c ∈ name.toList, isSlash .special c = false := by
    intro c hc
    have hsigns := (hname.chars c hc).2
    simp only [List.mem_cons, not_or] at hsigns
    simp [isSlash, hsigns.1, hsigns.2.1]
  have hdots : ∀ s ∈ [name.toList], isDots s = false := by
    simpa using hname.not_dots
  rw [path_afterHost_of_plain _ _ _ _ ((r.endsPath_behind_iff hname).mpr hplain), r.kind,
    ← List.append_assoc, pathOf_append_slash, splitSlashes_of_no_slash hno,
    resolveOnto_of_no_dots hdots, text_segments, List.map_singleton, hname.encoded_eq]
  simp

/-- The scheme, the host and the port are those of the base whatever follows them, so a name that
can be read at all is below the base if its path is. -/
theorem namesBelow_iff_path {name : String} (hname : IsName name) (hor : blanks = [] ∨ tail ≠ []) :
    base.NamesBelow name (withoutSlashes text ++ "/" ++ name) ↔
      (∀ c ∈ tail, endsPath c = false) ∧
        (afterHost base.scheme user base.host base.port
          (tail ++ (blanks ++ '/' :: name.toList))).path.text =
            withoutSlashes base.path.text ++ "/" ++ name := by
  have hread := r.accepted hor name.toList fun c hc => (hname.chars c hc).1
  rw [String.append_assoc, ← ofList_slash_cons, ← r.endsPath_behind_iff hname,
    ← query_fragment_eq_none_iff base.scheme user base.host base.port, NamesBelow, hread,
    String.append_assoc, ← ofList_slash_cons]
  -- what is read is one URL, so the name is below the base or it is not
  constructor
  · rintro ⟨url, ⟨⟩, -, -, -, hpath, hnone⟩
    exact ⟨hnone, hpath⟩
  · rintro ⟨hnone, hpath⟩
    exact ⟨_, rfl, rfl, rfl, rfl, hpath, hnone⟩

/-- Blanks that are written behind a path stay in front of what follows it. -/
theorem reversedText_opened_eq_iff (hor : blanks = [] ∨ tail ≠ []) :
    reversedText (opened .special (tail ++ blanks)) =
        (reversedText (opened .special tail)).rdropWhile (· == '/') ↔
      blanks = [] ∧ (reversedText (opened .special tail)).rdropWhile (· == '/') =
        reversedText (opened .special tail) := by
  by_cases hblanks : blanks = []
  · rw [hblanks, List.append_nil, and_iff_right rfl]
    exact eq_comm
  · -- with the blanks the text is longer, and without the slashes it is no longer than before
    have hlonger := length_opened_lt .special (hor.resolve_left hblanks) hblanks r.blank
    have hshorter := (List.rdropWhile_prefix (· == '/')
      (reversedText (opened .special tail))).length_le
    refine iff_of_false (fun h => ?_) fun h => hblanks h.1
    have := congrArg List.length h
    omega

/-- A name behind a base is below it exactly if the base has neither query nor fragment, no blanks
at its end, and no slash at its end that is not taken away. -/
theorem namesBelow_iff {name : String} (hname : IsName name) :
    base.NamesBelow name (withoutSlashes text ++ "/" ++ name) ↔
      (base.query = none ∧ base.fragment = none) ∧ blanks = [] ∧
        (reversedText (opened .special tail)).rdropWhile (· == '/') =
          reversedText (opened .special tail) := by
  by_cases hrefused : blanks ≠ [] ∧ tail = []
  · -- blanks directly behind a host or a port: nothing can be read
    obtain ⟨fault, hfault⟩ := r.refused hrefused.1 hrefused.2 name.toList fun c hc =>
      (hname.chars c hc).1
    refine iff_of_false ?_ fun h => hrefused.1 h.2.1
    rintro ⟨url, hurl, -⟩
    rw [String.append_assoc, ← ofList_slash_cons, hfault] at hurl
    cases hurl
  · have hor : blanks = [] ∨ tail ≠ [] := by tauto
    rw [r.namesBelow_iff_path hname hor, r.query_fragment_base_iff]
    refine and_congr_right fun hplain => ?_
    -- the name stands at the end of both paths
    rw [r.text_path_behind hname hplain, r.withoutSlashes_path hplain, String.append_assoc,
      ← ofList_slash_cons, ← String.ofList_append, String.ofList_inj,
      List.append_cancel_right_eq, r.reversedText_opened_eq_iff hor]

end Reading

/-! ## Endpoints -/

theorem isName_management : IsName "management" :=
  ⟨by simp, by decide +kernel, by decide +kernel⟩

theorem isName_upload : IsName "management-upload" :=
  ⟨by simp, by decide +kernel, by decide +kernel⟩

theorem isName_empty : IsName "" :=
  ⟨nofun, by decide +kernel, by decide⟩

/-- A base that goes on behind a slash shows the slashes that are not taken away. -/
theorem Reading.exists_ofBase_slash_iff (r : Reading text base user tail blanks k)
    (hplain : ∀ c ∈ tail, endsPath c = false) (hblanks : blanks = []) :
    (∃ url, Url.ofBase (withoutSlashes text ++ "/") = .ok url ∧
        url.path.text = withoutSlashes url.path.text ++ "/") ↔
      (reversedText (opened .special tail)).rdropWhile (· == '/') =
        reversedText (opened .special tail) := by
  have hread := r.accepted (.inl hblanks) [] nofun
  -- the base and a slash are the base with the empty name behind it
  have hpath := r.text_path_behind isName_empty hplain
  have hslash : "/" = String.ofList ['/'] := rfl
  have hdrop := rdropWhile_append_slashes (reversedText (opened .special tail)) 1
  have hempty : ("" : String).toList = [] := rfl
  rw [hempty, hblanks, List.append_nil] at hpath
  rw [hblanks] at hread
  rw [hslash, hread]
  simp only [Except.ok.injEq, exists_eq_left']
  rw [hpath, withoutSlashes_ofList, ← String.ofList_append, String.ofList_inj,
    List.append_cancel_right_eq]
  rw [List.replicate_one] at hdrop
  rw [hdrop]
  exact eq_comm

end Url

namespace Endpoints

/-- The endpoints of an accepted base address are usable at its scheme, host and port, below its
path and without a query or a fragment, exactly if the base itself has no query and no fragment, no
blank or control at its end, and a single slash at the end of its path once one slash stands in
place of the slashes at its end. -/
theorem ofBase_usable_iff {text : String} {endpoints : Endpoints}
    (h : Endpoints.ofBase text = .ok endpoints) : ∃ base, Url.ofBase text = .ok base ∧
      ((base.NamesBelow "management" endpoints.operations ∧
          base.NamesBelow "management-upload" endpoints.uploads) ↔
        base.query = none ∧ base.fragment = none ∧ ¬ Url.EndsInBlank text ∧
          ∃ url, Url.ofBase (withoutSlashes text ++ "/") = .ok url ∧
            url.path.text = withoutSlashes url.path.text ++ "/") := by
  rw [Endpoints.ofBase] at h
  cases hbase : Url.ofBase text with
  | error e =>
    rw [hbase] at h
    cases h
  | ok base =>
    rw [hbase] at h
    cases h
    refine ⟨base, rfl, ?_⟩
    obtain ⟨user, tail, blanks, k, r⟩ := Url.exists_reading hbase
    -- both endpoints are a name behind the base
    have hoperations : (below text).operations = withoutSlashes text ++ "/" ++ "management" := by
      rw [String.append_assoc]
      rfl
    have huploads : (below text).uploads = withoutSlashes text ++ "/" ++ "management-upload" := by
      rw [String.append_assoc]
      rfl
    rw [hoperations, huploads, r.namesBelow_iff Url.isName_management,
      r.namesBelow_iff Url.isName_upload, and_self, r.endsInBlank_iff, not_not]
    refine (and_congr_right fun hnone => and_congr_right fun hblanks => ?_).trans and_assoc
    exact (r.exists_ofBase_slash_iff (r.query_fragment_base_iff.mp hnone) hblanks).symm

/-- Slashes at the end of a base are no trouble, but a blank there is: such a base is accepted, and
an endpoint with a blank between the port and the path is not. A query is no better: it takes the
name of the endpoint in. -/
theorem ofBase_unusable :
    let plain := "http://localhost:9990/console//"
    let blank := "http://localhost:9990 "
    let query := "http://localhost:9990?a"
    (∃ base, Url.ofBase plain = .ok base ∧
      base.NamesBelow "management" "http://localhost:9990/console/management" ∧
      base.NamesBelow "management-upload" "http://localhost:9990/console/management-upload") ∧
    (∃ base, Url.ofBase blank = .ok base ∧ Endpoints.ofBase blank = .ok (below blank) ∧
      ¬ (base.NamesBelow "management" (below blank).operations ∧
        base.NamesBelow "management-upload" (below blank).uploads) ∧
      Url.ofBase (below blank).operations =
        .error ⟨"http://localhost:9990 /management", .unreadable .invalidPort⟩) ∧
    ∃ base, Url.ofBase query = .ok base ∧ Endpoints.ofBase query = .ok (below query) ∧
      ¬ (base.NamesBelow "management" (below query).operations ∧
        base.NamesBelow "management-upload" (below query).uploads) := by
  intro plain blank query
  have hplain : Endpoints.ofBase plain = .ok (below plain) := by decide +kernel
  have hblank : Endpoints.ofBase blank = .ok (below blank) := by decide +kernel
  have hquery : Endpoints.ofBase query = .ok (below query) := by decide +kernel
  refine ⟨?_, ?_, ?_⟩
  · obtain ⟨base, hbase, hiff⟩ := ofBase_usable_iff hplain
    have hnone : (Url.ofBase plain).toOption.map (fun url => (url.query, url.fragment)) =
        some (none, none) := by decide +kernel
    rw [hbase] at hnone
    obtain ⟨hquery, hfragment⟩ := Prod.mk.inj (Option.some.inj hnone)
    have hends : ¬ Url.EndsInBlank plain := by
      have hlast : (Url.kept plain.toList).getLast? = some '/' := by decide +kernel
      rw [Url.EndsInBlank, hlast]
      rintro ⟨c, ⟨⟩, hblank⟩
      exact absurd hblank (by decide)
    have hslash : Url.ofBase (withoutSlashes plain ++ "/") = .ok
        ⟨"http", "", "", some (.domain "localhost"), some 9990, .segments ["console", ""], none,
          none⟩ := by decide +kernel
    have hbelow : below plain = ⟨"http://localhost:9990/console/management",
        "http://localhost:9990/console/management-upload"⟩ := by decide +kernel
    have hnames := hiff.mpr ⟨hquery, hfragment, hends, _, hslash, by decide +kernel⟩
    rw [hbelow] at hnames
    exact ⟨base, hbase, hnames⟩
  · obtain ⟨base, hbase, hiff⟩ := ofBase_usable_iff hblank
    refine ⟨base, hbase, hblank, fun h => ?_, by decide +kernel⟩
    exact (hiff.mp h).2.2.1 ⟨' ', by decide +kernel, by decide⟩
  · obtain ⟨base, hbase, hiff⟩ := ofBase_usable_iff hquery
    have hsome : (Url.ofBase query).toOption.map (·.query) = some (some "a") := by decide +kernel
    rw [hbase] at hsome
    refine ⟨base, hbase, hquery, fun h => ?_⟩
    have hread : base.query = some "a" := Option.some.inj hsome
    rw [(hiff.mp h).1] at hread
    cases hread

end Endpoints

end ManagementModel
