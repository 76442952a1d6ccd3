import Mathlib.Data.List.TakeWhile
import ManagementModel.BaseUrl
import ManagementModel.Proofs.Text.Split

/-!
# ManagementModel — a host and a port, and what follows them

A URL over `http` or `https` begins with its scheme and its authority. If the authority is a host,
or a host and a port, then it ends where the first slash, question mark or number sign stands, and
what follows does not reach it: the host and the port are the same for every path behind them.

Main results:

* `afterSlashes_append` — host and port are read apart from what follows.
* `ofBase_append` — a base address is kept with what follows it.
-/

namespace ManagementModel.Url

/-- The text of a host, or of a host and a port: no user, nothing that ends it, and no blanks. -/
def IsAuthority (s : List Char) : Prop :=
  ∀ c ∈ s, 0x20 < c.toNat ∧ c ∉ ['/', '\\', '?', '#', '@']

instance : DecidablePred IsAuthority := fun s =>
  List.decidableBAll (fun c : Char => 0x20 < c.toNat ∧ c ∉ ['/', '\\', '?', '#', '@']) s

/-- An authority does not begin with a slash, so the slashes in front of it are not more than two.
-/
theorem IsAuthority.head_ne {s : List Char} (h : IsAuthority s) :
    ∀ c ∈ s.head?, c ≠ '/' ∧ c ≠ '\\' := by
  intro c hc
  have hnot := (h c (List.mem_of_mem_head? hc)).2
  simp only [List.mem_cons, List.not_mem_nil, or_false, not_or] at hnot
  exact ⟨hnot.1, hnot.2.1⟩

/-! ## The scheme -/

theorem schemeKind_of_mem :
    ∀ scheme ∈ managementSchemes, schemeKind scheme = .special := by
  decide

/-- A text without blanks and controls counts as a whole. -/
theorem clean_eq_self {s : List Char} (h : ∀ c ∈ s, 0x20 < c.toNat) : clean s = s := by
  -- nothing is dropped at either end
  have hkept : ∀ t : List Char, (∀ c ∈ t, 0x20 < c.toNat) → t.dropWhile isC0OrSpace = t := by
    intro t ht
    cases t with
    | nil => rfl
    | cons c rest =>
      have hc := ht c List.mem_cons_self
      exact List.dropWhile_cons_of_neg (by simp [isC0OrSpace, hc])
  rw [clean, hkept s h, hkept s.reverse fun c hc => h c (List.mem_reverse.mp hc),
    List.reverse_reverse, List.filter_eq_self]
  intro c hc
  -- tabs and line breaks are among the controls
  have hnot : ∀ d ∈ ['\t', '\n', '\r'], c ≠ d := by
    rintro d hd rfl
    have hcontrol : ∀ d ∈ ['\t', '\n', '\r'], d.toNat ≤ 0x20 := by simp
    exact absurd (hcontrol c hd) (Nat.not_le.mpr (h c hc))
  simp only [List.forall_mem_cons] at hnot
  obtain ⟨htab, hline, hreturn, -⟩ := hnot
  simp [isTabOrLineBreak, htab, hline, hreturn]

/-- A scheme is read up to its colon, whatever follows. -/
theorem splitScheme_append {name : List Char} (hfirst : name.head?.any Char.isAlpha = true)
    (hname : ∀ c ∈ name, isSchemeChar c = true) (rest : List Char) :
    splitScheme (name ++ ':' :: rest) = some (String.ofList (name.map Char.toLower), rest) := by
  have hhead : (name ++ ':' :: rest).head?.any Char.isAlpha = true := by
    cases name with
    | nil => cases hfirst
    | cons c more => exact hfirst
  -- a colon is no character of a scheme
  have hcolon : ∀ c ∈ (':' :: rest).head?, isSchemeChar c = false := by
    rintro c ⟨⟩
    decide
  simp only [splitScheme, if_pos hhead, Text.dropWhile_append_of_head hname hcolon,
    Text.takeWhile_append_of_head hname hcolon]

/-- Behind the scheme and the slashes the authority is read. -/
theorem parse_of_scheme {scheme : String} (hscheme : scheme ∈ managementSchemes) {s : List Char}
    (hs : ∀ c ∈ s, 0x20 < c.toNat) (hfirst : ∀ c ∈ s.head?, c ≠ '/' ∧ c ≠ '\\') :
    parse (scheme ++ "://" ++ String.ofList s) = afterSlashes scheme s := by
  -- the schemes are fixed words in small letters
  have hname : ∀ scheme ∈ managementSchemes, scheme.toList.head?.any Char.isAlpha = true ∧
      (scheme.toList.all fun c => isSchemeChar c && 0x20 < c.toNat) = true ∧
      String.ofList (scheme.toList.map Char.toLower) = scheme := by
    decide
  obtain ⟨hhead, hall, hlower⟩ := hname scheme hscheme
  have hchars : ∀ c ∈ scheme.toList, isSchemeChar c = true ∧ 0x20 < c.toNat := by
    simpa using hall
  have htext : (scheme ++ "://" ++ String.ofList s).toList =
      scheme.toList ++ ':' :: ('/' :: '/' :: s) := by
    simp
  have hplain : ∀ c ∈ scheme.toList ++ ':' :: ('/' :: '/' :: s), 0x20 < c.toNat := by
    intro c hc
    simp only [List.mem_append, List.mem_cons] at hc
    rcases hc with hc | rfl | rfl | rfl | hc
    · exact (hchars c hc).2
    · decide
    · decide
    · decide
    · exact hs c hc
  -- the two slashes are all that stand in front of the authority
  have hslashes : (['/', '/'] ++ s).dropWhile (fun c => c == '/' || c == '\\') = s :=
    Text.dropWhile_append_of_head (by simp) fun c hc => by simp [hfirst c hc]
  rw [parse, htext, clean_eq_self hplain, splitScheme_append hhead fun c hc => (hchars c hc).1]
  simp only [hlower, schemeKind_of_mem scheme hscheme]
  exact congrArg (afterSlashes scheme) hslashes

/-! ## The authority -/

/-- Reads a host and a port. -/
def hostAndPort (scheme : String) (authority : List Char) :
    Except UrlError (Option Host × Option Nat) := do
  let (hostText, portText) := splitHost false authority
  let host ← hostOf (schemeKind scheme) hostText
  if host.isNone && !portText.isEmpty then throw .emptyHost
  let port ← portOf scheme (portText.drop 1)
  return (host, port)

/-- The text of the port is a part of what stands behind the user. -/
theorem mem_splitHost {inBrackets : Bool} {s : List Char} {c : Char}
    (h : c ∈ (splitHost inBrackets s).2) : c ∈ s := by
  induction s generalizing inBrackets with
  | nil => exact h
  | cons d rest ih =>
    rw [splitHost] at h
    split at h
    · exact h
    · exact List.mem_cons_of_mem d (ih h)

theorem splitUser_of_notMem {s : List Char} (h : '@' ∉ s) : splitUser s = (none, s) := by
  have hall : ∀ c ∈ s.reverse, (c != '@') = true := fun c hc =>
    bne_iff_ne.mpr (ne_of_mem_of_not_mem (List.mem_reverse.mp hc) h)
  have htail : s.reverse.takeWhile (· != '@') = s.reverse :=
    List.takeWhile_eq_self_iff.mpr hall
  rw [splitUser, htail, List.reverse_reverse, if_pos rfl]

variable {scheme : String} {authority rest : List Char}

/-- Host and port are read apart from what follows them. -/
theorem afterSlashes_append (hauthority : IsAuthority authority)
    (hrest : ∀ c ∈ rest.head?, endsAuthority (schemeKind scheme) c = true) :
    afterSlashes scheme (authority ++ rest) = (hostAndPort scheme authority).map fun p =>
      afterHost scheme ("", "") p.1 p.2 rest := by
  have hkept : ∀ c ∈ authority, (!endsAuthority (schemeKind scheme) c) = true := by
    intro c hc
    have hnot := (hauthority c hc).2
    simp only [List.mem_cons, List.not_mem_nil, or_false, not_or] at hnot
    simp [endsAuthority, hnot]
  have hends : ∀ c ∈ rest.head?, (!endsAuthority (schemeKind scheme) c) = false := fun c hc => by
    rw [hrest c hc, Bool.not_true]
  have huser : splitUser authority = (none, authority) :=
    splitUser_of_notMem fun h => (hauthority _ h).2 (by decide)
  -- the port of a special scheme would end at a backslash, but there is none
  have hport : ∀ c ∈ (splitHost false authority).2, (c != '\\') = true := by
    intro c hc
    refine bne_iff_ne.mpr ?_
    rintro rfl
    exact (hauthority _ (mem_splitHost hc)).2 (by decide)
  have htakePort : ((splitHost false authority).2.drop 1).takeWhile (· != '\\') =
      (splitHost false authority).2.drop 1 :=
    List.takeWhile_eq_self_iff.mpr fun c hc => hport c (List.mem_of_mem_drop hc)
  have hdropPort : (splitHost false authority).2.dropWhile (· != '\\') = [] :=
    List.dropWhile_eq_nil_iff.mpr hport
  have hcredentials : credentials [] = ("", "") := by decide
  simp only [afterSlashes, hostAndPort, Text.takeWhile_append_of_head hkept hends,
    Text.dropWhile_append_of_head hkept hends, huser, htakePort, hdropPort]
  -- without a user there are no credentials, so only the host and the port can fail
  rw [if_neg (by simp)]
  cases hostOf (schemeKind scheme) (splitHost false authority).1 with
  | error e => rfl
  | ok host =>
    simp only [bind, Except.bind]
    split
    · rfl
    · cases portOf scheme ((splitHost false authority).2.drop 1) with
      | error e => rfl
      | ok port =>
        simp only [Option.getD_none, hcredentials]
        rw [if_neg (by simp)]
        rfl

/-! ## Base addresses -/

/-- A base is a URL that is read, with a scheme of the interface and with a host. -/
theorem ofBase_eq_ok_iff {text : String} {url : Url} : Url.ofBase text = .ok url ↔
    parse text = .ok url ∧ url.scheme ∈ managementSchemes ∧ url.host.isSome = true := by
  rw [Url.ofBase]
  cases hparse : parse text with
  | error cause => simp
  | ok read =>
    simp only [Except.ok.injEq]
    constructor
    · intro h
      split at h
      · cases h
      · next hscheme =>
        split at h
        · cases h
        · next hhost =>
          cases h
          exact ⟨rfl, not_not.mp hscheme,
            Option.isNone_eq_false_iff.mp (Bool.eq_false_iff.mpr hhost)⟩
    · rintro ⟨rfl, hscheme, hhost⟩
      rw [if_neg (not_not.mpr hscheme),
        if_neg (Bool.eq_false_iff.mp (Option.isNone_eq_false_iff.mpr hhost))]

/-- There has to be a host. -/
theorem hostAndPort_nil (hscheme : scheme ∈ managementSchemes) :
    hostAndPort scheme [] = .error .emptyHost := by
  rw [hostAndPort, splitHost, schemeKind_of_mem scheme hscheme]
  rfl

/-- A base address that is no more than a host, or a host and a port. -/
theorem exists_hostAndPort (hscheme : scheme ∈ managementSchemes)
    (hauthority : IsAuthority authority) {base : Url}
    (hbase : Url.ofBase (scheme ++ "://" ++ String.ofList authority) = .ok base) :
    authority ≠ [] ∧ ∃ p, hostAndPort scheme authority = .ok p ∧
      base = afterHost scheme ("", "") p.1 p.2 [] := by
  obtain ⟨hparse, -, -⟩ := ofBase_eq_ok_iff.mp hbase
  rw [parse_of_scheme hscheme (fun c hc => (hauthority c hc).1) hauthority.head_ne,
    ← List.append_nil authority, afterSlashes_append hauthority (by simp)] at hparse
  cases hread : hostAndPort scheme authority with
  | error e =>
    rw [hread] at hparse
    cases hparse
  | ok p =>
    rw [hread] at hparse
    cases hparse
    refine ⟨?_, p, rfl, rfl⟩
    -- an empty authority has no host
    rintro rfl
    rw [hostAndPort_nil hscheme] at hread
    cases hread

/-- A base address is kept with what follows it. -/
theorem ofBase_append (hscheme : scheme ∈ managementSchemes) (hauthority : IsAuthority authority)
    {base : Url} (hbase : Url.ofBase (scheme ++ "://" ++ String.ofList authority) = .ok base)
    (hrest : ∀ c ∈ rest.head?, endsAuthority .special c = true)
    (hplain : ∀ c ∈ rest, 0x20 < c.toNat) :
    Url.ofBase (scheme ++ "://" ++ String.ofList (authority ++ rest)) =
      .ok (afterHost scheme ("", "") base.host base.port rest) := by
  obtain ⟨hne, p, hread, rfl⟩ := exists_hostAndPort hscheme hauthority hbase
  obtain ⟨-, -, hhost⟩ := ofBase_eq_ok_iff.mp hbase
  have hfirst : ∀ c ∈ (authority ++ rest).head?, c ≠ '/' ∧ c ≠ '\\' := by
    rw [List.head?_append_of_ne_nil _ hne]
    exact hauthority.head_ne
  have hchars : ∀ c ∈ authority ++ rest, 0x20 < c.toNat := by
    intro c hc
    rcases List.mem_append.mp hc with hc | hc
    · exact (hauthority c hc).1
    · exact hplain c hc
  -- what follows the authority ends it
  have hends : ∀ c ∈ rest.head?, endsAuthority (schemeKind scheme) c = true := by
    rw [schemeKind_of_mem scheme hscheme]
    exact hrest
  refine ofBase_eq_ok_iff.mpr ⟨?_, hscheme, hhost⟩
  rw [parse_of_scheme hscheme hchars hfirst, afterSlashes_append hauthority hends, hread]
  rfl

end ManagementModel.Url
