import Mathlib.Data.List.DropRight
import ManagementModel.Proofs.Url.Authority
import ManagementModel.Proofs.Url.Host

/-!
# ManagementModel — texts of URLs that go on

When something is written behind the text of a URL, it is read as the URL that it was up to there,
with one exception: blanks at the end, which did not count, count now. Behind a host or a port they
make it unreadable.

Main results:

* `exists_clean_append` — what counts of a text and of what is written behind it.
* `exists_parse_append` — scheme and slashes are read as before.
* `afterSlashes_special` — user, host and port are read apart from what follows.
* `afterSlashes_of_blank` — blanks behind a host or a port.
-/

namespace ManagementModel.Url

/-! ## What counts -/

/-- The characters of a text that count. -/
def kept (s : List Char) : List Char := s.filter fun c => !isTabOrLineBreak c

/-- What counts of a text that goes on. -/
def front (s : List Char) : List Char := (kept s).dropWhile isC0OrSpace

/-- The last character of a text that counts is a blank or a control. -/
def EndsInBlank (text : String) : Prop := ∃ c ∈ (kept text.toList).getLast?, c.toNat ≤ 0x20

theorem isC0OrSpace_of_not_kept {c : Char} (h : (!isTabOrLineBreak c) = false) :
    isC0OrSpace c = true := by
  simp only [isTabOrLineBreak, Bool.not_eq_false', Bool.or_eq_true, beq_iff_eq] at h
  rcases h with (rfl | rfl) | rfl <;> decide

/-- Characters that never count are dropped with the blanks around a text. -/
theorem dropWhile_kept (s : List Char) :
    (kept s).dropWhile isC0OrSpace = kept (s.dropWhile isC0OrSpace) := by
  induction s with
  | nil => rfl
  | cons c s ih =>
    rw [kept, List.filter_cons, List.dropWhile_cons, ← kept]
    cases hc : (!isTabOrLineBreak c) with
    -- a character that never counts is dropped on both sides
    | false => rw [isC0OrSpace_of_not_kept hc, if_pos rfl, ← ih, if_neg Bool.false_ne_true]
    | true =>
      rw [if_pos rfl, List.dropWhile_cons]
      split
      · exact ih
      · rw [kept, kept, List.filter_cons, if_pos hc]

/-- What counts of a text is what counts when it goes on, without the blanks at its end. -/
theorem clean_eq_rdropWhile (s : List Char) : clean s = (front s).rdropWhile isC0OrSpace := by
  have hreverse : ∀ t, kept (List.reverse t) = (kept t).reverse := fun t => List.filter_reverse
  rw [front, dropWhile_kept, List.rdropWhile, ← hreverse, dropWhile_kept, ← hreverse]
  rfl

/-- All characters beyond the blanks and controls count. -/
theorem kept_eq_self {s : List Char} (h : ∀ c ∈ s, 0x20 < c.toNat) : kept s = s := by
  refine List.filter_eq_self.mpr fun c hc => ?_
  by_contra hnot
  have hblank := isC0OrSpace_of_not_kept (Bool.eq_false_iff.mpr hnot)
  have := h c hc
  simp only [isC0OrSpace, decide_eq_true_eq] at hblank
  omega

/-- Blanks at the end of a text count if something else follows them. -/
theorem clean_append (s : List Char) {e : List Char} (hne : e ≠ []) (he : ∀ c ∈ e, 0x20 < c.toNat) :
    clean (s ++ e) = front s ++ e := by
  have hplain : ∀ c ∈ e, ¬ isC0OrSpace c = true := by
    intro c hc
    have := he c hc
    simp only [isC0OrSpace, decide_eq_true_eq]
    omega
  -- what is written behind the text counts as a whole
  have hkept : kept (s ++ e) = kept s ++ e := by
    rw [kept, List.filter_append, ← kept, ← kept, kept_eq_self he]
  -- dropping blanks in front ends before it, at the latest
  have hfront : front (s ++ e) = front s ++ e := by
    rw [front, hkept, List.dropWhile_append, ← front]
    split
    · next hempty =>
      obtain ⟨c, rest, rfl⟩ := List.exists_cons_of_ne_nil hne
      rw [List.isEmpty_iff.mp hempty, List.nil_append,
        List.dropWhile_cons_of_neg (hplain c List.mem_cons_self)]
    · rfl
  rw [clean_eq_rdropWhile, hfront, List.rdropWhile_eq_self_iff]
  intro hl
  rw [List.getLast_append_of_ne_nil _ hne]
  exact hplain _ (List.getLast_mem hne)

/-- A text and the slashes at its end. -/
theorem exists_toList_eq (text : String) : ∃ k,
    text.toList = (withoutSlashes text).toList ++ List.replicate k '/' := by
  have hslashes : text.toList.rtakeWhile (· == '/') =
      List.replicate (text.toList.rtakeWhile (· == '/')).length '/' :=
    List.eq_replicate_iff.mpr ⟨rfl, fun c hc => by simpa using List.mem_rtakeWhile_imp hc⟩
  refine ⟨(text.toList.rtakeWhile (· == '/')).length, ?_⟩
  rw [← hslashes, withoutSlashes, String.toList_ofList]
  exact List.rdropWhile_append_rtakeWhile.symm

/-- A text ends in a blank exactly if cleaning takes something away at its end. -/
theorem endsInBlank_iff {text : String} (h : front text.toList ≠ []) :
    EndsInBlank text ↔ (front text.toList).rtakeWhile isC0OrSpace ≠ [] := by
  have hlast : (kept text.toList).getLast? = some ((front text.toList).getLast h) := by
    rw [← List.getLast?_eq_some_getLast,
      ← List.takeWhile_append_dropWhile (p := isC0OrSpace) (l := kept text.toList), ← front,
      List.getLast?_append_of_ne_nil _ h]
  rw [EndsInBlank, hlast, Ne, List.rtakeWhile_eq_nil_iff]
  simp [h, isC0OrSpace]

/-- What counts of a text with slashes at its end, and of the same text with something else in place
of the slashes: blanks in front of the end count in the second one only. -/
theorem exists_clean_append {text : String} (hclean : clean text.toList ≠ []) : ∃ w blanks k,
    (∀ c ∈ blanks, c.toNat ≤ 0x20) ∧ (EndsInBlank text ↔ blanks ≠ []) ∧
      clean text.toList = w ++ List.replicate k '/' ∧
      ∀ e ≠ [], (∀ c ∈ e, 0x20 < c.toNat) →
        clean ((withoutSlashes text).toList ++ e) = w ++ (blanks ++ e) := by
  obtain ⟨k, htext⟩ := exists_toList_eq text
  have hslashes : ∀ c ∈ List.replicate k '/', 0x20 < c.toNat := by
    intro c hc
    rw [List.eq_of_mem_replicate hc]
    decide
  cases k with
  | zero =>
    -- the blanks at the end are what cleaning takes away
    rw [List.replicate_zero, List.append_nil] at htext
    rw [clean_eq_rdropWhile] at hclean
    have hfront : front text.toList ≠ [] := by
      intro hnil
      rw [hnil] at hclean
      exact hclean rfl
    refine ⟨clean text.toList, (front text.toList).rtakeWhile isC0OrSpace, 0, ?_,
      endsInBlank_iff hfront, (List.append_nil _).symm, ?_⟩
    · intro c hc
      simpa [isC0OrSpace] using List.mem_rtakeWhile_imp hc
    · intro e hne he
      rw [clean_append _ hne he, ← htext, clean_eq_rdropWhile, ← List.append_assoc,
        List.rdropWhile_append_rtakeWhile]
  | succ k =>
    -- a slash stands behind all blanks, so they count already
    have hne : List.replicate (k + 1) '/' ≠ [] := List.cons_ne_nil _ _
    have hlast : ¬ EndsInBlank text := by
      have hkept : (kept text.toList).getLast? = some '/' := by
        rw [htext, kept, List.replicate_succ', ← List.append_assoc, List.filter_append]
        exact List.getLast?_concat
      rw [EndsInBlank, hkept]
      rintro ⟨c, ⟨⟩, hblank⟩
      exact absurd hblank (by decide)
    refine ⟨front (withoutSlashes text).toList, [], k + 1, List.forall_mem_nil _,
      iff_of_false hlast fun h => h rfl, ?_, fun e hne he => clean_append _ hne he⟩
    rw [← clean_append _ hne hslashes, ← htext]

/-! ## The scheme -/

/-- A scheme begins with a letter and ends at the first colon, and its case does not matter. -/
theorem splitScheme_eq_some {s rest : List Char} {scheme : String}
    (h : splitScheme s = some (scheme, rest)) : ∃ name, s = name ++ ':' :: rest ∧
      name.head?.any Char.isAlpha = true ∧ (∀ c ∈ name, isSchemeChar c = true) ∧
      scheme = String.ofList (name.map Char.toLower) := by
  rw [splitScheme] at h
  split at h
  · next hfirst =>
    split at h
    · next hcolon =>
      cases h
      refine ⟨s.takeWhile isSchemeChar, ?_, ?_, fun c hc => List.mem_takeWhile_imp hc, rfl⟩
      · rw [← hcolon, List.takeWhile_append_dropWhile]
      · -- a letter belongs to the scheme
        cases s with
        | nil => cases hfirst
        | cons c s =>
          have hletter : c.isAlpha = true := hfirst
          have hscheme : isSchemeChar c = true := by simp [isSchemeChar, Char.isAlphanum, hletter]
          rw [List.takeWhile_cons_of_pos hscheme]
          exact hletter
    · cases h
  · cases h

/-- What is read behind slashes is of the scheme in front of them. -/
theorem scheme_afterSlashes {scheme : String} {s : List Char} {url : Url}
    (h : afterSlashes scheme s = .ok url) : url.scheme = scheme := by
  simp only [afterSlashes, bind, Except.bind, pure, Except.pure, throw, throwThe,
    MonadExceptOf.throw] at h
  repeat' split at h
  all_goals cases h
  all_goals rfl

theorem scheme_fileUrl {s : List Char} {url : Url} (h : fileUrl s = .ok url) :
    url.scheme = "file" := by
  simp only [fileUrl, bind, Except.bind, pure, Except.pure] at h
  repeat' split at h
  all_goals cases h
  all_goals rfl

theorem scheme_plainUrl {scheme : String} {s : List Char} {url : Url}
    (h : plainUrl scheme s = .ok url) : url.scheme = scheme := by
  rw [plainUrl.eq_def] at h
  split at h
  · exact scheme_afterSlashes h
  · cases h
    rfl
  · cases h
    rfl

/-- A URL over one of the schemes of the interface is read from behind its slashes on. -/
theorem exists_afterSlashes {text : String} {url : Url} (hparse : parse text = .ok url)
    (hscheme : url.scheme ∈ managementSchemes) : ∃ rest,
      splitScheme (clean text.toList) = some (url.scheme, rest) ∧
      afterSlashes url.scheme (rest.dropWhile fun c => c == '/' || c == '\\') = .ok url := by
  have hkind := schemeKind_of_mem url.scheme hscheme
  rw [parse] at hparse
  split at hparse
  · cases hparse
  · next scheme rest hsplit =>
    split at hparse
    · -- a special scheme
      obtain rfl := scheme_afterSlashes hparse
      exact ⟨rest, hsplit, hparse⟩
    · -- files are of another scheme
      rw [scheme_fileUrl hparse] at hscheme
      exact absurd hscheme (by decide)
    · next hplain =>
      rw [← scheme_plainUrl hparse, hkind] at hplain
      cases hplain

/-- Without a text behind the slashes there is no host. -/
theorem afterSlashes_nil {scheme : String} (hscheme : scheme ∈ managementSchemes) :
    afterSlashes scheme [] = .error .emptyHost := by
  have hauthority : IsAuthority [] := nofun
  have hread : afterSlashes scheme ([] ++ []) = _ :=
    afterSlashes_append hauthority nofun
  rw [hostAndPort_nil hscheme] at hread
  exact hread

/-- Whatever is written behind a URL, the scheme and the slashes are read as before. -/
theorem exists_parse_append {text : String} {url : Url} (hparse : parse text = .ok url)
    (hscheme : url.scheme ∈ managementSchemes) {w : List Char} {k : Nat}
    (hclean : clean text.toList = w ++ List.replicate k '/') : ∃ s ≠ [],
      ∀ (other : String) (e : List Char), clean other.toList = w ++ e →
        parse other = afterSlashes url.scheme (s ++ e) := by
  obtain ⟨rest, hsplit, hread⟩ := exists_afterSlashes hparse hscheme
  obtain ⟨name, htext, hfirst, hname, hlower⟩ := splitScheme_eq_some hsplit
  -- the colon is no slash, so it stands in front of them
  obtain ⟨behind, rfl, rfl⟩ : ∃ behind, w = name ++ ':' :: behind ∧
      rest = behind ++ List.replicate k '/' := by
    rw [hclean] at htext
    rcases List.append_eq_append_iff.mp htext with ⟨a, hw, hslashes⟩ | ⟨a, hw, hcolon⟩
    · have hmem : ':' ∈ List.replicate k '/' := by
        rw [hslashes]
        exact List.mem_append_right _ List.mem_cons_self
      exact absurd (List.eq_of_mem_replicate hmem) (by decide)
    · cases a with
      | nil =>
        have hmem : ':' ∈ List.replicate k '/' := by
          rw [List.nil_append] at hcolon
          rw [← hcolon]
          exact List.mem_cons_self
        exact absurd (List.eq_of_mem_replicate hmem) (by decide)
      | cons c behind =>
        obtain ⟨rfl, hrest⟩ := List.cons.inj hcolon
        exact ⟨behind, hw, hrest⟩
  -- without a host the URL would not have been read
  have hne : (behind.dropWhile fun c => c == '/' || c == '\\') ≠ [] := by
    intro hnil
    rw [List.dropWhile_append, hnil, List.isEmpty_nil, if_pos rfl, List.dropWhile_replicate,
      if_pos (by decide), afterSlashes_nil hscheme] at hread
    cases hread
  refine ⟨behind.dropWhile fun c => c == '/' || c == '\\', hne, fun other e hother => ?_⟩
  rw [parse, hother, List.append_assoc, List.cons_append, splitScheme_append hfirst hname]
  simp only [← hlower, schemeKind_of_mem url.scheme hscheme]
  rw [List.dropWhile_append, if_neg (by simpa using hne)]

/-! ## User, host and port -/

/-- Over a special scheme the host is a domain or an address, and not empty. -/
theorem hostOf_special (s : List Char) : hostOf .special s =
    if s.isEmpty then .error .emptyHost else (Host.ofDomain s).map some :=
  rfl

/-- The host of a special scheme is there if it can be read. -/
theorem exists_hostOf_special (s : List Char) :
    (∃ e, hostOf .special s = .error e) ∨ ∃ host, hostOf .special s = .ok (some host) := by
  rw [hostOf_special]
  split
  · exact .inl ⟨_, rfl⟩
  · cases Host.ofDomain s with
    | error e => exact .inl ⟨e, rfl⟩
    | ok host => exact .inr ⟨host, rfl⟩

/-- The host and the port stand behind the last at sign. -/
theorem splitUser_snd (s : List Char) : (splitUser s).2 = s.rtakeWhile (· != '@') := by
  rw [splitUser]
  split
  · next hlength =>
    have hsuffix : s.rtakeWhile (· != '@') <:+ s := List.rtakeWhile_suffix _ s
    exact (hsuffix.eq_of_length hlength).symm
  · rfl

theorem mem_splitUser {s : List Char} {c : Char} (h : c ∈ (splitUser s).2) : c ∈ s := by
  rw [splitUser_snd] at h
  exact (List.rtakeWhile_suffix _ s).subset h

/-- What stands behind the slashes is an authority and what follows it. -/
theorem exists_authority (s : List Char) : ∃ authority rest, s = authority ++ rest ∧
    (∀ c ∈ authority, endsAuthority .special c = false) ∧
      ∀ c ∈ rest.head?, endsAuthority .special c = true := by
  refine ⟨s.takeWhile fun c => !endsAuthority .special c,
    s.dropWhile fun c => !endsAuthority .special c, List.takeWhile_append_dropWhile.symm, ?_, ?_⟩
  · intro c hc
    simpa using List.mem_takeWhile_imp hc
  · intro c hc
    -- the first character that is left ends the authority
    have hhead := List.head?_dropWhile_not (fun c => !endsAuthority .special c) s
    rw [Option.mem_def.mp hc] at hhead
    simpa using hhead

variable {scheme : String} {authority rest : List Char}

/-- User, host and port of a special scheme are read apart from what follows them. -/
theorem afterSlashes_special (hkind : schemeKind scheme = .special)
    (hauthority : ∀ c ∈ authority, endsAuthority .special c = false)
    (hrest : ∀ c ∈ rest.head?, endsAuthority .special c = true) :
    afterSlashes scheme (authority ++ rest) =
      (hostAndPort scheme (splitUser authority).2).map fun p =>
        afterHost scheme (credentials ((splitUser authority).1.getD [])) p.1 p.2 rest := by
  have hkept : ∀ c ∈ authority, (!endsAuthority .special c) = true := fun c hc => by
    rw [hauthority c hc, Bool.not_false]
  have hends : ∀ c ∈ rest.head?, (!endsAuthority .special c) = false := fun c hc => by
    rw [hrest c hc, Bool.not_true]
  -- a backslash ends the authority, so there is none in the port
  have hport : ∀ c ∈ (splitHost false (splitUser authority).2).2, (c != '\\') = true := by
    intro c hc
    refine bne_iff_ne.mpr ?_
    rintro rfl
    have hslash := hauthority _ (mem_splitUser (mem_splitHost hc))
    cases hslash
  have htakePort : ((splitHost false (splitUser authority).2).2.drop 1).takeWhile (· != '\\') =
      (splitHost false (splitUser authority).2).2.drop 1 :=
    List.takeWhile_eq_self_iff.mpr fun c hc => hport c (List.mem_of_mem_drop hc)
  have hdropPort : (splitHost false (splitUser authority).2).2.dropWhile (· != '\\') = [] :=
    List.dropWhile_eq_nil_iff.mpr hport
  simp only [afterSlashes, hostAndPort, hkind, Text.takeWhile_append_of_head hkept hends,
    Text.dropWhile_append_of_head hkept hends, htakePort, hdropPort]
  generalize (splitUser authority).2 = hostPort
  generalize (splitUser authority).1 = user
  cases hostPort with
  | nil =>
    -- without a host it does not matter why there is none
    cases (decide (user = some []) && ([] : List Char).isEmpty && !rest.isEmpty) <;> rfl
  | cons c hostPort =>
    rw [if_neg (by simp)]
    rcases exists_hostOf_special (splitHost false (c :: hostPort)).1 with ⟨e, he⟩ | ⟨host, hhost⟩
    · simp only [he]
      rfl
    · simp only [hhost]
      cases portOf scheme ((splitHost false (c :: hostPort)).2.drop 1) <;> rfl

/-- Whatever follows an authority that can be read, it is read as the same user, host and port. -/
theorem exists_afterHost (hkind : schemeKind scheme = .special)
    (hauthority : ∀ c ∈ authority, endsAuthority .special c = false)
    (hrest : ∀ c ∈ rest.head?, endsAuthority .special c = true) {url : Url}
    (hread : afterSlashes scheme (authority ++ rest) = .ok url) : ∃ user,
      url = afterHost scheme user url.host url.port rest ∧
      ∀ other, (∀ c ∈ List.head? other, endsAuthority .special c = true) →
        afterSlashes scheme (authority ++ other) =
          .ok (afterHost scheme user url.host url.port other) := by
  rw [afterSlashes_special hkind hauthority hrest] at hread
  cases hp : hostAndPort scheme (splitUser authority).2 with
  | error e =>
    rw [hp] at hread
    cases hread
  | ok p =>
    rw [hp] at hread
    cases hread
    refine ⟨credentials ((splitUser authority).1.getD []), rfl, fun other hother => ?_⟩
    rw [afterSlashes_special hkind hauthority hother, hp]
    rfl

/-! ## Blanks behind a host or a port -/

/-- Blanks do not end the part that the host and the port are in. -/
theorem splitUser_append_blanks {s blanks : List Char} (hb : ∀ c ∈ blanks, c.toNat ≤ 0x20) :
    (splitUser (s ++ blanks)).2 = (splitUser s).2 ++ blanks := by
  have hat : ∀ c ∈ blanks.reverse, (c != '@') = true := by
    intro c hc
    exact bne_iff_ne.mpr (ne_of_blank (hb c (List.mem_reverse.mp hc)) (by decide))
  rw [splitUser_snd, splitUser_snd, List.rtakeWhile, List.rtakeWhile, List.reverse_append,
    List.takeWhile_append_of_pos hat, List.reverse_append, List.reverse_reverse]

/-- A port has digits only. -/
theorem portDigits_of_not_digit {s : List Char} {c : Char} (hc : c ∈ s) (hdigit : c.isDigit = false)
    (n : Nat) : portDigits n s = .error .invalidPort := by
  induction s generalizing n with
  | nil => cases hc
  | cons d s ih =>
    rw [portDigits]
    -- the digit that is none is the first one, or comes later unless the port is too large by then
    rcases List.mem_cons.mp hc with rfl | hc
    · rw [hdigit]
      rfl
    · split
      · exact ih hc _
      · rfl

/-- A text with anything but digits is no port of any scheme. -/
theorem portOf_of_not_digit (scheme : String) {s : List Char} {c : Char} (hc : c ∈ s)
    (hdigit : c.isDigit = false) : portOf scheme s = .error .invalidPort := by
  have hempty : s.isEmpty = false := List.isEmpty_eq_false_iff.mpr (List.ne_nil_of_mem hc)
  rw [portOf, hempty, portDigits_of_not_digit hc hdigit]
  rfl

section

variable {blanks : List Char} (hb : ∀ c ∈ blanks, c.toNat ≤ 0x20)

include hb

/-- Blanks alone are a host without a port. -/
theorem splitHost_blanks (inBrackets : Bool) : splitHost inBrackets blanks = (blanks, []) := by
  induction blanks generalizing inBrackets with
  | nil => rfl
  | cons c blanks ih =>
    obtain ⟨hc, hrest⟩ := List.forall_mem_cons.mp hb
    have hcolon : c ≠ ':' := ne_of_blank hc (by decide)
    rw [splitHost, if_neg (by simp [hcolon]), ih hrest]

/-- Blanks come to the port, or else to the host. -/
theorem splitHost_append_blanks (inBrackets : Bool) (s : List Char) :
    -- a colon behind the host ends it, and otherwise the next character decides
    splitHost inBrackets (s ++ blanks) =
      if (splitHost inBrackets s).2 = [] then ((splitHost inBrackets s).1 ++ blanks, [])
      else ((splitHost inBrackets s).1, (splitHost inBrackets s).2 ++ blanks) := by
  induction s generalizing inBrackets with
  | nil => exact splitHost_blanks hb inBrackets
  | cons c s ih =>
    rw [List.cons_append, splitHost, splitHost]
    split
    · rw [if_neg (by simp)]
      rfl
    · simp only [ih]
      split <;> rfl

/-- A host or a port that ends in blanks cannot be read. -/
theorem hostAndPort_of_blank {scheme : String} (hkind : schemeKind scheme = .special)
    (s : List Char) (hne : blanks ≠ []) : ∃ e, hostAndPort scheme (s ++ blanks) = .error e := by
  obtain ⟨c, hlast⟩ : ∃ c, blanks.getLast? = some c := ⟨_, List.getLast?_eq_some_getLast hne⟩
  have hc : c ∈ blanks := List.mem_of_getLast? hlast
  have hblank : c.toNat ≤ 0x20 := hb c hc
  -- a blank is no digit
  have hdigit : c.isDigit = false := by
    rw [Bool.eq_false_iff]
    intro h
    have : 48 ≤ c.toNat := (Char.isDigit_iff_toNat.mp h).1
    omega
  rw [hostAndPort, hkind, splitHost_append_blanks hb]
  generalize (splitHost false s).1 = host
  generalize (splitHost false s).2 = port
  by_cases hport : port = []
  · -- the blanks come to the host
    have hlastHost : (host ++ blanks).getLast? = some c := by
      rw [List.getLast?_append_of_ne_nil _ hne, hlast]
    obtain ⟨e, he⟩ := Host.ofDomain_of_blank hlastHost hblank
    refine ⟨e, ?_⟩
    simp only [if_pos hport, hostOf_special, he]
    rw [if_neg (by simp [hne])]
    rfl
  · -- the blanks come to the port
    have hmem : c ∈ (port ++ blanks).drop 1 := by
      obtain ⟨d, port, rfl⟩ := List.exists_cons_of_ne_nil hport
      exact List.mem_append_right port hc
    rcases exists_hostOf_special host with ⟨e, he⟩ | ⟨read, hread⟩
    · exact ⟨e, by simp only [if_neg hport, he]; rfl⟩
    · refine ⟨.invalidPort, ?_⟩
      simp only [if_neg hport, hread, portOf_of_not_digit scheme hmem hdigit]
      rfl

/-- Blanks that an authority ends in make it unreadable, whoever the user is. -/
theorem afterSlashes_of_blank (hkind : schemeKind scheme = .special)
    (hauthority : ∀ c ∈ authority, endsAuthority .special c = false)
    (hrest : ∀ c ∈ rest.head?, endsAuthority .special c = true) (hne : blanks ≠ []) :
    ∃ e, afterSlashes scheme (authority ++ (blanks ++ rest)) = .error e := by
  -- the blanks do not end the authority, so they are read as a part of it
  have hlonger : ∀ c ∈ authority ++ blanks, endsAuthority .special c = false := by
    intro c hc
    rcases List.mem_append.mp hc with hc | hc
    · exact hauthority c hc
    · exact endsAuthority_of_blank (hb c hc) .special
  obtain ⟨e, he⟩ := hostAndPort_of_blank hb hkind (splitUser authority).2 hne
  refine ⟨e, ?_⟩
  rw [← List.append_assoc, afterSlashes_special hkind hlonger hrest, splitUser_append_blanks hb,
    he]
  rfl

end

end ManagementModel.Url
