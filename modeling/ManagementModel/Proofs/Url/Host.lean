import ManagementModel.Proofs.Text.Canonical
import ManagementModel.Proofs.Text.Percent
import ManagementModel.Url.Parser

/-!
# ManagementModel — no blank at the end of a host

No blank or control is one of the signs that a URL is cut at. And nothing that is done to the text
of a host takes such a character away: it stays when percent signs are resolved, stands for itself
in a domain, and is part of no composition. So it is found where a domain is checked, and an address
in brackets does not end in it.

Main result:

* `Host.ofDomain_of_blank` — a host that ends in a blank is refused.
-/

namespace ManagementModel.Url

/-! ## Signs -/

theorem ne_of_blank {c d : Char} (hc : c.toNat ≤ 0x20) (hd : 0x20 < d.toNat) : c ≠ d := by
  rintro rfl
  omega

section

variable {c : Char} (hc : c.toNat ≤ 0x20)

include hc

theorem isSlash_of_blank (kind : SchemeKind) : isSlash kind c = false := by
  have hslash : c ≠ '/' := ne_of_blank hc (by decide)
  have hbackslash : c ≠ '\\' := ne_of_blank hc (by decide)
  simp [isSlash, hslash, hbackslash]

theorem endsPath_of_blank : endsPath c = false := by
  have hquery : c ≠ '?' := ne_of_blank hc (by decide)
  have hfragment : c ≠ '#' := ne_of_blank hc (by decide)
  simp [endsPath, hquery, hfragment]

theorem endsAuthority_of_blank (kind : SchemeKind) : endsAuthority kind c = false := by
  have hends : endsAuthority kind c = (isSlash kind c || endsPath c) := by
    simp only [endsAuthority, isSlash, endsPath, Bool.or_assoc, Bool.or_comm, Bool.or_left_comm]
  rw [hends, isSlash_of_blank hc, endsPath_of_blank hc]
  rfl

end

/-! ## Domains -/

namespace Host

/-- What is mapped element by element has the image of each element. -/
theorem exists_of_mapM_eq_some {α β : Type} {f : α → Option β} {xs : List α} {ys : List β}
    (h : xs.mapM f = some ys) {x : α} (hx : x ∈ xs) : ∃ y ∈ ys, f x = some y := by
  induction xs generalizing ys with
  | nil => cases hx
  | cons x' xs ih =>
    rw [List.mapM_cons] at h
    obtain ⟨y, hy, h⟩ := Option.bind_eq_some_iff.mp h
    obtain ⟨ys', hys, h⟩ := Option.bind_eq_some_iff.mp h
    cases h
    rcases List.mem_cons.mp hx with rfl | hx
    · exact ⟨y, List.mem_cons_self, hy⟩
    · obtain ⟨z, hz, hfz⟩ := ih hys hx
      exact ⟨z, List.mem_cons_of_mem y hz, hfz⟩

/-- No domain holds a blank or a control. -/
theorem ofChars?_of_blank {s : List Char} {c : Char} (hc : c ∈ s) (hblank : c.toNat ≤ 0x20) :
    Domain.ofChars? s = none := by
  have hmapped : Domain.mapped? s = none := by
    rw [Domain.mapped?]
    cases hparts : s.mapM Domain.mapChar? with
    | none => rfl
    | some parts =>
      obtain ⟨part, hpart, hchar⟩ := exists_of_mapM_eq_some hparts hc
      -- the blank stands for itself
      have hlower : c.toLower = c := dif_neg fun h => by
        have : 65 ≤ c.toNat := h.1
        omega
      rw [Domain.mapChar?, if_pos (by omega), hlower] at hchar
      have hself : c ∈ part := by
        rw [← Option.some.inj hchar]
        exact List.mem_singleton_self c
      have hflat : c ∈ parts.flatten := List.mem_flatten.mpr ⟨part, hpart, hself⟩
      -- it is kept by the canonical form, and refused there
      have hform := Text.Canonical.mem_form (Text.Canonical.inert_of_le_blank hblank) hflat
      have hforbidden : (Text.Canonical.form parts.flatten).any Domain.isForbiddenAscii = true :=
        List.any_eq_true.mpr ⟨c, hform, by simp [Domain.isForbiddenAscii, hblank]⟩
      exact if_pos hforbidden
  rw [Domain.ofChars?, hmapped]
  rfl

/-- Bytes with a blank or a control among them are no domain. -/
theorem ofBytes?_of_blank {bs : List UInt8} {b : UInt8} (hb : b ∈ bs) (hblank : b.toNat ≤ 0x20) :
    Domain.ofBytes? bs = none := by
  rw [Domain.ofBytes?]
  cases hdecode : Text.Utf8.decode? bs with
  | none => rfl
  | some text =>
    -- a byte of this size is a character by itself
    have hbytes := Text.Utf8.bytes_of_decode? hdecode
    rw [← hbytes] at hb
    obtain ⟨c, hc, hb⟩ := List.mem_flatMap.mp hb
    have hcode := Text.Utf8.toNat_of_mem_utf8EncodeChar hb (by omega)
    exact ofChars?_of_blank hc (by omega)

/-- A host that ends in a blank is refused. -/
theorem ofDomain_of_blank {s : List Char} {c : Char} (hc : s.getLast? = some c)
    (hblank : c.toNat ≤ 0x20) : ∃ e, ofDomain s = .error e := by
  rw [ofDomain]
  split
  · -- a bracket would have to stand at the end
    have hbracket : ¬ (s.getLast? == some ']') = true := by
      rw [hc]
      simpa using ne_of_blank hblank (by decide : 0x20 < ']'.toNat)
    rw [ofBrackets, if_neg hbracket]
    exact ⟨_, rfl⟩
  · have hdigit : ∀ n < 0x21, Text.Percent.hexValue? (UInt8.ofNat n) = none := by decide
    -- the blank is one byte of the text
    have hcode : c.toUInt8.toNat = c.toNat := Text.Utf8.toNat_toUInt8 (by omega)
    have hbyte : c.toUInt8 ∈ Text.Utf8.bytes (String.ofList s) := by
      rw [Text.Utf8.bytes_ofList]
      refine List.mem_flatMap.mpr ⟨c, List.mem_of_getLast? hc, ?_⟩
      rw [Text.Utf8.utf8EncodeChar_ascii (by omega)]
      exact List.mem_singleton_self _
    -- that byte is neither a percent sign nor a digit, so decoding keeps it
    have hkept : c.toUInt8 ∈ Text.Percent.decode (Text.Utf8.bytes (String.ofList s)) := by
      refine Text.Percent.mem_decode ?_ ?_ hbyte
      · rintro h
        rw [h] at hcode
        have : (37 : UInt8).toNat = 37 := rfl
        omega
      · have := hdigit c.toNat (by omega)
        rwa [← hcode, UInt8.ofNat_toNat] at this
    rw [ofBytes?_of_blank hkept (by omega)]
    exact ⟨_, rfl⟩

end Host

end ManagementModel.Url
