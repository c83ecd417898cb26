import PageBridge.Proofs.Url.Domain
import PageBridge.Url.Host

/-!
# Hosts of special URLs

The host of a special URL is a domain in its ASCII form or an address, so that it is written in ASCII
(`Host.toNat_lt_of_parse`).  A plain domain is no address, and the host is the domain in lower case
(`Host.parse_of_isPlain`).
-/

namespace PageBridge.Url

open PageBridge.Text

/-! ## Texts of addresses -/

theorem toNat_lt_of_mem_hexDigits {n : Nat} {c : Char} (h : c ∈ hexDigits n) : c.toNat < 128 := by
  have hdigit : ∀ d < 16, (Nat.digitChar d).toNat < 128 := by decide
  induction n using Nat.strongRecOn with
  | ind n ih =>
      rw [hexDigits, Nat.toDigits_eq_if (by decide)] at h
      by_cases hn : n < 16
      · rw [if_pos hn, List.mem_singleton] at h
        exact h ▸ hdigit n hn
      · rw [if_neg hn] at h
        rcases List.mem_append.mp h with hmore | hlast
        · exact ih (n / 16) (Nat.div_lt_self (by omega) (by decide)) hmore
        · rw [List.mem_singleton] at hlast
          exact hlast ▸ hdigit (n % 16) (Nat.mod_lt n (by decide))

/-- An address of four bytes is written in ASCII. -/
theorem Ipv4.toNat_lt_of_mem_render {address : Nat} {c : Char} (h : c ∈ Ipv4.render address) :
    c.toNat < 128 := by
  rcases mem_joinWith h with rfl | ⟨part, hpart, hmem⟩
  · decide
  · obtain ⟨i, -, rfl⟩ := List.mem_map.mp hpart
    rw [Nat.toString_eq_repr, Nat.toList_repr] at hmem
    exact toNat_lt_of_isDigit (Nat.isDigit_of_mem_toDigits (by decide) (by decide) hmem)

theorem Ipv6.toNat_lt_of_mem_joinPieces {pieces : List Nat} {c : Char}
    (h : c ∈ Ipv6.joinPieces pieces) : c.toNat < 128 := by
  rcases mem_joinWith h with rfl | ⟨part, hpart, hmem⟩
  · decide
  · obtain ⟨piece, -, rfl⟩ := List.mem_map.mp hpart
    exact toNat_lt_of_mem_hexDigits hmem

/-- An address of eight pieces is written in ASCII, with a gap for its zeros or without one. -/
theorem Ipv6.toNat_lt_of_mem_render {pieces : List Nat} {c : Char} (h : c ∈ Ipv6.render pieces) :
    c.toNat < 128 := by
  simp only [Ipv6.render] at h
  by_cases hshort : (longestZeros pieces).2 < 2
  · rw [if_pos hshort] at h
    exact toNat_lt_of_mem_joinPieces h
  · rw [if_neg hshort, List.mem_append, List.mem_append] at h
    rcases h with (hbefore | hgap) | hafter
    · exact toNat_lt_of_mem_joinPieces hbefore
    · fin_cases hgap <;> decide
    · exact toNat_lt_of_mem_joinPieces hafter

/-! ## What hosts there are -/

namespace Host

variable {cs : List Char} {host : Host}

/-- What stands in brackets is an address of eight pieces. -/
theorem exists_of_parseBracketed (h : parseBracketed cs = .ok host) :
    ∃ pieces, host = .ipv6 pieces := by
  rw [parseBracketed] at h
  split at h
  · cases hpieces : Ipv6.parse cs.dropLast with
    | none =>
        simp only [hpieces] at h
        cases h
    | some pieces =>
        simp only [hpieces] at h
        exact ⟨pieces, (Except.ok.inj h).symm⟩
  · cases h

/-- A domain is the host itself, or it is an address of four bytes. -/
theorem exists_of_ofDomain {domain : List Char} (h : ofDomain domain = .ok host) :
    host = .domain domain ∨ ∃ address, host = .ipv4 address := by
  rw [ofDomain] at h
  split at h
  · cases h
  · split at h
    · cases haddress : Ipv4.parse domain with
      | none =>
          simp only [haddress] at h
          cases h
      | some address =>
          simp only [haddress] at h
          exact .inr ⟨address, (Except.ok.inj h).symm⟩
    · exact .inl (Except.ok.inj h).symm

/-- The host of a special URL is an address or a domain in its ASCII form. -/
theorem exists_of_parse (h : Host.parse cs = .ok host) :
    (∃ pieces, host = .ipv6 pieces) ∨ (∃ address, host = .ipv4 address) ∨
      ∃ text ascii, Domain.toAscii text = some ascii ∧ host = .domain ascii := by
  rw [Host.parse.eq_def] at h
  split at h
  · exact .inl (exists_of_parseBracketed h)
  · cases hascii : (Percent.decodeText? cs).bind Domain.toAscii with
    | none =>
        simp only [hascii] at h
        cases h
    | some ascii =>
        simp only [hascii] at h
        obtain ⟨text, -, htext⟩ := Option.bind_eq_some_iff.mp hascii
        rcases exists_of_ofDomain h with rfl | haddress
        · exact .inr (.inr ⟨text, ascii, htext, rfl⟩)
        · exact .inr (.inl haddress)

/-- The host of a special URL is written in ASCII. -/
theorem toNat_lt_of_parse (h : Host.parse cs = .ok host) {c : Char} (hc : c ∈ host.render) :
    c.toNat < 128 := by
  rcases exists_of_parse h with ⟨pieces, rfl⟩ | ⟨address, rfl⟩ | ⟨text, ascii, htext, rfl⟩
  · rcases List.mem_cons.mp hc with rfl | hc
    · decide
    · rcases List.mem_append.mp hc with hpieces | hclose
      · exact Ipv6.toNat_lt_of_mem_render hpieces
      · rw [List.mem_singleton.mp hclose]
        decide
  · exact Ipv4.toNat_lt_of_mem_render hc
  · exact Domain.toNat_lt_of_toAscii htext hc

end Host

/-! ## Plain domains -/

variable {domain : List Char}

/-- What starts with a letter is no part of an address. -/
theorem Ipv4.readPart_of_isAlpha {c : Char} (h : c.isAlpha = true) (cs : List Char) :
    Ipv4.readPart (c :: cs) = .other := by
  have hzero : c ≠ '0' := by
    rintro rfl
    exact absurd h (by decide)
  have hdecimal : Ipv4.readPart (c :: cs) = Ipv4.readRadix 10 (c :: cs) := by
    rw [Ipv4.readPart.eq_def]
    split <;> simp_all
  have hdigit : (hexDigit? c).filter (· < 10) = none :=
    forall_ascii (motive := fun c => c.isAlpha = true → (hexDigit? c).filter (· < 10) = none)
      (by decide) (toNat_lt_of_isAlpha h) h
  rw [hdecimal, Ipv4.readRadix, List.mapM_cons, hdigit]
  rfl

/-- A plain domain is no address. -/
theorem Ipv4.endsInNumber_of_isPlain (h : Domain.IsPlain domain) :
    Ipv4.endsInNumber domain = false := by
  obtain ⟨label, hlast⟩ : ∃ label, (Domain.labels domain).getLast? = some label :=
    ⟨_, List.getLast?_eq_some_getLast (List.cons_ne_nil _ _)⟩
  obtain ⟨c, cs, rfl⟩ : ∃ c cs, label = c :: cs :=
    List.exists_cons_of_ne_nil (h.ne_nil label (List.mem_of_getLast? hlast))
  -- the last label starts with a letter, so it is no number
  have halpha : c.isAlpha = true := h.last _ hlast c rfl
  have hdigit : c.isDigit = false :=
    forall_ascii (motive := fun c => c.isAlpha = true → c.isDigit = false) (by decide)
      (toNat_lt_of_isAlpha halpha) halpha
  have hparts : Ipv4.parts domain = Domain.labels domain := by
    rw [Ipv4.parts, ← Domain.labels]
    exact if_neg (by simp [hlast])
  rw [Ipv4.endsInNumber, hparts, hlast]
  simp [hdigit, Ipv4.readPart_of_isAlpha halpha]

/-- The host of a plain domain is the domain in lower case. -/
theorem Host.parse_of_isPlain (h : Domain.IsPlain domain) :
    Host.parse domain = .ok (.domain (domain.map Char.toLower)) := by
  have hchar : ∀ c ∈ domain, c ≠ '[' ∧ c ≠ '%' := fun c hc =>
    h.of_mem (motive := fun c => c ≠ '[' ∧ c ≠ '%') (by decide) hc
  have hdecode : Percent.decodeText? domain = some domain := by
    rw [Percent.decodeText?]
    exact if_neg fun hpercent => (hchar '%' (List.contains_iff_mem.mp hpercent)).2 rfl
  rw [Host.parse.eq_def]
  split
  case h_1 cs _ => exact absurd rfl (hchar '[' List.mem_cons_self).1
  · rw [hdecode, Option.bind_some, h.toAscii_eq]
    simp only [ofDomain]
    rw [if_neg (by simpa using h.map_toLower.domain_ne_nil), Ipv4.endsInNumber_of_isPlain h.map_toLower,
      if_neg Bool.false_ne_true]

end PageBridge.Url
