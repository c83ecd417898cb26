import PageBridge.Proofs.Origin.AllowList
import PageBridge.Proofs.Url.Reading

/-!
# What a wildcard pattern admits

A wildcard pattern is written `[scheme://]*.domain[:port]` (`Wildcard.render`), in any letter case, with
blanks around it or slashes at its end (`Wildcard.IsSpelling`).  Each such text is read back as the
pattern that it spells (`Wildcard.parse?_append`), so none falls through to the comparison of whole
origins.  The pattern then admits the hosts that are its domain or lie under it label by label, and
among these the ones of its scheme and port: `isAllowed_wildcard_iff`.
-/

namespace PageBridge.Origin

open PageBridge.Text

/-! ## Ports -/

/-- A port is read back from its decimal digits. -/
theorem readPort?_toDigits {port : Nat} (hport : port ≤ 65535) :
    readPort? (Nat.toDigits 10 port) = some port := by
  have hdigit : ∀ c ∈ Nat.toDigits 10 port, c.isDigit = true := fun c =>
    Nat.isDigit_of_mem_toDigits (by decide) (by decide)
  obtain ⟨d, ds, hcons⟩ : ∃ d ds, Nat.toDigits 10 port = d :: ds :=
    List.exists_cons_of_length_pos Nat.length_toDigits_pos
  -- a sign would be skipped, but digits start with none
  have hsign : dropStart? ['+'] (Nat.toDigits 10 port) = none := by
    have hd : d.isDigit = true := hdigit d (hcons ▸ List.mem_cons_self)
    rw [hcons]
    refine dropStart?_cons_of_ne ?_ [] ds
    rintro rfl
    exact absurd hd (by decide)
  have hfilled : ((Nat.toDigits 10 port).isEmpty || !(Nat.toDigits 10 port).all Char.isDigit) =
      false := by
    rw [List.all_eq_true.mpr hdigit, hcons]
    rfl
  rw [readPort?, hsign, Option.getD_none]
  simp only [hfilled, Url.foldl_toDigits hport, Bool.false_eq_true, if_false]
  rw [if_pos hport]

namespace Wildcard

/-! ## Patterns as texts -/

/-- The domain and the port of a pattern as a text. -/
def address (w : Wildcard) : List Char :=
  w.domain ++ w.port.elim [] fun port => ':' :: (toString port).toList

/-- The text of a wildcard pattern. -/
def render (w : Wildcard) : List Char :=
  w.scheme.elim [] (· ++ [':', '/', '/']) ++ '*' :: '.' :: w.address

/-- A pattern in lower case whose parts do not run into each other. -/
structure WellFormed (w : Wildcard) : Prop where
  scheme : ∀ scheme, w.scheme = some scheme →
    ∀ c ∈ scheme, Url.isSchemeChar c = true ∧ c.isUpper = false
  domain_ne : w.domain ≠ []
  domain : ∀ c ∈ w.domain, c ≠ ':' ∧ c ≠ '/' ∧ isBlank c = false ∧ c.isUpper = false
  port : ∀ port, w.port = some port → port ≤ 65535

/-- Whether a text spells a pattern, in any letter case, with blanks around it or slashes at its
end. -/
def IsSpelling (w : Wildcard) (pattern : String) : Prop :=
  ∃ lead body trail : List Char, ∃ slashes : Nat,
    pattern.toList = lead ++ (body ++ List.replicate slashes '/' ++ trail) ∧
      body.map Char.toLower = w.render ∧
      (∀ c ∈ lead, isBlank c = true) ∧ ∀ c ∈ trail, isBlank c = true

variable {w : Wildcard}

/-- The characters of a scheme are none of those that end it, and no blanks. -/
theorem ends_of_isSchemeChar {c : Char} (h : Url.isSchemeChar c = true) :
    c ≠ ':' ∧ c ≠ '/' ∧ isBlank c = false :=
  Url.of_isSchemeChar (motive := fun c => c ≠ ':' ∧ c ≠ '/' ∧ isBlank c = false) (by decide) h

/-- Neither are the digits of a port. -/
theorem ends_of_mem_toDigits {port : Nat} {c : Char} (h : c ∈ Nat.toDigits 10 port) :
    c ≠ ':' ∧ c ≠ '/' ∧ isBlank c = false := by
  have hdigit : c.isDigit = true := Nat.isDigit_of_mem_toDigits (by decide) (by decide) h
  exact ends_of_isSchemeChar (by rw [Url.isSchemeChar, Char.isAlphanum, hdigit]; simp)

/-- The part of a pattern behind its asterisk has no slashes and no blanks. -/
theorem WellFormed.ends_of_mem_address (hw : w.WellFormed) {c : Char} (hc : c ∈ w.address) :
    c ≠ '/' ∧ isBlank c = false := by
  obtain ⟨scheme, domain, port⟩ := w
  rcases List.mem_append.mp hc with hdomain | hport
  · exact ⟨(hw.domain c hdomain).2.1, (hw.domain c hdomain).2.2.1⟩
  · cases port with
    | none => cases hport
    | some port =>
        rcases List.mem_cons.mp hport with rfl | hdigit
        · decide
        · rw [Nat.toString_eq_repr, Nat.toList_repr] at hdigit
          exact (ends_of_mem_toDigits hdigit).2

/-- A pattern has no blanks. -/
theorem WellFormed.isBlank_eq_false (hw : w.WellFormed) {c : Char} (hc : c ∈ w.render) :
    isBlank c = false := by
  rcases List.mem_append.mp hc with hscheme | hrest
  · cases hs : w.scheme with
    | none =>
        rw [hs] at hscheme
        cases hscheme
    | some scheme =>
        rw [hs] at hscheme
        rcases List.mem_append.mp hscheme with hc | hc
        · exact (ends_of_isSchemeChar (hw.scheme scheme hs c hc).1).2.2
        · fin_cases hc <;> rfl
  · rcases List.mem_cons.mp hrest with rfl | hrest
    · rfl
    · rcases List.mem_cons.mp hrest with rfl | haddress
      · rfl
      · exact (hw.ends_of_mem_address haddress).2

/-- The domain and the port of a pattern are read back. -/
theorem readDomain?_address (hw : w.WellFormed) : readDomain? w.scheme w.address = some w := by
  obtain ⟨scheme, domain, port⟩ := w
  have hcolon : ':' ∉ domain := fun hmem => (hw.domain ':' hmem).1 rfl
  have hfilled : domain ≠ [] := hw.domain_ne
  cases port with
  | none =>
      rw [readDomain?, address, Option.elim_none, List.append_nil, cutLast?_of_not_mem hcolon]
      simp [hfilled]
  | some port =>
      have hdigits : ':' ∉ Nat.toDigits 10 port := fun hmem =>
        (ends_of_mem_toDigits hmem).1 rfl
      rw [readDomain?, address, Option.elim_some, Nat.toString_eq_repr, Nat.toList_repr,
        cutLast?_append hdigits]
      simp [hfilled, readPort?_toDigits (hw.port port rfl)]

/-- No scheme is seen in a pattern without one: the colon in it stands before a digit. -/
theorem cutAt?_of_no_scheme (hw : w.WellFormed) (slashes : Nat) :
    cutAt? [':', '/', '/'] ('*' :: '.' :: w.address ++ List.replicate slashes '/') = none := by
  obtain ⟨scheme, domain, port⟩ := w
  have hdomain : ':' ∉ '*' :: '.' :: domain := by
    simpa using fun hmem => (hw.domain ':' hmem).1 rfl
  have hslashes : ':' ∉ List.replicate slashes '/' := fun hmem =>
    absurd (List.eq_of_mem_replicate hmem) (by decide)
  cases port with
  | none =>
      rw [address, Option.elim_none, List.append_nil]
      exact cutAt?_of_not_mem (List.not_mem_append hdomain hslashes)
  | some port =>
      obtain ⟨d, ds, hcons⟩ : ∃ d ds, Nat.toDigits 10 port = d :: ds :=
        List.exists_cons_of_length_pos Nat.length_toDigits_pos
      rw [address, Option.elim_some, Nat.toString_eq_repr, Nat.toList_repr, ← List.cons_append,
        ← List.cons_append, List.append_assoc, List.cons_append]
      -- the colon before a port is followed by a digit, and the one behind a scheme by a slash
      refine cutAt?_append_of_head hdomain
        (List.not_mem_append (fun hmem => (ends_of_mem_toDigits hmem).1 rfl) hslashes) ?_
      have hslash : d ≠ '/' := (ends_of_mem_toDigits (hcons ▸ List.mem_cons_self)).2.1
      rw [hcons]
      exact dropStart?_cons_of_ne hslash.symm _ _

/-- A pattern is read back from its text, whatever slashes follow. -/
theorem parse?_append (hw : w.WellFormed) (slashes : Nat) :
    parse? (w.render ++ List.replicate slashes '/') = some w := by
  have hslashes : ∀ c ∈ List.replicate slashes '/', (c == '/') = true := fun c hc =>
    beq_iff_eq.mpr (List.eq_of_mem_replicate hc)
  have haddress : dropRight (· == '/') (w.address ++ List.replicate slashes '/') = w.address := by
    rw [dropRight_append_of_all hslashes]
    refine dropRight_eq_self fun c hc => ?_
    exact beq_false_of_ne (hw.ends_of_mem_address (List.mem_of_mem_getLast? hc)).1
  have hread := readDomain?_address hw
  have hmark : ∀ rest : List Char, dropStart? ['*', '.'] ('*' :: '.' :: rest) = some rest :=
    dropStart?_append ['*', '.']
  rw [parse?, render]
  cases hs : w.scheme with
  | none =>
      rw [hs] at hread
      rw [Option.elim_none, List.nil_append, cutAt?_of_no_scheme hw]
      simp only [List.cons_append, hmark, Option.bind_some, haddress, hread]
  | some scheme =>
      rw [hs] at hread
      have hcolon : ':' ∉ scheme := fun hmem =>
        (ends_of_isSchemeChar (hw.scheme scheme hs ':' hmem).1).1 rfl
      rw [Option.elim_some, List.append_assoc, List.append_assoc, cutAt?_append hcolon]
      simp only [List.cons_append, hmark, Option.bind_some, haddress, hread]

/-! ## What a pattern admits -/

/-- A host is covered when it is the domain or lies under it. -/
theorem covers_iff {domain host : List Char} :
    covers domain host = true ↔ host = domain ∨ ∃ sub, host = sub ++ '.' :: domain := by
  rw [covers, Bool.or_eq_true, beq_iff_eq, List.isSuffixOf_iff_suffix, List.IsSuffix]
  simp only [eq_comm]

/-- An origin fits a pattern when it has the scheme and the port that the pattern gives and a host
that it covers. -/
theorem fits_iff {parts : Parts} :
    w.fits parts = true ↔
      (∀ scheme, w.scheme = some scheme → parts.scheme = scheme) ∧
        (∀ port, w.port = some port → parts.port = some port) ∧
        covers w.domain parts.host = true := by
  simp only [fits, Bool.and_eq_true, Option.all_eq_true, beq_iff_eq, and_assoc,
    eq_comm (a := parts.scheme)]

/-- Only a host that goes on with a point before the domain is covered. -/
theorem not_covers_append {domain front : List Char} (hfront : front ≠ [])
    (hlast : front.getLast? ≠ some '.') : covers domain (front ++ domain) = false := by
  rw [Bool.eq_false_iff, Ne, covers_iff]
  rintro (hsame | ⟨sub, hsub⟩)
  · exact hfront (List.append_left_eq_self.mp hsame)
  · rw [← List.singleton_append, ← List.append_assoc] at hsub
    rw [List.append_cancel_right hsub, List.getLast?_concat] at hlast
    exact hlast rfl

end Wildcard

/-- The parts of an origin are those of its URL, if that has a host. -/
theorem Parts.parse?_eq_some_iff {origin : List Char} {parts : Parts} :
    Parts.parse? origin = some parts ↔
      ∃ url host, Url.parseChars origin = .ok url ∧ url.host = some host ∧
        parts = ⟨url.scheme, host.render.map Char.toLower, url.knownPort⟩ := by
  rw [Parts.parse?]
  cases hurl : Url.parseChars origin with
  | error e => simp
  | ok url => cases hhost : url.host <;> simp [hhost, eq_comm]

/-- An entry that is read as a wildcard pattern admits an origin by the parts of the origin. -/
theorem isAllowed_singleton_of_parse? {w : Wildcard} {pattern : String}
    (hparse : Wildcard.parse? (lowerAscii (trim pattern)).toList = some w) (origin : String) :
    isAllowed origin [pattern] = (Parts.parse? (normalize origin).toList).any w.fits := by
  -- the universal pattern and the empty text are no wildcard patterns
  have huniversal : isUniversal pattern = false := by
    rw [isUniversal_eq, beq_eq_false_iff_ne]
    intro hstar
    rw [hstar] at hparse
    cases hparse
  have hfilled : (lowerAscii (trim pattern)).isEmpty = false := by
    rw [Bool.eq_false_iff, Ne, String.isEmpty_iff]
    intro hempty
    rw [hempty] at hparse
    cases hparse
  rw [isAllowed_singleton, huniversal, Bool.false_or, admits]
  simp only [hfilled, Bool.false_eq_true, if_false, hparse]

/-- The spelling of a pattern, trimmed and in lower case, is the text of the pattern before some
slashes. -/
theorem Wildcard.IsSpelling.toList_eq {w : Wildcard} (hw : w.WellFormed) {pattern : String}
    (hpattern : w.IsSpelling pattern) :
    ∃ slashes, (lowerAscii (trim pattern)).toList = w.render ++ List.replicate slashes '/' := by
  obtain ⟨lead, body, trail, slashes, htext, hbody, hlead, htrail⟩ := hpattern
  have hplain : ∀ c ∈ body ++ List.replicate slashes '/', isBlank c = false := by
    intro c hc
    rcases List.mem_append.mp hc with hc | hc
    · rw [← isBlank_toLower]
      exact hw.isBlank_eq_false (hbody ▸ List.mem_map_of_mem hc)
    · rw [List.eq_of_mem_replicate hc]
      rfl
  refine ⟨slashes, ?_⟩
  rw [toList_lowerAscii, toList_trim, htext, dropEnds_append_of_none hlead htrail hplain,
    List.map_append, hbody, List.map_replicate]
  rfl

/-- A wildcard pattern, however it is spelled, admits an origin exactly when the URL of the origin has
a host that is the domain of the pattern or ends in a point and the domain, has the scheme of the
pattern, if it gives one, and its port, if it gives one.  So a host that ends in the letters of the
domain behind anything but a point is not admitted. -/
theorem isAllowed_wildcard_iff {w : Wildcard} (hw : w.WellFormed) {pattern : String}
    (hpattern : w.IsSpelling pattern) (origin : String) :
    (isAllowed origin [pattern] = true ↔
      ∃ url host, Url.parse (normalize origin) = .ok url ∧ url.host = some host ∧
        (host.render.map Char.toLower = w.domain ∨
          ∃ sub, host.render.map Char.toLower = sub ++ '.' :: w.domain) ∧
        (∀ scheme, w.scheme = some scheme → url.scheme = scheme) ∧
        ∀ port, w.port = some port →
          url.port.or (Url.defaultPort? (String.ofList url.scheme)) = some port) ∧
    ∀ url host front, Url.parse (normalize origin) = .ok url → url.host = some host →
      host.render.map Char.toLower = front ++ w.domain → front ≠ [] →
        front.getLast? ≠ some '.' → isAllowed origin [pattern] = false := by
  obtain ⟨slashes, htext⟩ := hpattern.toList_eq hw
  have hallowed : isAllowed origin [pattern] =
      (Parts.parse? (normalize origin).toList).any w.fits :=
    isAllowed_singleton_of_parse? (by rw [htext, Wildcard.parse?_append hw]) origin
  constructor
  · rw [hallowed, Option.any_eq_true]
    constructor
    · rintro ⟨parts, hparts, hfits⟩
      obtain ⟨url, host, hurl, hhost, rfl⟩ := Parts.parse?_eq_some_iff.mp hparts
      obtain ⟨hscheme, hport, hcovers⟩ := Wildcard.fits_iff.mp hfits
      exact ⟨url, host, hurl, hhost, Wildcard.covers_iff.mp hcovers, hscheme, hport⟩
    · rintro ⟨url, host, hurl, hhost, hcovers, hscheme, hport⟩
      exact ⟨_, Parts.parse?_eq_some_iff.mpr ⟨url, host, hurl, hhost, rfl⟩,
        Wildcard.fits_iff.mpr ⟨hscheme, hport, Wildcard.covers_iff.mpr hcovers⟩⟩
  · intro url host front hurl hhost hends hfront hlast
    have hparts := Parts.parse?_eq_some_iff.mpr ⟨url, host, hurl, hhost, rfl⟩
    have hcovers : Wildcard.covers w.domain (host.render.map Char.toLower) = false := by
      rw [hends]
      exact Wildcard.not_covers_append hfront hlast
    rw [hallowed, Url.parse] at *
    rw [hparts, Option.any_some, Wildcard.fits, hcovers, Bool.and_false]

/-- A pattern in capital letters, with blanks around it and a slash at its end, admits a host under its
domain. -/
theorem isAllowed_wildcard_iff_shouted :
    let w : Wildcard := ⟨some ['h', 't', 't', 'p', 's'], ['a', '.', 'b'], some 8443⟩
    w.WellFormed ∧ w.IsSpelling " HTTPS://*.A.b:8443/ " ∧
      isAllowed "https://c.a.b:8443/d" [" HTTPS://*.A.b:8443/ "] = true := by
  intro w
  have hw : w.WellFormed :=
    { scheme := fun scheme hs c hc => by
        cases hs
        fin_cases hc <;> decide
      domain_ne := by decide
      domain := fun c hc => by fin_cases hc <;> decide
      port := fun port hp => by
        cases hp
        decide }
  have hspelling : w.IsSpelling " HTTPS://*.A.b:8443/ " :=
    ⟨[' '], "HTTPS://*.A.b:8443".toList, [' '], 1, by decide +kernel, by decide +kernel,
      fun c hc => by fin_cases hc; rfl, fun c hc => by fin_cases hc; rfl⟩
  have hurl : Url.parse (normalize "https://c.a.b:8443/d") =
      .ok ⟨['h', 't', 't', 'p', 's'], some (.domain ['c', '.', 'a', '.', 'b']), some 8443,
        .segments [[]]⟩ := by
    decide +kernel
  refine ⟨hw, hspelling, (isAllowed_wildcard_iff hw hspelling _).1.mpr
    ⟨_, _, hurl, rfl, Or.inr ⟨['c'], by decide⟩, ?_, ?_⟩⟩
  · rintro _ ⟨⟩
    rfl
  · rintro _ ⟨⟩
    rfl

end PageBridge.Origin
