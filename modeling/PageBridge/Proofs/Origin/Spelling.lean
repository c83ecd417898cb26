import PageBridge.Proofs.Origin.Normalize
import PageBridge.Proofs.Origin.Wildcard

/-!
# Exact and wildcard patterns for one domain

An exact pattern is normalized as the origins are, and a wildcard pattern keeps its domain as it is
written, letter case apart.  So the wildcard pattern follows the exact one for a domain that its normal
form keeps, as that of every plain domain does, and for no other domain:
`isAllowed_subdomains_of_exact`.
-/

namespace PageBridge.Origin

open PageBridge.Text

/-- The characters that end a host or make a pattern one with a wildcard. -/
def isMark (c : Char) : Bool :=
  c == '*' || c == ':' || c == '/' || c == '?' || c == '#' || c == '@' || c == '\\'

/-- A scheme and a domain that do not run into what stands around them in a pattern. -/
structure IsAddress (scheme domain : String) : Prop where
  scheme : ∀ c ∈ scheme.toList, Url.isSchemeChar c = true
  domain_ne : domain ≠ ""
  domain : ∀ c ∈ domain.toList, isMark c = false ∧ isBlank c = false

theorem isAddress_iff {scheme domain : String} : IsAddress scheme domain ↔
    scheme.toList.all Url.isSchemeChar = true ∧ domain ≠ "" ∧
      domain.toList.all (fun c => !isMark c && !isBlank c) = true := by
  constructor
  · intro h
    exact ⟨List.all_eq_true.mpr h.scheme, h.domain_ne,
      List.all_eq_true.mpr fun c hc => by simp [h.domain c hc]⟩
  · rintro ⟨hscheme, hne, hdomain⟩
    exact ⟨List.all_eq_true.mp hscheme, hne,
      fun c hc => by simpa using List.all_eq_true.mp hdomain c hc⟩

instance (scheme domain : String) : Decidable (IsAddress scheme domain) :=
  decidable_of_iff _ isAddress_iff.symm

/-- The wildcard pattern of a scheme and a domain. -/
def wildcardOf (scheme domain : String) : Wildcard :=
  ⟨some (lowerAscii scheme).toList, (lowerAscii domain).toList, none⟩

variable {scheme domain origin : String}

@[simp]
theorem wildcardOf_scheme (scheme domain : String) :
    (wildcardOf scheme domain).scheme = some (lowerAscii scheme).toList := by
  rw [wildcardOf]

@[simp]
theorem wildcardOf_domain (scheme domain : String) :
    (wildcardOf scheme domain).domain = (lowerAscii domain).toList := by
  rw [wildcardOf]

@[simp]
theorem wildcardOf_port (scheme domain : String) : (wildcardOf scheme domain).port = none := by
  rw [wildcardOf]

/-- A scheme and a domain around an asterisk spell the wildcard pattern of the two. -/
theorem isSpelling_wildcardOf (scheme domain : String) :
    (wildcardOf scheme domain).IsSpelling (scheme ++ "://*." ++ domain) := by
  refine ⟨[], (scheme ++ "://*." ++ domain).toList, [], 0, by simp, ?_, by simp, by simp⟩
  simp only [wildcardOf, Wildcard.render, Wildcard.address, Option.elim_some, Option.elim_none,
    String.toList_append, List.map_append, toList_lowerAscii, List.append_nil]
  simp

/-- The text that an exact pattern is compared by. -/
theorem toList_exact (scheme domain : String) : (lowerAscii (scheme ++ "://" ++ domain)).toList =
    (lowerAscii scheme).toList ++ ':' :: '/' :: '/' :: (lowerAscii domain).toList := by
  simp [toList_lowerAscii]

/-- A URL with a plain domain is read from an exact pattern. -/
theorem parse_exact_of_isPlain
    (hauthority : Url.hasAuthority (lowerAscii scheme).toList = true)
    (hplain : Url.Domain.IsPlain domain.toList) :
    Url.parse (lowerAscii (scheme ++ "://" ++ domain)) =
      .ok ⟨(lowerAscii scheme).toList, some (.domain (lowerAscii domain).toList), none,
        .segments [[]]⟩ := by
  have hlower : Url.Domain.IsPlain (lowerAscii domain).toList := by
    rw [toList_lowerAscii]
    exact hplain.map_toLower
  rw [Url.parse, toList_exact, Url.parseChars_of_isPlain hlower hauthority, ← toList_lowerAscii,
    lowerAscii_lowerAscii]

namespace IsAddress

variable (h : IsAddress scheme domain)

include h

/-- An address is one in lower case, too. -/
theorem lower : IsAddress (lowerAscii scheme) (lowerAscii domain) where
  scheme := fun c hc => by
    obtain ⟨d, hd, rfl⟩ := mem_lowerAscii.mp hc
    rw [apply_toLower Url.isSchemeChar (by decide)]
    exact h.scheme d hd
  domain_ne := by
    rw [Ne, ← String.isEmpty_iff, isEmpty_lowerAscii, String.isEmpty_iff]
    exact h.domain_ne
  domain := fun c hc => by
    obtain ⟨d, hd, rfl⟩ := mem_lowerAscii.mp hc
    rw [apply_toLower isMark (by decide), isBlank_toLower]
    exact h.domain d hd

/-- The scheme is read back as it is in lower case. -/
theorem scheme_chars : ∀ c ∈ (lowerAscii scheme).toList,
    Url.isSchemeChar c = true ∧ c.isUpper = false := fun c hc =>
  ⟨h.lower.scheme c hc, isUpper_of_mem_lowerAscii hc⟩

/-- The characters of a domain are none that end a host or make a wildcard. -/
theorem ends_of_mem {c : Char} (hc : c ∈ domain.toList) : c ≠ '*' ∧ c ≠ ':' ∧ c ≠ '/' ∧ c ≠ '?' ∧
    c ≠ '#' := by
  have hmark := (h.domain c hc).1
  simp only [isMark, Bool.or_eq_false_iff, beq_eq_false_iff_ne] at hmark
  tauto

/-- The wildcard pattern of an address is well formed, so that it is read back from its
spellings. -/
theorem wellFormed : (wildcardOf scheme domain).WellFormed := by
  constructor
  case scheme =>
    intro scheme' hscheme c hc
    rw [wildcardOf_scheme] at hscheme
    obtain rfl := Option.some.inj hscheme
    exact h.scheme_chars c hc
  case domain_ne =>
    rw [wildcardOf_domain, Ne, String.toList_eq_nil_iff]
    exact h.lower.domain_ne
  case domain =>
    intro c hc
    rw [wildcardOf_domain] at hc
    obtain ⟨-, hcolon, hslash, -⟩ := h.lower.ends_of_mem hc
    exact ⟨hcolon, hslash, (h.lower.domain c hc).2, isUpper_of_mem_lowerAscii hc⟩
  case port =>
    intro port hport
    rw [wildcardOf_port] at hport
    cases hport

/-- An exact pattern has no blanks around it. -/
theorem trim_exact : trim (scheme ++ "://" ++ domain) = scheme ++ "://" ++ domain := by
  refine trim_eq_self fun c hc => ?_
  rw [String.toList_append, String.toList_append, List.mem_append, List.mem_append] at hc
  rcases hc with (hscheme | hmark) | hdomain
  · exact (Wildcard.ends_of_isSchemeChar (h.scheme c hscheme)).2.2
  · have hmarks : "://".toList = [':', '/', '/'] := rfl
    rw [hmarks] at hmark
    fin_cases hmark <;> rfl
  · exact (h.domain c hdomain).2

theorem trim_lower_exact : trim (lowerAscii (scheme ++ "://" ++ domain)) =
    lowerAscii (scheme ++ "://" ++ domain) := by
  rw [trim_lowerAscii, h.trim_exact]

/-- The first colon of an exact pattern stands behind its scheme. -/
theorem not_mem_scheme : ':' ∉ (lowerAscii scheme).toList := fun hmem =>
  (Wildcard.ends_of_isSchemeChar (h.lower.scheme ':' hmem)).1 rfl

/-- An exact pattern admits the origins of its own normal form. -/
theorem isAllowed_exact_iff :
    isAllowed origin [scheme ++ "://" ++ domain] = true ↔
      normalize (lowerAscii (scheme ++ "://" ++ domain)) = normalize origin := by
  -- without an asterisk it is no wildcard pattern, so it is compared as a whole
  have hparse : Wildcard.parse? (lowerAscii (scheme ++ "://" ++ domain)).toList = none := by
    have hcut : cutAt? [':', '/', '/']
        ((lowerAscii scheme).toList ++ ':' :: '/' :: '/' :: (lowerAscii domain).toList) =
          some ((lowerAscii scheme).toList, (lowerAscii domain).toList) :=
      cutAt?_append h.not_mem_scheme _
    have hstar : '*' ∉ (lowerAscii domain).toList := fun hmem => (h.lower.ends_of_mem hmem).1 rfl
    rw [Wildcard.parse?, toList_exact, hcut]
    simp only [dropStart?_of_not_mem hstar, Option.bind_none]
  have hfilled : lowerAscii (scheme ++ "://" ++ domain) ≠ "" := by
    rw [Ne, ← String.toList_eq_nil_iff, toList_exact]
    exact List.append_ne_nil_of_right_ne_nil _ (List.cons_ne_nil _ _)
  have huniversal : isUniversal (scheme ++ "://" ++ domain) = false := by
    rw [isUniversal_eq, h.trim_exact, beq_eq_false_iff_ne, Ne, ← String.toList_inj, toList_exact]
    intro hstar
    have hcolon : ':' ∈ "*".toList := by
      rw [← hstar]
      simp
    exact absurd hcolon (by decide)
  rw [← h.trim_exact] at hparse hfilled
  rw [isAllowed_singleton_of_parse?_eq_none hparse huniversal hfilled, beq_iff_eq, h.trim_exact]

/-- The normal form of an exact pattern starts with its scheme. -/
theorem exists_toList_normalize : ∃ after,
    (normalize (lowerAscii (scheme ++ "://" ++ domain))).toList =
      (lowerAscii scheme).toList ++ ':' :: after := by
  rw [normalize_eq]
  cases horigin : Url.extractOrigin (lowerAscii (scheme ++ "://" ++ domain)) with
  | some origin =>
      have hdomain : ∀ c ∈ (lowerAscii domain).toList, c ≠ '/' ∧ c ≠ '?' ∧ c ≠ '#' := fun c hc =>
        (h.lower.ends_of_mem hc).2.2
      rw [Option.getD_some]
      exact Url.exists_toList_of_extractOrigin h.scheme_chars hdomain
        (by rw [h.trim_lower_exact, toList_exact]) horigin
  | none =>
      rw [Option.getD_none, toList_bare, h.trim_lower_exact, toList_exact,
        dropRight_append_cons (p := (· == '/')) (by decide), List.map_append, List.map_cons,
        ← toList_lowerAscii, lowerAscii_lowerAscii]
      exact ⟨_, rfl⟩

/-- A wildcard pattern of a scheme and a domain looks at the scheme and the host of an origin. -/
theorem isAllowed_subdomains_iff :
    isAllowed origin [scheme ++ "://*." ++ domain] = true ↔
      ∃ url host, Url.parse (normalize origin) = .ok url ∧ url.host = some host ∧
        url.scheme = (lowerAscii scheme).toList ∧
        (host.render.map Char.toLower = (lowerAscii domain).toList ∨
          ∃ sub, host.render.map Char.toLower = sub ++ '.' :: (lowerAscii domain).toList) := by
  obtain ⟨slashes, htext⟩ := (isSpelling_wildcardOf scheme domain).toList_eq h.wellFormed
  have hparse : Wildcard.parse? (lowerAscii (trim (scheme ++ "://*." ++ domain))).toList =
      some (wildcardOf scheme domain) := by
    rw [htext, Wildcard.parse?_append h.wellFormed]
  -- the pattern asks for a scheme and a domain but for no port
  have hfits : ∀ parts : Parts, (wildcardOf scheme domain).fits parts = true ↔
      parts.scheme = (lowerAscii scheme).toList ∧
        (parts.host = (lowerAscii domain).toList ∨
          ∃ sub, parts.host = sub ++ '.' :: (lowerAscii domain).toList) := by
    intro parts
    rw [Wildcard.fits_iff, Wildcard.covers_iff]
    simp
  rw [isAllowed_singleton_of_parse? hparse, Option.any_eq_true]
  simp only [hfits, Parts.parse?_eq_some_iff]
  constructor
  · rintro ⟨_, ⟨url, host, hurl, hhost, rfl⟩, hscheme, hcovers⟩
    exact ⟨url, host, hurl, hhost, hscheme, hcovers⟩
  · rintro ⟨url, host, hurl, hhost, hscheme, hcovers⟩
    exact ⟨_, ⟨url, host, hurl, hhost, rfl⟩, hscheme, hcovers⟩

/-- A domain that is not written in ASCII covers no host of a special URL. -/
theorem isAllowed_subdomains_of_not_ascii
    (hauthority : Url.hasAuthority (lowerAscii scheme).toList = true)
    (hascii : ∃ c ∈ domain.toList, 128 ≤ c.toNat) (origin : String) :
    isAllowed origin [scheme ++ "://*." ++ domain] = false := by
  rw [Bool.eq_false_iff, Ne, h.isAllowed_subdomains_iff]
  rintro ⟨url, host, hurl, hhost, hscheme, hcovers⟩
  obtain ⟨c, hc, hlarge⟩ := hascii
  have hdomain : c.toLower ∈ (lowerAscii domain).toList := mem_lowerAscii.mpr ⟨c, hc, rfl⟩
  have hmem : c.toLower ∈ host.render.map Char.toLower := by
    rcases hcovers with hsame | ⟨sub, hsub⟩
    · rwa [hsame]
    · rw [hsub]
      exact List.mem_append_right sub (List.mem_cons_of_mem '.' hdomain)
  obtain ⟨d, hd, hlower⟩ := List.mem_map.mp hmem
  rw [← hscheme] at hauthority
  -- hosts of such URLs are written in ASCII, and lower case does not change that
  have hsmall : Url.Domain.isAscii d = true :=
    Url.Domain.isAscii_iff.mpr (Url.toNat_lt_of_parseChars hurl hauthority hhost hd)
  rw [← Url.Domain.isAscii_toLower, hlower, Url.Domain.isAscii_toLower,
    Url.Domain.isAscii_iff] at hsmall
  exact absurd hsmall (Nat.not_lt.mpr hlarge)

/-- An exact pattern for a plain domain is in normal form up to letter case. -/
theorem normalize_exact_of_isPlain
    (hauthority : Url.hasAuthority (lowerAscii scheme).toList = true)
    (hplain : Url.Domain.IsPlain domain.toList) :
    normalize (lowerAscii (scheme ++ "://" ++ domain)) = lowerAscii (scheme ++ "://" ++ domain) := by
  have hurl := parse_exact_of_isPlain hauthority hplain
  have hrender : Url.originText (lowerAscii scheme).toList
      (.domain (lowerAscii domain).toList) none =
        (lowerAscii (scheme ++ "://" ++ domain)).toList := by
    rw [toList_exact, Url.originText, Url.Host.render]
    simp
  rw [Url.parse] at hurl
  rw [normalize_eq, Url.extractOrigin, ← toList_trim, h.trim_lower_exact, hurl]
  simp only [Url.originWithin_of_hasAuthority hauthority, hrender, Option.map_some,
    String.ofList_toList, Option.getD_some]

end IsAddress

/-- What an exact pattern admits is admitted by the wildcard pattern of the same scheme and domain
exactly when normalizing the exact pattern leaves its domain the host, or a host under the domain.
This is so for a plain domain.  A domain that is not written in ASCII admits nothing in a wildcard
pattern. -/
theorem isAllowed_subdomains_of_exact {scheme domain origin : String} (h : IsAddress scheme domain)
    (hexact : isAllowed origin [scheme ++ "://" ++ domain] = true) :
    (isAllowed origin [scheme ++ "://*." ++ domain] = true ↔
      ∃ url host, Url.parse (normalize (lowerAscii (scheme ++ "://" ++ domain))) = .ok url ∧
        url.host = some host ∧
        (host.render.map Char.toLower = (lowerAscii domain).toList ∨
          ∃ sub, host.render.map Char.toLower = sub ++ '.' :: (lowerAscii domain).toList)) ∧
    (Url.hasAuthority (lowerAscii scheme).toList = true →
      (Url.Domain.IsPlain domain.toList → isAllowed origin [scheme ++ "://*." ++ domain] = true) ∧
      ((∃ c ∈ domain.toList, 128 ≤ c.toNat) →
        ∀ other, isAllowed other [scheme ++ "://*." ++ domain] = false)) := by
  have hnormal := h.isAllowed_exact_iff.mp hexact
  refine ⟨?_, fun hauthority => ⟨fun hplain => ?_, fun hascii =>
    h.isAllowed_subdomains_of_not_ascii hauthority hascii⟩⟩
  · rw [h.isAllowed_subdomains_iff, ← hnormal]
    constructor
    · rintro ⟨url, host, hurl, hhost, -, hcovers⟩
      exact ⟨url, host, hurl, hhost, hcovers⟩
    · rintro ⟨url, host, hurl, hhost, hcovers⟩
      refine ⟨url, host, hurl, hhost, ?_, hcovers⟩
      -- the scheme is kept by every way to the normal form
      obtain ⟨after, htext⟩ := h.exists_toList_normalize
      rw [Url.parse, htext] at hurl
      exact Url.scheme_of_parseChars h.scheme_chars hurl
  · rw [h.isAllowed_subdomains_iff, ← hnormal, h.normalize_exact_of_isPlain hauthority hplain]
    refine ⟨_, _, parse_exact_of_isPlain hauthority hplain, rfl, rfl, .inl ?_⟩
    rw [Url.Host.render, ← toList_lowerAscii, lowerAscii_lowerAscii]

/-- Letter case in an exact pattern is no matter to the wildcard pattern. -/
theorem isAllowed_subdomains_of_exact_shouted :
    IsAddress "HTTPS" "App.example" ∧
      isAllowed "https://app.example/a" ["HTTPS" ++ "://" ++ "App.example"] = true ∧
      isAllowed "https://app.example/a" ["HTTPS" ++ "://*." ++ "App.example"] = true := by
  have haddress : IsAddress "HTTPS" "App.example" := by decide
  have hplain : Url.Domain.IsPlain "App.example".toList := by decide
  have hexact : isAllowed "https://app.example/a" ["HTTPS" ++ "://" ++ "App.example"] = true := by
    decide +kernel
  exact ⟨haddress, hexact, ((isAllowed_subdomains_of_exact haddress hexact).2 (by decide)).1 hplain⟩

/-- An exact pattern admits its own domain, however it is written, but the wildcard pattern does not. -/
theorem isAllowed_exact_alone :
    IsAddress "https" "bücher.example" ∧
      isAllowed "https://bücher.example" ["https" ++ "://" ++ "bücher.example"] = true ∧
      isAllowed "https://bücher.example" ["https" ++ "://*." ++ "bücher.example"] = false := by
  have haddress : IsAddress "https" "bücher.example" := by decide
  refine ⟨haddress, haddress.isAllowed_exact_iff.mpr (congrArg normalize (by decide)),
    haddress.isAllowed_subdomains_of_not_ascii (by decide) ⟨'ü', by decide, by decide⟩ _⟩

end PageBridge.Origin
