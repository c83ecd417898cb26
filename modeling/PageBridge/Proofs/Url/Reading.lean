import PageBridge.Proofs.Url.Authority
import PageBridge.Url.Origin

/-!
# Reading URLs

A URL starts with its scheme and a colon, and so does the text of an origin.  What is read before the
colon is the scheme of the URL, whatever follows (`scheme_of_parseChars`).  A URL with an authority has a
host in ASCII (`toNat_lt_of_parseChars`), and a plain domain is such a host itself, with or without a
port and whatever path, query or fragment follows (`parseChars_of_isPlain_append`).
-/

namespace PageBridge.Url

open PageBridge.Text

/-! ## Texts without a colon -/

/-- A text without a colon is no URL. -/
theorem parseChars_of_not_mem {cs : List Char} (h : ':' ∉ cs) :
    parseChars cs = .error .relativeWithoutBase := by
  have hcut : cutFirst? ':' (dropEnds isEndNoise cs) = none :=
    cutFirst?_of_not_mem fun hmem => h (dropEnds_subset _ _ hmem)
  rw [parseChars, cutScheme?, hcut]

theorem extractOrigin_of_not_mem {text : String} (h : ':' ∉ (trim text).toList) :
    extractOrigin text = none := by
  rw [toList_trim] at h
  simp only [extractOrigin, parseChars_of_not_mem h]

/-! ## Schemes -/

variable {cs scheme : List Char} {url : Url}

/-- What holds of the ASCII characters of schemes holds of all. -/
theorem of_isSchemeChar {motive : Char → Prop}
    (hmotive : ∀ n < 128, isSchemeChar (Char.ofNat n) = true → motive (Char.ofNat n)) {c : Char}
    (h : isSchemeChar c = true) : motive c := by
  have hascii : c.toNat < 128 := by
    simp only [isSchemeChar, Bool.or_eq_true, beq_iff_eq] at h
    rcases h with ((halnum | rfl) | rfl) | rfl
    · exact toNat_lt_of_isAlphanum halnum
    all_goals decide
  exact forall_ascii (motive := fun c => isSchemeChar c = true → motive c) hmotive hascii h

/-- A scheme is read back in lower case, and nothing else is read in its place. -/
theorem cutScheme?_append_of_isSchemeChar (hscheme : ∀ c ∈ scheme, isSchemeChar c = true)
    (rest : List Char) :
    cutScheme? (dropEnds isEndNoise (scheme ++ ':' :: rest)) =
      if scheme.head?.any Char.isAlpha then
        some (scheme.map Char.toLower, dropRight isEndNoise rest)
      else none := by
  have hchar : ∀ c ∈ scheme, c ≠ ':' ∧ isEndNoise c = false ∧ isNoise c = false := fun c hc =>
    of_isSchemeChar (motive := fun c => c ≠ ':' ∧ isEndNoise c = false ∧ isNoise c = false)
      (by decide) (hscheme c hc)
  have hnoise : withoutNoise scheme = scheme :=
    List.filter_eq_self.mpr fun c hc => by rw [(hchar c hc).2.2, Bool.not_false]
  have hall : scheme.all isSchemeChar = true := List.all_eq_true.mpr hscheme
  rw [dropEnds_append_cons (fun c hc => (hchar c hc).2.1) (by decide), cutScheme?,
    cutFirst?_append fun hmem => (hchar ':' hmem).1 rfl]
  simp only [hnoise, hall, Bool.and_true]

/-- A scheme in lower case is read back as it is. -/
theorem cutScheme?_append (hscheme : ∀ c ∈ scheme, isSchemeChar c = true ∧ c.isUpper = false)
    (rest : List Char) :
    cutScheme? (dropEnds isEndNoise (scheme ++ ':' :: rest)) =
      if scheme.head?.any Char.isAlpha then some (scheme, dropRight isEndNoise rest) else none := by
  have hlower : scheme.map Char.toLower = scheme := by
    refine (List.map_congr_left fun c hc => ?_).trans (List.map_id scheme)
    exact Char.toLower_eq_of_not_isUpper (by simp [(hscheme c hc).2])
  rw [cutScheme?_append_of_isSchemeChar fun c hc => (hscheme c hc).1, hlower]

/-- What a hierarchical URL is made of. -/
theorem exists_of_parseHierarchical {special : Bool}
    (h : parseHierarchical scheme special cs = .ok url) :
    url.scheme = scheme ∧ url.path = readPath special (cutAuthority special cs).2 ∧
      ∃ authority : Authority, url.host = authority.host ∧
        readAuthority special (!(cutAuthority special cs).2.isEmpty) (cutAuthority special cs).1 =
          .ok authority := by
  simp only [parseHierarchical] at h
  cases hread : readAuthority special (!(cutAuthority special cs).2.isEmpty)
      (cutAuthority special cs).1 with
  | error e =>
      rw [hread] at h
      cases h
  | ok authority =>
      rw [hread] at h
      obtain rfl := Except.ok.inj h
      exact ⟨rfl, rfl, authority, rfl, rfl⟩

/-- A file URL names a file of this machine or of a host. -/
theorem exists_of_parseFile (h : parseFile cs = .ok url) :
    (∃ path, url = localFile path) ∨ ∃ host tail, url = hostedFile host tail := by
  rw [parseFile] at h
  cases hfirst : afterSlash? cs with
  | none =>
      simp only [hfirst] at h
      exact .inl ⟨cs, (Except.ok.inj h).symm⟩
  | some path =>
      simp only [hfirst] at h
      cases hsecond : afterSlash? path with
      | none =>
          simp only [hsecond] at h
          exact .inl ⟨path, (Except.ok.inj h).symm⟩
      | some rest =>
          simp only [hsecond] at h
          by_cases hdrive : isDrive (withoutNoise (cutAuthority true rest).1) = true
          · rw [if_pos hdrive] at h
            exact .inl ⟨rest, (Except.ok.inj h).symm⟩
          · rw [if_neg hdrive] at h
            cases hhost : readFileHost (withoutNoise (cutAuthority true rest).1) with
            | error e =>
                rw [hhost] at h
                cases h
            | ok host? =>
                rw [hhost] at h
                obtain rfl := Except.ok.inj h
                cases host? with
                | none => exact .inl ⟨_, rfl⟩
                | some host => exact .inr ⟨host, _, rfl⟩

/-- The scheme of a URL is cut from its text, and a scheme with an authority makes the URL a hierarchical
one. -/
theorem exists_of_parseChars (h : parseChars cs = .ok url) :
    ∃ rest, cutScheme? (dropEnds isEndNoise cs) = some (url.scheme, rest) ∧
      (hasAuthority url.scheme = true → ∃ authority,
        parseHierarchical url.scheme true authority = .ok url) := by
  rw [parseChars] at h
  cases hcut : cutScheme? (dropEnds isEndNoise cs) with
  | none =>
      simp only [hcut] at h
      cases h
  | some cut =>
      obtain ⟨scheme, rest⟩ := cut
      simp only [hcut] at h
      by_cases hfile : scheme = fileScheme
      · rw [if_pos hfile] at h
        have hscheme : url.scheme = fileScheme := by
          rcases exists_of_parseFile h with ⟨path, rfl⟩ | ⟨host, tail, rfl⟩ <;> rfl
        -- a file URL has a host, but no authority of this kind
        refine ⟨rest, by rw [hscheme, hfile], fun hauthority => ?_⟩
        rw [hscheme] at hauthority
        cases hauthority
      · rw [if_neg hfile] at h
        by_cases hspecial : hasAuthority scheme = true
        · rw [if_pos hspecial] at h
          obtain rfl := (exists_of_parseHierarchical h).1
          exact ⟨rest, rfl, fun _ => ⟨_, h⟩⟩
        · rw [if_neg hspecial] at h
          have hscheme : url.scheme = scheme := by
            split at h
            · exact (exists_of_parseHierarchical h).1
            · obtain rfl := Except.ok.inj h
              rfl
            · obtain rfl := Except.ok.inj h
              rfl
          refine ⟨rest, by rw [hscheme], fun hauthority => ?_⟩
          rw [hscheme] at hauthority
          exact absurd hauthority hspecial

/-- A URL that starts with a scheme in lower case has that scheme. -/
theorem scheme_of_parseChars (hscheme : ∀ c ∈ scheme, isSchemeChar c = true ∧ c.isUpper = false)
    {rest : List Char} (h : parseChars (scheme ++ ':' :: rest) = .ok url) :
    url.scheme = scheme := by
  obtain ⟨tail, hcut, -⟩ := exists_of_parseChars h
  rw [cutScheme?_append hscheme] at hcut
  split at hcut
  · exact (Prod.mk.inj (Option.some.inj hcut)).1.symm
  · cases hcut

/-! ## Hosts -/

variable {host : Host}

/-- The host of a special authority is read as the host of a special URL. -/
theorem exists_of_readHostPort {named : Bool} {authority : Authority}
    (h : readHostPort true named cs = .ok authority) (hhost : authority.host = some host) :
    ∃ name, Host.parse name = .ok host := by
  simp only [readHostPort, if_true, Bool.true_or] at h
  split at h
  · cases h
  · refine ⟨(cutHost false [] cs).1, ?_⟩
    cases hparse : Host.parse (cutHost false [] cs).1 with
    | error e =>
        rw [hparse] at h
        cases h
    | ok host' =>
        rw [hparse] at h
        -- the port decides whether there is an authority, but not on its host
        have hsame : authority.host = some host' := by
          cases hrest : (cutHost false [] cs).2 with
          | nil =>
              rw [hrest] at h
              rw [← Except.ok.inj h]
          | cons c digits =>
              rw [hrest] at h
              cases hport : readPort digits with
              | error e =>
                  simp only [hport] at h
                  cases h
              | ok port =>
                  simp only [hport] at h
                  rw [← Except.ok.inj h]
        rw [Option.some.inj (hsame.symm.trans hhost)]

/-- The host of an authority is read as the host of a special URL, with a user before it or without
one. -/
theorem exists_of_readAuthority {more : Bool} {authority : Authority}
    (h : readAuthority true more cs = .ok authority) (hhost : authority.host = some host) :
    ∃ name, Host.parse name = .ok host := by
  rw [readAuthority] at h
  split at h
  · exact exists_of_readHostPort h hhost
  · split at h
    · cases h
    · exact exists_of_readHostPort h hhost

/-- The host of a URL with an authority is written in ASCII. -/
theorem toNat_lt_of_parseChars (h : parseChars cs = .ok url)
    (hauthority : hasAuthority url.scheme = true) (hhost : url.host = some host) {c : Char}
    (hc : c ∈ host.render) : c.toNat < 128 := by
  obtain ⟨-, -, hspecial⟩ := exists_of_parseChars h
  obtain ⟨rest, hrest⟩ := hspecial hauthority
  obtain ⟨-, -, authority, hsame, hread⟩ := exists_of_parseHierarchical hrest
  obtain ⟨name, hname⟩ := exists_of_readAuthority hread (hsame ▸ hhost)
  exact Host.toNat_lt_of_parse hname hc

/-! ## Plain domains -/

/-- What holds of the five schemes with an authority holds of each of them. -/
theorem of_hasAuthority {motive : List Char → Prop}
    (hmotive : ∀ name ∈ ["http", "ws", "https", "wss", "ftp"], motive name.toList)
    (h : hasAuthority scheme = true) : motive scheme := by
  have hname : String.ofList scheme ∈ ["http", "ws", "https", "wss", "ftp"] := by
    by_contra hnone
    simp only [List.mem_cons, List.not_mem_nil, or_false, not_or] at hnone
    simp [hasAuthority, defaultPort?, hnone] at h
  simpa using hmotive _ hname

section Plain

variable {domain : List Char} (h : Domain.IsPlain domain)

include h

/-- A plain domain after a scheme with an authority is the host of the URL, and a port behind it is the
port, if it is not the default one.  Whatever follows from the path on takes no part in either. -/
theorem parseChars_of_isPlain_append (hauthority : hasAuthority (scheme.map Char.toLower) = true)
    {port : Option Nat} (hport : ∀ p ∈ port, p ≤ 65535) {rest : List Char}
    (hrest : EndsAuthority rest) :
    parseChars (scheme ++ ':' :: '/' :: '/' :: (domain ++ (portText port).toList ++ rest)) =
      .ok ⟨scheme.map Char.toLower, some (.domain (domain.map Char.toLower)),
        if port = defaultPort? (String.ofList (scheme.map Char.toLower)) then none else port,
        readPath true (withoutNoise (dropRight isEndNoise rest))⟩ := by
  obtain ⟨hletter, hfile, hchars⟩ := of_hasAuthority
    (motive := fun scheme => scheme.head?.any Char.isAlpha = true ∧ scheme ≠ fileScheme ∧
      scheme.all isSchemeChar = true) (by decide) hauthority
  have hscheme : ∀ c ∈ scheme, isSchemeChar c = true := fun c hc => by
    rw [← apply_toLower isSchemeChar (by decide)]
    exact List.all_eq_true.mp hchars c.toLower (List.mem_map_of_mem hc)
  have hfirst : scheme.head?.any Char.isAlpha = true := by
    rw [List.head?_map, Option.any_map] at hletter
    simpa only [Function.comp_def, Char.isAlpha_toLower_eq_isAlpha] using hletter
  let address := domain ++ (portText port).toList
  let front := '/' :: '/' :: address
  have hkept : ∀ c ∈ front, isEndNoise c = false ∧ isNoise c = false := by
    intro c hc
    rcases List.mem_cons.mp hc with rfl | hc
    · decide
    rcases List.mem_cons.mp hc with rfl | hc
    · decide
    exact of_mem_address h (motive := fun c => isEndNoise c = false ∧ isNoise c = false) (by decide)
      (by decide) hc
  have htrim : dropRight isEndNoise (front ++ rest) = front ++ dropRight isEndNoise rest :=
    dropRight_append_of_none (fun c hc => (hkept c hc).1) rest
  have hnoise : withoutNoise (front ++ dropRight isEndNoise rest) =
      front ++ withoutNoise (dropRight isEndNoise rest) := by
    have hfront : withoutNoise front = front :=
      List.filter_eq_self.mpr fun c hc => by rw [(hkept c hc).2, Bool.not_false]
    exact (List.filter_append _ _).trans (congrArg (· ++ _) hfront)
  have hslashes : ∀ tail, (front ++ tail).dropWhile (isSlash true) = address ++ tail := by
    intro tail
    obtain ⟨c, cs, hdomain⟩ := List.exists_cons_of_ne_nil h.domain_ne_nil
    have hc : ¬ isSlash true c = true :=
      h.of_mem (motive := fun c => ¬ isSlash true c = true) (by decide)
        (hdomain ▸ List.mem_cons_self)
    simp only [front, address, hdomain, List.cons_append]
    rw [List.dropWhile_cons_of_pos (by decide), List.dropWhile_cons_of_pos (by decide),
      List.dropWhile_cons_of_neg hc]
  have hcut : cutAuthority true (address ++ withoutNoise (dropRight isEndNoise rest)) =
      (address, withoutNoise (dropRight isEndNoise rest)) := by
    refine cutAuthority_append (fun c hc => ?_) (hrest.dropRight isEndNoise).withoutNoise
    exact of_mem_address h (motive := fun c => isSlash true c = false ∧ isPathEnd c = false)
      (by decide) (by decide) hc
  have htext : scheme ++ ':' :: '/' :: '/' :: (domain ++ (portText port).toList ++ rest) =
      scheme ++ ':' :: (front ++ rest) := rfl
  rw [htext, parseChars, cutScheme?_append_of_isSchemeChar hscheme, if_pos hfirst]
  simp only [htrim, if_neg hfile, if_pos hauthority, hnoise, hslashes]
  rw [parseHierarchical, hcut]
  simp only [address, readAuthority_of_isPlain h hport]
  rfl

/-- A plain domain after a scheme with an authority is the host of the URL. -/
theorem parseChars_of_isPlain (hauthority : hasAuthority scheme = true) :
    parseChars (scheme ++ ':' :: '/' :: '/' :: domain) =
      .ok ⟨scheme, some (.domain (domain.map Char.toLower)), none, .segments [[]]⟩ := by
  have hlower : scheme.map Char.toLower = scheme :=
    of_hasAuthority (motive := fun scheme => scheme.map Char.toLower = scheme) (by decide)
      hauthority
  have hport : ∀ p ∈ (none : Option Nat), p ≤ 65535 := nofun
  have hlowered : hasAuthority (scheme.map Char.toLower) = true := by rwa [hlower]
  have hparse := parseChars_of_isPlain_append h hlowered hport EndsAuthority.nil
  rw [List.append_nil, toList_portText, Option.elim_none, List.append_nil, hlower,
    ite_self] at hparse
  exact hparse

end Plain

/-! ## Texts of origins -/

/-- The text of an origin is scheme, host and port with the marks between them. -/
theorem originText_eq (scheme : List Char) (host : Host) (port : Option Nat) :
    originText scheme host port =
      scheme ++ ':' :: '/' :: '/' :: (host.render ++ (portText port).toList) := by
  cases port with
  | none => simp [originText, portText]
  | some p => simp [originText, portText]

/-- A URL that holds no other has the origin of its own scheme, host and port. -/
theorem originWithin_eq_some_iff {depth : Nat} {url : Url} {origin : List Char}
    (h : url.scheme ≠ blobScheme) :
    originWithin depth url = some origin ↔ hasAuthority url.scheme = true ∧
      ∃ host, url.host = some host ∧ origin = originText url.scheme host url.port := by
  have hown : originWithin depth url =
      if hasAuthority url.scheme then url.host.map (originText url.scheme · url.port) else none := by
    cases depth <;> rw [originWithin, if_neg h]
  rw [hown]
  cases hauthority : hasAuthority url.scheme with
  | false => simp
  | true =>
      rw [if_pos rfl, Option.map_eq_some_iff]
      simp only [true_and, eq_comm (a := origin)]

/-- A URL with an authority has the origin of its host. -/
theorem originWithin_of_hasAuthority (hauthority : hasAuthority scheme = true) (host : Host)
    (port : Option Nat) (path : Path) (depth : Nat) :
    originWithin depth ⟨scheme, some host, port, path⟩ = some (originText scheme host port) := by
  have hblob : scheme ≠ blobScheme := by
    -- a scheme with an authority is not the one whose URLs hold others
    rintro rfl
    cases hauthority
  exact (originWithin_eq_some_iff hblob).mpr ⟨hauthority, host, rfl, rfl⟩

/-- An origin is that of a URL, perhaps of one nested in others. -/
theorem exists_of_originWithin {depth : Nat} {url : Url} {origin : List Char}
    (h : originWithin depth url = some origin) :
    ∃ (inner : Url) (host : Host),
      inner.host = some host ∧ origin = originText inner.scheme host inner.port := by
  induction depth generalizing url with
  | zero =>
      by_cases hblob : url.scheme = blobScheme
      · rw [originWithin, if_pos hblob] at h
        cases h
      · obtain ⟨-, host, hhost, rfl⟩ := (originWithin_eq_some_iff hblob).mp h
        exact ⟨url, host, hhost, rfl⟩
  | succ depth ih =>
      by_cases hblob : url.scheme = blobScheme
      · rw [originWithin, if_pos hblob] at h
        cases hinner : parseChars url.path.render with
        | error e =>
            simp only [hinner] at h
            cases h
        | ok inner =>
            simp only [hinner] at h
            exact ih h
      · obtain ⟨-, host, hhost, rfl⟩ := (originWithin_eq_some_iff hblob).mp h
        exact ⟨url, host, hhost, rfl⟩

/-- What an origin text has, its URL has as an origin. -/
theorem exists_of_extractOrigin {text origin : String} (h : extractOrigin text = some origin) :
    ∃ depth url, parseChars (trim text).toList = .ok url ∧
      originWithin depth url = some origin.toList := by
  rw [extractOrigin, ← toList_trim] at h
  cases hurl : parseChars (trim text).toList with
  | error e =>
      simp only [hurl] at h
      cases h
  | ok url =>
      simp only [hurl] at h
      obtain ⟨cs, hcs, rfl⟩ := Option.map_eq_some_iff.mp h
      exact ⟨_, url, rfl, by rw [String.toList_ofList, hcs]⟩

/-- The text of an origin has a colon. -/
theorem mem_of_extractOrigin {text origin : String} (h : extractOrigin text = some origin) :
    ':' ∈ origin.toList := by
  obtain ⟨depth, url, -, horigin⟩ := exists_of_extractOrigin h
  obtain ⟨inner, host, -, htext⟩ := exists_of_originWithin horigin
  rw [htext]
  simp [originText]

/-- A URL of a scheme and an authority alone has no path to hold another URL. -/
theorem path_of_parseChars (hscheme : ∀ c ∈ scheme, isSchemeChar c = true ∧ c.isUpper = false)
    (hspecial : hasAuthority scheme = false) (hfile : scheme ≠ fileScheme) {rest : List Char}
    (hrest : ∀ c ∈ rest, c ≠ '/' ∧ c ≠ '?' ∧ c ≠ '#')
    (h : parseChars (scheme ++ ':' :: '/' :: '/' :: rest) = .ok url) :
    url.path = .segments [] := by
  have hslash : ∀ tail : List Char, withoutNoise (dropRight isEndNoise ('/' :: '/' :: tail)) =
      '/' :: '/' :: withoutNoise (dropRight isEndNoise tail) := by
    intro tail
    have hkept := dropRight_append_cons (p := isEndNoise) (m := '/') (by decide) ['/'] tail
    rw [List.singleton_append] at hkept
    rw [hkept]
    rfl
  have hcut : (cutAuthority false (withoutNoise (dropRight isEndNoise rest))).2 = [] := by
    rw [cutAuthority, List.span_eq_takeWhile_dropWhile]
    refine List.dropWhile_eq_nil_iff.mpr fun c hc => ?_
    have hmem : c ∈ rest := dropRight_subset _ _ (List.mem_of_mem_filter hc)
    simp [isSlash, isPathEnd, hrest c hmem]
  rw [parseChars, cutScheme?_append hscheme] at h
  split at h
  · cases h
  case h_2 heq =>
    split at heq
    · obtain ⟨rfl, rfl⟩ := Prod.mk.inj (Option.some.inj heq)
      rw [if_neg hfile, if_neg (by simp [hspecial]), hslash] at h
      rw [(exists_of_parseHierarchical h).2.1, hcut]
      rfl
    · cases heq

/-- The origin of a URL of a scheme and an authority alone starts with that scheme. -/
theorem exists_toList_of_extractOrigin
    (hscheme : ∀ c ∈ scheme, isSchemeChar c = true ∧ c.isUpper = false) {rest : List Char}
    (hrest : ∀ c ∈ rest, c ≠ '/' ∧ c ≠ '?' ∧ c ≠ '#') {text origin : String}
    (htext : (trim text).toList = scheme ++ ':' :: '/' :: '/' :: rest)
    (h : extractOrigin text = some origin) : ∃ after, origin.toList = scheme ++ ':' :: after := by
  obtain ⟨depth, url, hurl, horigin⟩ := exists_of_extractOrigin h
  rw [htext] at hurl
  have hsame : url.scheme = scheme := scheme_of_parseChars hscheme hurl
  by_cases hblob : scheme = blobScheme
  · have hpath : url.path = .segments [] :=
      path_of_parseChars hscheme (by rw [hblob]; decide) (by rw [hblob]; decide) hrest hurl
    -- with an empty path there is no URL inside, so there is no origin to look at
    have hempty : parseChars url.path.render = .error .relativeWithoutBase := by
      rw [hpath]
      exact parseChars_of_not_mem List.not_mem_nil
    cases depth with
    | zero =>
        rw [originWithin, if_pos (hsame.trans hblob)] at horigin
        cases horigin
    | succ depth =>
        rw [originWithin, if_pos (hsame.trans hblob)] at horigin
        simp only [hempty] at horigin
        cases horigin
  · obtain ⟨-, host, -, horigin⟩ := (originWithin_eq_some_iff (hsame ▸ hblob)).mp horigin
    rw [horigin, hsame]
    simp [originText]

end PageBridge.Url
