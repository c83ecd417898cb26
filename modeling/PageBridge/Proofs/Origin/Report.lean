import PageBridge.Message.Frame
import PageBridge.Proofs.Url.Reading

/-!
# Reported origins and URLs

The origin of a frame is known from the security origin that the engine reports or from the URL of the
frame, and which of the two there is differs from frame to frame.  For a scheme with an authority and a
plain domain the two ways lead to one text, `tupleText`: the reader of URLs does with a whole URL
(`extractOrigin_of_isPlain`) what `SecurityOrigin.text?` does with its parts (`text?_of_isPlain`), in
any letter case and for every port.  So such a frame is judged alike on either way, which is the last
part of `url_and_report_agree`.
-/

namespace PageBridge.Origin

open PageBridge.Text
open PageBridge.Url (portText)

/-- The schemes whose URLs have an authority, with their standard ports. -/
def standardPorts : List (String × Nat) :=
  [("http", 80), ("https", 443), ("ws", 80), ("wss", 443), ("ftp", 21)]

/-- The origin of a scheme and a host in lower case, with the port unless it is the standard one. -/
def tupleText (scheme host : String) (standard : Nat) (port : Option Nat) : String :=
  lowerAscii scheme ++ "://" ++ lowerAscii host ++
    portText (if port = some standard then none else port)

theorem toList_tupleText (scheme host : String) (standard : Nat) (port : Option Nat) :
    (tupleText scheme host standard port).toList =
      (lowerAscii scheme).toList ++ ':' :: '/' :: '/' :: ((lowerAscii host).toList ++
        (portText (if port = some standard then none else port)).toList) := by
  simp [tupleText]

variable {scheme protocol host rest : String} {standard : Nat} {port : Option Nat}

theorem defaultPort?_of_mem (h : (scheme, standard) ∈ standardPorts) :
    Url.defaultPort? scheme = some standard := by
  fin_cases h <;> rfl

/-- Every scheme of the table has an authority. -/
theorem hasAuthority_of_mem (h : (scheme, standard) ∈ standardPorts) :
    Url.hasAuthority scheme.toList = true := by
  rw [Url.hasAuthority, String.ofList_toList, defaultPort?_of_mem h, Option.isSome_some]

/-- A scheme has no blanks and no colons in it. -/
theorem ends_of_mem_scheme (h : (lowerAscii scheme, standard) ∈ standardPorts) {c : Char}
    (hc : c ∈ scheme.toList) : isBlank c = false ∧ (c == ':') = false := by
  have hlower := Url.of_hasAuthority
    (motive := fun scheme => scheme.all (fun c => !isBlank c && !(c == ':')) = true) (by decide)
    (hasAuthority_of_mem h)
  have hmem : c.toLower ∈ (lowerAscii scheme).toList := mem_lowerAscii.mpr ⟨c, hc, rfl⟩
  have hends := List.all_eq_true.mp hlower c.toLower hmem
  rw [isBlank_toLower, apply_toLower (· == ':') (by decide)] at hends
  simpa only [Bool.and_eq_true, Bool.not_eq_true'] using hends

/-- A scheme, a plain domain and perhaps a port make a URL with the origin of the three, whatever
follows. -/
theorem extractOrigin_of_isPlain (hscheme : (lowerAscii scheme, standard) ∈ standardPorts)
    (hhost : Url.Domain.IsPlain host.toList) (hport : ∀ p ∈ port, p ≤ 65535)
    (hrest : Url.EndsAuthority rest.toList) :
    Url.extractOrigin (scheme ++ "://" ++ host ++ portText port ++ rest) =
      some (tupleText scheme host standard port) := by
  have hauthority : Url.hasAuthority (scheme.toList.map Char.toLower) = true := by
    rw [← toList_lowerAscii]
    exact hasAuthority_of_mem hscheme
  have hstandard : Url.defaultPort? (String.ofList (scheme.toList.map Char.toLower)) =
      some standard := defaultPort?_of_mem hscheme
  have hblank : ∀ c ∈ scheme.toList, isBlank c = false := fun c hc =>
    (ends_of_mem_scheme hscheme hc).1
  have haddress : ∀ c ∈ '/' :: '/' :: (host.toList ++ (portText port).toList),
      isBlank c = false := by
    intro c hc
    rcases List.mem_cons.mp hc with rfl | hc
    · decide
    rcases List.mem_cons.mp hc with rfl | hc
    · decide
    exact Url.of_mem_address hhost (motive := fun c => isBlank c = false) (by decide) (by decide) hc
  have htext : (scheme ++ "://" ++ host ++ portText port ++ rest).toList =
      scheme.toList ++
        ':' :: ('/' :: '/' :: (host.toList ++ (portText port).toList) ++ rest.toList) := by
    simp
  -- blanks can stand only at the end, and only in what follows the authority
  have htrim : dropEnds isBlank (scheme ++ "://" ++ host ++ portText port ++ rest).toList =
      scheme.toList ++ ':' :: '/' :: '/' ::
        (host.toList ++ (portText port).toList ++ dropRight isBlank rest.toList) := by
    rw [htext, dropEnds_append_cons hblank (by decide), dropRight_append_of_none haddress]
    rfl
  simp only [Url.extractOrigin, htrim,
    Url.parseChars_of_isPlain_append hhost hauthority hport (hrest.dropRight isBlank),
    Url.originWithin_of_hasAuthority hauthority, hstandard, Option.map_some]
  refine congrArg some (String.toList_inj.mp ?_)
  rw [String.toList_ofList, Url.originText_eq, toList_tupleText, toList_lowerAscii,
    toList_lowerAscii]
  rfl

/-- A protocol with colons behind it names its scheme. -/
theorem scheme_of_colons (hprotocol : (lowerAscii protocol, standard) ∈ standardPorts)
    (colons : Nat) (host : String) (n : Nat) :
    SecurityOrigin.scheme ⟨protocol ++ String.ofList (List.replicate colons ':'), host, n⟩ =
      lowerAscii protocol := by
  have htext : (protocol ++ String.ofList (List.replicate colons ':')).toList =
      protocol.toList ++ List.replicate colons ':' := by simp
  have htrim : trim (protocol ++ String.ofList (List.replicate colons ':')) =
      protocol ++ String.ofList (List.replicate colons ':') := by
    refine trim_eq_self fun c hc => ?_
    rw [htext, List.mem_append] at hc
    rcases hc with hc | hcolon
    · exact (ends_of_mem_scheme hprotocol hc).1
    · rw [List.eq_of_mem_replicate hcolon]
      rfl
  -- all the colons are taken off and no more, as no scheme ends in one
  have hbare : dropRight (· == ':') (protocol.toList ++ List.replicate colons ':') =
      protocol.toList := by
    rw [dropRight_append_of_all fun c hc => beq_iff_eq.mpr (List.eq_of_mem_replicate hc)]
    exact dropRight_eq_self fun c hc =>
      (ends_of_mem_scheme hprotocol (List.mem_of_mem_getLast? hc)).2
  rw [SecurityOrigin.scheme, htrim, htext, hbare, String.ofList_toList]

/-- A plain domain is a host that needs no brackets. -/
theorem hostText_of_isPlain (hhost : Url.Domain.IsPlain host.toList) (protocol : String) (n : Nat) :
    SecurityOrigin.hostText ⟨protocol, host, n⟩ = lowerAscii host := by
  have htrim : trim host = host := trim_eq_self fun c hc =>
    hhost.of_mem (motive := fun c => isBlank c = false) (by decide) hc
  have hcolon : (lowerAscii host).toList.contains ':' = false := by
    rw [List.contains_eq_mem, decide_eq_false_iff_not, toList_lowerAscii]
    exact fun hmem => hhost.map_toLower.of_mem (motive := (· ≠ ':')) (by decide) hmem rfl
  simp only [SecurityOrigin.hostText, htrim, hcolon, Bool.false_and, Bool.false_eq_true, if_false]

/-- A reported origin of a scheme, a plain domain and perhaps a port has the text of the three.  The
colon at the end of the protocol may be left out or written more than once. -/
theorem text?_of_isPlain (hprotocol : (lowerAscii protocol, standard) ∈ standardPorts)
    (hhost : Url.Domain.IsPlain host.toList) (hport : ∀ p ∈ port, 1 ≤ p) (colons : Nat) :
    SecurityOrigin.text?
        ⟨protocol ++ String.ofList (List.replicate colons ':'), host, port.getD 0⟩ =
      some (tupleText protocol host standard port) := by
  have hfilled : ((lowerAscii protocol).isEmpty || (lowerAscii host).isEmpty) = false := by
    have hscheme : (lowerAscii protocol).isEmpty = false := by
      generalize lowerAscii protocol = name at hprotocol
      fin_cases hprotocol <;> rfl
    have hdomain : host ≠ "" := fun hempty =>
      hhost.domain_ne_nil (String.toList_eq_nil_iff.mpr hempty)
    rw [hscheme, isEmpty_lowerAscii, Bool.false_or, Bool.eq_false_iff, Ne, String.isEmpty_iff]
    exact hdomain
  rw [SecurityOrigin.text?, scheme_of_colons hprotocol, hostText_of_isPlain hhost, hfilled,
    if_neg Bool.false_ne_true, defaultPort?_of_mem hprotocol, tupleText]
  cases port with
  | none => simp [portText]
  | some p =>
      -- port 0 is how a report says that there is none
      have hp : p ≠ 0 := Nat.one_le_iff_ne_zero.mp (hport p rfl)
      by_cases hstandard : standard = p <;>
        simp [portText, hp, hstandard, eq_comm, String.append_assoc]

/-- For a scheme with an authority and a plain domain, with a port or without one, a URL and a reported
security origin name the same origin: scheme and host in lower case, and the port if it is given and not
the standard one of the scheme.  Neither letter case nor colons behind the protocol nor what follows in
the URL matter.  So a frame has this origin whichever of the two is known of it. -/
theorem url_and_report_agree (hscheme : (lowerAscii scheme, standard) ∈ standardPorts)
    (hprotocol : lowerAscii protocol = lowerAscii scheme)
    (hhost : Url.Domain.IsPlain host.toList) (hport : ∀ p ∈ port, 1 ≤ p ∧ p ≤ 65535)
    (hrest : ∀ c ∈ rest.toList.head?, c = '/' ∨ c = '?' ∨ c = '#') (colons : Nat) :
    let url := scheme ++ "://" ++ host ++ portText port ++ rest
    let reported : SecurityOrigin :=
      ⟨protocol ++ String.ofList (List.replicate colons ':'), host, port.getD 0⟩
    let origin := lowerAscii scheme ++ "://" ++ lowerAscii host ++
      portText (if port = some standard then none else port)
    Url.extractOrigin url = some origin ∧ reported.text? = some origin ∧
      ∀ isMain other, Frame.origin? ⟨isMain, none, some url⟩ = some origin ∧
        Frame.origin? ⟨isMain, some reported, other⟩ = some origin := by
  intro url reported origin
  have hurl : Url.extractOrigin url = some origin :=
    extractOrigin_of_isPlain hscheme hhost (fun p hp => (hport p hp).2) hrest
  have hreported : reported.text? = some origin := by
    rw [← hprotocol] at hscheme
    have htext := text?_of_isPlain hscheme hhost (fun p hp => (hport p hp).1) colons
    rwa [tupleText, hprotocol] at htext
  refine ⟨hurl, hreported, fun isMain other => ⟨?_, ?_⟩⟩
  · rw [Frame.origin?, Option.bind_none, Option.none_or, Option.bind_some, hurl]
  · rw [Frame.origin?, Option.bind_some, hreported, Option.some_or]

/-- Letters of both cases, a hyphen, a port that is the standard one of another scheme, and a query that
looks like a user name. -/
theorem url_and_report_agree_other_port :
    ("https", 443) ∈ standardPorts ∧ Url.Domain.IsPlain "Sub.App-1.Example".toList ∧
      Url.extractOrigin "HTTPS://Sub.App-1.Example:80?u@x:1/" =
        some "https://sub.app-1.example:80" ∧
      SecurityOrigin.text? ⟨"Https:", "Sub.App-1.Example", 80⟩ =
        some "https://sub.app-1.example:80" := by
  have hscheme : (lowerAscii "HTTPS", 443) ∈ standardPorts := by decide
  have hhost : Url.Domain.IsPlain "Sub.App-1.Example".toList := by decide +kernel
  have hport : ∀ p ∈ some 80, 1 ≤ p ∧ p ≤ 65535 := by
    rintro p ⟨⟩
    decide
  have hrest : ∀ c ∈ "?u@x:1/".toList.head?, c = '/' ∨ c = '?' ∨ c = '#' := by
    rintro c ⟨⟩
    exact Or.inr (Or.inl rfl)
  have hurl : "HTTPS" ++ "://" ++ "Sub.App-1.Example" ++ portText (some 80) ++ "?u@x:1/" =
      "HTTPS://Sub.App-1.Example:80?u@x:1/" := by decide +kernel
  have hprotocol : "Https" ++ String.ofList (List.replicate 1 ':') = "Https:" := by decide +kernel
  have horigin : lowerAscii "HTTPS" ++ "://" ++ lowerAscii "Sub.App-1.Example" ++
      portText (if some 80 = some 443 then none else some 80) = "https://sub.app-1.example:80" := by
    decide +kernel
  have hcase : lowerAscii "Https" = lowerAscii "HTTPS" := by decide
  obtain ⟨hextract, hreported, -⟩ := url_and_report_agree hscheme hcase hhost hport hrest 1
  rw [hurl, horigin] at hextract
  rw [hprotocol, horigin] at hreported
  exact ⟨hscheme, hhost, hextract, hreported⟩

end PageBridge.Origin
