import PageBridge.Proofs.Url.Host
import PageBridge.Url.Basic

/-!
# Authorities

The authority of a URL ends where the path, the query or the fragment starts, whatever comes after that
(`cutAuthority_append`).  When it is a plain domain with a port or without one, it is read back part by
part (`readAuthority_of_isPlain`): the host is the domain in lower case, and the port is the number that
its digits write.
-/

namespace PageBridge.Url

open PageBridge.Text

/-- A port, if there is one, as it is written behind a host. -/
def portText (port : Option Nat) : String :=
  port.elim "" fun p => ":" ++ toString p

theorem toList_portText (port : Option Nat) :
    (portText port).toList = port.elim [] fun p => ':' :: Nat.toDigits 10 p := by
  cases port with
  | none => rfl
  | some p =>
      rw [portText, Option.elim_some, String.toList_append, Nat.toString_eq_repr, Nat.toList_repr]
      rfl

/-! ## Ports -/

/-- Digits are read up to a bound that is greater than every port. -/
theorem foldl_port (ds : List Char) (n : Nat) :
    ds.foldl (fun n c => min 65536 (n * 10 + (c.toNat - '0'.toNat))) (min 65536 n) =
      min 65536 (Nat.ofDigitChars 10 ds n) := by
  induction ds generalizing n with
  | nil => rfl
  | cons d ds ih =>
      -- once the bound is reached further digits do not fall below it
      have hstep : min 65536 (min 65536 n * 10 + (d.toNat - '0'.toNat)) =
          min 65536 (10 * n + (d.toNat - '0'.toNat)) := by omega
      rw [List.foldl_cons, hstep, ih, Nat.ofDigitChars_cons]

/-- The digits of a port write it. -/
theorem foldl_toDigits {port : Nat} (hport : port ≤ 65535) :
    (Nat.toDigits 10 port).foldl (fun n c => min 65536 (n * 10 + (c.toNat - '0'.toNat))) 0 =
      port := by
  have hvalue := foldl_port (Nat.toDigits 10 port) 0
  rwa [Nat.ofDigitChars_toDigits (by decide) (by decide), Nat.min_eq_right (Nat.zero_le _),
    Nat.min_eq_right (Nat.le_succ_of_le hport)] at hvalue

/-- A port is read back from its decimal digits. -/
theorem readPort_toDigits {port : Nat} (hport : port ≤ 65535) :
    readPort (Nat.toDigits 10 port) = .ok (some port) := by
  have hdigit : ∀ c ∈ Nat.toDigits 10 port, c.isDigit = true := fun c =>
    Nat.isDigit_of_mem_toDigits (by decide) (by decide)
  have hspan : (Nat.toDigits 10 port).span Char.isDigit = (Nat.toDigits 10 port, []) := by
    rw [List.span_eq_takeWhile_dropWhile, List.takeWhile_eq_self_iff.mpr hdigit,
      List.dropWhile_eq_nil_iff.mpr hdigit]
  have hfilled : (Nat.toDigits 10 port).isEmpty = false :=
    List.isEmpty_eq_false_iff.mpr (List.ne_nil_of_length_pos Nat.length_toDigits_pos)
  simp only [readPort, hspan, foldl_toDigits hport, hfilled, Nat.not_lt.mpr hport, if_false,
    List.isEmpty_nil, Bool.not_true, Bool.false_eq_true, false_and]

/-! ## Ends -/

/-- Whether a text is empty or starts with what ends every authority. -/
def EndsAuthority (rest : List Char) : Prop :=
  ∀ c ∈ rest.head?, c = '/' ∨ c = '?' ∨ c = '#'

namespace EndsAuthority

variable {rest : List Char}

theorem nil : EndsAuthority [] := nofun

/-- The first character stays when others are taken off at the end. -/
theorem dropRight (h : EndsAuthority rest) (p : Char → Bool) :
    EndsAuthority (Text.dropRight p rest) := by
  obtain ⟨dropped, hrest⟩ : Text.dropRight p rest <+: rest := List.rdropWhile_prefix p rest
  intro c hc
  refine h c ?_
  rw [Option.mem_def, ← hrest, List.head?_append, hc, Option.some_or]

/-- What ends an authority is no noise. -/
theorem withoutNoise (h : EndsAuthority rest) : EndsAuthority (Url.withoutNoise rest) := by
  cases rest with
  | nil => exact nil
  | cons c cs =>
      have hc : (!isNoise c) = true := by
        rcases h c rfl with rfl | rfl | rfl <;> decide
      have hkept : Url.withoutNoise (c :: cs) = c :: Url.withoutNoise cs :=
        List.filter_cons_of_pos hc
      rw [hkept]
      exact h

end EndsAuthority

/-- An authority is cut at its end, whatever follows. -/
theorem cutAuthority_append {authority rest : List Char}
    (hauthority : ∀ c ∈ authority, isSlash true c = false ∧ isPathEnd c = false)
    (hrest : EndsAuthority rest) : cutAuthority true (authority ++ rest) = (authority, rest) := by
  let inside : Char → Bool := fun c => !(isSlash true c || isPathEnd c)
  have hinside : ∀ c ∈ authority, inside c = true := fun c hc => by
    simp only [inside, hauthority c hc, Bool.or_false, Bool.not_false]
  have hcut : cutAuthority true (authority ++ rest) = (authority ++ rest).span inside := rfl
  rw [hcut, List.span_eq_takeWhile_dropWhile, List.takeWhile_append_of_pos hinside,
    List.dropWhile_append_of_pos hinside]
  cases rest with
  | nil => rw [List.takeWhile_nil, List.dropWhile_nil, List.append_nil]
  | cons c cs =>
      have hend : ¬ inside c = true := by
        rcases hrest c rfl with rfl | rfl | rfl <;> decide
      rw [List.takeWhile_cons_of_neg hend, List.dropWhile_cons_of_neg hend, List.append_nil]

/-- A host without brackets is cut at the first colon behind it. -/
theorem cutHost_append {name rest : List Char} (hname : ∀ c ∈ name, c ≠ ':' ∧ c ≠ '[')
    (hrest : ∀ c ∈ rest.head?, c = ':') (done : List Char) :
    cutHost false done (name ++ rest) = (done.reverse ++ name, rest) := by
  induction name generalizing done with
  | nil =>
      cases rest with
      | nil => rw [List.append_nil, cutHost, List.append_nil]
      | cons c cs =>
          rw [List.nil_append, cutHost, if_pos ⟨hrest c rfl, rfl⟩, List.append_nil]
  | cons c name ih =>
      obtain ⟨hcolon, hbracket⟩ := hname c List.mem_cons_self
      have hstays : (if c = '[' then true else if c = ']' then false else false) = false := by
        rw [if_neg hbracket, ite_self]
      rw [List.cons_append, cutHost, if_neg fun hstop => hcolon hstop.1, hstays,
        ih fun d hd => hname d (List.mem_cons_of_mem c hd)]
      simp

/-! ## Plain domains with ports -/

section Plain

variable {domain : List Char} (h : Domain.IsPlain domain)

include h

/-- What holds of the plain characters, the point and the colon holds of every character of a plain
domain and its port. -/
theorem of_mem_address {motive : Char → Prop}
    (hmotive : ∀ n < 128, (Domain.isPlainChar (Char.ofNat n) || Char.ofNat n == '.') = true →
      motive (Char.ofNat n))
    (hcolon : motive ':') {port : Option Nat} {c : Char}
    (hc : c ∈ domain ++ (portText port).toList) : motive c := by
  rw [toList_portText, List.mem_append] at hc
  rcases hc with hdomain | hport
  · exact h.of_mem hmotive hdomain
  · cases port with
    | none => cases hport
    | some p =>
        rcases List.mem_cons.mp hport with rfl | hdigit
        · exact hcolon
        · have hisDigit : c.isDigit = true :=
            Nat.isDigit_of_mem_toDigits (by decide) (by decide) hdigit
          refine forall_ascii (motive := fun c => c.isDigit = true → motive c) ?_
            (toNat_lt_of_isDigit hisDigit) hisDigit
          intro n hn hd
          refine hmotive n hn ?_
          rw [Domain.isPlainChar, Char.isAlphanum, hd, Bool.or_true, Bool.true_or, Bool.true_or]

/-- A plain domain with a port or without one is read back, the domain in lower case. -/
theorem readAuthority_of_isPlain {port : Option Nat} (hport : ∀ p ∈ port, p ≤ 65535)
    (more : Bool) :
    readAuthority true more (domain ++ (portText port).toList) =
      .ok ⟨some (.domain (domain.map Char.toLower)), port⟩ := by
  -- no user name is read from it, and its first colon is the one before the port
  have huser : '@' ∉ domain ++ (portText port).toList := fun hmem =>
    of_mem_address h (motive := (· ≠ '@')) (by decide) (by decide) hmem rfl
  have hname : ∀ c ∈ domain, c ≠ ':' ∧ c ≠ '[' := fun c hc =>
    h.of_mem (motive := fun c => c ≠ ':' ∧ c ≠ '[') (by decide) hc
  have hcolon : ∀ c ∈ (portText port).toList.head?, c = ':' := by
    rw [toList_portText]
    cases port with
    | none => exact nofun
    | some p => exact fun c hc => (Option.some.inj hc).symm
  have hempty : ¬ domain.isEmpty = true := by
    simpa using h.domain_ne_nil
  rw [readAuthority, cutLast?_of_not_mem huser]
  simp only [readHostPort, cutHost_append hname hcolon, List.reverse_nil, List.nil_append, if_true,
    Host.parse_of_isPlain h]
  rw [if_neg hempty, toList_portText]
  cases port with
  | none => rfl
  | some p =>
      simp only [Option.elim_some, readPort_toDigits (hport p rfl)]
      rfl

end Plain

end PageBridge.Url
