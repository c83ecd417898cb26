import PageBridge.Proofs.Text.Blank
import PageBridge.Proofs.Text.Split
import PageBridge.Proofs.Url.Punycode
import PageBridge.Url.Domain

/-!
# The ASCII form of a domain

Whatever characters a domain is written in, its ASCII form is ASCII (`toNat_lt_of_toAscii`).  A domain of
plain labels, `IsPlain`, is only brought into lower case.
-/

namespace PageBridge.Url

open PageBridge.Text

/-- What comes out of a list of readings was read from some item. -/
theorem exists_of_mem_mapM {α β : Type} {f : α → Option β} {xs : List α} {ys : List β}
    (h : xs.mapM f = some ys) {y : β} (hy : y ∈ ys) : ∃ x ∈ xs, f x = some y := by
  induction xs generalizing ys with
  | nil =>
      obtain rfl : [] = ys := Option.some.inj h
      cases hy
  | cons x xs ih =>
      simp only [List.mapM_cons, bind, Option.bind_eq_some_iff, pure, Option.some.injEq] at h
      obtain ⟨first, hfirst, rest, hrest, rfl⟩ := h
      rcases List.mem_cons.mp hy with rfl | hmem
      · exact ⟨x, List.mem_cons_self, hfirst⟩
      · obtain ⟨x', hx', hread⟩ := ih hrest hmem
        exact ⟨x', List.mem_cons_of_mem x hx', hread⟩

namespace Domain

theorem isAscii_iff {c : Char} : isAscii c = true ↔ c.toNat < 128 :=
  decide_eq_true_iff

theorem isAscii_toLower (c : Char) : isAscii c.toLower = isAscii c :=
  apply_toLower isAscii (by decide) c

theorem toNat_lt_of_mem_encodedMark {c : Char} (h : c ∈ encodedMark) : c.toNat < 128 := by
  fin_cases h <;> decide

/-- The ASCII form of a label is the label itself, if that is ASCII, or else its encoding. -/
theorem ascii_of_readLabel {label : List Char} {l : Label} (h : readLabel label = some l) :
    (l.ascii = label ∧ ∀ c ∈ label, c.toNat < 128) ∨
      l.ascii = encodedMark ++ Punycode.encode label := by
  rw [readLabel] at h
  cases hcut : dropStart? encodedMark label with
  | some code =>
      -- what stands after the mark of an encoded label has been checked to be ASCII
      simp only [hcut] at h
      split at h
      · cases h
      case isFalse hfits =>
        obtain ⟨plain, -, hplain⟩ := Option.bind_eq_some_iff.mp h
        split at hplain
        · cases hplain
        · obtain rfl := Option.some.inj hplain
          refine .inl ⟨rfl, fun c hc => ?_⟩
          have hcode : code.all isAscii = true := by
            rw [Bool.not_eq_true, Bool.or_eq_false_iff] at hfits
            simpa using hfits.2
          rcases List.mem_append.mp (eq_append_of_dropStart? hcut ▸ hc) with hd | hd
          · exact toNat_lt_of_mem_encodedMark hd
          · exact isAscii_iff.mp (List.all_eq_true.mp hcode c hd)
  | none =>
      simp only [hcut] at h
      split at h
      · cases h
      · split at h
        case isTrue hascii =>
          obtain rfl := Option.some.inj h
          exact .inl ⟨rfl, fun c hc => isAscii_iff.mp (List.all_eq_true.mp hascii c hc)⟩
        · split at h
          · cases h
          · obtain rfl := Option.some.inj h
            exact .inr rfl

/-- The ASCII form of a label is ASCII. -/
theorem toNat_lt_of_readLabel {label : List Char} {l : Label} (h : readLabel label = some l)
    {c : Char} (hc : c ∈ l.ascii) : c.toNat < 128 := by
  rcases ascii_of_readLabel h with ⟨hsame, hascii⟩ | hencoded
  · exact hascii c (hsame ▸ hc)
  · rcases List.mem_append.mp (hencoded ▸ hc) with hmark | hcode
    · exact toNat_lt_of_mem_encodedMark hmark
    · exact Punycode.toNat_lt_of_mem_encode hcode

/-- The ASCII form of a domain is ASCII. -/
theorem toNat_lt_of_toAscii {domain ascii : List Char} (h : toAscii domain = some ascii) {c : Char}
    (hc : c ∈ ascii) : c.toNat < 128 := by
  rw [toAscii] at h
  split at h
  case isTrue hplain =>
    split at h
    · cases h
    · obtain rfl := Option.some.inj h
      obtain ⟨d, hd, rfl⟩ := List.mem_map.mp hc
      rw [Bool.and_eq_true, List.all_eq_true] at hplain
      rw [← isAscii_iff, isAscii_toLower]
      exact hplain.1 d hd
  · simp only [toAsciiMapped, bind, Option.bind_eq_some_iff] at h
    obtain ⟨mapped, -, labels, hlabels, hjoin⟩ := h
    split at hjoin
    · cases hjoin
    · obtain rfl := Option.some.inj hjoin
      rcases mem_joinWith hc with rfl | ⟨part, hpart, hmem⟩
      · decide
      · obtain ⟨l, hl, rfl⟩ := List.mem_map.mp hpart
        obtain ⟨label, -, hread⟩ := exists_of_mem_mapM hlabels hl
        exact toNat_lt_of_readLabel hread hmem

/-! ## Plain domains -/

/-- The ASCII letters and digits and the hyphen. -/
def isPlainChar (c : Char) : Bool :=
  c.isAlphanum || c == '-'

/-- A domain of labels of plain characters, none of them empty or encoded, the last one of which starts
with a letter. -/
structure IsPlain (domain : List Char) : Prop where
  ne_nil : ∀ label ∈ labels domain, label ≠ []
  chars : ∀ label ∈ labels domain, ∀ c ∈ label, isPlainChar c = true
  not_encoded : ∀ label ∈ labels domain, isEncoded label = false
  last : ∀ label ∈ (labels domain).getLast?, ∀ c ∈ label.head?, c.isAlpha = true

variable {domain : List Char}

theorem isPlain_iff : IsPlain domain ↔
    (labels domain).all (fun label =>
      !label.isEmpty && label.all isPlainChar && !isEncoded label) = true ∧
      (labels domain).getLast?.all (·.head?.all Char.isAlpha) = true := by
  simp only [List.all_eq_true, Option.all_eq_true, Bool.and_eq_true, Bool.not_eq_true',
    List.isEmpty_eq_false_iff]
  constructor
  · intro h
    exact ⟨fun label hmem => ⟨⟨h.ne_nil label hmem, h.chars label hmem⟩, h.not_encoded label hmem⟩,
      h.last⟩
  · rintro ⟨hall, hlast⟩
    exact ⟨fun label hmem => (hall label hmem).1.1, fun label hmem => (hall label hmem).1.2,
      fun label hmem => (hall label hmem).2, hlast⟩

instance (domain : List Char) : Decidable (IsPlain domain) :=
  decidable_of_iff _ isPlain_iff.symm

/-- A plain domain is not empty. -/
theorem IsPlain.domain_ne_nil (h : IsPlain domain) : domain ≠ [] := by
  rintro rfl
  exact h.ne_nil [] List.mem_cons_self rfl

/-- A domain has the labels in lower case that it has in lower case. -/
theorem labels_map_toLower (domain : List Char) :
    labels (domain.map Char.toLower) = (labels domain).map (List.map Char.toLower) :=
  splitOn_map (p := (· == '.')) (apply_toLower (· == '.') (by decide)) domain

/-- An encoded label is one in any letter case. -/
theorem isEncoded_map_toLower (label : List Char) :
    isEncoded (label.map Char.toLower) = isEncoded label := by
  rw [isEncoded, map_toLower_map_toLower, isEncoded]

/-- Letter case does not make a domain plain. -/
theorem IsPlain.map_toLower (h : IsPlain domain) : IsPlain (domain.map Char.toLower) := by
  refine ⟨?_, ?_, ?_, ?_⟩
  · intro label hlabel
    rw [labels_map_toLower] at hlabel
    obtain ⟨label, hmem, rfl⟩ := List.mem_map.mp hlabel
    simpa using h.ne_nil label hmem
  · intro label hlabel c hc
    rw [labels_map_toLower] at hlabel
    obtain ⟨label, hmem, rfl⟩ := List.mem_map.mp hlabel
    obtain ⟨d, hd, rfl⟩ := List.mem_map.mp hc
    rw [apply_toLower isPlainChar (by decide)]
    exact h.chars label hmem d hd
  · intro label hlabel
    rw [labels_map_toLower] at hlabel
    obtain ⟨label, hmem, rfl⟩ := List.mem_map.mp hlabel
    rw [isEncoded_map_toLower]
    exact h.not_encoded label hmem
  · intro label hlabel c hc
    rw [labels_map_toLower, List.getLast?_map] at hlabel
    obtain ⟨label, hmem, rfl⟩ := Option.map_eq_some_iff.mp hlabel
    rw [List.head?_map] at hc
    obtain ⟨d, hd, rfl⟩ := Option.map_eq_some_iff.mp hc
    rw [Char.isAlpha_toLower_eq_isAlpha]
    exact h.last label hmem d hd

/-- What holds of the plain characters and the point holds of every character of a plain domain. -/
theorem IsPlain.of_mem {motive : Char → Prop}
    (hmotive : ∀ n < 128, (isPlainChar (Char.ofNat n) || Char.ofNat n == '.') = true →
      motive (Char.ofNat n))
    (h : IsPlain domain) {c : Char} (hc : c ∈ domain) : motive c := by
  -- each character is a point or stands in a label
  have hplain : (isPlainChar c || c == '.') = true := by
    cases hpoint : c == '.' with
    | true => rw [Bool.or_true]
    | false =>
        obtain ⟨label, hlabel, hmem⟩ := exists_mem_splitOn (p := (· == '.')) hpoint hc
        rw [h.chars label hlabel c hmem, Bool.true_or]
  have hascii : c.toNat < 128 := by
    simp only [isPlainChar, Bool.or_eq_true, beq_iff_eq] at hplain
    rcases hplain with (halnum | rfl) | rfl
    · exact toNat_lt_of_isAlphanum halnum
    · decide
    · decide
  exact forall_ascii (motive := fun c => (isPlainChar c || c == '.') = true → motive c) hmotive
    hascii hplain

/-- A plain domain is brought into lower case. -/
theorem IsPlain.toAscii_eq (h : IsPlain domain) :
    toAscii domain = some (domain.map Char.toLower) := by
  -- the short way for a domain that is ASCII already is open to a plain one
  have hascii : domain.all isAscii = true :=
    List.all_eq_true.mpr fun c hc => h.of_mem (motive := fun c => isAscii c = true) (by decide) hc
  have hencoded : (labels domain).any isEncoded = false :=
    List.any_eq_false.mpr fun label hlabel => by
      rw [h.not_encoded label hlabel]
      exact Bool.false_ne_true
  have hallowed : domain.any isForbidden = false :=
    List.any_eq_false.mpr fun c hc =>
      h.of_mem (motive := fun c => ¬ isForbidden c = true) (by decide) hc
  rw [toAscii, hascii, hencoded, hallowed]
  rfl

end Domain

end PageBridge.Url
