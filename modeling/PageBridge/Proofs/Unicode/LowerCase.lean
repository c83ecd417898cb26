import PageBridge.Proofs.Text.Blank
import PageBridge.Unicode.LowerCase

/-!
# Lower case and ASCII

In lower case an ASCII character is the small letter of its own, and of the characters beyond ASCII two
alone become ASCII characters: the Kelvin sign is a k, and the dotted capital I is an i, with a dot that
follows it (`lowerBetween_cases`).  So a start of ASCII characters that has no k and does not end in
an i cannot come from anything else than its own letters, and it makes no difference to it whether all
letters are brought into lower case or those of ASCII alone (`isPrefix_lower_iff`).  What a sigma becomes
plays no part in this, and neither do the lengths of what comes behind the start.
-/

namespace PageBridge.Unicode

/-! ## Tables -/

namespace RangeMap

variable {α : Type} {t : RangeMap α}

/-- What is found is an entry of the table. -/
theorem exists_of_find? {c : Char} {offset : Nat} {v : α} (h : t.find? c = some (offset, v)) :
    ∃ first last, (first, last, v) ∈ t.entries ∧ first ≤ c.toNat ∧ c.toNat ≤ last ∧
      offset = c.toNat - first := by
  rw [find?] at h
  split at h
  case h_1 first last w hentry =>
    by_cases hrange : first ≤ c.toNat ∧ c.toNat ≤ last
    · rw [if_pos hrange] at h
      obtain ⟨rfl, rfl⟩ := Prod.mk.inj (Option.some.inj h)
      exact ⟨first, last, Array.mem_of_getElem? hentry, hrange.1, hrange.2, rfl⟩
    · rw [if_neg hrange] at h
      cases h
  case h_2 => cases h

/-- What holds of all that the words of a text say holds of every entry of its table. -/
theorem forall_of_text {readValue : List Char → α} {p : Nat × Nat × α → Prop}
    (h : ∃ cs, t = ofText readValue (String.ofList cs) ∧
      ∀ e ∈ (words cs).map (readEntry readValue), p e) :
    ∀ e ∈ t.entries, p e := by
  obtain ⟨cs, rfl, hwords⟩ := h
  intro e he
  rw [ofText, String.toList_ofList, List.mem_toArray] at he
  exact hwords e he

end RangeMap

/-- From one number to another all are numbers of characters beyond ASCII. -/
def BeyondAscii (first last : Nat) : Prop :=
  0x80 ≤ first ∧ (last < 0xD800 ∨ 0xDFFF < first ∧ last < 0x110000)

instance : DecidableRel BeyondAscii := fun _ _ => inferInstanceAs (Decidable (_ ∧ _))

/-- A number between two that are beyond ASCII is that of a character beyond ASCII. -/
theorem BeyondAscii.le_toNat {first last n : Nat} (h : BeyondAscii first last) (hfirst : first ≤ n)
    (hlast : n ≤ last) : 0x80 ≤ (Char.ofNat n).toNat := by
  obtain ⟨hascii, hvalid⟩ := h
  have hn : n.isValidChar := by
    rw [Nat.isValidChar]
    omega
  rw [Char.toNat_ofNat, if_pos hn]
  omega

/-- The sign of the unit Kelvin, whose small letter is that of the letter K. -/
def kelvinSign : Char := '\u212A'

-- the text of the table is spelled out as a list of characters, one level deep for each of them
set_option maxRecDepth 10000 in
/-- All small letters that follow each other are beyond ASCII, but for the one of the Kelvin sign. -/
theorem capitalRuns_entries : ∀ e ∈ capitalRuns.entries,
    e = (kelvinSign.toNat, kelvinSign.toNat, 'k'.toNat) ∨
      BeyondAscii e.2.2 (e.2.2 + (e.2.1 - e.1)) :=
  RangeMap.forall_of_text ⟨_, rfl, by decide +kernel⟩

set_option maxRecDepth 10000 in
/-- All pairs of a capital and a small letter that stand side by side are beyond ASCII. -/
theorem capitalPairs_entries : ∀ e ∈ capitalPairs.entries, BeyondAscii e.1 (e.2.1 + 1) :=
  RangeMap.forall_of_text ⟨_, rfl, by decide +kernel⟩

/-! ## Characters -/

section Tables

variable {runs : RangeMap Nat} {pairs : Ranges}

/-- The small letter of a character beyond ASCII is beyond ASCII, but for the one of the Kelvin sign. -/
theorem smallLetterBy_cases
    (hruns : ∀ e ∈ runs.entries, e = (kelvinSign.toNat, kelvinSign.toNat, 'k'.toNat) ∨
      BeyondAscii e.2.2 (e.2.2 + (e.2.1 - e.1)))
    (hpairs : ∀ e ∈ pairs.entries, BeyondAscii e.1 (e.2.1 + 1)) {c : Char} (hc : 0x80 ≤ c.toNat) :
    c = kelvinSign ∧ smallLetterBy runs pairs c = 'k' ∨
      0x80 ≤ (smallLetterBy runs pairs c).toNat := by
  rw [smallLetterBy]
  cases hrun : runs.find? c with
  | some found =>
      obtain ⟨offset, small⟩ := found
      obtain ⟨first, last, hentry, hfirst, hlast, rfl⟩ := RangeMap.exists_of_find? hrun
      rcases hruns _ hentry with hkelvin | hbeyond
      · obtain ⟨rfl, hrest⟩ := Prod.mk.inj hkelvin
        obtain ⟨rfl, rfl⟩ := Prod.mk.inj hrest
        have hc : c = kelvinSign := Char.toNat_inj.mp (Nat.le_antisymm hlast hfirst)
        refine .inl ⟨hc, ?_⟩
        simp only [hc, Nat.sub_self, Nat.add_zero, Char.ofNat_toNat]
      · exact .inr (hbeyond.le_toNat (Nat.le_add_right _ _) (by simp only; omega))
  | none =>
      cases hpair : pairs.find? c with
      | some found =>
          obtain ⟨offset, value⟩ := found
          obtain ⟨first, last, hentry, hfirst, hlast, -⟩ := RangeMap.exists_of_find? hpair
          refine .inr ?_
          by_cases heven : offset % 2 = 0
          · simp only [heven, if_true]
            exact (hpairs _ hentry).le_toNat (by simp only; omega) (by simp only; omega)
          · simp only [heven, if_false]
            exact hc
      | none => exact .inr hc

end Tables

/-- In the tables of Unicode only the Kelvin sign has a small letter of ASCII without being of
ASCII. -/
theorem smallLetter_cases {c : Char} (hc : 0x80 ≤ c.toNat) :
    c = kelvinSign ∧ smallLetter c = 'k' ∨ 0x80 ≤ (smallLetter c).toNat :=
  smallLetterBy_cases capitalRuns_entries capitalPairs_entries hc

/-- A character of ASCII becomes its own small letter, whatever stands around it. -/
theorem lowerBetween_of_ascii {c : Char} (hc : c.toNat < 0x80) (before after : List Char) :
    lowerBetween before c after = [c.toLower] := by
  -- what a sigma becomes depends on what stands around it, but a sigma is beyond ASCII
  have hsigma : c ≠ capitalSigma := by
    rintro rfl
    exact absurd hc (by decide)
  rw [lowerBetween, if_neg hsigma, lowerChar, if_pos hc]

/-- A character beyond ASCII begins with one of them in lower case, too, if it is not the dotted capital
I or the Kelvin sign. -/
theorem lowerBetween_cases {c : Char} (hc : 0x80 ≤ c.toNat) (before after : List Char) :
    c = dottedCapitalI ∧ lowerBetween before c after = ['i', dotAbove] ∨
      c = kelvinSign ∧ lowerBetween before c after = ['k'] ∨
      ∃ d, 0x80 ≤ d.toNat ∧ lowerBetween before c after = [d] := by
  rw [lowerBetween]
  by_cases hsigma : c = capitalSigma
  · rw [if_pos hsigma]
    refine .inr (.inr ?_)
    split
    · exact ⟨finalSigma, by decide, rfl⟩
    · exact ⟨smallSigma, by decide, rfl⟩
  · rw [if_neg hsigma, lowerChar, if_neg (Nat.not_lt.mpr hc)]
    by_cases hdotted : c = dottedCapitalI
    · exact .inl ⟨hdotted, if_pos hdotted⟩
    · rw [if_neg hdotted]
      rcases smallLetter_cases hc with ⟨hkelvin, hk⟩ | hbeyond
      · exact .inr (.inl ⟨hkelvin, by rw [hk]⟩)
      · exact .inr (.inr ⟨smallLetter c, hbeyond, rfl⟩)

/-! ## Texts -/

/-- What is finished only stands in front. -/
theorem lowerFrom_eq (done before cs : List Char) :
    lowerFrom done before cs = done.reverse ++ lowerFrom [] before cs := by
  -- for every finished part, as each character puts its own lower case behind it
  induction cs generalizing done before with
  | nil => rw [lowerFrom, lowerFrom, List.reverse_nil, List.append_nil]
  | cons c cs ih =>
      rw [lowerFrom, lowerFrom, ih, ih ((lowerBetween before c cs).reverse ++ [])]
      simp

/-- The lower case of a text starts with that of its first character. -/
theorem lowerFrom_cons (before : List Char) (c : Char) (cs : List Char) :
    lowerFrom [] before (c :: cs) = lowerBetween before c cs ++ lowerFrom [] (c :: before) cs := by
  rw [lowerFrom, lowerFrom_eq, List.append_nil, List.reverse_reverse]

theorem toList_lower (s : String) : (lower s).toList = lowerFrom [] [] s.toList := by
  rw [lower, String.toList_ofList]

/-- Nothing but its own letters has this start in lower case. -/
structure Unmistakable (start : List Char) : Prop where
  ascii : ∀ c ∈ start, c.toNat < 0x80
  not_mem : 'k' ∉ start
  getLast?_ne : start.getLast? ≠ some 'i'

theorem Unmistakable.tail {c : Char} {start : List Char} (h : Unmistakable (c :: start)) :
    Unmistakable start := by
  refine ⟨fun d hd => h.ascii d (List.mem_cons_of_mem c hd),
    fun hk => h.not_mem (List.mem_cons_of_mem c hk), fun hlast => h.getLast?_ne ?_⟩
  rw [List.getLast?_cons, hlast]
  rfl

/-- An unmistakable start does not come from a character beyond ASCII. -/
theorem Unmistakable.not_isPrefix_append {start : List Char} {s c : Char}
    (hstart : Unmistakable (s :: start)) (hc : 0x80 ≤ c.toNat) (before after rest : List Char) :
    ¬ s :: start <+: lowerBetween before c after ++ rest := by
  intro hbegins
  rcases lowerBetween_cases hc before after with ⟨-, hlower⟩ | ⟨-, hlower⟩ | ⟨d, hd, hlower⟩
  · -- the dot that comes after the i would have to be in the start
    rw [hlower, List.cons_append, List.cons_prefix_cons] at hbegins
    obtain ⟨rfl, hbegins⟩ := hbegins
    cases start with
    | nil => exact hstart.getLast?_ne rfl
    | cons t start =>
        have hdot : t = dotAbove := (List.cons_prefix_cons.mp hbegins).1
        have hascii : t.toNat < 0x80 := hstart.tail.ascii t List.mem_cons_self
        rw [hdot] at hascii
        exact absurd hascii (by decide)
  · rw [hlower, List.cons_append, List.cons_prefix_cons] at hbegins
    exact hstart.not_mem (hbegins.1 ▸ List.mem_cons_self)
  · rw [hlower, List.cons_append, List.cons_prefix_cons] at hbegins
    have hascii : s.toNat < 0x80 := hstart.ascii s List.mem_cons_self
    rw [hbegins.1] at hascii
    omega

/-- An unmistakable start is found alike with all letters in lower case and with those of ASCII
alone, whatever stood before. -/
theorem isPrefix_lowerFrom_iff {start : List Char} (hstart : Unmistakable start)
    (before cs : List Char) :
    start <+: lowerFrom [] before cs ↔ start <+: cs.map Char.toLower := by
  induction start generalizing before cs with
  | nil => simp
  | cons s start ih =>
      cases cs with
      | nil => rfl
      | cons c cs =>
          rw [lowerFrom_cons, List.map_cons]
          by_cases hc : c.toNat < 0x80
          · rw [lowerBetween_of_ascii hc, List.singleton_append, List.cons_prefix_cons,
              List.cons_prefix_cons, ih hstart.tail]
          · refine iff_of_false (hstart.not_isPrefix_append (Nat.not_lt.mp hc) _ _ _) fun hbegins => ?_
            have hs : s.toNat < 0x80 := hstart.ascii s List.mem_cons_self
            -- the lower case of ASCII leaves a character beyond ASCII as it is, so it does not
            -- begin the start
            have hupper : ¬ c.isUpper = true := fun h => by
              simp [Char.isUpper, UInt32.le_iff_toNat_le] at h
              omega
            rw [List.cons_prefix_cons, Char.toLower_eq_of_not_isUpper hupper] at hbegins
            rw [hbegins.1] at hs
            exact hc hs

/-- A text has an unmistakable start in lower case if it has it with the letters of ASCII in lower
case. -/
theorem isPrefix_lower_iff {start : List Char} (hstart : Unmistakable start) (s : String) :
    start <+: (lower s).toList ↔ start <+: (Text.lowerAscii s).toList := by
  rw [toList_lower, Text.toList_lowerAscii]
  exact isPrefix_lowerFrom_iff hstart [] s.toList

end PageBridge.Unicode
