import Mathlib
import PageBridge.Text.Blank

/-!
# Trimming and letter case

Trimming takes exactly the characters off that stand around a text (`dropEnds_append`), and it does
not see letter case (`trim_lowerAscii`), as no letter is a blank.  So a text may be trimmed and brought
into lower case in either order.
-/

namespace PageBridge.Text

/-! ## ASCII -/

/-- What holds of the 128 ASCII characters holds of each of them. -/
theorem forall_ascii {motive : Char → Prop} (h : ∀ n < 128, motive (Char.ofNat n)) {c : Char}
    (hc : c.toNat < 128) : motive c := by
  have hmotive := h c.toNat hc
  rwa [Char.ofNat_toNat] at hmotive

/-- The letters and digits are those of ASCII. -/
theorem toNat_lt_of_isAlphanum {c : Char} (h : c.isAlphanum = true) : c.toNat < 128 := by
  simp [Char.isAlphanum, Char.isAlpha, Char.isUpper, Char.isLower, Char.isDigit,
    UInt32.le_iff_toNat_le] at h
  omega

theorem toNat_lt_of_isAlpha {c : Char} (h : c.isAlpha = true) : c.toNat < 128 :=
  toNat_lt_of_isAlphanum (by rw [Char.isAlphanum, h, Bool.true_or])

theorem toNat_lt_of_isDigit {c : Char} (h : c.isDigit = true) : c.toNat < 128 :=
  toNat_lt_of_isAlphanum (by rw [Char.isAlphanum, h, Bool.or_true])

/-! ## White space -/

/-- The code points of the `White_Space` property. -/
def whiteSpace : List Nat :=
  [0x09, 0x0A, 0x0B, 0x0C, 0x0D, 0x20, 0x85, 0xA0, 0x1680, 0x2000, 0x2001, 0x2002, 0x2003, 0x2004,
    0x2005, 0x2006, 0x2007, 0x2008, 0x2009, 0x200A, 0x2028, 0x2029, 0x202F, 0x205F, 0x3000]

/-- A character is blank when its code point has the `White_Space` property. -/
theorem isBlank_iff {c : Char} : isBlank c = true ↔ c.toNat ∈ whiteSpace := by
  simp only [isBlank, Bool.or_eq_true, Bool.and_eq_true, beq_iff_eq, decide_eq_true_eq, whiteSpace,
    List.mem_cons, List.not_mem_nil, or_false, Char.le_def, UInt32.le_iff_toNat_le, Char.ext_iff,
    ← UInt32.toNat_inj, Char.toNat_val]
  simp only [Char.reduceToNat]
  omega

/-- A text is blank when all its characters are white space. -/
theorem blank_iff {s : String} : blank s = true ↔ ∀ c ∈ s.toList, c.toNat ∈ whiteSpace := by
  simp only [blank, List.all_eq_true, isBlank_iff]

/-! ## Letter case -/

/-- What treats the capital letters as the small ones does not see letter case. -/
theorem apply_toLower {α : Type} (f : Char → α)
    (hletters : ∀ n < 26, f (Char.ofNat (n + 97)) = f (Char.ofNat (n + 65))) (c : Char) :
    f c.toLower = f c := by
  by_cases hupper : c.isUpper
  -- a capital letter is one of 26, and its small letter is 32 further
  · have hrange : 65 ≤ c.toNat ∧ c.toNat ≤ 90 := by
      simpa [Char.isUpper, UInt32.le_iff_toNat_le] using hupper
    have hletter := hletters (c.toNat - 65) (by omega)
    rw [Nat.sub_add_cancel hrange.1, Char.ofNat_toNat] at hletter
    rw [Char.toLower_eq_of_isUpper hupper, ← hletter, show 97 = 65 + 32 from rfl, ← Nat.add_assoc,
      Nat.sub_add_cancel hrange.1]
  · rw [Char.toLower_eq_of_not_isUpper hupper]

/-- No letter is a blank, so letter case is no matter to being one. -/
theorem isBlank_toLower (c : Char) : isBlank c.toLower = isBlank c :=
  apply_toLower isBlank (by decide) c

/-- Only a letter becomes another character in lower case. -/
theorem eq_of_toLower_eq {c d : Char} (hd : d.isAlpha = false) (h : c.toLower = d) : c = d := by
  by_cases hupper : c.isUpper
  · rw [← h, Char.isAlpha_toLower_eq_isAlpha, Char.isAlpha, hupper, Bool.true_or] at hd
    cases hd
  · rwa [Char.toLower_eq_of_not_isUpper hupper] at h

/-- Text in lower case stays as it is. -/
theorem map_toLower_map_toLower (cs : List Char) :
    (cs.map Char.toLower).map Char.toLower = cs.map Char.toLower := by
  simp

theorem mem_lowerAscii {s : String} {c : Char} :
    c ∈ (lowerAscii s).toList ↔ ∃ d ∈ s.toList, d.toLower = c := by
  rw [toList_lowerAscii, List.mem_map]

theorem isUpper_of_mem_lowerAscii {s : String} {c : Char} (hc : c ∈ (lowerAscii s).toList) :
    c.isUpper = false := by
  obtain ⟨d, -, rfl⟩ := mem_lowerAscii.mp hc
  exact Char.isUpper_toLower_eq_false d

/-! ## Trimming -/

variable {p : Char → Bool}

/-- All that stands at the end and may be taken off is taken off. -/
theorem dropRight_append_of_all {trail : List Char} (htrail : ∀ c ∈ trail, p c = true)
    (cs : List Char) : dropRight p (cs ++ trail) = dropRight p cs := by
  rw [dropRight, dropRight, List.reverse_append, List.dropWhile_append_of_pos]
  exact fun c hc => htrail c (List.mem_reverse.mp hc)

/-- A text that does not end in such a character stays as it is. -/
theorem dropRight_eq_self {cs : List Char} (hlast : ∀ c ∈ cs.getLast?, p c = false) :
    dropRight p cs = cs := by
  refine List.rdropWhile_eq_self_iff.mpr fun hne => ?_
  rw [hlast _ (List.getLast?_eq_some_getLast hne)]
  exact Bool.false_ne_true

/-- Exactly what stands around a text is taken off. -/
theorem dropEnds_append {lead body trail : List Char} (hlead : ∀ c ∈ lead, p c = true)
    (htrail : ∀ c ∈ trail, p c = true) (hhead : ∀ c ∈ body.head?, p c = false)
    (hlast : ∀ c ∈ body.getLast?, p c = false) : dropEnds p (lead ++ (body ++ trail)) = body := by
  rw [dropEnds, List.dropWhile_append_of_pos hlead]
  cases body with
  | nil =>
      rw [List.nil_append, List.dropWhile_eq_nil_iff.mpr htrail]
      rfl
  | cons c cs =>
      rw [List.cons_append, List.dropWhile_cons_of_neg (by simp [hhead c rfl]), ← List.cons_append,
        dropRight_append_of_all htrail, dropRight_eq_self hlast]

/-- A text without such characters is what is left of it between others. -/
theorem dropEnds_append_of_none {lead body trail : List Char} (hlead : ∀ c ∈ lead, p c = true)
    (htrail : ∀ c ∈ trail, p c = true) (hbody : ∀ c ∈ body, p c = false) :
    dropEnds p (lead ++ (body ++ trail)) = body :=
  dropEnds_append hlead htrail (fun c hc => hbody c (List.mem_of_mem_head? hc))
    fun c hc => hbody c (List.mem_of_mem_getLast? hc)

/-- Nothing is taken off in front of a character that stays. -/
theorem dropRight_append_cons {m : Char} (hm : p m = false) (front rest : List Char) :
    dropRight p (front ++ m :: rest) = front ++ m :: dropRight p rest := by
  -- seen from the end, the walk stops at the character that stays if it comes that far
  have hrev : (front ++ m :: rest).reverse = rest.reverse ++ m :: front.reverse := by simp
  have hkept : (m :: front.reverse).dropWhile p = m :: front.reverse :=
    List.dropWhile_cons_of_neg (by simp [hm])
  rw [dropRight, hrev, List.dropWhile_append, hkept]
  split
  case isTrue hrest =>
    rw [dropRight, List.isEmpty_iff.mp hrest]
    simp
  · simp [dropRight]

/-- Nothing is taken off in front of what is left at the end. -/
theorem dropRight_append_of_none {front : List Char} (hfront : ∀ c ∈ front, p c = false)
    (rest : List Char) : dropRight p (front ++ rest) = front ++ dropRight p rest := by
  induction front with
  | nil => rfl
  | cons c front ih =>
      have hc : p c = false := hfront c List.mem_cons_self
      have hkept := dropRight_append_cons hc [] (front ++ rest)
      rw [List.nil_append, List.nil_append,
        ih fun d hd => hfront d (List.mem_cons_of_mem c hd)] at hkept
      exact hkept

/-- Nothing is taken off in front where a text starts with what stays. -/
theorem dropEnds_append_cons {front : List Char} {m : Char} (hfront : ∀ c ∈ front, p c = false)
    (hm : p m = false) (rest : List Char) :
    dropEnds p (front ++ m :: rest) = front ++ m :: dropRight p rest := by
  have hhead : (front ++ m :: rest).dropWhile p = front ++ m :: rest := by
    cases front with
    | nil => exact List.dropWhile_cons_of_neg (by simp [hm])
    | cons c front => exact List.dropWhile_cons_of_neg (by simp [hfront c List.mem_cons_self])
  rw [dropEnds, hhead, dropRight_append_cons hm]

/-- What does not change whether characters are taken off may come before or after taking them off
at the end. -/
theorem dropRight_map {f : Char → Char} (hf : ∀ c, p (f c) = p c) (cs : List Char) :
    dropRight p (cs.map f) = (dropRight p cs).map f := by
  have hp : p ∘ f = p := funext hf
  rw [dropRight, dropRight, ← List.map_reverse, List.dropWhile_map, hp, List.map_reverse]

theorem dropEnds_map {f : Char → Char} (hf : ∀ c, p (f c) = p c) (cs : List Char) :
    dropEnds p (cs.map f) = (dropEnds p cs).map f := by
  have hp : p ∘ f = p := funext hf
  rw [dropEnds, dropEnds, List.dropWhile_map, hp, dropRight_map hf]

/-- No character is new when others are taken off at the end. -/
theorem dropRight_subset (p : Char → Bool) (cs : List Char) : dropRight p cs ⊆ cs := by
  have hfront : dropRight p cs <+: cs := List.rdropWhile_prefix p cs
  exact hfront.subset

theorem dropEnds_subset (p : Char → Bool) (cs : List Char) : dropEnds p cs ⊆ cs := fun _ hc =>
  (List.dropWhile_sublist p).subset (dropRight_subset p _ hc)

/-- A character that is not taken off stays. -/
theorem mem_dropRight {cs : List Char} {c : Char} (hc : p c = false) (hmem : c ∈ cs) :
    c ∈ dropRight p cs := by
  rw [dropRight, List.mem_reverse]
  rw [← List.mem_reverse, ← List.takeWhile_append_dropWhile (p := p) (l := cs.reverse),
    List.mem_append] at hmem
  -- it is dropped or kept, and what is dropped is of the other kind
  refine hmem.resolve_left fun hdropped => ?_
  rw [List.mem_takeWhile_imp hdropped] at hc
  cases hc

/-- Nothing is left to be taken off in front. -/
theorem dropWhile_dropEnds (p : Char → Bool) (cs : List Char) :
    (dropEnds p cs).dropWhile p = dropEnds p cs := by
  have hfront : dropEnds p cs <+: cs.dropWhile p := List.rdropWhile_prefix p _
  rw [List.dropWhile_eq_self_iff]
  intro hne hhead
  rw [hfront.getElem hne] at hhead
  exact List.dropWhile_get_zero_not p cs (hne.trans_le hfront.length_le) hhead

/-- What is left starts with a character that stays. -/
theorem head?_dropEnds {p : Char → Bool} {cs : List Char} :
    ∀ c ∈ (dropEnds p cs).head?, p c = false := by
  intro c hc
  have hkept := dropWhile_dropEnds p cs
  cases hbody : dropEnds p cs with
  | nil =>
      rw [hbody] at hc
      cases hc
  | cons d ds =>
      rw [hbody] at hc hkept
      cases hc
      rw [List.dropWhile_eq_self_iff] at hkept
      exact Bool.eq_false_of_not_eq_true (hkept (Nat.zero_lt_succ ds.length))

/-- Nothing is left to be taken off. -/
theorem dropEnds_dropEnds (p : Char → Bool) (cs : List Char) :
    dropEnds p (dropEnds p cs) = dropEnds p cs := by
  rw [dropEnds, dropWhile_dropEnds]
  exact List.rdropWhile_idempotent p (cs.dropWhile p)

theorem toList_trim (s : String) : (trim s).toList = dropEnds isBlank s.toList := by
  rw [trim, String.toList_ofList]

/-- A text without blanks is trimmed already. -/
theorem trim_eq_self {s : String} (h : ∀ c ∈ s.toList, isBlank c = false) : trim s = s := by
  have hnone : ∀ c ∈ ([] : List Char), isBlank c = true := by simp
  have hself := dropEnds_append_of_none hnone hnone h
  rw [List.nil_append, List.append_nil] at hself
  rw [trim, hself, String.ofList_toList]

/-- A text that is trimmed is not changed by trimming. -/
theorem trim_trim (s : String) : trim (trim s) = trim s := by
  rw [trim, toList_trim, dropEnds_dropEnds, trim]

/-- Trimming does not see letter case. -/
theorem trim_lowerAscii (s : String) : trim (lowerAscii s) = lowerAscii (trim s) := by
  rw [trim, toList_lowerAscii, dropEnds_map isBlank_toLower, lowerAscii, toList_trim]

/-- The text that a pattern is compared by is trimmed. -/
theorem trim_lowerAscii_trim (s : String) : trim (lowerAscii (trim s)) = lowerAscii (trim s) := by
  rw [trim_lowerAscii, trim_trim]

theorem lowerAscii_lowerAscii (s : String) : lowerAscii (lowerAscii s) = lowerAscii s := by
  rw [lowerAscii, toList_lowerAscii, map_toLower_map_toLower, lowerAscii]

/-- A blank text has nothing but the blanks that trimming takes off. -/
theorem trim_of_blank {s : String} (h : blank s = true) : trim s = "" := by
  have hall : ∀ c ∈ s.toList, isBlank c = true := List.all_eq_true.mp h
  rw [trim, dropEnds, List.dropWhile_eq_nil_iff.mpr hall]
  rfl

/-- A text is what is left of another one without the white space around it. -/
structure TrimsTo (s body : String) : Prop where
  exists_append : ∃ lead trail, s.toList = lead ++ (body.toList ++ trail) ∧
    ∀ c ∈ lead ++ trail, c.toNat ∈ whiteSpace
  head : ∀ c ∈ body.toList.head?, c.toNat ∉ whiteSpace
  last : ∀ c ∈ body.toList.getLast?, c.toNat ∉ whiteSpace

theorem toList_trim_eq_rdropWhile (s : String) :
    (trim s).toList = (s.toList.dropWhile isBlank).rdropWhile isBlank :=
  toList_trim s

/-- Trimming takes off the white space around a text and nothing else. -/
theorem trimsTo_trim (s : String) : TrimsTo s (trim s) where
  exists_append := by
    refine ⟨s.toList.takeWhile isBlank, (s.toList.dropWhile isBlank).rtakeWhile isBlank, ?_, ?_⟩
    · rw [toList_trim_eq_rdropWhile, List.rdropWhile_append_rtakeWhile,
        List.takeWhile_append_dropWhile]
    · intro c hc
      rcases List.mem_append.mp hc with hlead | htrail
      · exact isBlank_iff.mp (List.mem_takeWhile_imp hlead)
      · exact isBlank_iff.mp (List.mem_rtakeWhile_imp htrail)
  head := by
    intro c hc
    rw [toList_trim] at hc
    rw [← isBlank_iff, head?_dropEnds c hc]
    exact Bool.false_ne_true
  last := by
    intro c hc
    rw [toList_trim_eq_rdropWhile] at hc
    obtain ⟨hne, rfl⟩ := List.mem_getLast?_eq_getLast hc
    rw [← isBlank_iff]
    exact List.rdropWhile_last_not isBlank _ hne

/-- Nothing is left of blank texts alone. -/
theorem trim_eq_empty_iff {s : String} : trim s = "" ↔ blank s = true := by
  constructor
  · intro hempty
    obtain ⟨lead, trail, hs, hblank⟩ := (trimsTo_trim s).exists_append
    rw [hempty, String.toList_empty, List.nil_append] at hs
    rwa [blank_iff, hs]
  · exact trim_of_blank

end PageBridge.Text
