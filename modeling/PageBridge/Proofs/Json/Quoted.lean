import PageBridge.Json.Render
import PageBridge.Json.Parse

/-!
# Strings of a JSON text

What `quote` writes is read back as it was, and the reader stops just behind the closing quote,
whatever follows (`readString_escape_append`).  A character is written in one of three ways, as a
letter behind a backslash, by its number or as it stands (`escapeChar_cases`), and each of them is
read as that character.
-/

namespace PageBridge.Json

open PageBridge.Text (hexChar hexDigit?)

/-! ## Characters -/

/-- A character is written as a letter behind a backslash, by its number, or as it stands. -/
theorem escapeChar_cases (c : Char) :
    (∃ e, escapeChar c = ['\\', e] ∧ escaped? e = some c ∧ e ≠ 'u') ∨
      (escapeChar c =
          ['\\', 'u', '0', '0', hexChar (c.toNat / 16), hexChar (c.toNat % 16)] ∧ c < ' ') ∨
      (escapeChar c = [c] ∧ c ≠ '"' ∧ c ≠ '\\' ∧ ¬c < ' ') := by
  by_cases hletter : c ∈ ['"', '\\', '\x08', '\x0c', '\n', '\r', '\t']
  -- seven characters have a letter of their own
  · refine Or.inl ?_
    simp only [List.mem_cons, List.not_mem_nil, or_false] at hletter
    rcases hletter with rfl | rfl | rfl | rfl | rfl | rfl | rfl <;>
      exact ⟨_, rfl, by decide, by decide⟩
  · simp only [List.mem_cons, List.not_mem_nil, or_false, not_or] at hletter
    by_cases hcontrol : c < ' '
    · refine Or.inr (Or.inl ⟨?_, hcontrol⟩)
      simp only [escapeChar, hletter, hcontrol, if_false, if_true]
    · refine Or.inr (Or.inr ⟨?_, hletter.1, hletter.2.1, hcontrol⟩)
      simp only [escapeChar, hletter, hcontrol, if_false]

/-- A hexadecimal digit is read as the number that it is written for. -/
theorem hexDigit?_hexChar {n : Nat} (h : n < 16) : hexDigit? (hexChar n) = some n := by
  have hall : ∀ n < 16, hexDigit? (hexChar n) = some n := by decide
  exact hall n h

/-- A control character has the number that its escape says. -/
theorem hex4?_of_control {c : Char} (h : c < ' ') :
    hex4? '0' '0' (hexChar (c.toNat / 16)) (hexChar (c.toNat % 16)) = some c.toNat := by
  have hlt : c.toNat < 32 := h
  have hzero : hexDigit? '0' = some 0 := by decide
  have hhigh := hexDigit?_hexChar (n := c.toNat / 16) (by omega)
  have hlow := hexDigit?_hexChar (n := c.toNat % 16) (by omega)
  have hsum : c.toNat / 16 * 16 + c.toNat % 16 = c.toNat := Nat.div_add_mod' _ _
  simp [hex4?, hzero, hhigh, hlow, hsum]

/-- A letter behind a backslash is read as the character that it denotes. -/
theorem readString_escaped {e x : Char} (h : escaped? e = some x) (he : e ≠ 'u')
    (acc cs : List Char) : readString acc ('\\' :: e :: cs) = readString (x :: acc) cs := by
  rw [readString.eq_def]
  simp [he, h]

/-- A control character is read from its number. -/
theorem readString_control {c : Char} (h : c < ' ') (acc cs : List Char) :
    readString acc
        (['\\', 'u', '0', '0', hexChar (c.toNat / 16), hexChar (c.toNat % 16)] ++ cs) =
      readString (c :: acc) cs := by
  have hlt : c.toNat < 32 := h
  -- a control character is no half of a surrogate pair, so it is read on its own
  have htrailing : isTrailing c.toNat = false := by
    simp only [isTrailing, Bool.and_eq_false_iff, decide_eq_false_iff_not]
    omega
  have hleading : isLeading c.toNat = false := by
    simp only [isLeading, Bool.and_eq_false_iff, decide_eq_false_iff_not]
    omega
  rw [readString.eq_def]
  simp [hex4?_of_control h, htrailing, hleading]

/-- A character that needs no escape is read as it stands. -/
theorem readString_plain {c : Char} (hquote : c ≠ '"') (hbackslash : c ≠ '\\')
    (hcontrol : ¬c < ' ') (acc cs : List Char) :
    readString acc (c :: cs) = readString (c :: acc) cs := by
  rw [readString.eq_def]
  simp only [hquote, hbackslash, hcontrol, if_false]

/-- A character is read from what is written for it. -/
theorem readString_escapeChar_append (acc : List Char) (c : Char) (cs : List Char) :
    readString acc (escapeChar c ++ cs) = readString (c :: acc) cs := by
  rcases escapeChar_cases c with ⟨e, hw, hr, hu⟩ | ⟨hw, hcontrol⟩ |
    ⟨hw, hquote, hbackslash, hcontrol⟩
  · rw [hw]
    exact readString_escaped hr hu acc cs
  · rw [hw]
    exact readString_control hcontrol acc cs
  · rw [hw]
    exact readString_plain hquote hbackslash hcontrol acc cs

/-! ## Strings -/

/-- A text is read up to the closing quote behind it and no further. -/
theorem readString_escape_append (acc text rest : List Char) :
    readString acc (text.flatMap escapeChar ++ '"' :: rest) = .ok (acc.reverse ++ text, rest) := by
  induction text generalizing acc with
  | nil =>
      rw [List.flatMap_nil, List.nil_append, readString.eq_def]
      simp
  | cons c text ih =>
      rw [List.flatMap_cons, List.append_assoc, readString_escapeChar_append, ih]
      simp

theorem toList_quote_append (s : String) (rest : List Char) :
    (quote s).toList ++ rest = '"' :: (s.toList.flatMap escapeChar ++ '"' :: rest) := by
  simp [quote, quoteChars]

theorem skipSpace_cons_of_not {c : Char} (h : isSpace c = false) (cs : List Char) :
    skipSpace (c :: cs) = c :: cs :=
  List.dropWhile_cons_of_neg (by simp [h])

/-- No blank stands before the opening quote of a text. -/
theorem skipSpace_quote_append (s : String) (rest : List Char) :
    skipSpace ((quote s).toList ++ rest) =
      '"' :: (s.toList.flatMap escapeChar ++ '"' :: rest) := by
  rw [toList_quote_append]
  exact skipSpace_cons_of_not (by decide) _

/-- A string value is read from its text, whatever the reader of arrays and objects may be. -/
theorem readWith_quote_append (steps : Nat) (inner : Option Reader) (s : String)
    (rest : List Char) :
    readWith steps inner ((quote s).toList ++ rest) = .ok (.string s, rest) := by
  simp only [readWith, skipSpace_quote_append]
  simp [readString_escape_append, Except.map, Char.isDigit]

end PageBridge.Json
