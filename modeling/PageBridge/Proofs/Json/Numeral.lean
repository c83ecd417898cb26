import PageBridge.Json.Render
import PageBridge.Json.Scan
import PageBridge.Proofs.Json.Plain

/-!
# Integers of a JSON text

An integer that 64 bits hold is read back from its decimal digits (`readNumber_toDigits_append`),
whatever follows that cannot go on with the number.  All its digits go into the significand, as no
first part of them reaches the bound that the whole number stays below (`gather_append`).
-/

namespace PageBridge.Json

/-- Whether a text cannot go on with a number: it starts with no digit, point or exponent. -/
def endsNumber : List Char → Bool
  | [] => true
  | c :: _ => !(c.isDigit || c == '.' || c == 'e' || c == 'E')

variable {rest : List Char}

/-- What ends a number does not go on with its digits. -/
theorem startsWithDigit_of_endsNumber (h : endsNumber rest = true) :
    startsWithDigit rest = false := by
  cases rest with
  | nil => rfl
  | cons c cs =>
      simp only [endsNumber, Bool.not_eq_true', Bool.or_eq_false_iff] at h
      exact h.1.1.1

/-- Nothing that ends a number is read as a part of it. -/
theorem readAfterDigits_of_endsNumber (h : endsNumber rest = true) (negative : Bool)
    (significand : Nat) :
    readAfterDigits negative significand rest = .ok (integer negative significand, rest) := by
  have hdigit := startsWithDigit_of_endsNumber h
  unfold readAfterDigits
  split
  · simp [endsNumber] at h
  · simp [endsNumber] at h
  · simp [endsNumber] at h
  · simp [hdigit]

/-! ## Digits -/

/-- Digits never make a significand smaller. -/
theorem le_ofDigitChars (ds : List Char) (significand : Nat) :
    significand ≤ Nat.ofDigitChars 10 ds significand := by
  induction ds generalizing significand with
  | nil => exact Nat.le_refl significand
  | cons d ds ih =>
      have hnext := ih (10 * significand + (d.toNat - '0'.toNat))
      rw [Nat.ofDigitChars_cons]
      omega

/-- Digits are all gathered when the number that they make stays below the bound. -/
theorem gather_append {ds : List Char} (hdigits : ∀ d ∈ ds, d.isDigit = true)
    (hrest : startsWithDigit rest = false) {significand : Nat} (count : Nat)
    (hbound : Nat.ofDigitChars 10 ds significand < significandBound) :
    gather significand count (ds ++ rest) =
      (Nat.ofDigitChars 10 ds significand, count + ds.length, rest) := by
  induction ds generalizing significand count with
  | nil =>
      cases rest with
      | nil => rfl
      | cons c cs =>
          have hc : c.isDigit = false := hrest
          simp [gather, hc, Nat.ofDigitChars]
  | cons d ds ih =>
      have hd : d.isDigit = true := hdigits d List.mem_cons_self
      have hnext : Nat.ofDigitChars 10 ds (significand * 10 + digit d) < significandBound := by
        rw [Nat.ofDigitChars_cons, Nat.mul_comm] at hbound
        exact hbound
      -- a first part of the digits makes no greater number than all of them
      have hbelow : significand * 10 + digit d < significandBound :=
        Nat.lt_of_le_of_lt (le_ofDigitChars ds _) hnext
      rw [List.cons_append, gather, hd, if_pos (by simpa using hbelow),
        ih (fun d hd => hdigits d (List.mem_cons_of_mem _ hd)) (count + 1) hnext,
        Nat.ofDigitChars_cons, Nat.mul_comm 10, List.length_cons, Nat.add_right_comm, Nat.add_assoc]
      rfl

/-! ## Integers -/

/-- Only zero is written with a zero as its first digit. -/
theorem toDigits_head_ne_zero {n : Nat} (h : 0 < n) :
    ∃ c cs, Nat.toDigits 10 n = c :: cs ∧ c ≠ '0' := by
  induction n using Nat.strongRecOn with
  | ind n ih =>
      by_cases hlt : n < 10
      · have hall : ∀ n < 10, 0 < n → n.digitChar ≠ '0' := by decide
        exact ⟨n.digitChar, [], Nat.toDigits_of_lt_base hlt, hall n hlt h⟩
      · obtain ⟨c, cs, hdigits, hc⟩ := ih (n / 10) (by omega) (by omega)
        refine ⟨c, cs ++ [(n % 10).digitChar], ?_, hc⟩
        rw [Nat.toDigits_of_base_le (by decide) (by omega), hdigits, List.cons_append]

/-- A number that 64 bits hold is read from its digits. -/
theorem readNumber_toDigits_append (negative : Bool) {n : Nat} (hbound : n < twoTo 64)
    (h : endsNumber rest = true) :
    readNumber negative (Nat.toDigits 10 n ++ rest) = .ok (integer negative n, rest) := by
  have hrest := startsWithDigit_of_endsNumber h
  rcases Nat.eq_zero_or_pos n with rfl | hpos
  · have hzero : Nat.toDigits 10 0 = ['0'] := by decide
    rw [hzero, List.singleton_append, readNumber, if_pos rfl, hrest]
    exact readAfterDigits_of_endsNumber h negative 0
  · obtain ⟨c, cs, hdigits, hc⟩ := toDigits_head_ne_zero hpos
    have hall : ∀ d ∈ c :: cs, d.isDigit = true := fun d hd =>
      Nat.isDigit_of_mem_toDigits (by decide) (by decide) (hdigits ▸ hd)
    -- the first digit is read on its own, and the others are gathered behind it
    have hvalue : Nat.ofDigitChars 10 cs (digit c) = n := by
      have htoDigits : Nat.ofDigitChars 10 (c :: cs) 0 = n := by
        rw [← hdigits]
        exact Nat.ofDigitChars_toDigits (by decide) (by decide)
      rw [Nat.ofDigitChars_cons, Nat.mul_zero, Nat.zero_add] at htoDigits
      exact htoDigits
    have hgather : gather (digit c) 0 (cs ++ rest) = (n, 0 + cs.length, rest) := by
      rw [gather_append (fun d hd => hall d (List.mem_cons_of_mem _ hd)) hrest 0
        (by rw [hvalue]; exact hbound), hvalue]
    rw [hdigits, List.cons_append, readNumber, if_neg hc, if_pos (hall c List.mem_cons_self),
      hgather]
    exact readAfterDigits_of_endsNumber h negative n

/-- The text of an integer is its digits, behind a sign if it is negative. -/
theorem toList_render_int (value : Int) :
    (Number.int value).render.toList =
      (if value < 0 then ['-'] else []) ++ Nat.toDigits 10 value.natAbs := by
  rw [Number.render, Int.toString_eq_repr, Int.repr_eq_if]
  by_cases h : value < 0
  · have habs : (-value).toNat = value.natAbs := by omega
    rw [if_neg (by omega), if_pos h, habs, String.toList_append, Nat.toList_repr]
    rfl
  · have habs : value.toNat = value.natAbs := by omega
    rw [if_pos (by omega), if_neg h, habs, Nat.toList_repr]
    rfl

/-- Every number is written with at least one digit. -/
theorem toDigits_eq_cons (n : Nat) :
    ∃ c cs, Nat.toDigits 10 n = c :: cs ∧ c.isDigit = true := by
  obtain ⟨c, cs, hdigits⟩ : ∃ c cs, Nat.toDigits 10 n = c :: cs :=
    List.exists_cons_of_length_pos Nat.length_toDigits_pos
  exact ⟨c, cs, hdigits, Nat.isDigit_of_mem_toDigits (by decide) (by decide)
    (hdigits ▸ List.mem_cons_self)⟩

/-- The text of an integer starts with a sign or with a digit. -/
theorem render_eq_cons {n : Number} (h : n.fitsWord = true) :
    ∃ c cs, n.render.toList = c :: cs ∧ (c = '-' ∨ c.isDigit = true) := by
  cases n with
  | double x => cases h
  | int value =>
      rw [toList_render_int]
      by_cases hneg : value < 0
      · rw [if_pos hneg]
        exact ⟨_, _, rfl, Or.inl rfl⟩
      · obtain ⟨c, cs, hdigits, hc⟩ := toDigits_eq_cons value.natAbs
        rw [if_neg hneg, hdigits]
        exact ⟨_, _, rfl, Or.inr hc⟩

/-- An integer is found again from its absolute value and its sign. -/
theorem integer_natAbs {value : Int} (h : (Number.int value).fitsWord = true) :
    integer (decide (value < 0)) value.natAbs = .int value := by
  simp only [Number.fitsWord, Bool.and_eq_true, decide_eq_true_eq] at h
  by_cases hneg : value < 0
  -- a negative one has a sign bit, so its absolute value reaches half as far
  · have hfits : 0 < value.natAbs ∧ value.natAbs ≤ twoTo 63 := by omega
    have hvalue : -(value.natAbs : Int) = value := by omega
    simp only [integer, hneg, hfits, hvalue, decide_true, and_self, if_true]
  · have hvalue : (value.natAbs : Int) = value := by omega
    simp only [integer, hneg, hvalue, decide_false, Bool.false_eq_true, if_false]

/-- The absolute value of an integer that 64 bits hold stays below the bound of a significand. -/
theorem natAbs_lt_of_fitsWord {value : Int} (h : (Number.int value).fitsWord = true) :
    value.natAbs < twoTo 64 := by
  have hbounds : twoTo 63 < twoTo 64 := by decide
  simp only [Number.fitsWord, Bool.and_eq_true, decide_eq_true_eq] at h
  omega

end PageBridge.Json
