import Mathlib.Data.List.Basic
import PageBridge.Url.Punycode

/-!
# Encoded labels are ASCII

An encoded label consists of the ASCII characters of the label, a hyphen, and digits.  The digits are
those of a base of 36, as no threshold exceeds `tMax` and what is added to one stays below the base.
-/

namespace PageBridge.Url.Punycode

/-- The output of an encoder so far is ASCII. -/
def Encoder.IsAscii (e : Encoder) : Prop :=
  ∀ c ∈ e.out, c.toNat < firstCode

theorem digitChar_lt {d : Nat} (h : d < base) : (digitChar d).toNat < firstCode := by
  revert d
  decide

/-- No threshold exceeds `tMax`. -/
theorem threshold_le (k bias : Nat) : threshold k bias ≤ tMax := by
  rw [threshold]
  split
  · decide
  · split
    · exact Nat.le_refl _
    · omega

/-- An integer is written in digits of the base. -/
theorem toNat_lt_of_mem_encodeInteger {steps q k bias : Nat} {c : Char}
    (h : c ∈ encodeInteger steps q k bias) : c.toNat < firstCode := by
  induction steps generalizing q k with
  | zero => cases h
  | succ steps ih =>
      have hthreshold : threshold k bias < base := Nat.lt_of_le_of_lt (threshold_le k bias) (by decide)
      rw [encodeInteger] at h
      by_cases hlast : q < threshold k bias
      · rw [if_pos hlast, List.mem_singleton] at h
        rw [h]
        exact digitChar_lt (Nat.lt_trans hlast hthreshold)
      · rw [if_neg hlast] at h
        rcases List.mem_cons.mp h with rfl | hmore
        · refine digitChar_lt ?_
          have hmod := Nat.mod_lt (q - threshold k bias) (Nat.sub_pos_of_lt hthreshold)
          omega
        · exact ih hmore

/-- Encoding one more character adds nothing but digits to the output. -/
theorem Encoder.IsAscii.step {e : Encoder} (h : e.IsAscii) (basic code : Nat) (c : Char) :
    (e.step basic code c).IsAscii := by
  rw [Encoder.step]
  split
  · exact h
  · split
    · intro d hd
      rcases List.mem_append.mp hd with hnew | hold
      · exact toNat_lt_of_mem_encodeInteger (List.mem_reverse.mp hnew)
      · exact h d hold
    · exact h

/-- The output stays ASCII over a walk through the label for one code point. -/
theorem Encoder.IsAscii.foldl {e : Encoder} (h : e.IsAscii) (basic code : Nat)
    (label : List Char) : (label.foldl (Encoder.step basic code) e).IsAscii := by
  induction label generalizing e with
  | nil => exact h
  | cons c label ih => exact ih (h.step basic code c)

/-- The output stays ASCII over all code points of the label. -/
theorem Encoder.IsAscii.encodeFrom {e : Encoder} (h : e.IsAscii) (label : List Char)
    (basic steps code : Nat) : (encodeFrom label basic steps code e).IsAscii := by
  induction steps generalizing code e with
  | zero => exact h
  | succ steps ih =>
      rw [Punycode.encodeFrom]
      split
      · exact h
      · case h_2 next _ =>
        have hfold := Encoder.IsAscii.foldl
          (e := { e with delta := e.delta + (next - code) * (e.handled + 1) }) h basic next label
        -- the delta that is added up between two code points is no output
        refine ih ?_ _
        exact hfold

/-- The encoding of a label is ASCII. -/
theorem toNat_lt_of_mem_encode {label : List Char} {c : Char} (h : c ∈ encode label) :
    c.toNat < firstCode := by
  rcases List.mem_append.mp h with hbasic | hdigits
  · split at hbasic
    · cases hbasic
    · rcases List.mem_append.mp hbasic with hplain | hhyphen
      · exact of_decide_eq_true (List.mem_filter.mp hplain).2
      · rw [List.mem_singleton.mp hhyphen]
        decide
  · have hempty : Encoder.IsAscii
        ⟨0, firstBias, (label.filter fun c => decide (c.toNat < firstCode)).length, []⟩ := by
      intro d hd
      cases hd
    exact hempty.encodeFrom label _ _ _ c (List.mem_reverse.mp hdigits)

end PageBridge.Url.Punycode
