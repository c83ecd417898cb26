import Mathlib.Tactic.SplitIfs
import PageBridge.Json.Parse
import PageBridge.Proofs.Json.Members

/-!
# Values that the reader makes

What holds of every value that is read from a text, whatever the text is.  `Made` says once what one
step of the reader can make, and `sound_of_readValue` follows by induction on the depth that is left:
no value is nested deeper than that, its integers fit 64 bits, and the keys of its objects ascend.
-/

namespace PageBridge.Json

open Value

/-! ## Numbers -/

/-- The integers that a reader of numbers gives fit 64 bits. -/
def FitsWord (read : Read Number) : Prop :=
  ∀ n rest, read = .ok (n, rest) → n.isInt = true → n.fitsWord = true

theorem fitsWord_error (fault : Fault) : FitsWord (.error fault) :=
  fun _ _ h => nomatch h

theorem fitsWord_double (x : Double) (rest : List Char) : FitsWord (.ok (.double x, rest)) := by
  rintro n _ h hint
  cases h
  cases hint

/-- A significand with an exponent is read as a double. -/
theorem fitsWord_scaled (negative : Bool) (significand : Nat) (exponent : Int) (rest : List Char) :
    FitsWord (scaled negative significand exponent rest) := by
  rw [scaled]
  split
  · exact fitsWord_double _ _
  · exact fitsWord_error _

/-- A number with an exponent is read as a double, or refused, however many digits the exponent
has. -/
theorem fitsWord_exponentDigits (negative : Bool) (significand : Nat) (start : Int) (up : Bool)
    (value : Nat) (cs : List Char) :
    FitsWord (exponentDigits negative significand start up value cs) := by
  induction cs generalizing value with
  | nil => exact fitsWord_scaled _ _ _ _
  | cons c cs ih =>
      rw [exponentDigits]
      split_ifs
      · exact ih _
      · exact fitsWord_error _
      · exact fitsWord_double _ _
      · exact fitsWord_scaled _ _ _ _
      · exact fitsWord_scaled _ _ _ _

/-- No integer is written with an exponent. -/
theorem fitsWord_readExponent (negative : Bool) (significand : Nat) (start : Int) (cs : List Char) :
    FitsWord (readExponent negative significand start cs) := by
  unfold readExponent
  dsimp only
  split
  · exact fitsWord_error _
  · split_ifs
    · exact fitsWord_exponentDigits _ _ _ _ _ _
    · exact fitsWord_error _

/-- No integer is written with a fraction or more digits than fit, with an exponent behind or
not. -/
theorem fitsWord_readTail (negative : Bool) (significand : Nat) (exponent : Int) (cs : List Char) :
    FitsWord (readTail negative significand exponent cs) := by
  unfold readTail
  split
  · exact fitsWord_readExponent _ _ _ _
  · exact fitsWord_readExponent _ _ _ _
  · exact fitsWord_scaled _ _ _ _

/-- No integer is written with a point. -/
theorem fitsWord_readFraction (negative : Bool) (significand : Nat) (exponent : Int)
    (cs : List Char) : FitsWord (readFraction negative significand exponent cs) := by
  unfold readFraction
  dsimp only
  split_ifs
  · split <;> exact fitsWord_error _
  · exact fitsWord_readTail _ _ _ _

/-- A significand below the bound makes an integer that fits, or a double. -/
theorem fitsWord_integer (negative : Bool) {significand : Nat} (h : significand < significandBound)
    (rest : List Char) : FitsWord (.ok (integer negative significand, rest)) := by
  rintro n _ hn hint
  cases hn
  have hbound : significandBound = twoTo 64 := rfl
  unfold integer at hint ⊢
  split_ifs at hint ⊢ with hnegative hsmall
  · simp only [Number.fitsWord, Bool.and_eq_true, decide_eq_true_eq]
    omega
  · cases hint
  · simp only [Number.fitsWord, Bool.and_eq_true, decide_eq_true_eq]
    omega

/-- Of all that can follow the digits of a number only its end makes an integer. -/
theorem fitsWord_readAfterDigits (negative : Bool) {significand : Nat}
    (h : significand < significandBound) (cs : List Char) :
    FitsWord (readAfterDigits negative significand cs) := by
  unfold readAfterDigits
  split
  · exact fitsWord_readFraction _ _ _ _
  · exact fitsWord_readExponent _ _ _ _
  · exact fitsWord_readExponent _ _ _ _
  · split_ifs
    · dsimp only
      split
      · exact fitsWord_readFraction _ _ _ _
      · exact fitsWord_readTail _ _ _ _
    · exact fitsWord_integer negative h _

/-- Digits are gathered below the bound only. -/
theorem gather_lt {significand : Nat} (h : significand < significandBound) (count : Nat)
    (cs : List Char) : (gather significand count cs).1 < significandBound := by
  induction cs generalizing significand count with
  | nil => exact h
  | cons c cs ih =>
      rw [gather]
      split_ifs with hnext
      · simp only [Bool.and_eq_true, decide_eq_true_eq] at hnext
        exact ih hnext.2 (count + 1)
      · exact h

/-- A single digit is below the bound of a significand. -/
theorem digit_lt {c : Char} (h : c.isDigit = true) : digit c < significandBound := by
  have hbound : '9'.toNat < significandBound := by decide
  simp only [Char.isDigit, Bool.and_eq_true, decide_eq_true_eq] at h
  have hle : c.toNat ≤ '9'.toNat := h.2
  rw [digit]
  omega

/-- Every integer that is read from a text fits 64 bits. -/
theorem fitsWord_readNumber (negative : Bool) (cs : List Char) :
    FitsWord (readNumber negative cs) := by
  cases cs with
  | nil => exact fitsWord_error _
  | cons c cs =>
      rw [readNumber]
      split_ifs with hzero hlater hdigit
      · exact fitsWord_error _
      · exact fitsWord_readAfterDigits negative (by decide) cs
      · exact fitsWord_readAfterDigits negative (gather_lt (digit_lt hdigit) 0 cs) _
      · exact fitsWord_error _

/-! ## One step -/

/-- A reader gives a value for some text. -/
def Gives (read : Reader) (v : Value) : Prop :=
  ∃ cs rest, read cs = .ok (v, rest)

/-- What the reader of values makes in one step, of parts that the inner reader gives. -/
inductive Made (inner : Option Reader) : Value → Prop where
  | null : Made inner .null
  | bool (b : Bool) : Made inner (.bool b)
  | string (s : String) : Made inner (.string s)
  | number {negative : Bool} {cs rest : List Char} {n : Number}
      (h : readNumber negative cs = .ok (n, rest)) : Made inner (.number n)
  | array {read : Reader} {items : List Value} (hinner : inner = some read)
      (h : ∀ v ∈ items, Gives read v) : Made inner (.array items)
  | object {read : Reader} {members : List (String × Value)} (hinner : inner = some read)
      (h : ∀ m ∈ members, Gives read m.2) : Made inner (.ofMembers members)

section Parts

variable {α β : Type} {read : Reader} {cs rest : List Char}

/-- Of two readers in a row both succeed if the whole does. -/
theorem exists_of_bind_eq_ok {x : Except Fault α} {f : α → Except Fault β} {b : β}
    (h : x.bind f = .ok b) : ∃ a, x = .ok a ∧ f a = .ok b := by
  cases x with
  | error fault => cases h
  | ok a => exact ⟨a, rfl, h⟩

/-- A reader succeeds if what is made of its result is there. -/
theorem exists_of_map_eq_ok {x : Except Fault α} {f : α → β} {b : β} (h : x.map f = .ok b) :
    ∃ a, x = .ok a ∧ f a = b := by
  cases x with
  | error fault => cases h
  | ok a => exact ⟨a, rfl, Except.ok.inj h⟩

/-- Every further item of an array is one that the inner reader gives. -/
theorem gives_moreItems {steps : Nat} {acc items : List Value} (hacc : ∀ v ∈ acc, Gives read v)
    (h : moreItems read steps acc cs = .ok (items, rest)) : ∀ v ∈ items, Gives read v := by
  -- over the steps that are left, with whatever was read so far
  induction steps generalizing acc cs with
  | zero => cases h
  | succ steps ih =>
      rw [moreItems] at h
      split at h
      · cases h
      · split_ifs at h
        · cases h
          exact fun v hv => hacc v (List.mem_reverse.mp hv)
        · split at h
          · cases h
          · split_ifs at h
            split at h
            · next v after hv => exact ih (List.forall_mem_cons.mpr ⟨⟨_, _, hv⟩, hacc⟩) h
            · cases h

/-- Every item of an array is one that the inner reader gives. -/
theorem gives_readItems {steps : Nat} {items : List Value}
    (h : readItems read steps cs = .ok (items, rest)) : ∀ v ∈ items, Gives read v := by
  rw [readItems] at h
  split at h
  · cases h
  · split_ifs at h
    · cases h
      exact fun v hv => nomatch hv
    · split at h
      · next v after hv => exact gives_moreItems (List.forall_mem_singleton.mpr ⟨_, _, hv⟩) h
      · cases h

/-- The value of a member is one that the inner reader gives. -/
theorem gives_readMember {m : String × Value} (h : readMember read cs = .ok (m, rest)) :
    Gives read m.2 := by
  -- the key and the colon are read first, and only the value comes from the inner reader
  obtain ⟨⟨key, afterKey⟩, -, h⟩ := exists_of_bind_eq_ok h
  dsimp only at h
  obtain ⟨⟨colon, afterColon⟩, -, h⟩ := exists_of_bind_eq_ok h
  obtain ⟨⟨v, after⟩, hv, hm⟩ := exists_of_map_eq_ok h
  cases hm
  exact ⟨_, _, hv⟩

/-- The value of every further member of an object is one that the inner reader gives. -/
theorem gives_moreMembers {steps : Nat} {acc members : List (String × Value)}
    (hacc : ∀ m ∈ acc, Gives read m.2)
    (h : moreMembers read steps acc cs = .ok (members, rest)) : ∀ m ∈ members, Gives read m.2 := by
  induction steps generalizing acc cs with
  | zero => cases h
  | succ steps ih =>
      rw [moreMembers] at h
      split at h
      · cases h
      · split_ifs at h
        · cases h
          exact fun m hm => hacc m (List.mem_reverse.mp hm)
        · split at h
          · cases h
          · split_ifs at h
            split at h
            · next m after hm =>
                exact ih (List.forall_mem_cons.mpr ⟨gives_readMember hm, hacc⟩) h
            · cases h

/-- The value of every member of an object is one that the inner reader gives. -/
theorem gives_readMembers {steps : Nat} {members : List (String × Value)}
    (h : readMembers read steps cs = .ok (members, rest)) : ∀ m ∈ members, Gives read m.2 := by
  rw [readMembers] at h
  split at h
  · cases h
  · split_ifs at h
    · cases h
      exact fun m hm => nomatch hm
    · split at h
      · next m after hm =>
          exact gives_moreMembers (List.forall_mem_singleton.mpr (gives_readMember hm)) h
      · cases h

/-- A word stands for one value only. -/
theorem eq_of_readWord {result v : α} {word : List Char} (h : readWord result word cs = .ok (v, rest)) :
    v = result := by
  induction word generalizing cs with
  | nil =>
      cases h
      rfl
  | cons w word ih =>
      cases cs with
      | nil => cases h
      | cons c cs =>
          rw [readWord] at h
          split_ifs at h
          exact ih h

/-- The reader makes nothing but what `Made` lists. -/
theorem made_of_readWith {steps : Nat} {inner : Option Reader} {v : Value}
    (h : readWith steps inner cs = .ok (v, rest)) : Made inner v := by
  rw [readWith] at h
  split at h
  · cases h
  · split_ifs at h
    · -- the first character decides which of the values is read
      exact eq_of_readWord h ▸ .null
    · exact eq_of_readWord h ▸ .bool true
    · exact eq_of_readWord h ▸ .bool false
    · obtain ⟨⟨n, after⟩, hn, hv⟩ := exists_of_map_eq_ok h
      cases hv
      exact .number hn
    · obtain ⟨⟨n, after⟩, hn, hv⟩ := exists_of_map_eq_ok h
      cases hv
      exact .number hn
    · obtain ⟨⟨s, after⟩, -, hv⟩ := exists_of_map_eq_ok h
      cases hv
      exact .string _
    · split at h
      · cases h
      · obtain ⟨⟨items, after⟩, hitems, hv⟩ := exists_of_map_eq_ok h
        cases hv
        exact .array rfl (gives_readItems hitems)
    · split at h
      · cases h
      · obtain ⟨⟨members, after⟩, hmembers, hv⟩ := exists_of_map_eq_ok h
        cases hv
        exact .object rfl (gives_readMembers hmembers)

end Parts

/-! ## Every depth -/

/-- A value is nested at most `d` deep, and it is plain if it holds no double. -/
structure Sound (d : Nat) (v : Value) : Prop where
  depth_le : depth v ≤ d
  isPlain : isIntegral v = true → isPlain v = true

/-- What the reader makes of sound parts is sound one level up. -/
theorem sound_of_made {inner : Option Reader} {d : Nat}
    (hinner : ∀ read, inner = some read → ∃ e, d = e + 1 ∧ ∀ v, Gives read v → Sound e v)
    {v : Value} (h : Made inner v) : Sound d v := by
  cases h with
  | null | bool | string => exact ⟨Nat.zero_le d, fun _ => rfl⟩
  | number h => exact ⟨Nat.zero_le d, fitsWord_readNumber _ _ _ _ h⟩
  | @array read items hread h =>
      obtain ⟨e, rfl, hparts⟩ := hinner read hread
      constructor
      · exact depth_array_le_succ_iff.mpr fun v hv => (hparts v (h v hv)).depth_le
      · intro hintegral
        rw [isIntegral_array_iff] at hintegral
        exact isPlain_array_iff.mpr fun v hv => (hparts v (h v hv)).isPlain (hintegral v hv)
  | @object read members hread h =>
      obtain ⟨e, rfl, hparts⟩ := hinner read hread
      -- some of the members may be dropped, and with them what they hold
      obtain ⟨kept, hkept, hascend, hmem⟩ := exists_ofMembers members
      rw [hkept]
      constructor
      · exact depth_object_le_succ_iff.mpr fun m hm => (hparts m.2 (h m (hmem m hm))).depth_le
      · intro hintegral
        rw [isIntegral_object_iff] at hintegral
        exact isPlain_object_iff.mpr ⟨hascend, fun m hm =>
          (hparts m.2 (h m (hmem m hm))).isPlain (hintegral m hm)⟩

/-- Every value that is read is sound for the depth that the reader goes to. -/
theorem sound_of_readValue {steps d : Nat} {cs rest : List Char} {v : Value}
    (h : readValue steps d cs = .ok (v, rest)) : Sound d v := by
  induction d generalizing cs v rest with
  | zero =>
      refine sound_of_made (fun read hread => ?_) (made_of_readWith h)
      cases hread
  | succ d ih =>
      refine sound_of_made (fun read hread => ⟨d, rfl, ?_⟩) (made_of_readWith h)
      rintro v ⟨after, left, hv⟩
      -- the reader of the parts is the reader of one level less
      rw [← Option.some.inj hread] at hv
      exact ih hv

end PageBridge.Json
