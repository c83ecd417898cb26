import Mathlib.Data.List.TakeDrop
import Mathlib.Data.List.TakeWhile
import PageBridge.Text.Split

/-!
# Marks in a text

A text is cut at a mark, or a mark in it is replaced, by a walk over the text with what was passed
behind it.  The lemmas here say what such a walk does to the two kinds of pieces that a text is made
of: it passes over a piece without the first character of the mark, and it stops at the mark itself.
-/

namespace PageBridge.Text

/-- A start is taken off the text that it begins. -/
theorem dropStart?_append (start rest : List Char) :
    dropStart? start (start ++ rest) = some rest := by
  induction start with
  | nil => rfl
  | cons s start ih => rw [List.cons_append, dropStart?, if_pos rfl, ih]

theorem dropStart?_cons_of_ne {s c : Char} (h : s ≠ c) (start cs : List Char) :
    dropStart? (s :: start) (c :: cs) = none := by
  rw [dropStart?, if_neg h]

/-- A start is not taken off a text without its first character. -/
theorem dropStart?_of_not_mem {s : Char} {cs : List Char} (h : s ∉ cs) (start : List Char) :
    dropStart? (s :: start) cs = none := by
  cases cs with
  | nil => rfl
  | cons c cs =>
      have hc : s ≠ c := fun e => h (e ▸ List.mem_cons_self)
      exact dropStart?_cons_of_ne hc start cs

/-- Only a text with the given start has it taken off. -/
theorem eq_append_of_dropStart? {start cs rest : List Char} (h : dropStart? start cs = some rest) :
    cs = start ++ rest := by
  induction start generalizing cs with
  | nil => exact Option.some.inj h
  | cons s start ih =>
      cases cs with
      | nil => cases h
      | cons c cs =>
          rw [dropStart?] at h
          by_cases hc : s = c
          · rw [if_pos hc] at h
            rw [hc, ih h, List.cons_append]
          · rw [if_neg hc] at h
            cases h

/-! ## Cutting at a mark -/

section Cut

variable {m : Char} {mark : List Char}

/-- The walk passes over what has not the first character of the mark. -/
theorem cutAtFrom_append_of_not_mem {before : List Char} (h : m ∉ before) (passed cs : List Char) :
    cutAtFrom (m :: mark) passed (before ++ cs) =
      cutAtFrom (m :: mark) (before.reverse ++ passed) cs := by
  induction before generalizing passed with
  | nil => rfl
  | cons c before ih =>
      have hc : m ≠ c := fun e => h (e ▸ List.mem_cons_self)
      rw [List.cons_append, cutAtFrom, dropStart?_cons_of_ne hc]
      simp only
      rw [ih (fun hmem => h (List.mem_cons_of_mem c hmem)), List.reverse_cons, List.append_assoc,
        List.singleton_append]

/-- A text is cut at the first mark. -/
theorem cutAt?_append {before : List Char} (h : m ∉ before) (after : List Char) :
    cutAt? (m :: mark) (before ++ (m :: mark ++ after)) = some (before, after) := by
  rw [cutAt?, cutAtFrom_append_of_not_mem h, List.cons_append, cutAtFrom, ← List.cons_append,
    dropStart?_append, List.append_nil, List.reverse_reverse]

/-- The walk over a text without the first character of the mark finds no mark. -/
theorem cutAtFrom_of_not_mem {cs : List Char} (h : m ∉ cs) (passed : List Char) :
    cutAtFrom (m :: mark) passed cs = none := by
  rw [← List.append_nil cs, cutAtFrom_append_of_not_mem h]
  rfl

/-- A text without the first character of the mark is not cut. -/
theorem cutAt?_of_not_mem {cs : List Char} (h : m ∉ cs) : cutAt? (m :: mark) cs = none :=
  cutAtFrom_of_not_mem h []

/-- A text is not cut at the first character of the mark alone. -/
theorem cutAt?_append_of_head {before cs : List Char} (hbefore : m ∉ before) (hcs : m ∉ cs)
    (hhead : dropStart? mark cs = none) : cutAt? (m :: mark) (before ++ m :: cs) = none := by
  rw [cutAt?, cutAtFrom_append_of_not_mem hbefore, cutAtFrom, dropStart?, if_pos rfl, hhead]
  exact cutAtFrom_of_not_mem hcs _

end Cut

/-! ## Cutting at a character -/

section CutChar

variable {c : Char}

/-- A text is cut at the first of its characters that is the one looked for. -/
theorem cutFirst?_append {before : List Char} (h : c ∉ before) (after : List Char) :
    cutFirst? c (before ++ c :: after) = some (before, after) := by
  have hall : ∀ d ∈ before, decide (d ≠ c) = true := fun d hd =>
    decide_eq_true fun e => h (e ▸ hd)
  rw [cutFirst?, List.span_eq_takeWhile_dropWhile, List.takeWhile_append_of_pos hall,
    List.dropWhile_append_of_pos hall, List.takeWhile_cons_of_neg (by simp),
    List.dropWhile_cons_of_neg (by simp), List.append_nil]

theorem cutFirst?_of_not_mem {cs : List Char} (h : c ∉ cs) : cutFirst? c cs = none := by
  have hall : ∀ d ∈ cs, decide (d ≠ c) = true := fun d hd => decide_eq_true fun e => h (e ▸ hd)
  rw [cutFirst?, List.span_eq_takeWhile_dropWhile, List.dropWhile_eq_nil_iff.mpr hall]

/-- A text is cut at the last of its characters that is the one looked for. -/
theorem cutLast?_append {after : List Char} (h : c ∉ after) (before : List Char) :
    cutLast? c (before ++ c :: after) = some (before, after) := by
  -- the last one is the first one seen from the end
  have hrev : (before ++ c :: after).reverse = after.reverse ++ c :: before.reverse := by simp
  rw [cutLast?, hrev, cutFirst?_append (by simpa using h), Option.map_some]
  simp only [List.reverse_reverse]

theorem cutLast?_of_not_mem {cs : List Char} (h : c ∉ cs) : cutLast? c cs = none := by
  rw [cutLast?, cutFirst?_of_not_mem (by simpa using h), Option.map_none]

end CutChar

/-! ## Parts -/

section Parts

variable {p : Char → Bool}

/-- A character ends an empty part, or it belongs to the first one. -/
theorem splitOn_cons (p : Char → Bool) (c : Char) (cs : List Char) :
    splitOn p (c :: cs) =
      if p c then [] :: splitOn p cs else (splitOn p cs).modifyHead (c :: ·) := by
  rw [splitOn, splitOn, List.foldr_cons]
  generalize cs.foldr _ _ = split
  obtain ⟨part, parts⟩ := split
  by_cases h : p c
  · rw [if_pos h]
    simp only [h, if_true]
  · rw [if_neg h]
    simp only [h, if_false, Bool.false_eq_true, List.modifyHead_cons]

/-- What does not change where parts end may come before or after splitting. -/
theorem splitOn_map {f : Char → Char} (hf : ∀ c, p (f c) = p c) (cs : List Char) :
    splitOn p (cs.map f) = (splitOn p cs).map (List.map f) := by
  induction cs with
  | nil => rfl
  | cons c cs ih =>
      rw [List.map_cons, splitOn_cons, splitOn_cons, hf, ih]
      cases splitOn p cs <;> by_cases h : p c <;> simp [h]

/-- A character stands in a part if it does not end one. -/
theorem exists_mem_splitOn {c : Char} {cs : List Char} (hc : p c = false) (hmem : c ∈ cs) :
    ∃ part ∈ splitOn p cs, c ∈ part := by
  induction cs with
  | nil => cases hmem
  | cons d cs ih =>
      -- there always is a first part, which the character may be added to
      obtain ⟨part, parts, hparts⟩ : ∃ part parts, splitOn p cs = part :: parts := ⟨_, _, rfl⟩
      rw [splitOn_cons]
      rw [hparts] at ih ⊢
      by_cases hd : p d
      · rw [if_pos hd]
        have hcs : c ∈ cs := (List.mem_cons.mp hmem).resolve_left fun e => by
          rw [e, hd] at hc
          cases hc
        obtain ⟨other, hother, hin⟩ := ih hcs
        exact ⟨other, List.mem_cons_of_mem _ hother, hin⟩
      · rw [if_neg hd, List.modifyHead_cons]
        rcases List.mem_cons.mp hmem with rfl | hcs
        · exact ⟨c :: part, List.mem_cons_self, List.mem_cons_self⟩
        · obtain ⟨other, hother, hin⟩ := ih hcs
          rcases List.mem_cons.mp hother with rfl | hother
          · exact ⟨d :: other, List.mem_cons_self, List.mem_cons_of_mem d hin⟩
          · exact ⟨other, List.mem_cons_of_mem _ hother, hin⟩

/-- A character of a joined text is the mark, or it stands in a part. -/
theorem mem_joinWith {c mark : Char} {parts : List (List Char)} (h : c ∈ joinWith mark parts) :
    c = mark ∨ ∃ part ∈ parts, c ∈ part := by
  cases parts with
  | nil => cases h
  | cons part parts =>
      rcases List.mem_append.mp h with hpart | hrest
      · exact .inr ⟨part, List.mem_cons_self, hpart⟩
      · obtain ⟨other, hother, hmem⟩ := List.mem_flatMap.mp hrest
        rcases List.mem_cons.mp hmem with rfl | hmem
        · exact .inl rfl
        · exact .inr ⟨other, List.mem_cons_of_mem part hother, hmem⟩

end Parts

/-! ## Replacing a mark -/

/-- What is finished only stands in front. -/
theorem replaceFrom_eq (mark new done : List Char) (skip : Nat) (cs : List Char) :
    replaceFrom mark new done skip cs = done.reverse ++ replaceFrom mark new [] skip cs := by
  -- for every finished part, as an occurrence puts the new text behind it
  induction cs generalizing done skip with
  | nil => rw [replaceFrom, replaceFrom, List.reverse_nil, List.append_nil]
  | cons c cs ih =>
      cases skip with
      | succ skip =>
          rw [replaceFrom, replaceFrom]
          exact ih done skip
      | zero =>
          rw [replaceFrom, replaceFrom]
          by_cases h : (dropStart? mark (c :: cs)).isSome = true
          · rw [if_pos h, if_pos h, ih (new.reverse ++ done), ih (new.reverse ++ [])]
            simp
          · rw [if_neg h, if_neg h, ih (c :: done), ih [c]]
            simp

/-- The rest of an occurrence is passed over. -/
theorem replaceFrom_skip (mark new done passed cs : List Char) :
    replaceFrom mark new done passed.length (passed ++ cs) = replaceFrom mark new done 0 cs := by
  induction passed with
  | nil => rfl
  | cons p passed ih =>
      rw [List.length_cons, List.cons_append, replaceFrom]
      exact ih

variable (m : Char) (mark new : List Char)

/-- An occurrence of the mark becomes the new text. -/
theorem replaceAll_mark_append (cs : List Char) :
    replaceAll (m :: mark) new ((m :: mark) ++ cs) = new ++ replaceAll (m :: mark) new cs := by
  have hocc : (dropStart? (m :: mark) (m :: (mark ++ cs))).isSome = true := by
    rw [← List.cons_append, dropStart?_append]
    rfl
  rw [replaceAll, replaceAll, List.cons_append, replaceFrom, if_pos hocc, List.append_nil,
    List.length_cons, Nat.add_sub_cancel, replaceFrom_skip, replaceFrom_eq, List.reverse_reverse]

/-- A piece without the first character of the mark stays as it is. -/
theorem replaceAll_append_of_not_mem {before : List Char} (h : m ∉ before) (cs : List Char) :
    replaceAll (m :: mark) new (before ++ cs) = before ++ replaceAll (m :: mark) new cs := by
  induction before with
  | nil => rfl
  | cons c before ih =>
      have hc : m ≠ c := fun e => h (e ▸ List.mem_cons_self)
      have hocc : ¬ (dropStart? (m :: mark) (c :: (before ++ cs))).isSome = true := by
        rw [dropStart?_cons_of_ne hc]
        exact Bool.false_ne_true
      have hrest : replaceAll (m :: mark) new (before ++ cs) =
          before ++ replaceAll (m :: mark) new cs := ih fun e => h (List.mem_cons_of_mem c e)
      rw [List.cons_append, replaceAll, replaceFrom, if_neg hocc, replaceFrom_eq, List.cons_append,
        ← hrest]
      rfl

/-- A text without the first character of the mark stays as it is. -/
theorem replaceAll_of_not_mem {cs : List Char} (h : m ∉ cs) : replaceAll (m :: mark) new cs = cs := by
  have happ := replaceAll_append_of_not_mem m mark new h []
  rw [List.append_nil] at happ
  rw [happ, replaceAll, replaceFrom, List.reverse_nil, List.append_nil]

end PageBridge.Text
