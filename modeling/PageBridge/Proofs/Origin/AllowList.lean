import PageBridge.Origin.AllowList
import PageBridge.Proofs.Text.Blank

/-!
# Allow-lists entry by entry

`isAllowed` looks at a list as a whole twice, once for an empty list and once for a universal pattern,
before it goes through the entries.  Neither look makes the entries depend on each other: a list admits
an origin exactly when one of its entries does alone (`isAllowed_eq_any`).  So a list counts as the set
of its entries, and an entry counts up to letter case and the blanks around it
(`isAllowed_by_entries`).
-/

namespace PageBridge.Origin

open PageBridge.Text

variable {origin : String}

/-! ## One entry -/

/-- Whether an entry admits an origin when it is the only one. -/
theorem isAllowed_singleton (origin pattern : String) :
    isAllowed origin [pattern] = (isUniversal pattern ||
      admits (normalize origin) (Parts.parse? (normalize origin).toList) pattern) := by
  cases h : isUniversal pattern <;> simp [isAllowed, h]

/-- The entries count one by one. -/
theorem isAllowed_eq_any (origin : String) (patterns : List String) :
    isAllowed origin patterns = patterns.any fun pattern => isAllowed origin [pattern] := by
  simp only [isAllowed_singleton]
  rw [isAllowed]
  cases hempty : patterns.isEmpty with
  | true => simp [List.isEmpty_iff.mp hempty]
  | false =>
      rw [if_neg Bool.false_ne_true]
      cases huniversal : patterns.any isUniversal with
      | true =>
          -- a universal pattern admits the origin in the second list of conditions, too
          obtain ⟨pattern, hmem, hp⟩ := List.any_eq_true.mp huniversal
          rw [if_pos rfl, eq_comm, List.any_eq_true]
          exact ⟨pattern, hmem, by rw [hp, Bool.true_or]⟩
      | false =>
          rw [if_neg Bool.false_ne_true]
          rw [Bool.eq_iff_iff, List.any_eq_true, List.any_eq_true]
          refine exists_congr fun pattern => and_congr_right fun hmem => ?_
          rw [Bool.eq_false_iff.mpr (List.any_eq_false.mp huniversal pattern hmem), Bool.false_or]

/-- An origin is admitted when some entry admits it alone. -/
theorem isAllowed_iff_exists {patterns : List String} :
    isAllowed origin patterns = true ↔ ∃ pattern ∈ patterns, isAllowed origin [pattern] = true := by
  rw [isAllowed_eq_any, List.any_eq_true]

/-- Two lists admit together what either admits. -/
theorem isAllowed_append (origin : String) (patterns others : List String) :
    isAllowed origin (patterns ++ others) =
      (isAllowed origin patterns || isAllowed origin others) := by
  rw [isAllowed_eq_any, List.any_append, ← isAllowed_eq_any, ← isAllowed_eq_any]

theorem isAllowed_cons (origin pattern : String) (patterns : List String) :
    isAllowed origin (pattern :: patterns) =
      (isAllowed origin [pattern] || isAllowed origin patterns) :=
  isAllowed_append origin [pattern] patterns

/-- More entries never admit less. -/
theorem isAllowed_mono {patterns others : List String} (hsub : patterns ⊆ others)
    (hallowed : isAllowed origin patterns = true) : isAllowed origin others = true := by
  obtain ⟨pattern, hmem, hp⟩ := isAllowed_iff_exists.mp hallowed
  exact isAllowed_iff_exists.mpr ⟨pattern, hsub hmem, hp⟩

/-! ## Spellings of an entry -/

/-- The universal pattern has no letters, so that it may be looked for in lower case. -/
theorem isUniversal_eq (pattern : String) :
    isUniversal pattern = (lowerAscii (trim pattern) == "*") := by
  rw [isUniversal, Bool.eq_iff_iff, beq_iff_eq, beq_iff_eq, ← String.toList_inj, ← String.toList_inj,
    toList_lowerAscii]
  generalize (trim pattern).toList = cs
  constructor
  · rintro rfl
    decide
  · intro hlower
    -- an asterisk is the lower case of no other character
    obtain ⟨c, rfl, hc⟩ := List.map_eq_singleton_iff.mp hlower
    rw [eq_of_toLower_eq (by decide) hc]
    decide

/-- An entry counts by its trimmed text in lower case. -/
theorem isAllowed_singleton_congr {pattern other : String}
    (hsame : lowerAscii (trim pattern) = lowerAscii (trim other)) :
    isAllowed origin [pattern] = isAllowed origin [other] := by
  rw [isAllowed_singleton, isAllowed_singleton, isUniversal_eq, isUniversal_eq, admits, admits, hsame]

/-- A blank entry admits nothing. -/
theorem isAllowed_singleton_of_blank {pattern : String} (hblank : blank pattern = true) :
    isAllowed origin [pattern] = false := by
  have hempty : lowerAscii (trim pattern) = "" := by rw [trim_of_blank hblank]; rfl
  rw [isAllowed_singleton, isUniversal_eq, admits, hempty]
  rfl

/-! ## Whole lists -/

/-- A list admits what its parts admit, whatever stands in which part and however often, and more
entries never admit less.  An entry may be written in other letter case or with other blanks around it,
and a blank one may be left out. -/
theorem isAllowed_by_entries (origin : String) :
    isAllowed origin [] = false ∧
    (∀ patterns others, isAllowed origin (patterns ++ others) =
      (isAllowed origin patterns || isAllowed origin others)) ∧
    (∀ patterns others, (∀ pattern, pattern ∈ patterns ↔ pattern ∈ others) →
      isAllowed origin patterns = isAllowed origin others) ∧
    (∀ patterns others, patterns ⊆ others → isAllowed origin patterns = true →
      isAllowed origin others = true) ∧
    (∀ before after pattern other,
      lowerAscii pattern = lowerAscii other ∨ trim pattern = trim other →
        isAllowed origin (before ++ pattern :: after) =
          isAllowed origin (before ++ other :: after)) ∧
    ∀ before after pattern, blank pattern = true →
      isAllowed origin (before ++ pattern :: after) = isAllowed origin (before ++ after) := by
  refine ⟨rfl, isAllowed_append origin, ?_, fun _ _ => isAllowed_mono, ?_, ?_⟩
  · intro patterns others hsame
    rw [Bool.eq_iff_iff]
    exact ⟨isAllowed_mono fun _ => (hsame _).mp, isAllowed_mono fun _ => (hsame _).mpr⟩
  · intro before after pattern other hspelled
    have hsame : lowerAscii (trim pattern) = lowerAscii (trim other) := by
      rcases hspelled with hcase | hblanks
      · rw [← trim_lowerAscii, hcase, trim_lowerAscii]
      · rw [hblanks]
    rw [isAllowed_append, isAllowed_append, isAllowed_cons, isAllowed_cons origin other,
      isAllowed_singleton_congr hsame]
  · intro before after pattern hblank
    rw [isAllowed_append, isAllowed_append, isAllowed_cons, isAllowed_singleton_of_blank hblank,
      Bool.false_or]

end PageBridge.Origin
