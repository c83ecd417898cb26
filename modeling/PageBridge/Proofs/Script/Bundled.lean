import PageBridge.Proofs.Script.Resource
import PageBridge.Proofs.Text.Blank

/-!
# Bundled resources as a map

A resource is bundled under the normal form of a path and looked for under the normal form of another
one.  Normal forms stay as they are (`normalizePath_normalizePath`), and all spellings of a resource have
the same one (`normalizePath_qrc`).  So what a store has bundled is a map of normal forms: of the
resources that were bundled one after the other the last one with the normal form of a path is loaded,
and a path with another normal form is loaded as before (`load_insertAll`).
-/

namespace PageBridge.Script

open PageBridge.Text
open PageBridge.File (Disk)

/-! ## Normal forms -/

/-- What is taken off at the end does not change how a text starts, but that it may be empty. -/
theorem head?_dropRight_ne {p : Char → Bool} {c : Char} {cs : List Char} (h : cs.head? ≠ some c) :
    (dropRight p cs).head? ≠ some c := by
  obtain ⟨trail, htrail⟩ : dropRight p cs <+: cs := List.rdropWhile_prefix p cs
  cases hfront : dropRight p cs with
  | nil => simp
  | cons d front =>
      rw [hfront, List.cons_append] at htrail
      rwa [← htrail] at h

/-- Blanks around a path do not count for its normal form. -/
theorem normalizePath_trim (path : String) : normalizePath (trim path) = normalizePath path := by
  rw [normalizePath, normalizePath, trim_trim]

/-- A path with the mark of a resource keeps it, and blanks at its end are taken off. -/
theorem normalizePath_resource (rest : List Char) :
    normalizePath (String.ofList (resourceMark ++ rest)) =
      String.ofList (resourceMark ++ dropRight isBlank rest) := by
  have htrim : (trim (String.ofList (resourceMark ++ rest))).toList =
      resourceMark ++ dropRight isBlank rest := by
    -- the slash of the mark is no blank, so nothing is taken off before it
    have hfront : ∀ c ∈ [':'], isBlank c = false := by simp [isBlank]
    rw [toList_trim, String.toList_ofList]
    exact dropEnds_append_cons hfront (by decide) rest
  rw [← String.toList_inj, String.toList_ofList]
  exact (toList_normalizePath_iff _ _).mpr (.inl htrim)

/-- A path with `qrc:` and any number of slashes names the same resource as one with the mark. -/
theorem normalizePath_qrc (n : ℕ) {rest : List Char} (h : rest.head? ≠ some '/') :
    normalizePath (String.ofList (['q', 'r', 'c', ':'] ++ (List.replicate n '/' ++ rest))) =
      normalizePath (String.ofList (resourceMark ++ rest)) := by
  have hslashes : ∀ c ∈ List.replicate n '/', isBlank c = false := fun c hc => by
    rw [List.eq_of_mem_replicate hc]
    decide
  have htrim : (trim (String.ofList
      (['q', 'r', 'c', ':'] ++ (List.replicate n '/' ++ rest)))).toList =
        ['q', 'r', 'c', ':'] ++ (List.replicate n '/' ++ dropRight isBlank rest) := by
    have hfront : ∀ c ∈ ['q', 'r', 'c'], isBlank c = false := by simp [isBlank]
    rw [toList_trim, String.toList_ofList, ← dropRight_append_of_none hslashes]
    exact dropEnds_append_cons hfront (by decide) _
  rw [normalizePath_resource, ← String.toList_inj, String.toList_ofList]
  exact (toList_normalizePath_iff _ _).mpr (.inr ⟨head?_dropRight_ne h, n, htrim⟩)

/-- A path is trimmed, or it is spelled with `qrc:` and gets the mark of a resource instead. -/
theorem normalizePath_cases (path : String) :
    normalizePath path = trim path ∨
      ∃ spelled rest, trim path = String.ofList (['q', 'r', 'c', ':'] ++ spelled) ∧
        normalizePath path = String.ofList (resourceMark ++ dropRight isBlank rest) := by
  cases hdrop : dropStart? ['q', 'r', 'c', ':'] (trim path).toList with
  | none => exact .inl (by simp only [normalizePath, hdrop])
  | some spelled =>
      obtain ⟨hhead, n, hspelled⟩ := exists_replicate_append spelled
      have htrim : trim path = String.ofList (['q', 'r', 'c', ':'] ++ spelled) := by
        rw [← eq_append_of_dropStart? hdrop, String.ofList_toList]
      refine .inr ⟨spelled, spelled.dropWhile (· == '/'), htrim, ?_⟩
      generalize spelled.dropWhile (· == '/') = rest at hhead hspelled ⊢
      rw [← normalizePath_trim, htrim, hspelled, normalizePath_qrc n hhead, normalizePath_resource]

/-- A normal form is its own normal form. -/
theorem normalizePath_normalizePath (path : String) :
    normalizePath (normalizePath path) = normalizePath path := by
  rcases normalizePath_cases path with htrim | ⟨_, rest, -, hform⟩
  · rw [htrim, normalizePath_trim, htrim]
  -- a second time there is nothing to take off, and the mark is not `qrc:`
  · have hdone : dropRight isBlank (dropRight isBlank rest) = dropRight isBlank rest :=
      List.rdropWhile_idempotent isBlank rest
    rw [hform, normalizePath_resource, hdone]

/-- Only a blank path has an empty normal form. -/
theorem isEmpty_normalizePath (path : String) : (normalizePath path).isEmpty = blank path := by
  rw [Bool.eq_iff_iff, String.isEmpty_iff, ← trim_eq_empty_iff]
  rcases normalizePath_cases path with htrim | ⟨spelled, rest, htrim, hform⟩
  · rw [htrim]
  · rw [htrim, hform]
    simp [← String.toList_eq_nil_iff, resourceMark]

/-! ## Stores -/

namespace Store

/-- Bundling a resource puts it under its normal form and leaves every other key as it was. -/
theorem get?_insert (store : Store) (path source key : String) :
    (store.insert path source).bundled.get? key =
      if key = normalizePath path then some source else store.bundled.get? key :=
  Keyed.get?_set ..

/-- A path is bundled when there is something under its normal form. -/
theorem contains_eq (store : Store) (path : String) :
    store.contains path = (store.bundled.get? (normalizePath path)).isSome :=
  Keyed.has_eq ..

/-- What is loaded depends on the root and on what is bundled under the normal form of the path. -/
theorem load_congr {store store' : Store} {path : String} (hroot : store.root = store'.root)
    (hbundled : store.bundled.get? (normalizePath path) = store'.bundled.get? (normalizePath path))
    (disk : Disk) : store.load disk path = store'.load disk path := by
  have hlocate : store.locate (normalizePath path) = store'.locate (normalizePath path) := by
    rw [locate, locate, hroot]
  simp only [load, fetch, hbundled, hlocate]

/-- The store after resources were bundled one after the other. -/
def insertAll (resources : List (String × String)) (store : Store) : Store :=
  resources.foldl (fun store resource => store.insert resource.1 resource.2) store

/-- The last source that was given for the normal form of a path. -/
def lastSource? (path : String) (resources : List (String × String)) : Option String :=
  (resources.filter fun resource => normalizePath resource.1 = normalizePath path).getLast?.map (·.2)

/-- Bundling resources leaves the resource root as it is. -/
theorem root_insertAll (store : Store) (resources : List (String × String)) :
    (store.insertAll resources).root = store.root := by
  induction resources generalizing store with
  | nil => rfl
  | cons resource resources ih => exact ih (store.insert resource.1 resource.2)

/-- The last source counts, and what was bundled before where there is none. -/
theorem get?_insertAll (store : Store) (resources : List (String × String)) (path : String) :
    (store.insertAll resources).bundled.get? (normalizePath path) =
      (lastSource? path resources).or (store.bundled.get? (normalizePath path)) := by
  -- from the last resource back, as it is the one that counts
  induction resources using List.reverseRecOn with
  | nil => rfl
  | append_singleton resources resource ih =>
      -- the last resource is inserted into what the others made
      have hlast : store.insertAll (resources ++ [resource]) =
          (store.insertAll resources).insert resource.1 resource.2 := List.foldl_concat ..
      rw [hlast, get?_insert, ih, lastSource?, lastSource?, List.filter_append, List.filter_singleton]
      by_cases hsame : normalizePath resource.1 = normalizePath path
      · simp [hsame]
      · simp [hsame, Ne.symm hsame]

/-- A path that is not blank is served the last source of its normal form, and is loaded as before
where there is none. -/
theorem load_insertAll (store : Store) (resources : List (String × String)) {path : String}
    (hpath : blank path = false) (disk : Disk) :
    (store.insertAll resources).load disk path =
      (lastSource? path resources).elim (store.load disk path) .ok := by
  have hbundled := store.get?_insertAll resources path
  cases hlast : lastSource? path resources with
  | none =>
      rw [hlast, Option.none_or] at hbundled
      rw [Option.elim_none]
      exact load_congr (store.root_insertAll resources) hbundled disk
  | some source =>
      rw [hlast, Option.some_or] at hbundled
      rw [Option.elim_some]
      exact load_of_get? disk _ (by rw [isEmpty_normalizePath, hpath]) hbundled

/-- Bundled resources are a map of the normal forms of paths.  Normal forms are their own, and a resource
has the same one with `qrc:` and any number of slashes as with its mark.  In every store, whatever was
bundled before and whatever its root is, a resource bundled under a path that is not blank is found and
loaded under all paths of the same normal form, whatever files there are, and nothing changes under any
other path.  After a sequence of resources the last one with the normal form of a path is there, and the
store is as before under a path without one. -/
theorem bundled_by_normal_form (store : Store) {path : String} (hpath : blank path = false)
    (source : String) :
    (∀ path', normalizePath (normalizePath path') = normalizePath path') ∧
      (∀ n rest, rest.head? ≠ some '/' →
        normalizePath (String.ofList (['q', 'r', 'c', ':'] ++ (List.replicate n '/' ++ rest))) =
          normalizePath (String.ofList ([':', '/'] ++ rest))) ∧
      (∀ other, normalizePath other = normalizePath path →
        (store.insert path source).contains other = true ∧
          ∀ disk, (store.insert path source).load disk other = .ok source) ∧
      (∀ other, normalizePath other ≠ normalizePath path →
        (store.insert path source).contains other = store.contains other ∧
          ∀ disk, (store.insert path source).load disk other = store.load disk other) ∧
      ∀ resources other,
        (store.insertAll resources).contains other =
            ((lastSource? other resources).isSome || store.contains other) ∧
          (blank other = false → ∀ disk, (store.insertAll resources).load disk other =
            (lastSource? other resources).elim (store.load disk other) .ok) := by
  refine ⟨normalizePath_normalizePath, fun n rest hrest => normalizePath_qrc n hrest,
    fun other hsame => ?_, fun other hother => ?_, fun resources other => ⟨?_, fun hblank disk => ?_⟩⟩
  · have hbundled : (store.insert path source).bundled.get? (normalizePath other) = some source := by
      rw [get?_insert, if_pos hsame]
    have hfilled : (normalizePath other).isEmpty = false := by
      rw [hsame, isEmpty_normalizePath, hpath]
    exact ⟨by rw [contains_eq, hbundled, Option.isSome_some],
      fun disk => load_of_get? disk _ hfilled hbundled⟩
  · have hbundled : (store.insert path source).bundled.get? (normalizePath other) =
        store.bundled.get? (normalizePath other) := by
      rw [get?_insert, if_neg hother]
    exact ⟨by rw [contains_eq, contains_eq, hbundled], load_congr rfl hbundled⟩
  · rw [contains_eq, contains_eq, get?_insertAll, Option.isSome_or]
  · exact store.load_insertAll resources hblank disk

/-- A resource that is bundled with its mark is loaded with `qrc:` and white space around it, and the
bootstrap scripts are loaded as before. -/
theorem bundled_by_normal_form_alias :
    blank ":/app/x.js" = false ∧
      (∀ disk, (bootstrap.insert ":/app/x.js" "1").load disk " qrc:///app/x.js\n" = .ok "1") ∧
      ∀ disk, (bootstrap.insert ":/app/x.js" "1").load disk pageBootstrapPath =
        bootstrap.load disk pageBootstrapPath := by
  have hpath : blank ":/app/x.js" = false := by decide
  obtain ⟨-, -, hsame, hother, -⟩ := bundled_by_normal_form bootstrap hpath "1"
  exact ⟨hpath, (hsame _ (by decide)).2, (hother _ (by decide)).2⟩

end Store

end PageBridge.Script
