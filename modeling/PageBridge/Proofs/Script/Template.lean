import Mathlib.Data.List.Basic
import PageBridge.Installation.Request
import PageBridge.Proofs.Text.Literal
import PageBridge.Script.Bundled
import PageBridge.Script.Template

/-!
# The bootstrap templates filled in

Each template ends with a call whose arguments are literals that hold the placeholders, and it has no
percent sign but theirs.  So filling a template in puts other literals in their place and changes
nothing else: `fill_pageTemplate` for the page half, which has the namespace only, and
`fill_bridgeTemplate` for the bridge half, which has the key, too.  The namespace must not have a
percent sign itself, as it is filled in first, and an identifier has none.  The key may be any text,
also one that looks like a placeholder.
-/

namespace PageBridge.Script

open PageBridge.Text PageBridge.Text.Literal

theorem toList_namespaceMark : namespaceMark.toList = '%' :: ['N', 'S', '%'] := by
  rw [show namespaceMark = String.ofList ('%' :: ['N', 'S', '%']) from rfl, String.toList_ofList]

theorem toList_invokeKeyMark :
    invokeKeyMark.toList = '%' :: ['I', 'N', 'V', 'O', 'K', 'E', '_', 'K', 'E', 'Y', '%'] := by
  rw [show invokeKeyMark =
    String.ofList ('%' :: ['I', 'N', 'V', 'O', 'K', 'E', '_', 'K', 'E', 'Y', '%']) from rfl,
    String.toList_ofList]

section Mark

variable {mark : String} {rest : List Char} (hmark : mark.toList = '%' :: rest) (value : String)
include hmark

/-- A text without percent signs has no placeholder to fill. -/
theorem fillMark_of_not_mem {cs : List Char} (h : '%' ∉ cs) : fillMark mark value cs = cs := by
  rw [fillMark, hmark]
  exact replaceAll_of_not_mem _ _ _ h

/-- The first placeholder is filled by the body of the literal of the value. -/
theorem fillMark_append {before : List Char} (h : '%' ∉ before) (after : List Char) :
    fillMark mark value (before ++ (mark.toList ++ after)) =
      before ++ (escape value.toList ++ fillMark mark value after) := by
  rw [fillMark, fillMark, hmark, replaceAll_append_of_not_mem _ _ _ h, replaceAll_mark_append]

end Mark

/-- No escape of another character has a percent sign. -/
theorem not_mem_escapeChar {c : Char} (h : c ≠ '%') : '%' ∉ escapeChar c := by
  rw [escapeChar]
  split
  · decide
  split
  · decide
  split
  · decide
  split
  · decide
  · rw [List.mem_singleton]
    exact h.symm

/-- Escaping brings in no percent sign. -/
theorem not_mem_escape {cs : List Char} (h : '%' ∉ cs) : '%' ∉ escape cs := by
  rw [escape, List.mem_flatMap]
  rintro ⟨c, hc, hmem⟩
  exact not_mem_escapeChar (fun e => h (e ▸ hc)) hmem

/-- An identifier has no percent sign. -/
theorem not_mem_of_isIdentifier {s : String} (h : Installation.isIdentifier s = true) :
    '%' ∉ s.toList := by
  intro hmem
  rw [Installation.isIdentifier] at h
  cases hs : s.toList with
  | nil =>
      rw [hs] at hmem
      cases hmem
  | cons c cs =>
      rw [hs] at hmem
      simp only [hs, Bool.and_eq_true, List.all_eq_true] at h
      obtain ⟨hc, hcs⟩ := h
      rcases List.mem_cons.mp hmem with rfl | hmem
      · exact absurd hc (by decide)
      · exact absurd (hcs '%' hmem) (by decide)

/-! ## Templates as skeletons -/

/-- A template up to the first of the literals that hold placeholders. -/
def stem (template : String) : String :=
  String.ofList (template.toList.takeWhile (· != '%')).dropLast

/-- The page half, with a gap for its one argument, the namespace. -/
def pageSkeleton : Skeleton := ⟨stem pageTemplate, [");\n"]⟩

/-- The bridge half, with gaps for its two arguments, the namespace and the invoke key. -/
def bridgeSkeleton : Skeleton := ⟨stem bridgeTemplate, [", ", ");\n"]⟩

/-- The stem has no placeholder. -/
theorem not_mem_stem (template : String) : '%' ∉ (stem template).toList := by
  rw [stem, String.toList_ofList]
  intro hmem
  have hall : (template.toList.takeWhile (· != '%')).all (· != '%') = true := List.all_takeWhile
  exact absurd (List.all_eq_true.mp hall '%' ((List.dropLast_sublist _).subset hmem)) (by decide)

/-- A template is its stem and what follows, when a literal opens right before its first percent
sign. -/
theorem toList_eq_stem_append {template : String} {tail : List Char}
    (hquote : (template.toList.takeWhile (· != '%')).getLast? = some '\'')
    (htail : template.toList.dropWhile (· != '%') = tail) :
    template.toList = (stem template).toList ++ '\'' :: tail := by
  rw [stem, String.toList_ofList, List.append_cons, ← htail]
  have hlast : (template.toList.takeWhile (· != '%')).dropLast ++ ['\''] =
      template.toList.takeWhile (· != '%') := List.dropLast_append_getLast? _ hquote
  rw [hlast, List.takeWhile_append_dropWhile]

-- the text is spelled out as a list of characters, one level deep for each of them
set_option maxRecDepth 10000 in
/-- The page half ends with a call that has the placeholder of the namespace in a literal. -/
theorem toList_pageTemplate :
    pageTemplate.toList =
      (stem pageTemplate).toList ++ '\'' :: (namespaceMark.toList ++ ['\'', ')', ';', '\n']) := by
  obtain ⟨cs, hcs, hquote, htail⟩ : ∃ cs, pageTemplate = String.ofList cs ∧
      (cs.takeWhile (· != '%')).getLast? = some '\'' ∧
      cs.dropWhile (· != '%') = ['%', 'N', 'S', '%'] ++ ['\'', ')', ';', '\n'] :=
    ⟨_, rfl, by decide +kernel, by decide +kernel⟩
  rw [toList_namespaceMark]
  refine toList_eq_stem_append ?_ ?_
  · rw [hcs, String.toList_ofList, hquote]
  · rw [hcs, String.toList_ofList, htail]

-- as above, for a longer text
set_option maxRecDepth 10000 in
/-- The bridge half ends with a call that has the placeholders of the namespace and of the key in one
literal each. -/
theorem toList_bridgeTemplate :
    bridgeTemplate.toList =
      (stem bridgeTemplate).toList ++ '\'' :: (namespaceMark.toList ++
        (['\'', ',', ' ', '\''] ++ (invokeKeyMark.toList ++ ['\'', ')', ';', '\n']))) := by
  obtain ⟨cs, hcs, hquote, htail⟩ : ∃ cs, bridgeTemplate = String.ofList cs ∧
      (cs.takeWhile (· != '%')).getLast? = some '\'' ∧
      cs.dropWhile (· != '%') =
        ['%', 'N', 'S', '%'] ++ (['\'', ',', ' ', '\''] ++
          (['%', 'I', 'N', 'V', 'O', 'K', 'E', '_', 'K', 'E', 'Y', '%'] ++
            ['\'', ')', ';', '\n'])) :=
    ⟨_, rfl, by decide +kernel, by decide +kernel⟩
  rw [toList_namespaceMark, toList_invokeKeyMark]
  refine toList_eq_stem_append ?_ ?_
  · rw [hcs, String.toList_ofList, hquote]
  · rw [hcs, String.toList_ofList, htail]

/-! ## Filling the templates in -/

theorem toList_fill_pageSkeleton (nspace : String) :
    (pageSkeleton.fill [nspace]).toList =
      (stem pageTemplate).toList ++ '\'' :: (escape nspace.toList ++ ['\'', ')', ';', '\n']) := by
  rw [Skeleton.fill, pageSkeleton, Skeleton.fillFrom, Skeleton.fillFrom_nil]
  simp [toList_quote]

theorem toList_fill_bridgeSkeleton (nspace key : String) :
    (bridgeSkeleton.fill [nspace, key]).toList =
      (stem bridgeTemplate).toList ++ '\'' :: (escape nspace.toList ++
        (['\'', ',', ' ', '\''] ++ (escape key.toList ++ ['\'', ')', ';', '\n']))) := by
  rw [Skeleton.fill, bridgeSkeleton, Skeleton.fillFrom, Skeleton.fillFrom, Skeleton.fillFrom_nil]
  simp [toList_quote]

/-- The template itself has the placeholder in the gap. -/
theorem pageTemplate_eq_fill : pageTemplate = pageSkeleton.fill [namespaceMark] := by
  apply String.toList_injective
  rw [toList_pageTemplate, toList_fill_pageSkeleton, toList_namespaceMark]
  rfl

/-- The template itself has the placeholders in the gaps. -/
theorem bridgeTemplate_eq_fill :
    bridgeTemplate = bridgeSkeleton.fill [namespaceMark, invokeKeyMark] := by
  apply String.toList_injective
  rw [toList_bridgeTemplate, toList_fill_bridgeSkeleton, toList_namespaceMark, toList_invokeKeyMark]
  rfl

/-- The end of a template has no placeholder. -/
theorem fillMark_closing {mark : String} {rest : List Char} (hmark : mark.toList = '%' :: rest)
    (value : String) :
    fillMark mark value ['\'', ')', ';', '\n'] = ['\'', ')', ';', '\n'] :=
  fillMark_of_not_mem hmark value (by decide)

variable {nspace : String}

/-- The page half is its template with the namespace for the placeholder, whatever the key is. -/
theorem fill_pageTemplate (h : Installation.isIdentifier nspace = true) (key : String) :
    fill pageTemplate nspace key = pageSkeleton.fill [nspace] := by
  have hbefore : '%' ∉ (stem pageTemplate).toList ++ ['\''] := by
    simp [not_mem_stem]
  have hfilled : '%' ∉ (pageSkeleton.fill [nspace]).toList := by
    rw [toList_fill_pageSkeleton]
    simp [not_mem_stem, not_mem_escape (not_mem_of_isIdentifier h)]
  have hnspace : fillMark namespaceMark nspace pageTemplate.toList =
      (pageSkeleton.fill [nspace]).toList := by
    rw [toList_pageTemplate, toList_fill_pageSkeleton, List.append_cons,
      fillMark_append toList_namespaceMark nspace hbefore, fillMark_closing toList_namespaceMark,
      ← List.append_cons]
  -- no percent sign is left for the key to fill
  rw [fill, hnspace, fillMark_of_not_mem toList_invokeKeyMark key hfilled, String.ofList_toList]

/-- The bridge half is its template with the namespace and the key for the placeholders. -/
theorem fill_bridgeTemplate (h : Installation.isIdentifier nspace = true) (key : String) :
    fill bridgeTemplate nspace key = bridgeSkeleton.fill [nspace, key] := by
  have hbefore : '%' ∉ (stem bridgeTemplate).toList ++ ['\''] := by
    simp [not_mem_stem]
  -- after the first filling no percent sign stands before the placeholder of the key
  have hbetween : '%' ∉ (stem bridgeTemplate).toList ++
      '\'' :: (escape nspace.toList ++ ['\'', ',', ' ', '\'']) := by
    simp [not_mem_stem, not_mem_escape (not_mem_of_isIdentifier h)]
  -- the placeholder of the key is none of the namespace
  have hkept : fillMark namespaceMark nspace
      (['\'', ',', ' ', '\''] ++ (invokeKeyMark.toList ++ ['\'', ')', ';', '\n'])) =
        ['\'', ',', ' ', '\''] ++ (invokeKeyMark.toList ++ ['\'', ')', ';', '\n']) := by
    rw [fillMark, toList_namespaceMark, toList_invokeKeyMark]
    rfl
  have hassoc (rest : List Char) :
      (stem bridgeTemplate).toList ++
          '\'' :: (escape nspace.toList ++ (['\'', ',', ' ', '\''] ++ rest)) =
        (stem bridgeTemplate).toList ++
          '\'' :: (escape nspace.toList ++ ['\'', ',', ' ', '\'']) ++ rest := by
    simp
  apply String.toList_injective
  rw [fill, String.toList_ofList, toList_fill_bridgeSkeleton, toList_bridgeTemplate,
    List.append_cons, fillMark_append toList_namespaceMark nspace hbefore, hkept,
    ← List.append_cons, hassoc, fillMark_append toList_invokeKeyMark key hbetween,
    fillMark_closing toList_invokeKeyMark, ← hassoc]

end PageBridge.Script
