import PageBridge.Proofs.Origin.AllowList
import PageBridge.Proofs.Url.Reading

/-!
# Normal forms of origin texts

A text that is no URL with an origin of its own is compared by its bare text, `bare`.  An entry of an
allow-list that is no wildcard pattern admits the origins that have the normal form of the entry.
-/

namespace PageBridge.Origin

open PageBridge.Text

/-- A text in lower case, without the blanks around it and without slashes at its end. -/
def bare (text : String) : String :=
  lowerAscii (String.ofList (dropRight (· == '/') (trim text).toList))

variable {text pattern origin : String}

/-- A text is compared by the origin of the URL that it is, and by its bare text if it is none. -/
theorem normalize_eq (text : String) : normalize text = (Url.extractOrigin text).getD (bare text) :=
  rfl

theorem toList_bare (text : String) :
    (bare text).toList = (dropRight (· == '/') (trim text).toList).map Char.toLower := by
  rw [bare, toList_lowerAscii, String.toList_ofList]

/-- Only slashes are taken off a trimmed text. -/
theorem mem_bare {c : Char} (hslash : c ≠ '/') (hmem : c ∈ (trim text).toList) :
    c.toLower ∈ (bare text).toList := by
  rw [toList_bare]
  exact List.mem_map_of_mem (mem_dropRight (beq_false_of_ne hslash) hmem)

/-- The bare text of an entry is the same before and after it was trimmed and put in lower case. -/
theorem bare_lowerAscii_trim (text : String) : bare (lowerAscii (trim text)) = bare text := by
  have hslash : ∀ c : Char, (c.toLower == '/') = (c == '/') := apply_toLower (· == '/') (by decide)
  rw [← String.toList_inj, toList_bare, toList_bare, trim_lowerAscii, trim_trim, toList_lowerAscii,
    dropRight_map hslash, map_toLower_map_toLower]

/-- An entry without an asterisk and a colon is no wildcard pattern. -/
theorem Wildcard.parse?_of_not_mem {cs : List Char} (hstar : '*' ∉ cs) (hcolon : ':' ∉ cs) :
    Wildcard.parse? cs = none := by
  rw [Wildcard.parse?, cutAt?_of_not_mem hcolon]
  simp only [dropStart?_of_not_mem hstar, Option.bind_none]

/-- An entry that is no wildcard pattern admits the origins of its own normal form. -/
theorem isAllowed_singleton_of_parse?_eq_none
    (hparse : Wildcard.parse? (lowerAscii (trim pattern)).toList = none)
    (huniversal : isUniversal pattern = false) (hfilled : lowerAscii (trim pattern) ≠ "") :
    isAllowed origin [pattern] = (normalize (lowerAscii (trim pattern)) == normalize origin) := by
  rw [isAllowed_singleton, huniversal, Bool.false_or, admits, hparse]
  simp [hfilled]

end PageBridge.Origin
