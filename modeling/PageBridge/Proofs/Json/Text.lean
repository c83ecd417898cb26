import PageBridge.Json.Render

/-!
# Texts of values

A value is written by appending to what was written before.  `chars` is the text of a value on its
own, piece by piece as the value is made, and `toList_render` says that this is what is written.
-/

namespace PageBridge.Json.Value

mutual

/-- The characters of the text of a value. -/
def chars : Value → List Char
  | .null => ['n', 'u', 'l', 'l']
  | .bool true => ['t', 'r', 'u', 'e']
  | .bool false => ['f', 'a', 'l', 's', 'e']
  | .number n => n.render.toList
  | .string s => (quote s).toList
  | .array [] => ['[', ']']
  | .array (v :: vs) => '[' :: (chars v ++ (itemChars vs ++ [']']))
  | .object [] => ['{', '}']
  | .object ((k, v) :: ms) =>
    '{' :: ((quote k).toList ++ ':' :: (chars v ++ (memberChars ms ++ ['}'])))

/-- The characters of the texts of values, a comma before each. -/
def itemChars : List Value → List Char
  | [] => []
  | v :: vs => ',' :: (chars v ++ itemChars vs)

/-- The characters of the texts of members, a comma before each. -/
def memberChars : List (String × Value) → List Char
  | [] => []
  | (k, v) :: ms => ',' :: ((quote k).toList ++ ':' :: (chars v ++ memberChars ms))

end

mutual

/-- Writing a value appends its characters. -/
theorem toList_write (acc : String) : ∀ v, (write acc v).toList = acc.toList ++ chars v
  | .null => String.toList_append
  | .bool true => String.toList_append
  | .bool false => String.toList_append
  | .number n => String.toList_append
  | .string s => String.toList_append
  | .array [] => String.toList_append
  | .array (v :: vs) => by
      rw [write, String.toList_push, toList_writeItems, toList_write]
      simp [chars]
  | .object [] => String.toList_append
  | .object ((k, v) :: ms) => by
      rw [write, String.toList_push, toList_writeMembers, toList_write]
      simp [chars]

theorem toList_writeItems (acc : String) :
    ∀ vs, (writeItems acc vs).toList = acc.toList ++ itemChars vs
  | [] => by simp [writeItems, itemChars]
  | v :: vs => by
      rw [writeItems, toList_writeItems, toList_write]
      simp [itemChars]

theorem toList_writeMembers (acc : String) :
    ∀ ms, (writeMembers acc ms).toList = acc.toList ++ memberChars ms
  | [] => by simp [writeMembers, memberChars]
  | (k, v) :: ms => by
      rw [writeMembers, toList_writeMembers, toList_write]
      simp [memberChars]

end

/-- The text of a value is what is written for it. -/
theorem toList_render (v : Value) : v.render.toList = chars v := by
  rw [render, toList_write]
  rfl

/-! ## Lengths -/

/-- Every item takes a comma, so there are no more items than characters. -/
theorem length_le_itemChars (vs : List Value) : vs.length ≤ (itemChars vs).length := by
  induction vs with
  | nil => exact Nat.le_refl 0
  | cons v vs ih =>
      simp only [itemChars, List.length_cons, List.length_append]
      omega

/-- Every member takes a comma, so there are no more members than characters. -/
theorem length_le_memberChars (ms : List (String × Value)) :
    ms.length ≤ (memberChars ms).length := by
  induction ms with
  | nil => exact Nat.le_refl 0
  | cons m ms ih =>
      simp only [memberChars, List.length_cons, List.length_append]
      omega

/-- The text of an item is a part of the text of the items. -/
theorem length_chars_le_itemChars {v : Value} {vs : List Value} (h : v ∈ vs) :
    (chars v).length ≤ (itemChars vs).length := by
  induction vs with
  | nil => cases h
  | cons w vs ih =>
      simp only [itemChars, List.length_cons, List.length_append]
      rcases List.mem_cons.mp h with rfl | hmem
      · omega
      · have hlater := ih hmem
        omega

/-- The text of the value of a member is a part of the text of the members. -/
theorem length_chars_le_memberChars {m : String × Value} {ms : List (String × Value)}
    (h : m ∈ ms) : (chars m.2).length ≤ (memberChars ms).length := by
  induction ms with
  | nil => cases h
  | cons n ms ih =>
      simp only [memberChars, List.length_cons, List.length_append]
      rcases List.mem_cons.mp h with rfl | hmem
      · omega
      · have hlater := ih hmem
        omega

/-- The opening bracket is as long as the comma that the first item does without. -/
theorem length_itemChars_le (vs : List Value) :
    (itemChars vs).length ≤ (chars (.array vs)).length := by
  cases vs with
  | nil => exact Nat.zero_le _
  | cons v vs =>
      simp only [chars, itemChars, List.length_cons, List.length_append]
      omega

/-- The opening brace is as long as the comma that the first member does without. -/
theorem length_memberChars_le (ms : List (String × Value)) :
    (memberChars ms).length ≤ (chars (.object ms)).length := by
  cases ms with
  | nil => exact Nat.zero_le _
  | cons m ms =>
      simp only [chars, memberChars, List.length_cons, List.length_append]
      omega

end PageBridge.Json.Value
