import PageBridge.Json.Value

/-!
# Plain values

Most values are plain: their numbers are integers that 64 bits hold, and the keys of their objects
ascend, so that no key stands twice.  `Value.induct` is induction over a value through the items of
its arrays and the members of its objects, and the laws beside it say what being plain and being
nested not too deep mean for these.
-/

namespace PageBridge.Json

/-- Whether a number is held as an integer. -/
def Number.isInt : Number → Bool
  | .int _ => true
  | .double _ => false

/-- Whether a number is an integer that 64 bits hold, with a sign or without. -/
def Number.fitsWord : Number → Bool
  | .int value => -(twoTo 63 : Nat) ≤ value && value < (twoTo 64 : Nat)
  | .double _ => false

namespace Value

/-- What holds of the values without parts, and of arrays and objects as soon as it holds of their
parts, holds of all values. -/
theorem induct {P : Value → Prop} (null : P .null) (bool : ∀ b, P (.bool b))
    (number : ∀ n, P (.number n)) (string : ∀ s, P (.string s))
    (array : ∀ items, (∀ v ∈ items, P v) → P (.array items))
    (object : ∀ members, (∀ m ∈ members, P m.2) → P (.object members)) : ∀ v, P v
  | .null => null
  | .bool b => bool b
  | .number n => number n
  | .string s => string s
  | .array items => array items fun v _ => induct null bool number string array object v
  | .object members => object members fun m _ => induct null bool number string array object m.2
-- the parts are reached through a list, so the recursion is on their size
decreasing_by
  · simp_wf
    have hv : sizeOf v < sizeOf items := List.sizeOf_lt_of_mem ‹_›
    omega
  · simp_wf
    have hm : sizeOf m < sizeOf members := List.sizeOf_lt_of_mem ‹_›
    have hsnd : sizeOf m = 1 + sizeOf m.1 + sizeOf m.2 := rfl
    omega

mutual

/-- Whether all numbers are integers that 64 bits hold and the keys of all objects ascend. -/
def isPlain : Value → Bool
  | .null | .bool _ | .string _ => true
  | .number n => n.fitsWord
  | .array items => itemsPlain items
  | .object members => decide (members.Pairwise fun a b => a.1 < b.1) && membersPlain members

/-- Whether all items of an array are plain. -/
def itemsPlain : List Value → Bool
  | [] => true
  | v :: vs => isPlain v && itemsPlain vs

/-- Whether the values of all members of an object are plain. -/
def membersPlain : List (String × Value) → Bool
  | [] => true
  | (_, v) :: ms => isPlain v && membersPlain ms

end

mutual

/-- Whether all numbers are held as integers. -/
def isIntegral : Value → Bool
  | .null | .bool _ | .string _ => true
  | .number n => n.isInt
  | .array items => itemsIntegral items
  | .object members => membersIntegral members

/-- Whether all numbers in the items of an array are held as integers. -/
def itemsIntegral : List Value → Bool
  | [] => true
  | v :: vs => isIntegral v && itemsIntegral vs

/-- Whether all numbers in the values of the members of an object are held as integers. -/
def membersIntegral : List (String × Value) → Bool
  | [] => true
  | (_, v) :: ms => isIntegral v && membersIntegral ms

end

mutual

/-- How deep arrays and objects are nested. -/
def depth : Value → Nat
  | .null | .bool _ | .number _ | .string _ => 0
  | .array items => itemsDepth items + 1
  | .object members => membersDepth members + 1

/-- How deep the items of an array are nested. -/
def itemsDepth : List Value → Nat
  | [] => 0
  | v :: vs => max (depth v) (itemsDepth vs)

/-- How deep the values of the members of an object are nested. -/
def membersDepth : List (String × Value) → Nat
  | [] => 0
  | (_, v) :: ms => max (depth v) (membersDepth ms)

end

/-! ## Laws -/

theorem itemsPlain_iff {vs : List Value} :
    itemsPlain vs = true ↔ ∀ v ∈ vs, isPlain v = true := by
  induction vs with
  | nil => simp [itemsPlain]
  | cons v vs ih => simp [itemsPlain, ih]

theorem membersPlain_iff {ms : List (String × Value)} :
    membersPlain ms = true ↔ ∀ m ∈ ms, isPlain m.2 = true := by
  induction ms with
  | nil => simp [membersPlain]
  | cons m ms ih => simp [membersPlain, ih]

/-- Items are as deep as the deepest of them. -/
theorem itemsDepth_le_iff {vs : List Value} {d : Nat} :
    itemsDepth vs ≤ d ↔ ∀ v ∈ vs, depth v ≤ d := by
  induction vs with
  | nil => simp [itemsDepth]
  | cons v vs ih => rw [itemsDepth, Nat.max_le, ih, List.forall_mem_cons]

/-- Members are as deep as the deepest of their values. -/
theorem membersDepth_le_iff {ms : List (String × Value)} {d : Nat} :
    membersDepth ms ≤ d ↔ ∀ m ∈ ms, depth m.2 ≤ d := by
  induction ms with
  | nil => simp [membersDepth]
  | cons m ms ih => rw [membersDepth, Nat.max_le, ih, List.forall_mem_cons]

theorem isPlain_array_iff {items : List Value} :
    isPlain (.array items) = true ↔ ∀ v ∈ items, isPlain v = true := by
  rw [isPlain, itemsPlain_iff]

/-- An object is plain if its keys ascend and the values of its members are plain. -/
theorem isPlain_object_iff {members : List (String × Value)} :
    isPlain (.object members) = true ↔
      (members.Pairwise fun a b => a.1 < b.1) ∧ ∀ m ∈ members, isPlain m.2 = true := by
  rw [isPlain, Bool.and_eq_true, decide_eq_true_eq, membersPlain_iff]

theorem isIntegral_array_iff {items : List Value} :
    isIntegral (.array items) = true ↔ ∀ v ∈ items, isIntegral v = true := by
  rw [isIntegral]
  induction items with
  | nil => simp [itemsIntegral]
  | cons v vs ih => simp [itemsIntegral, ih]

theorem isIntegral_object_iff {members : List (String × Value)} :
    isIntegral (.object members) = true ↔ ∀ m ∈ members, isIntegral m.2 = true := by
  rw [isIntegral]
  induction members with
  | nil => simp [membersIntegral]
  | cons m ms ih => simp [membersIntegral, ih]

/-- An array is one level deeper than its items. -/
theorem depth_array_le_succ_iff {items : List Value} {d : Nat} :
    depth (.array items) ≤ d + 1 ↔ ∀ v ∈ items, depth v ≤ d := by
  rw [depth, Nat.add_le_add_iff_right, itemsDepth_le_iff]

/-- An object is one level deeper than the values of its members. -/
theorem depth_object_le_succ_iff {members : List (String × Value)} {d : Nat} :
    depth (.object members) ≤ d + 1 ↔ ∀ m ∈ members, depth m.2 ≤ d := by
  rw [depth, Nat.add_le_add_iff_right, membersDepth_le_iff]

end Value

end PageBridge.Json
