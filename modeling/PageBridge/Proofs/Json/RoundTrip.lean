import PageBridge.Proofs.Json.Members
import PageBridge.Proofs.Json.Numeral
import PageBridge.Proofs.Json.Quoted
import PageBridge.Proofs.Json.Text

/-!
# Reading back the values that are written

A plain value is read back from its compact text, when it is not nested deeper than the reader goes
(`parse_render`).  The reader of a value recurses on the depth and asks loops for the items of an
array and for the members of an object; `Reads` is what these loops need to know of the reader of
the parts, and what the reader of the whole gives in turn.
-/

namespace PageBridge.Json

open Value

/-! ## Readers -/

variable {rest : List Char}

/-- A reader reads a value from its text, whatever follows that cannot go on with a number. -/
def Reads (read : Reader) (v : Value) : Prop :=
  ∀ rest, endsNumber rest = true → read (chars v ++ rest) = .ok (v, rest)

theorem ne_of_isDigit {c d : Char} (hc : c.isDigit = true) (hd : d.isDigit = false) : c ≠ d := by
  rintro rfl
  rw [hc] at hd
  cases hd

theorem isSpace_of_isDigit {c : Char} (h : c.isDigit = true) : isSpace c = false := by
  have hne : ∀ d : Char, d.isDigit = false → c ≠ d := fun _ => ne_of_isDigit h
  simp [isSpace, hne ' ' (by decide), hne '\n' (by decide), hne '\t' (by decide),
    hne '\r' (by decide)]

/-- No plain value starts with a blank or with a closing bracket. -/
theorem chars_eq_cons {v : Value} (h : isPlain v = true) :
    ∃ c cs, chars v = c :: cs ∧ isSpace c = false ∧ c ≠ ']' := by
  cases v with
  | null => exact ⟨_, _, rfl, by decide, by decide⟩
  | bool b => cases b <;> exact ⟨_, _, rfl, by decide, by decide⟩
  | number n =>
      rw [isPlain] at h
      obtain ⟨c, cs, hrender, rfl | hc⟩ := render_eq_cons h
      · exact ⟨_, _, hrender, by decide, by decide⟩
      · exact ⟨_, _, hrender, isSpace_of_isDigit hc, ne_of_isDigit hc (by decide)⟩
  | string s => exact ⟨_, _, List.append_nil _ ▸ toList_quote_append s [], by decide, by decide⟩
  | array items => cases items <;> exact ⟨_, _, rfl, by decide, by decide⟩
  | object members => cases members <;> exact ⟨_, _, rfl, by decide, by decide⟩

/-- What follows an item, a comma or the closing bracket, ends a number. -/
theorem endsNumber_itemChars (vs : List Value) (rest : List Char) :
    endsNumber (itemChars vs ++ ']' :: rest) = true := by
  cases vs <;> rfl

/-- What follows the value of a member, a comma or the closing brace, ends a number. -/
theorem endsNumber_memberChars (ms : List (String × Value)) (rest : List Char) :
    endsNumber (memberChars ms ++ '}' :: rest) = true := by
  cases ms with
  | nil => rfl
  | cons m ms => rfl

/-! ## Numbers -/

theorem readWith_minus (steps : Nat) (inner : Option Reader) (cs : List Char) :
    readWith steps inner ('-' :: cs) =
      (readNumber true cs).map fun (n, cs) => (.number n, cs) := rfl

/-- A value that starts with a digit is a number. -/
theorem readWith_digit (steps : Nat) (inner : Option Reader) {c : Char} (h : c.isDigit = true)
    (cs : List Char) :
    readWith steps inner (c :: cs) =
      (readNumber false (c :: cs)).map fun (n, cs) => (.number n, cs) := by
  have hne : ∀ d : Char, d.isDigit = false → c ≠ d := fun _ => ne_of_isDigit h
  simp only [readWith, skipSpace_cons_of_not (isSpace_of_isDigit h), hne 'n' (by decide),
    hne 't' (by decide), hne 'f' (by decide), hne '-' (by decide), h, if_false, if_true]

/-- An integer value that 64 bits hold is read from its text. -/
theorem readWith_number_append (steps : Nat) (inner : Option Reader) {n : Number}
    (hfits : n.fitsWord = true) (h : endsNumber rest = true) :
    readWith steps inner (n.render.toList ++ rest) = .ok (.number n, rest) := by
  cases n with
  | double x => cases hfits
  | int value =>
      have hread : readNumber (decide (value < 0)) (Nat.toDigits 10 value.natAbs ++ rest) =
          .ok (.int value, rest) := by
        rw [readNumber_toDigits_append _ (natAbs_lt_of_fitsWord hfits) h, integer_natAbs hfits]
      rw [toList_render_int]
      by_cases hneg : value < 0
      · rw [if_pos hneg, List.cons_append, List.cons_append, List.nil_append, readWith_minus]
        simp only [hneg, decide_true] at hread
        rw [hread]
        rfl
      · obtain ⟨c, cs, hdigits, hc⟩ := toDigits_eq_cons value.natAbs
        simp only [hneg, decide_false, hdigits] at hread
        rw [if_neg hneg, List.nil_append, hdigits, List.cons_append, readWith_digit _ _ hc,
          ← List.cons_append, hread]
        rfl

/-! ## Arrays -/

/-- An item behind a comma is read, and then the items behind it. -/
theorem moreItems_comma {read : Reader} {v : Value} (hplain : isPlain v = true)
    (hread : Reads read v) (left : Nat) (acc : List Value) (h : endsNumber rest = true) :
    moreItems read (left + 1) acc (',' :: (chars v ++ rest)) =
      moreItems read left (v :: acc) rest := by
  obtain ⟨c, cs, hchars, hspace, hbracket⟩ := chars_eq_cons hplain
  -- the loop looks at the first character behind the comma before it reads the item
  have hv : read (c :: (cs ++ rest)) = .ok (v, rest) := by
    rw [← List.cons_append, ← hchars]
    exact hread rest h
  have hcomma : skipSpace (',' :: (chars v ++ rest)) = ',' :: (chars v ++ rest) :=
    skipSpace_cons_of_not (by decide) _
  have hnext : skipSpace (chars v ++ rest) = c :: (cs ++ rest) := by
    rw [hchars]
    exact skipSpace_cons_of_not hspace _
  rw [moreItems, hcomma]
  simp only [hnext, hbracket, hv, if_false, if_true, Char.reduceEq]

/-- The items of an array from the second one on are read up to its closing bracket. -/
theorem moreItems_append {read : Reader} {vs : List Value} {left : Nat} (hleft : vs.length < left)
    (hread : ∀ v ∈ vs, isPlain v = true ∧ Reads read v) (acc : List Value) (rest : List Char) :
    moreItems read left acc (itemChars vs ++ ']' :: rest) = .ok (acc.reverse ++ vs, rest) := by
  induction vs generalizing left acc with
  | nil =>
      obtain ⟨left, rfl⟩ := Nat.exists_eq_add_of_lt hleft
      simp [itemChars, moreItems, skipSpace_cons_of_not (show isSpace ']' = false by decide)]
  | cons v vs ih =>
      -- one step of the loop for each item, and one left for the bracket
      obtain ⟨left, rfl⟩ : ∃ n, left = n + 1 := ⟨left - 1, by omega⟩
      obtain ⟨hplain, hv⟩ := hread v List.mem_cons_self
      have hfewer : vs.length < left := by simpa using hleft
      have hlater := ih hfewer (fun w hw => hread w (List.mem_cons_of_mem _ hw)) (v :: acc)
      rw [itemChars, List.cons_append, List.append_assoc,
        moreItems_comma hplain hv left acc (endsNumber_itemChars vs rest), hlater]
      simp

theorem readWith_bracket (steps : Nat) (read : Reader) (cs : List Char) :
    readWith steps (some read) ('[' :: cs) =
      (readItems read steps cs).map fun (items, cs) => (.array items, cs) := rfl

/-- An array is read by a reader of its items. -/
theorem reads_array {steps : Nat} {read : Reader} {items : List Value}
    (hsteps : items.length ≤ steps) (hread : ∀ v ∈ items, isPlain v = true ∧ Reads read v) :
    Reads (readWith steps (some read)) (.array items) := by
  intro rest _
  cases items with
  | nil => rfl
  | cons v vs =>
      obtain ⟨hplain, hv⟩ := hread v List.mem_cons_self
      obtain ⟨c, cs, hchars, hspace, hbracket⟩ := chars_eq_cons hplain
      have hfirst := hv _ (endsNumber_itemChars vs rest)
      have hlater := moreItems_append hsteps
        (fun w hw => hread w (List.mem_cons_of_mem _ hw)) [v] rest
      have hskip : skipSpace (chars v ++ (itemChars vs ++ ']' :: rest)) =
          c :: (cs ++ (itemChars vs ++ ']' :: rest)) := by
        rw [hchars]
        exact skipSpace_cons_of_not hspace _
      have hitems : readItems read steps (chars v ++ (itemChars vs ++ ']' :: rest)) =
          .ok (v :: vs, rest) := by
        rw [hchars, List.cons_append] at hfirst
        rw [readItems, hskip]
        simp only [hbracket, hfirst, if_false]
        exact hlater
      have htext : chars (.array (v :: vs)) ++ rest =
          '[' :: (chars v ++ (itemChars vs ++ ']' :: rest)) := by
        simp [chars]
      rw [htext, readWith_bracket, hitems]
      rfl

/-! ## Objects -/

/-- A member is read behind the opening quote of its key. -/
theorem readMember_append {read : Reader} {v : Value} (hv : Reads read v) (key : String)
    (h : endsNumber rest = true) :
    readMember read (key.toList.flatMap escapeChar ++ '"' :: ':' :: (chars v ++ rest)) =
      .ok ((key, v), rest) := by
  have hkey := readString_escape_append [] key.toList (':' :: (chars v ++ rest))
  have hcolon : readColon (':' :: (chars v ++ rest)) = .ok ((), chars v ++ rest) := rfl
  rw [readMember, hkey]
  simp only [Except.bind, hcolon, hv rest h, Except.map, List.reverse_nil, List.nil_append,
    String.ofList_toList]

/-- The members of an object from the second one on are read up to its closing brace. -/
theorem moreMembers_append {read : Reader} {ms : List (String × Value)} {left : Nat}
    (hleft : ms.length < left) (hread : ∀ m ∈ ms, Reads read m.2)
    (acc : List (String × Value)) (rest : List Char) :
    moreMembers read left acc (memberChars ms ++ '}' :: rest) = .ok (acc.reverse ++ ms, rest) := by
  induction ms generalizing left acc with
  | nil =>
      obtain ⟨left, rfl⟩ := Nat.exists_eq_add_of_lt hleft
      simp [memberChars, moreMembers, skipSpace_cons_of_not (show isSpace '}' = false by decide)]
  | cons m ms ih =>
      obtain ⟨left, rfl⟩ : ∃ n, left = n + 1 := ⟨left - 1, by omega⟩
      have hfewer : ms.length < left := by simpa using hleft
      have hlater := ih hfewer (fun n hn => hread n (List.mem_cons_of_mem _ hn)) (m :: acc)
      have hmember := readMember_append (hread m List.mem_cons_self) m.1
        (endsNumber_memberChars ms rest)
      have htext : memberChars (m :: ms) ++ '}' :: rest =
          ',' :: '"' :: (m.1.toList.flatMap escapeChar ++
            '"' :: ':' :: (chars m.2 ++ (memberChars ms ++ '}' :: rest))) := by
        simp only [memberChars, List.cons_append, List.append_assoc, toList_quote_append]
      rw [htext, moreMembers, skipSpace_cons_of_not (by decide)]
      simp only [skipSpace_cons_of_not (show isSpace '"' = false by decide), hmember, Char.reduceEq,
        if_false, if_true]
      rw [hlater]
      simp

theorem readWith_brace (steps : Nat) (read : Reader) (cs : List Char) :
    readWith steps (some read) ('{' :: cs) =
      (readMembers read steps cs).map fun (ms, cs) => (.ofMembers ms, cs) := rfl

/-- An object whose keys ascend is read by a reader of the values of its members. -/
theorem reads_object {steps : Nat} {read : Reader} {members : List (String × Value)}
    (hsteps : members.length ≤ steps) (hascend : members.Pairwise fun a b => a.1 < b.1)
    (hread : ∀ m ∈ members, Reads read m.2) :
    Reads (readWith steps (some read)) (.object members) := by
  intro rest _
  cases members with
  | nil =>
      have hmembers : readMembers read steps ('}' :: rest) = .ok ([], rest) := rfl
      have htext : chars (.object []) ++ rest = '{' :: '}' :: rest := rfl
      rw [htext, readWith_brace, hmembers, ← ofMembers_of_ascending hascend]
      rfl
  | cons m ms =>
      have hlater := moreMembers_append hsteps
        (fun n hn => hread n (List.mem_cons_of_mem _ hn)) [m] rest
      have hmember := readMember_append (hread m List.mem_cons_self) m.1
        (endsNumber_memberChars ms rest)
      have hmembers : readMembers read steps ('"' :: (m.1.toList.flatMap escapeChar ++
          '"' :: ':' :: (chars m.2 ++ (memberChars ms ++ '}' :: rest)))) =
          .ok (m :: ms, rest) := by
        rw [readMembers, skipSpace_cons_of_not (by decide)]
        simp only [hmember, Char.reduceEq, if_false, if_true]
        exact hlater
      have htext : chars (.object (m :: ms)) ++ rest =
          '{' :: '"' :: (m.1.toList.flatMap escapeChar ++
            '"' :: ':' :: (chars m.2 ++ (memberChars ms ++ '}' :: rest))) := by
        simp only [chars, List.cons_append, List.append_assoc, toList_quote_append, List.nil_append]
      rw [htext, readWith_brace, hmembers, ← ofMembers_of_ascending hascend]
      rfl

/-! ## Values -/

/-- A plain value is read by the reader of values, when it goes deep enough and its loops go as far as
the text is long. -/
theorem reads_readValue {steps d : Nat} {v : Value} (hplain : isPlain v = true)
    (hdepth : depth v ≤ d) (hsteps : (chars v).length ≤ steps) : Reads (readValue steps d) v := by
  induction v using Value.induct generalizing d with
  | null =>
      intro rest _
      cases d <;> rfl
  | bool b =>
      intro rest _
      cases d <;> cases b <;> rfl
  | number n =>
      intro rest hrest
      -- only arrays and objects ask for a level of depth
      cases d <;> exact readWith_number_append steps _ hplain hrest
  | string s =>
      intro rest _
      cases d <;> exact readWith_quote_append steps _ s rest
  | array items ih =>
      cases d with
      | zero => simp [depth] at hdepth
      | succ d =>
          have hchars : (itemChars items).length ≤ steps :=
            Nat.le_trans (length_itemChars_le items) hsteps
          rw [isPlain_array_iff] at hplain
          rw [depth_array_le_succ_iff] at hdepth
          refine reads_array (Nat.le_trans (length_le_itemChars items) hchars) fun v hv => ?_
          exact ⟨hplain v hv, ih v hv (hplain v hv) (hdepth v hv)
            (Nat.le_trans (length_chars_le_itemChars hv) hchars)⟩
  | object members ih =>
      cases d with
      | zero => simp [depth] at hdepth
      | succ d =>
          have hchars : (memberChars members).length ≤ steps :=
            Nat.le_trans (length_memberChars_le members) hsteps
          rw [isPlain_object_iff] at hplain
          rw [depth_object_le_succ_iff] at hdepth
          refine reads_object (Nat.le_trans (length_le_memberChars members) hchars) hplain.1
            fun m hm => ?_
          exact ih m hm (hplain.2 m hm) (hdepth m hm)
            (Nat.le_trans (length_chars_le_memberChars hm) hchars)

/-- A plain value that is not nested too deep is read back from its text. -/
theorem parse_render {v : Value} (hplain : isPlain v = true) (hdepth : depth v ≤ depthLimit) :
    parse v.render = .ok v := by
  have hread : readValue (chars v).length depthLimit (chars v ++ []) = .ok (v, []) :=
    reads_readValue hplain hdepth (Nat.le_refl _) [] rfl
  rw [List.append_nil] at hread
  rw [parse, toList_render, parseChars, hread]
  rfl

end PageBridge.Json
