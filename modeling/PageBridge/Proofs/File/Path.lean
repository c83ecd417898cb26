import PageBridge.File.Path
import PageBridge.Proofs.Text.Split

/-!
# Paths that lead into a directory

The path that a text writes has a slash just where the text has one, as no other character has that
byte in its encoding (`slash_mem_utf8EncodeChar_iff`).  So its parts are those of the text
(`parts_ofText`), and whether a path is plain can be told from the text (`isPlain_iff`).  A plain path
is followed from any directory without ever leaving it (`prefix_follow_of_isPlain`).
-/

namespace PageBridge.File.Path

open PageBridge.Text (splitOn splitOn_cons)

/-! ## The bytes of a text -/

/-- The loop over bytes adds those that are left behind those that are done. -/
theorem toList_loop_eq (bytes : ByteArray) (i : Nat) (done : List UInt8) :
    ByteArray.toList.loop bytes i done = done.reverse ++ bytes.data.toList.drop i := by
  fun_induction ByteArray.toList.loop bytes i done with
  | case1 i done h ih =>
      have hi : i < bytes.data.toList.length := by simpa using h
      rw [ih, List.drop_eq_getElem_cons hi]
      simp [ByteArray.get!, h]
  | case2 i done h =>
      rw [List.drop_eq_nil_of_le (by simpa using Nat.le_of_not_lt h), List.append_nil]

/-- The bytes of an array are listed in their order. -/
theorem toList_eq_toList_data (bytes : ByteArray) : bytes.toList = bytes.data.toList := by
  rw [ByteArray.toList, toList_loop_eq]
  rfl

/-- The path that a text writes has the bytes of its characters, one after the other. -/
theorem ofText_ofList (cs : List Char) :
    ofText (String.ofList cs) = cs.flatMap String.utf8EncodeChar := by
  rw [ofText, toList_eq_toList_data, String.toUTF8, String.toByteArray_ofList, List.utf8Encode,
    List.toList_data_toByteArray]

/-- No two texts write the same path. -/
theorem ofText_ofList_inj {cs ds : List Char}
    (h : ofText (String.ofList cs) = ofText (String.ofList ds)) : cs = ds := by
  simp only [ofText, toList_eq_toList_data, Array.toList_inj] at h
  exact String.ofList_injective (String.toByteArray_inj.mp (ByteArray.ext h))

theorem utf8EncodeChar_ne_nil (c : Char) : String.utf8EncodeChar c ≠ [] := by
  rw [← List.length_pos_iff, String.length_utf8EncodeChar]
  exact c.utf8Size_pos

/-- A byte below 128 encodes a character by itself. -/
theorem utf8EncodeChar_of_mem {c : Char} {b : UInt8} (hmem : b ∈ String.utf8EncodeChar c)
    (hb : b.toNat < 128) : String.utf8EncodeChar c = [b] ∧ b.toNat = c.toNat := by
  have hc : c.toNat = c.val.toNat := rfl
  rw [String.utf8EncodeChar] at hmem ⊢
  by_cases h : c.val.toNat ≤ 127
  · simp only [h, if_true, List.mem_singleton] at hmem ⊢
    subst hmem
    exact ⟨rfl, by simp; omega⟩
  · -- every byte of a longer encoding has its highest bit set
    exfalso
    simp only [h, if_false] at hmem
    split_ifs at hmem <;> simp only [List.mem_cons, List.not_mem_nil, or_false] at hmem <;>
      rcases hmem with rfl | rfl | rfl | rfl <;> simp at hb <;> omega

/-- The byte of a slash encodes a slash and is part of no other character. -/
theorem slash_mem_utf8EncodeChar_iff {c : Char} :
    slash ∈ String.utf8EncodeChar c ↔ c = '/' := by
  constructor
  · intro h
    have hnat : slash.toNat = c.toNat := (utf8EncodeChar_of_mem h (by decide)).2
    exact Char.toNat_inj.mp hnat.symm
  · rintro rfl
    decide

/-! ## Parts -/

/-- A byte ends an empty part, or it belongs to the first one. -/
theorem parts_cons (b : UInt8) (p : Path) :
    parts (b :: p) = if b = slash then [] :: parts p else (parts p).modifyHead (b :: ·) := by
  rw [parts, parts, List.foldr_cons]
  generalize p.foldr _ _ = split
  obtain ⟨part, rest⟩ := split
  by_cases h : b = slash
  · rw [if_pos h]
    simp only [h, if_true]
  · rw [if_neg h]
    simp only [h, if_false, List.modifyHead_cons]

theorem parts_slash (p : Path) : parts (slash :: p) = [] :: parts p := by
  rw [parts_cons, if_pos rfl]

theorem parts_ne_nil (p : Path) : parts p ≠ [] := List.cons_ne_nil _ _

/-- Bytes without a slash are the start of the first part. -/
theorem parts_append_of_not_mem {front : List UInt8} (h : slash ∉ front) (p : Path) :
    parts (front ++ p) = (parts p).modifyHead (front ++ ·) := by
  induction front with
  | nil =>
      obtain ⟨part, rest, hparts⟩ := List.exists_cons_of_ne_nil (parts_ne_nil p)
      rw [List.nil_append, hparts]
      rfl
  | cons b front ih =>
      have hb : b ≠ slash := fun e => h (e ▸ List.mem_cons_self)
      obtain ⟨part, rest, hparts⟩ := List.exists_cons_of_ne_nil (parts_ne_nil p)
      rw [List.cons_append, parts_cons, if_neg hb, ih fun e => h (List.mem_cons_of_mem b e), hparts]
      rfl

/-- A slash ends the parts before it. -/
theorem parts_append_slash (front back : Path) :
    parts (front ++ slash :: back) = parts front ++ parts back := by
  induction front with
  | nil => exact parts_slash back
  | cons b front ih =>
      rw [List.cons_append, parts_cons, parts_cons, ih]
      by_cases hb : b = slash
      · rw [if_pos hb, if_pos hb, List.cons_append]
      · obtain ⟨part, rest, hparts⟩ := List.exists_cons_of_ne_nil (parts_ne_nil front)
        rw [if_neg hb, if_neg hb, hparts]
        rfl

/-- The parts of the path that a text writes are written by the parts of the text. -/
theorem parts_ofText (cs : List Char) :
    parts (ofText (String.ofList cs)) =
      (splitOn (· == '/') cs).map fun part => ofText (String.ofList part) := by
  simp only [ofText_ofList]
  induction cs with
  | nil => rfl
  | cons c cs ih =>
      obtain ⟨part, rest, hparts⟩ : ∃ part rest, splitOn (· == '/') cs = part :: rest := ⟨_, _, rfl⟩
      rw [List.flatMap_cons, splitOn_cons]
      by_cases hc : c = '/'
      · have hslash : String.utf8EncodeChar c = [slash] := by
          rw [hc]
          rfl
        rw [hslash, List.singleton_append, parts_slash, ih, if_pos (by simp [hc])]
        rfl
      · have hnone : slash ∉ String.utf8EncodeChar c := fun h =>
          hc (slash_mem_utf8EncodeChar_iff.mp h)
        rw [parts_append_of_not_mem hnone, ih, if_neg (by simp [hc]), hparts]
        rfl

/-! ## Joining -/

/-- A path is absolute when it starts with a slash. -/
theorem isAbsolute_iff {p : Path} : p.isAbsolute = true ↔ ∃ rest, p = slash :: rest := by
  cases p with
  | nil => simp [isAbsolute]
  | cons b p => simp [isAbsolute]

/-- What is put between a path and one that is followed from there. -/
def gap (base : Path) : Path :=
  if base.isEmpty || base.getLast? == some slash then [] else [slash]

/-- A text writes an absolute path if it starts with a slash. -/
theorem isAbsolute_ofText_iff (cs : List Char) :
    (ofText (String.ofList cs)).isAbsolute = true ↔ cs.head? = some '/' := by
  rw [ofText_ofList]
  cases cs with
  | nil => simp [isAbsolute]
  | cons c cs =>
      rw [List.flatMap_cons, List.head?_cons, Option.some_inj, ← slash_mem_utf8EncodeChar_iff]
      constructor
      · intro h
        obtain ⟨rest, hrest⟩ := isAbsolute_iff.mp h
        obtain ⟨b, bytes, hbytes⟩ := List.exists_cons_of_ne_nil (utf8EncodeChar_ne_nil c)
        rw [hbytes, List.cons_append] at hrest
        rw [hbytes, (List.cons.inj hrest).1]
        exact List.mem_cons_self
      · intro h
        rw [slash_mem_utf8EncodeChar_iff.mp h]
        rfl

theorem join_of_isAbsolute {p : Path} (h : p.isAbsolute = true) (base : Path) :
    base.join p = p := by
  rw [join, if_pos h]

/-- A relative path is put behind the one that it is joined to, with a slash between them where
there is none. -/
theorem join_of_not_isAbsolute {p : Path} (h : p.isAbsolute = false) (base : Path) :
    base.join p = base ++ (gap base ++ p) := by
  rw [join, if_neg (by simp [h]), gap]
  split
  · rw [List.nil_append]
  · rfl

/-- Only the path right before a gap decides whether a slash is put there. -/
theorem gap_append {p : Path} (h : p ≠ []) (base : Path) : gap (base ++ p) = gap p := by
  have hlast : (base ++ p).getLast? = p.getLast? := by
    rw [List.getLast?_append, List.getLast?_eq_some_getLast h, Option.some_or]
  simp [gap, hlast, h]

/-- Behind a gap no second one is needed. -/
theorem gap_append_gap (base : Path) : gap (base ++ gap base) = [] := by
  by_cases h : gap base = []
  · rw [h, List.append_nil, h]
  · rw [gap_append h]
    rw [gap] at h ⊢
    split at h <;> simp_all [gap]

theorem isAbsolute_append {p : Path} (h : p ≠ []) (more : Path) :
    isAbsolute (p ++ more) = p.isAbsolute := by
  cases p with
  | nil => exact absurd rfl h
  | cons b p => rfl

/-- Paths may be joined in any grouping: where a path leads from a joined one is where the two
joined lead from the first. -/
theorem join_assoc (a b p : Path) : (a.join b).join p = a.join (b.join p) := by
  cases hp : p.isAbsolute with
  | true =>
      rw [join_of_isAbsolute hp, join_of_isAbsolute hp, join_of_isAbsolute hp]
  | false =>
      rw [join_of_not_isAbsolute hp, join_of_not_isAbsolute hp]
      by_cases hb : b = []
      · -- an empty path leaves a slash behind `a`, and no second one is put there
        subst hb
        rw [join_of_not_isAbsolute (p := []) rfl, List.append_nil, gap_append_gap]
        have hgap : gap [] = [] := rfl
        rw [List.nil_append, hgap, List.nil_append, List.nil_append, join_of_not_isAbsolute hp,
          List.append_assoc]
      -- the path in the middle decides whether `a` counts at all
      · cases habs : b.isAbsolute with
        | true =>
            have hjoined : isAbsolute (b ++ (gap b ++ p)) = true := by
              rw [isAbsolute_append hb, habs]
            rw [join_of_isAbsolute habs, join_of_isAbsolute hjoined]
        | false =>
            have hjoined : isAbsolute (b ++ (gap b ++ p)) = false := by
              rw [isAbsolute_append hb, habs]
            rw [join_of_not_isAbsolute habs, join_of_not_isAbsolute hjoined, ← List.append_assoc a,
              gap_append hb, List.append_assoc, List.append_assoc]

/-- The parts of a relative path stand behind those of the path that it is followed from, but for an
empty part behind the last slash of that path. -/
theorem exists_parts_join {p : Path} (h : p.isAbsolute = false) (base : Path) :
    ∃ front, (base.join p).parts = front ++ p.parts ∧
      (base.parts = front ∨ base.parts = front ++ [[]]) := by
  rw [join_of_not_isAbsolute h, gap]
  -- the last byte of the first path says whether there is a slash already
  rcases List.eq_nil_or_concat base with rfl | ⟨front, b, hbase⟩
  · exact ⟨[], rfl, .inr rfl⟩
  · rw [List.concat_eq_append] at hbase
    subst hbase
    by_cases hb : b = slash
    · subst hb
      refine ⟨parts front, ?_, .inr (parts_append_slash front [])⟩
      simp [parts_append_slash]
    · refine ⟨parts (front ++ [b]), ?_, .inl rfl⟩
      rw [if_neg (by simp [hb])]
      exact parts_append_slash (front ++ [b]) p

/-! ## Plain paths -/

/-- A component is a name unless its part goes up. -/
theorem component?_isName {part : List UInt8} {c : Component} (h : component? part = some c) :
    c.isName = true ↔ part ≠ [point, point] := by
  rw [component?] at h
  split at h
  · cases h
  · split at h <;> cases h <;> simp_all [Component.isName]

/-- A path is plain when it is relative, does not start at the place itself and goes up nowhere. -/
theorem isPlain_iff {p : Path} :
    p.isPlain = true ↔
      p.isAbsolute = false ∧ p.parts.head? ≠ some [point] ∧ [point, point] ∉ p.parts := by
  have hnames : (p.parts.filterMap component?).all Component.isName = true ↔
      [point, point] ∉ p.parts := by
    rw [List.all_eq_true]
    constructor
    · intro hall hmem
      have hup : component? [point, point] = some .up := by decide
      exact absurd (hall .up (List.mem_filterMap.mpr ⟨_, hmem, hup⟩)) (by decide)
    · intro hnone c hc
      obtain ⟨part, hpart, hcomponent⟩ := List.mem_filterMap.mp hc
      exact (component?_isName hcomponent).mpr fun e => hnone (e ▸ hpart)
  rw [isPlain, components, List.all_append, Bool.and_eq_true, hnames]
  cases p.isAbsolute with
  | true => simp [Component.isName]
  | false => by_cases hhere : p.parts.head? = some [point] <;> simp [hhere, Component.isName]

/-- The directory that a component leads to from another one, both told by the names on the way from
the root of the file system. -/
def Component.follow (place : List (List UInt8)) : Component → List (List UInt8)
  | .root => []
  | .here => place
  | .up => place.dropLast
  | .name bytes => place ++ [bytes]

/-- Names lead nowhere but further into a directory. -/
theorem prefix_foldl_follow {components : List Component}
    (h : ∀ c ∈ components, c.isName = true) (place : List (List UInt8)) :
    place <+: components.foldl Component.follow place := by
  induction components generalizing place with
  | nil => exact List.prefix_refl place
  | cons c components ih =>
      have hlater := ih (fun d hd => h d (List.mem_cons_of_mem c hd)) (c.follow place)
      cases c with
      | name bytes => exact (List.prefix_append place [bytes]).trans hlater
      | root | here | up => exact absurd (h _ List.mem_cons_self) (by decide)

/-- A plain path never leaves the directory that it is followed from, on no part of its way. -/
theorem prefix_follow_of_isPlain {p : Path} (h : p.isPlain = true) {front : List Component}
    (hfront : front <+: p.components) (place : List (List UInt8)) :
    place <+: front.foldl Component.follow place :=
  prefix_foldl_follow (fun c hc => List.all_eq_true.mp h c (hfront.subset hc)) place

end PageBridge.File.Path
