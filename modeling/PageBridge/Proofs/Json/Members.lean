import PageBridge.Proofs.Json.Plain

/-!
# Members of an object

The members of an object text are sorted by their keys, and of each run with one key the last one is
kept.  `lasts` says the latter without what was kept before.  As the sort leaves members with one key in
their order, the value of a key is the one that it has last in the text (`get?_ofMembers`).
-/

namespace PageBridge.Json.Value

/-- The last member of each run of members with one key. -/
def lasts : List (String × Value) → List (String × Value)
  | [] => []
  | [m] => [m]
  | m :: n :: ms => if m.1 = n.1 then lasts (n :: ms) else m :: lasts (n :: ms)

/-- What was kept so far stays in front, and of the members that follow the last of each run is
kept. -/
theorem keepLast_cons (kept : List (String × Value)) (m : String × Value)
    (ms : List (String × Value)) : keepLast (m :: kept) ms = kept.reverse ++ lasts (m :: ms) := by
  induction ms generalizing m kept with
  | nil => simp [keepLast, lasts]
  | cons n ms ih =>
      rw [keepLast, lasts]
      by_cases h : m.1 = n.1
      · rw [if_pos h, if_pos h, ih kept n]
      · rw [if_neg h, if_neg h, ih (m :: kept) n, List.reverse_cons, List.append_assoc,
          List.singleton_append]

/-- An object is made of the last of each run of its sorted members. -/
theorem ofMembers_eq (ms : List (String × Value)) :
    ofMembers ms = .object (lasts (ms.mergeSort fun a b => a.1 ≤ b.1)) := by
  rw [ofMembers]
  cases ms.mergeSort fun a b => a.1 ≤ b.1 with
  | nil => rfl
  | cons m ms => rw [keepLast, keepLast_cons, List.reverse_nil, List.nil_append]

/-! ## Runs of one key -/

/-- The last of each run are members of the text, in their order. -/
theorem lasts_sublist (ms : List (String × Value)) : List.Sublist (lasts ms) ms := by
  fun_induction lasts ms with
  | case1 => exact List.Sublist.refl _
  | case2 m => exact List.Sublist.refl _
  | case3 m n ms h ih => exact ih.cons m
  | case4 m n ms h ih => exact ih.cons_cons m

/-- In sorted members a key that ends a run stays below all that follow. -/
theorem lt_of_run_ends {m n : String × Value} {ms : List (String × Value)}
    (h : (m :: n :: ms).Pairwise fun a b => a.1 ≤ b.1) (hkey : m.1 ≠ n.1) :
    ∀ a ∈ n :: ms, m.1 < a.1 := by
  intro a ha
  have hmn : m.1 ≤ n.1 := List.rel_of_pairwise_cons h List.mem_cons_self
  have hna : n.1 ≤ a.1 := by
    rcases List.mem_cons.mp ha with rfl | ha
    · exact String.le_refl _
    · exact List.rel_of_pairwise_cons h.tail ha
  exact String.not_le.mp fun ham => hkey (String.le_antisymm hmn (String.le_trans hna ham))

/-- Of sorted members the last of each run have ascending keys. -/
theorem pairwise_lasts {ms : List (String × Value)} (h : ms.Pairwise fun a b => a.1 ≤ b.1) :
    (lasts ms).Pairwise fun a b => a.1 < b.1 := by
  fun_induction lasts ms with
  | case1 => exact List.Pairwise.nil
  | case2 m => exact List.pairwise_singleton _ m
  | case3 m n ms hkey ih => exact ih h.tail
  | case4 m n ms hkey ih =>
      -- the run ends here, so its key is below all that follow
      have hbelow := lt_of_run_ends h hkey
      exact List.Pairwise.cons (fun a ha => hbelow a ((lasts_sublist _).subset ha)) (ih h.tail)

/-- Among the last of each run a key is found with the member that has it last. -/
theorem find?_lasts {ms : List (String × Value)} (h : ms.Pairwise fun a b => a.1 ≤ b.1)
    (key : String) : (lasts ms).find? (·.1 = key) = (ms.filter (·.1 = key)).getLast? := by
  fun_induction lasts ms with
  | case1 => rfl
  | case2 m => by_cases hm : m.1 = key <;> simp [hm]
  | case3 m n ms hkey ih =>
      -- the run goes on, so a later member has this key as well
      rw [ih h.tail]
      by_cases hm : m.1 = key
      · have hn : n.1 = key := hkey ▸ hm
        simp [hm, hn]
      · rw [List.filter_cons_of_neg (p := (·.1 = key)) (l := n :: ms) (by simpa using hm)]
  | case4 m n ms hkey ih =>
      -- the run ends here, so no later member has this key
      by_cases hm : m.1 = key
      · have hnone : (n :: ms).filter (·.1 = key) = [] := by
          refine List.filter_eq_nil_iff.mpr fun a ha hkey' => ?_
          have hlt := lt_of_run_ends h hkey a ha
          rw [hm, of_decide_eq_true hkey'] at hlt
          exact String.lt_irrefl _ hlt
        rw [List.find?_cons_of_pos (by simpa using hm), List.filter_cons_of_pos (by simpa using hm),
          hnone, List.getLast?_singleton]
      · rw [List.find?_cons_of_neg (by simpa using hm), List.filter_cons_of_neg (by simpa using hm),
          ih h.tail]

/-- Members with ascending keys are kept as they are. -/
theorem lasts_of_ascending {ms : List (String × Value)} (h : ms.Pairwise fun a b => a.1 < b.1) :
    lasts ms = ms := by
  fun_induction lasts ms with
  | case1 => rfl
  | case2 m => rfl
  | case3 m n ms hkey ih =>
      have hlt : m.1 < n.1 := List.rel_of_pairwise_cons h List.mem_cons_self
      rw [hkey] at hlt
      exact absurd hlt (String.lt_irrefl n.1)
  | case4 m n ms hkey ih => rw [ih h.tail]

/-! ## Members of a text -/

theorem keyLe_trans (a b c : String × Value) (hab : decide (a.1 ≤ b.1) = true)
    (hbc : decide (b.1 ≤ c.1) = true) : decide (a.1 ≤ c.1) = true :=
  decide_eq_true (String.le_trans (of_decide_eq_true hab) (of_decide_eq_true hbc))

theorem keyLe_total (a b : String × Value) : (decide (a.1 ≤ b.1) || decide (b.1 ≤ a.1)) = true := by
  simpa using String.le_total a.1 b.1

/-- Sorted members have keys that do not descend. -/
theorem pairwise_mergeSort_key (ms : List (String × Value)) :
    (ms.mergeSort fun a b => a.1 ≤ b.1).Pairwise fun a b => a.1 ≤ b.1 :=
  (List.pairwise_mergeSort keyLe_trans keyLe_total ms).imp of_decide_eq_true

/-- The sort leaves members with one key in their order. -/
theorem filter_mergeSort_key (ms : List (String × Value)) (key : String) :
    (ms.mergeSort fun a b => a.1 ≤ b.1).filter (·.1 = key) = ms.filter (·.1 = key) := by
  have hkey : ∀ m ∈ ms.filter (·.1 = key), m.1 = key := fun m hm =>
    of_decide_eq_true (List.mem_filter.mp hm).2
  -- members with one key are in order as they stand, so a stable sort keeps them as a sublist; as
  -- many of them come out as went in
  have hsorted : (ms.filter (·.1 = key)).Pairwise fun a b => decide (a.1 ≤ b.1) = true :=
    List.pairwise_of_forall_mem_list fun a ha b hb =>
      decide_eq_true (hkey a ha ▸ hkey b hb ▸ String.le_refl _)
  have hsub := List.sublist_mergeSort keyLe_trans keyLe_total hsorted List.filter_sublist
  have hfiltered := hsub.filter (·.1 = key)
  rw [List.filter_filter] at hfiltered
  simp only [Bool.and_self] at hfiltered
  refine (hfiltered.eq_of_length ?_).symm
  exact ((List.mergeSort_perm ms _).filter _).length_eq.symm

/-- The value of a key in an object is the one that the key has last in the text. -/
theorem get?_ofMembers (ms : List (String × Value)) (key : String) :
    (ofMembers ms).get? key = (ms.reverse.find? (·.1 = key)).map (·.2) := by
  rw [ofMembers_eq, get?, find?_lasts (pairwise_mergeSort_key ms), filter_mergeSort_key,
    ← List.head?_filter, List.filter_reverse, List.head?_reverse]

/-- An object whose keys ascend is what its members make. -/
theorem ofMembers_of_ascending {ms : List (String × Value)}
    (h : ms.Pairwise fun a b => a.1 < b.1) : ofMembers ms = .object ms := by
  have hsorted : ms.mergeSort (fun a b => a.1 ≤ b.1) = ms := by
    refine List.mergeSort_of_pairwise (h.imp fun {a b} hlt => ?_)
    exact decide_eq_true (String.not_lt.mp (String.lt_asymm hlt))
  rw [ofMembers_eq, hsorted, lasts_of_ascending h]

/-- The keys of an object ascend, and its members all stand in the text. -/
theorem exists_ofMembers (ms : List (String × Value)) :
    ∃ kept, ofMembers ms = .object kept ∧ (kept.Pairwise fun a b => a.1 < b.1) ∧
      ∀ m ∈ kept, m ∈ ms :=
  ⟨_, ofMembers_eq ms, pairwise_lasts (pairwise_mergeSort_key ms), fun _ hm =>
    List.mem_mergeSort.mp ((lasts_sublist _).subset hm)⟩

end PageBridge.Json.Value
