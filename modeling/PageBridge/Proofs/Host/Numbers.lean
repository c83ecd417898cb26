import PageBridge.Proofs.Host.Others

/-!
# The numbers of views

A host numbers its views 1, 2, 3, … and stops at the greatest number there is.  `Numbered` says how
the numbers that were given out, the next one and the two maps of a host go together; every happening
keeps it (`Numbered.after`) and so does every history.  As no number is given out twice, a command to
a view never reaches another one: `view_numbers_never_reused` compares two histories, one of them with
one more action on a view that once was, and finds the same in all other views.
-/

namespace PageBridge.Host

/-- The number that is given out, if a view is created. -/
def issued? (h : Host) : Happening → Option ViewId
  | .act (.create options) =>
    match (h.create options).1 with
    | .ok (.created id) => some id
    | _ => none
  | _ => none

/-- The numbers that are given out in a history. -/
def issued (files : File.Disk) (h : Host) : List Happening → List ViewId
  | [] => []
  | happening :: happenings =>
    (h.issued? happening).toList ++ (h.after files happening).issued files happenings

/-! ## What numbers and maps have to do with each other -/

/-- The numbers that a host gave out go up from 1 to the one before the next, and every view that it
knows has one of them, callbacks and a configuration. -/
structure Numbered (ids : List ViewId) (h : Host) : Prop where
  ids_eq : ids = List.range' 1 ids.length
  nextId_eq : h.nextId = ids.length + 1
  nextId_le : h.nextId ≤ maxId
  has_eq : ∀ id, h.configs.has id = h.callbacks.has id
  mem_of_has : ∀ id, h.configs.has id = true → id ∈ ids

/-- A host that starts has given out no number. -/
theorem numbered_started : Numbered [] started where
  ids_eq := rfl
  nextId_eq := rfl
  nextId_le := by decide
  has_eq _ := rfl
  mem_of_has _ hid := nomatch hid

namespace Numbered

variable {ids : List ViewId} {h : Host}

/-- The numbers that were given out are those between 0 and the next one. -/
theorem mem_iff (hn : Numbered ids h) (id : Nat) : id ∈ ids ↔ 0 < id ∧ id < h.nextId := by
  have hmem : id ∈ List.range' 1 ids.length ↔ 1 ≤ id ∧ id < 1 + ids.length := List.mem_range'_1
  rw [← hn.ids_eq] at hmem
  rw [hmem, hn.nextId_eq, Nat.add_comm]
  exact Iff.rfl

/-- Giving out no number, and forgetting some views in both maps, if any. -/
theorem of_keys (hn : Numbered ids h) {h' : Host} (hnext : h'.nextId = h.nextId)
    (kept : ViewId → Bool) (hconfigs : ∀ id, h'.configs.has id = (kept id && h.configs.has id))
    (hcallbacks : ∀ id, h'.callbacks.has id = (kept id && h.callbacks.has id)) :
    Numbered ids h' where
  ids_eq := hn.ids_eq
  nextId_eq := hnext.trans hn.nextId_eq
  nextId_le := hnext ▸ hn.nextId_le
  has_eq id := by rw [hconfigs, hcallbacks, hn.has_eq]
  mem_of_has id hid := by
    rw [hconfigs, Bool.and_eq_true] at hid
    exact hn.mem_of_has id hid.2

/-- A view that is known has both a configuration and callbacks after a change of it as before. -/
theorem change (hn : Numbered ids h) (id : ViewId) {c : ViewChange}
    (hknown : c.config.isSome = true → h.configs.has id = true) : Numbered ids (h.change id c) := by
  refine hn.of_keys rfl (fun _ => true) (fun other => ?_) (fun other => ?_)
  · rw [Bool.true_and, Keyed.has_eq, Keyed.has_eq, get?_configs_change]
    by_cases hother : other = id
    · -- a view is given a configuration only in the place of an older one
      subst hother
      rw [if_pos rfl]
      cases hconfig : c.config with
      | none => rw [Option.none_or]
      | some config =>
          rw [hconfig, Keyed.has_eq] at hknown
          rw [hknown rfl]
          rfl
    · rw [if_neg hother]
  · rw [Bool.true_and, Keyed.has_eq, Keyed.has_eq, get?_callbacks_change]
    split
    · rw [Option.isSome_map]
    · rfl

/-- An action on a view gives out no number, and makes no view known that is not. -/
theorem performOn (hn : Numbered ids h) (files : File.Disk) (id : ViewId) (action : ViewAction) :
    Numbered ids (h.performOn files id action).2 := by
  obtain ⟨c, hknown, hchange⟩ := h.exists_change files id action
  rw [hchange]
  refine hn.change id fun hc => ?_
  obtain ⟨config, hconfig⟩ := hknown hc
  rw [Keyed.has_eq, (h.config_eq_ok_iff id config).mp hconfig, Option.isSome_some]

/-- A pump forgets views in both maps at once, and gives out no number. -/
theorem pump (hn : Numbered ids h) : Numbered ids h.pump.2 := by
  cases hready : h.ready with
  | false =>
      rw [pump_of_not_ready hready]
      exact hn
  | true =>
      cases hplatform : h.hasPlatform with
      | false =>
          rw [pump_of_no_platform hready hplatform]
          exact hn.of_keys rfl (fun _ => true) (fun _ => rfl) (fun _ => rfl)
      | true =>
          rw [pump_eq hready hplatform, pumpWith_eq]
          exact hn.of_keys rfl (fun id => decide (id ∉ h.closing))
            (fun id => Keyed.has_eraseAll id h.closing h.configs)
            (fun id => Keyed.has_eraseAll id h.closing h.callbacks)

/-- A new view has the next number. -/
theorem withView (hn : Numbered ids h) (hid : h.nextId < maxId) (options : Options) :
    Numbered (ids ++ [h.nextId]) (h.withView options) where
  ids_eq := by
    rw [List.length_append, List.length_singleton, List.range'_1_concat, ← hn.ids_eq, hn.nextId_eq,
      Nat.add_comm]
  nextId_eq := by
    rw [List.length_append, List.length_singleton, ← hn.nextId_eq]
    rfl
  nextId_le := hid
  has_eq id := by
    simp only [Host.withView, Keyed.has_set, hn.has_eq]
  mem_of_has id hhas := by
    simp only [Host.withView, Keyed.has_set, Bool.or_eq_true, decide_eq_true_eq] at hhas
    rw [List.mem_append, List.mem_singleton]
    exact hhas.elim .inr fun hold => .inl (hn.mem_of_has id hold)

/-- A host keeps its views numbered, whatever happens to it. -/
theorem after (hn : Numbered ids h) (files : File.Disk) (happening : Happening) :
    Numbered (ids ++ (h.issued? happening).toList) (h.after files happening) := by
  cases happening with
  | arrive arrival =>
      show Numbered (ids ++ []) _
      rw [List.append_nil]
      exact ⟨hn.ids_eq, hn.nextId_eq, hn.nextId_le, hn.has_eq, hn.mem_of_has⟩
  | act action =>
      cases action with
      | create options =>
          rw [issued?, Host.after, perform]
          rcases h.create_cases options with ⟨e, hfails⟩ | ⟨-, hid, hdoes⟩
          · rw [hfails, Option.toList_none, List.append_nil]
            exact hn
          · rw [hdoes]
            exact hn.withView hid options
      | start =>
          show Numbered (ids ++ []) h.start.2
          rw [List.append_nil, start_eq]
          exact hn
      | pump =>
          show Numbered (ids ++ []) h.pump.2
          rw [List.append_nil]
          exact hn.pump
      | onView id action =>
          show Numbered (ids ++ []) (h.performOn files id action).2
          rw [List.append_nil]
          exact hn.performOn files id action

/-- A host keeps its views numbered through every history. -/
theorem run (hn : Numbered ids h) (files : File.Disk) (happenings : List Happening) :
    Numbered (ids ++ h.issued files happenings) (h.run files happenings) := by
  induction happenings generalizing ids h with
  | nil =>
      rw [issued, List.append_nil]
      exact hn
  | cons happening happenings ih =>
      rw [issued, ← List.append_assoc]
      exact ih (hn.after files happening)

/-- A number that was given out is not given out again. -/
theorem not_mem_issued (hn : Numbered ids h) (files : File.Disk) (happenings : List Happening)
    {id : ViewId} (hid : id ∈ ids) : id ∉ h.issued files happenings := by
  have hall := hn.run files happenings
  -- all numbers of the whole history follow each other
  have hnodup : (ids ++ h.issued files happenings).Nodup := by
    rw [hall.ids_eq]
    exact List.nodup_range'
  exact fun hagain => (List.nodup_append.mp hnodup).2.2 id hid id hagain rfl

end Numbered

/-! ## One view and the numbers of the others -/

namespace SameBut

variable {id : ViewId} {h h' : Host}

/-- Hosts that differ in one view give out the same number next. -/
theorem issued?_eq (hsame : SameBut id h h') (happening : Happening) :
    h'.issued? happening = h.issued? happening := by
  cases happening with
  | arrive arrival => rfl
  | act action =>
      cases action with
      | create options => rw [issued?, issued?, (hsame.create options).1]
      | start | pump | onView => rfl

/-- Hosts that differ in one view give out the same numbers for ever. -/
theorem issued_eq (hsame : SameBut id h h') (files : File.Disk) (happenings : List Happening) :
    h'.issued files happenings = h.issued files happenings := by
  induction happenings generalizing h h' with
  | nil => rfl
  | cons happening happenings ih =>
      rw [issued, issued, hsame.issued?_eq, ih (hsame.after files happening)]

end SameBut

/-- After every history of a host that starts with no views, the numbers that were given out are 1, 2,
3, … up to the one before the next, so that they are all different, none is 0, and each is greater than
those before it.  The same views have a configuration as have callbacks, and each of them has one of
these numbers.  At the greatest number there is no view is created any more, and the host stays as it
is.  What is done with a view that ever had a number, such as closing it when it was closed and
forgotten long ago, makes no difference to any other view: whatever happens afterwards, its number is
not given out again, the others get the numbers that they would get without it, and have the same
configurations and callbacks. -/
theorem view_numbers_never_reused (files : File.Disk) (history : List Happening) :
    let h := started.run files history
    let ids := started.issued files history
    (ids = List.range' 1 ids.length ∧ h.nextId = ids.length + 1 ∧ h.nextId ≤ maxId) ∧
      (ids.Pairwise (· < ·) ∧ ∀ id ∈ ids, 0 < id ∧ id < h.nextId) ∧
      (∀ id, h.configs.has id = h.callbacks.has id) ∧
      (∀ id, h.configs.has id = true → id ∈ ids) ∧
      (h.nextId = maxId → ∀ options,
        h.perform files (.create options) = (.error .idsExhausted, h)) ∧
      ∀ id ∈ ids, ∀ action later,
        let acted := h.after files (.act (.onView id action))
        id ∉ acted.issued files later ∧
          acted.issued files later = h.issued files later ∧
          ∀ other, other ≠ id →
            (acted.run files later).configs.get? other = (h.run files later).configs.get? other ∧
              (acted.run files later).callbacks.get? other =
                (h.run files later).callbacks.get? other := by
  intro h ids
  have hn : Numbered ids h := numbered_started.run files history
  refine ⟨⟨hn.ids_eq, hn.nextId_eq, hn.nextId_le⟩, ⟨?_, fun id => (hn.mem_iff id).mp⟩, hn.has_eq,
    hn.mem_of_has, ?_, ?_⟩
  · rw [hn.ids_eq]
    exact List.pairwise_lt_range'
  · intro hlast options
    have hstarted : Waits .empty [] started := ⟨rfl, rfl, rfl⟩
    have hready : h.ready = true := (waits_run files hstarted history).ready_eq
    exact create_of_exhausted hready (Nat.le_of_eq hlast.symm) options
  · intro id hid action later acted
    have hsame : SameBut id h acted := h.sameBut_performOn files id action
    have hrun : SameBut id (h.run files later) (acted.run files later) := hsame.run files later
    refine ⟨?_, hsame.issued_eq files later, fun other hne =>
      ⟨hrun.configs_eq other hne, hrun.callbacks_eq other hne⟩⟩
    rw [hsame.issued_eq files later]
    exact hn.not_mem_issued files later hid

end PageBridge.Host
