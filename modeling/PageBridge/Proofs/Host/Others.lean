import PageBridge.Proofs.Host.Run

/-!
# A view and the others

What is done with one view is done to that view alone.  `SameBut` says that two hosts differ in one
view at most: in its configuration, in its callbacks and in the commands to it.  Every action on the
view makes such a difference (`sameBut_change`), and nothing that happens later carries it over to
another view (`SameBut.run`), since a pump forgets just those views that their own commands or windows
close.
-/

namespace PageBridge.Host

/-- Two hosts are the same in all but one view. -/
structure SameBut (id : ViewId) (h h' : Host) : Prop extends SameWait h h' where
  nextId_eq : h'.nextId = h.nextId
  commands_eq : h'.commands.toList.filter (·.1 ≠ id) = h.commands.toList.filter (·.1 ≠ id)
  configs_eq : ∀ other, other ≠ id → h'.configs.get? other = h.configs.get? other
  callbacks_eq : ∀ other, other ≠ id → h'.callbacks.get? other = h.callbacks.get? other

/-- A change of a view is no change of the others. -/
theorem sameBut_change (h : Host) (id : ViewId) (c : ViewChange) :
    SameBut id h (h.change id c) := by
  refine ⟨h.sameWait_change id c, rfl, ?_, fun other hne => ?_, fun other hne => ?_⟩
  · have hnone : (c.command.toList.map fun command => (id, command)).filter (·.1 ≠ id) = [] := by
      simp
    rw [commands_change, List.filter_append, hnone, List.append_nil]
  · rw [get?_configs_change, if_neg hne]
  · rw [get?_callbacks_change, if_neg hne]

/-- Acting on a view leaves the others as they are. -/
theorem sameBut_performOn (files : File.Disk) (h : Host) (id : ViewId) (action : ViewAction) :
    SameBut id h (h.performOn files id action).2 := by
  obtain ⟨c, -, hchange⟩ := h.exists_change files id action
  rw [hchange]
  exact h.sameBut_change id c

namespace SameBut

variable {id : ViewId} {h h' : Host}

/-- Which of the two hosts is called the other one makes no difference. -/
theorem symm (hsame : SameBut id h h') : SameBut id h' h where
  pending_eq := hsame.pending_eq.symm
  ready_eq := hsame.ready_eq.symm
  hasPlatform_eq := hsame.hasPlatform_eq.symm
  nextId_eq := hsame.nextId_eq.symm
  commands_eq := hsame.commands_eq.symm
  configs_eq other hne := (hsame.configs_eq other hne).symm
  callbacks_eq other hne := (hsame.callbacks_eq other hne).symm

/-- Differences in one view stay differences in this view, however many there are. -/
theorem trans {h'' : Host} (hsame : SameBut id h h') (hsame' : SameBut id h' h'') :
    SameBut id h h'' where
  pending_eq := hsame'.pending_eq.trans hsame.pending_eq
  ready_eq := hsame'.ready_eq.trans hsame.ready_eq
  hasPlatform_eq := hsame'.hasPlatform_eq.trans hsame.hasPlatform_eq
  nextId_eq := hsame'.nextId_eq.trans hsame.nextId_eq
  commands_eq := hsame'.commands_eq.trans hsame.commands_eq
  configs_eq other hne := (hsame'.configs_eq other hne).trans (hsame.configs_eq other hne)
  callbacks_eq other hne := (hsame'.callbacks_eq other hne).trans (hsame.callbacks_eq other hne)

/-- The other views have the same configurations in both hosts. -/
theorem config_eq (hsame : SameBut id h h') {other : ViewId} (hne : other ≠ id) :
    h'.config other = h.config other := by
  rw [config, config, hsame.configs_eq other hne]

/-! ## Actions -/

/-- The same change of another view leaves the difference where it is. -/
theorem change (hsame : SameBut id h h') (other : ViewId) (c : ViewChange) :
    SameBut id (h.change other c) (h'.change other c) := by
  refine ⟨⟨hsame.pending_eq, hsame.ready_eq, hsame.hasPlatform_eq⟩, hsame.nextId_eq, ?_, ?_, ?_⟩
  · rw [commands_change, commands_change, List.filter_append, List.filter_append, hsame.commands_eq]
  · intro view hne
    rw [get?_configs_change, get?_configs_change, hsame.configs_eq view hne]
  · intro view hne
    rw [get?_callbacks_change, get?_callbacks_change, hsame.callbacks_eq view hne]

/-- An action on any view leaves the difference where it is. -/
theorem performOn (hsame : SameBut id h h') (files : File.Disk) (other : ViewId)
    (action : ViewAction) :
    SameBut id (h.performOn files other action).2 (h'.performOn files other action).2 := by
  by_cases hother : other = id
  · -- the view that differs may differ in another way afterwards
    subst hother
    exact ((h.sameBut_performOn files other action).symm.trans hsame).trans
      (h'.sameBut_performOn files other action)
  · rcases performOn_cases files other (h.config other) action with
      ⟨e, hfails⟩ | ⟨reply, c, -, hdoes⟩
    · rw [hfails h rfl, hfails h' (hsame.config_eq hother)]
      exact hsame
    · rw [hdoes h rfl, hdoes h' (hsame.config_eq hother)]
      exact hsame.change other c

/-- A new view gets the same number in both hosts, and with it the same configuration. -/
theorem withView (hsame : SameBut id h h') (options : Options) :
    SameBut id (h.withView options) (h'.withView options) := by
  refine ⟨⟨hsame.pending_eq, hsame.ready_eq, hsame.hasPlatform_eq⟩,
    congrArg (· + 1) hsame.nextId_eq, ?_, ?_, ?_⟩
  · simp only [Host.withView, Array.toList_push, List.filter_append, hsame.commands_eq,
      hsame.nextId_eq]
  · intro other hne
    simp only [Host.withView, Keyed.get?_set, hsame.nextId_eq, hsame.configs_eq other hne]
  · intro other hne
    simp only [Host.withView, Keyed.get?_set, hsame.nextId_eq, hsame.callbacks_eq other hne]

/-- A new view has the same number in both hosts, or there is none in either. -/
theorem create (hsame : SameBut id h h') (options : Options) :
    (h'.create options).1 = (h.create options).1 ∧
      SameBut id (h.create options).2 (h'.create options).2 := by
  cases hready : h.ready with
  | false =>
      rw [create_of_not_ready hready, create_of_not_ready (hsame.ready_eq.trans hready)]
      exact ⟨rfl, hsame⟩
  | true =>
      have hready' : h'.ready = true := hsame.ready_eq.trans hready
      rcases Nat.lt_or_ge h.nextId maxId with hid | hid
      · rw [create_of_lt hready hid, create_of_lt hready' (hsame.nextId_eq ▸ hid), hsame.nextId_eq]
        exact ⟨rfl, hsame.withView options⟩
      · rw [create_of_exhausted hready hid, create_of_exhausted hready' (hsame.nextId_eq ▸ hid)]
        exact ⟨rfl, hsame⟩

/-! ## Pumps -/

/-- A view is closed in both hosts or in none, unless it is the one in which they differ. -/
theorem mem_closing_iff (hsame : SameBut id h h') {other : ViewId} (hne : other ≠ id) :
    other ∈ h'.closing ↔ other ∈ h.closing := by
  have hcommand : ∀ host : Host, (other, Command.close) ∈ host.commands ↔
      (other, Command.close) ∈ host.commands.toList.filter (·.1 ≠ id) := by
    intro host
    simp [hne]
  rw [Host.mem_closing_iff, Host.mem_closing_iff, hsame.pending_eq, hcommand h', hcommand h,
    hsame.commands_eq]

/-- A pump empties both hosts, and forgets the same views in both but for the one in which they
differ. -/
theorem pumpWith (hsame : SameBut id h h') (process : Processor) :
    SameBut id (h.pumpWith process).2 (h'.pumpWith process).2 := by
  rw [pumpWith_eq, pumpWith_eq]
  refine ⟨⟨congrArg Pending.emptied hsame.pending_eq, hsame.ready_eq, hsame.hasPlatform_eq⟩,
    hsame.nextId_eq, rfl, ?_, ?_⟩
  · intro other hne
    simp only [Keyed.get?_eraseAll, hsame.mem_closing_iff hne, hsame.configs_eq other hne]
  · intro other hne
    simp only [Keyed.get?_eraseAll, hsame.mem_closing_iff hne, hsame.callbacks_eq other hne]

/-- A host is pumped, drops its commands or refuses, and the other one does the same. -/
theorem pump (hsame : SameBut id h h') : SameBut id h.pump.2 h'.pump.2 := by
  cases hready : h.ready with
  | false =>
      rw [pump_of_not_ready hready, pump_of_not_ready (hsame.ready_eq.trans hready)]
      exact hsame
  | true =>
      have hready' : h'.ready = true := hsame.ready_eq.trans hready
      cases hplatform : h.hasPlatform with
      | false =>
          -- both hosts lose their commands, those to the view that differs included
          rw [pump_of_no_platform hready hplatform,
            pump_of_no_platform hready' (hsame.hasPlatform_eq.trans hplatform)]
          exact ⟨⟨hsame.pending_eq, hsame.ready_eq, hsame.hasPlatform_eq⟩, hsame.nextId_eq, rfl,
            hsame.configs_eq, hsame.callbacks_eq⟩
      | true =>
          rw [pump_eq hready hplatform, pump_eq hready' (hsame.hasPlatform_eq.trans hplatform)]
          exact hsame.pumpWith refuse

/-! ## Histories -/

variable (files : File.Disk)

/-- No action spreads the difference to another view. -/
theorem perform (hsame : SameBut id h h') (action : Action) :
    SameBut id (h.perform files action).2 (h'.perform files action).2 := by
  cases action with
  | start =>
      rw [Host.perform, Host.perform, start_eq, start_eq]
      exact hsame
  | pump => exact hsame.pump
  | create options => exact (hsame.create options).2
  | onView other action => exact hsame.performOn files other action

/-- What arrives from outside arrives in both hosts. -/
theorem after (hsame : SameBut id h h') (happening : Happening) :
    SameBut id (h.after files happening) (h'.after files happening) := by
  cases happening with
  | act action => exact hsame.perform files action
  | arrive arrival =>
      exact ⟨⟨congrArg (Pending.arrive · arrival) hsame.pending_eq, hsame.ready_eq,
        hsame.hasPlatform_eq⟩, hsame.nextId_eq, hsame.commands_eq, hsame.configs_eq,
        hsame.callbacks_eq⟩

/-- Whatever happens to both hosts, they go on to differ in no other view. -/
theorem run (hsame : SameBut id h h') (happenings : List Happening) :
    SameBut id (h.run files happenings) (h'.run files happenings) := by
  induction happenings generalizing h h' with
  | nil => exact hsame
  | cons happening happenings ih => exact ih (hsame.after files happening)

end SameBut

end PageBridge.Host
