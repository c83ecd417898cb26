import PageBridge.Host.Action
import PageBridge.Proofs.View.Ledger

/-!
# What a pump does to a host

A pump is a chain: commands, closed windows, engine events, callbacks, and at last the views that are
forgotten.  Each link has one law here: which views commands close, whatever the platform answers
(`closed_carryOut`); that engine events without a bridge leave results of scripts and nothing else
(`recordAll_orphanEffects`); and that forgetting views one after the other is forgetting all of them
(`foldl_remove`).  `pumpWith_eq` puts them together: `Host.closing` are the views that a pump forgets
and `Pending.due` are the notices that it owes, both of the host before the pump.
-/

namespace PageBridge

namespace Keyed

variable {κ α : Type} [DecidableEq κ]

/-- The map without some keys. -/
def eraseAll (keys : List κ) (m : Keyed κ α) : Keyed κ α :=
  m.filter (·.1 ∉ keys)

/-- Nothing is erased without a key. -/
theorem eraseAll_nil (m : Keyed κ α) : eraseAll [] m = m := by
  simp [eraseAll]

/-- Keys may be erased one after the other. -/
theorem eraseAll_cons (k : κ) (keys : List κ) (m : Keyed κ α) :
    eraseAll (k :: keys) m = eraseAll keys (erase k m) := by
  rw [eraseAll, eraseAll, erase, List.filter_filter]
  refine List.filter_congr fun e _ => ?_
  rw [Bool.and_comm]
  simp

/-- A key that was erased has no value, and any other one has what it had. -/
theorem get?_eraseAll (k : κ) (keys : List κ) (m : Keyed κ α) :
    get? k (eraseAll keys m) = if k ∈ keys then none else get? k m := by
  induction keys generalizing m with
  | nil => rw [eraseAll_nil, if_neg List.not_mem_nil]
  | cons k' keys ih =>
      rw [eraseAll_cons, ih, get?_erase]
      by_cases hkeys : k ∈ keys
      · rw [if_pos hkeys, if_pos (List.mem_cons_of_mem k' hkeys)]
      · by_cases hk : k = k'
        · rw [if_neg hkeys, if_pos hk, if_pos (hk ▸ List.mem_cons_self)]
        · have hcons : k ∉ k' :: keys := fun h => (List.mem_cons.mp h).elim hk hkeys
          rw [if_neg hkeys, if_neg hk, if_neg hcons]

/-- The keys that are left are those that were not erased. -/
theorem has_eraseAll (k : κ) (keys : List κ) (m : Keyed κ α) :
    has k (eraseAll keys m) = (decide (k ∉ keys) && has k m) := by
  rw [has_eq, has_eq, get?_eraseAll]
  by_cases h : k ∈ keys <;> simp [h]

end Keyed

namespace Host

/-! ## Commands -/

/-- The error that a command ended with. -/
def fault? : Except Error Unit → Option Error
  | .ok _ => none
  | .error e => some e

/-- The round after commands has what each of them adds, behind what there was before. -/
theorem foldl_next (process : Processor) (round : Round) (commands : List (ViewId × Command)) :
    commands.foldl (Round.next process) round =
      ⟨round.closed ++ (commands.filter (·.2.isClose)).map (·.1),
        round.faults ++ commands.filterMap (fault? ∘ process)⟩ := by
  induction commands generalizing round with
  | nil => simp
  | cons command commands ih =>
      rw [List.foldl_cons, ih, Round.next, List.filter_cons]
      congr 1
      · by_cases hclose : command.2.isClose = true
        · rw [if_pos hclose, if_pos hclose, List.map_cons, List.append_assoc]
          rfl
        · rw [if_neg hclose, if_neg hclose]
      · -- an error is noted, and the commands after it are carried out all the same
        cases hprocess : process command with
        | ok done =>
            have hnone : (fault? ∘ process) command = none := congrArg fault? hprocess
            rw [List.filterMap_cons_none hnone]
        | error e =>
            have hsome : (fault? ∘ process) command = some e := congrArg fault? hprocess
            rw [List.filterMap_cons_some hsome, List.append_assoc]
            rfl

/-- Commands close the views that they close, whatever the platform answers to any of them. -/
theorem closed_carryOut (process : Processor) (commands : List (ViewId × Command)) :
    (carryOut process commands).closed = (commands.filter (·.2.isClose)).map (·.1) := by
  rw [carryOut, foldl_next, List.nil_append]

/-- On a machine without an engine every command is tried and fails. -/
theorem faults_carryOut_refuse (commands : List (ViewId × Command)) :
    (carryOut refuse commands).faults = commands.map fun _ => .noEngine := by
  rw [carryOut, foldl_next]
  exact congrFun List.filterMap_eq_map commands

/-! ## Views that are closed -/

/-- The views that a pump closes: by a command, or because their windows were closed. -/
def closing (h : Host) : List ViewId :=
  (h.commands.toList.filter (·.2.isClose)).map (·.1) ++ h.pending.closes.toList

/-- A view is closed when somebody asked for it, the program or whoever closed its window. -/
theorem mem_closing_iff (h : Host) (id : ViewId) :
    id ∈ h.closing ↔ (id, Command.close) ∈ h.commands ∨ id ∈ h.pending.closes := by
  rw [closing, List.mem_append, List.mem_map]
  refine or_congr ?_ Array.mem_toList_iff
  constructor
  · rintro ⟨⟨id', command⟩, hmem, rfl⟩
    obtain ⟨hcommands, hclose⟩ := List.mem_filter.mp hmem
    cases command with
    | close => exact Array.mem_toList_iff.mp hcommands
    | _ => cases hclose
  · intro hmem
    exact ⟨(id, .close), List.mem_filter.mpr ⟨Array.mem_toList_iff.mpr hmem, rfl⟩, rfl⟩

/-- Views that are forgotten one after the other are forgotten in both maps, and nothing else is. -/
theorem foldl_remove (h : Host) (ids : List ViewId) :
    ids.foldl remove h =
      { h with callbacks := h.callbacks.eraseAll ids, configs := h.configs.eraseAll ids } := by
  induction ids generalizing h with
  | nil => rw [List.foldl_nil, Keyed.eraseAll_nil, Keyed.eraseAll_nil]
  | cons id ids ih => rw [List.foldl_cons, ih, remove, Keyed.eraseAll_cons, Keyed.eraseAll_cons]

/-! ## What waits -/

/-- The result that an engine event owes to the owner of its view. -/
def reported? : ViewId × EngineEvent → Option (ViewId × String × String)
  | (id, .evaluated .report outcome) => some (id, outcome.texts)
  | _ => none

namespace Pending

/-- The notices that the next pump owes: messages, channel texts, the results that wait and then those
that engine events bring, changes, and closed windows. -/
def due (p : Pending) : List (ViewId × Notice) :=
  p.messages.toList.map (fun (id, message) => (id, .received message)) ++
    p.channelTexts.toList.map (fun (id, text) => (id, .channel text)) ++
    (p.results.toList ++ p.events.toList.filterMap reported?).map
      (fun (id, result, error) => (id, .result result error)) ++
    p.changes.toList.map (fun (id, change) => (id, .changed change)) ++
    p.closes.toList.map (fun id => (id, .closed))

/-- Buffers in which nothing waits, with a queue of the same capacity. -/
def emptied (p : Pending) : Pending :=
  { empty with events := .empty p.events.capacity }

/-- Effects are kept one after the other. -/
theorem recordAll_cons (p : Pending) (entry : ViewId × Effect) (effects : List (ViewId × Effect)) :
    p.recordAll (entry :: effects) = (p.record entry.1 entry.2).recordAll effects := rfl

/-- What is left of engine events without a bridge are results of scripts, which are all kept. -/
theorem recordAll_orphanEffects (p : Pending) (events : List (ViewId × EngineEvent)) :
    p.recordAll (events.filterMap orphanEffect?) =
      { p with results := p.results ++ (events.filterMap reported?).toArray } := by
  induction events generalizing p with
  | nil => rw [List.filterMap_nil, List.filterMap_nil, Array.append_empty]; rfl
  | cons entry events ih =>
      obtain ⟨id, event⟩ := entry
      cases event with
      | posted _ | navigated _ =>
          rw [List.filterMap_cons_none rfl, ih, List.filterMap_cons_none rfl]
      | evaluated completion outcome =>
          have horphan : orphanEffect? (id, .evaluated completion outcome) =
              some (id, completion.run outcome) := rfl
          rw [List.filterMap_cons_some horphan, recordAll_cons, ih]
          -- what is owed to the owner is kept, and what is owed to a caller is not for the buffers
          cases completion with
          | report =>
              have hresult : p.record id (Completion.report.run outcome) =
                  { p with results := p.results.push (id, outcome.texts) } := by
                cases outcome <;> rfl
              have hreported : reported? (id, .evaluated .report outcome) =
                  some (id, outcome.texts) := rfl
              rw [hresult, List.filterMap_cons_some hreported]
              simp
          | caller label =>
              rw [List.filterMap_cons_none rfl]
              rfl

end Pending

/-! ## Pumps -/

/-- A pump makes the callbacks that are due, empties the buffers and forgets the views that are
closed, whatever the platform answers to the commands. -/
theorem pumpWith_eq (process : Processor) (h : Host) :
    h.pumpWith process =
      (⟨(carryOut process h.commands.toList).faults,
          (h.pending.events.toList.filterMap orphanEffect?).filterMap completed?,
          h.pending.due.filterMap (callback? h.callbacks)⟩,
        { h with
          commands := #[]
          pending := h.pending.emptied
          callbacks := h.callbacks.eraseAll h.closing
          configs := h.configs.eraseAll h.closing }) := by
  simp only [pumpWith, dispatch, flush, Pending.takeCloses, Pending.takeEvents, Pending.takeNotices,
    Pending.recordAll_orphanEffects, closed_carryOut, foldl_remove]
  congr 2
  rw [Pending.due, Array.toList_append]

/-- A host that is ready and has a platform is pumped, and every command is refused. -/
theorem pump_eq {h : Host} (hready : h.ready = true) (hplatform : h.hasPlatform = true) :
    h.pump = (.ok (h.pumpWith refuse).1, (h.pumpWith refuse).2) := by
  simp only [pump, hready, hplatform, Bool.not_true, Bool.false_eq_true, if_false]

/-- A pump of a host that is ready and has a platform succeeds, although every command fails.  It
leaves no command, no engine event, no closed window and no notice behind, and forgets the callbacks
and the configurations of just those views that a command closes or whose windows were closed; all
else of the host stays as it is, as do the callbacks and the configurations of all other views.  Every
command is tried, and the callbacks that are made and the host afterwards do not depend on what the
platform answers to any of them. -/
theorem pump_empties_and_forgets (h : Host) (hready : h.ready = true)
    (hplatform : h.hasPlatform = true) :
    ∃ activity h', h.pump = (.ok activity, h') ∧
      h' = { h with
        commands := #[]
        pending := { Pending.empty with events := .empty h.pending.events.capacity }
        callbacks := h.callbacks.filter (·.1 ∉ h.closing)
        configs := h.configs.filter (·.1 ∉ h.closing) } ∧
      (∀ id, id ∈ h.closing ↔ (id, Command.close) ∈ h.commands ∨ id ∈ h.pending.closes) ∧
      (∀ id, id ∈ h.closing → h'.callbacks.get? id = none ∧ h'.configs.get? id = none) ∧
      (∀ id, id ∉ h.closing →
        h'.callbacks.get? id = h.callbacks.get? id ∧ h'.configs.get? id = h.configs.get? id) ∧
      activity.faults = h.commands.toList.map (fun _ => .noEngine) ∧
      ∀ process, h.pumpWith process =
        ({ activity with faults := (carryOut process h.commands.toList).faults }, h') := by
  have hpump := pump_eq hready hplatform
  rw [pumpWith_eq] at hpump
  refine ⟨_, _, hpump, rfl, h.mem_closing_iff, ?_, ?_, ?_, ?_⟩
  · intro id hid
    rw [Keyed.get?_eraseAll, Keyed.get?_eraseAll, if_pos hid, if_pos hid]
    exact ⟨rfl, rfl⟩
  · intro id hid
    rw [Keyed.get?_eraseAll, Keyed.get?_eraseAll, if_neg hid, if_neg hid]
    exact ⟨rfl, rfl⟩
  · exact faults_carryOut_refuse h.commands.toList
  · intro process
    exact pumpWith_eq process h

/-- A view that is closed twice over and one that nobody knows, among commands to another view. -/
theorem pump_empties_and_forgets_closed_twice :
    let h : Host := { fresh with
      nextId := 3
      ready := true
      hasPlatform := true
      commands := #[(1, .close), (2, .reload), (7, .close), (1, .close), (2, .run "2")]
      callbacks := [(2, [(.closed, "gone")]), (1, [])]
      pending := { Pending.empty with closes := #[1], results := #[(1, "3", "")] } }
    h.ready = true ∧ h.hasPlatform = true ∧ h.closing = [1, 7, 1, 1] ∧
      ∃ activity h', h.pump = (.ok activity, h') ∧ h'.callbacks = [(2, [(.closed, "gone")])] ∧
        h'.nextId = 3 ∧ h'.pending.results = #[] ∧ activity.faults = List.replicate 5 .noEngine := by
  intro h
  obtain ⟨activity, h', hpump, hafter, -, -, -, hfaults, -⟩ := pump_empties_and_forgets h rfl rfl
  refine ⟨rfl, rfl, rfl, activity, h', hpump, ?_, ?_, ?_, hfaults⟩
  · rw [hafter]
    rfl
  · rw [hafter]
  · rw [hafter]
    rfl

end Host

end PageBridge
