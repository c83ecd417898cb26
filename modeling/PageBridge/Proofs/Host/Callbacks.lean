import PageBridge.Proofs.Host.Run

/-!
# The callbacks of a host

`callbacks_once_in_order` says which callbacks a pump makes: one for each notice that is due, in the
order of `Pending.due`, if its view has a callback for its kind when the pump begins.  Views that the
pump closes still have theirs then.  Every later pump makes the callbacks for what arrived since the
pump before it, and so none is ever made again.
-/

namespace PageBridge.Host

/-- A notice has a callback when its view has one for its kind. -/
theorem callback?_eq_some_iff (callbacks : Keyed ViewId Callbacks) (id : ViewId) (notice : Notice)
    (call : Callback × Notice) :
    callback? callbacks (id, notice) = some call ↔
      ∃ registered callback, callbacks.get? id = some registered ∧
        registered.get? notice.kind = some callback ∧ call = (callback, notice) := by
  rw [callback?, Option.map_eq_some_iff]
  constructor
  · rintro ⟨callback, hbind, rfl⟩
    obtain ⟨registered, hview, hkind⟩ := Option.bind_eq_some_iff.mp hbind
    exact ⟨registered, callback, hview, hkind, rfl⟩
  · rintro ⟨registered, callback, hview, hkind, rfl⟩
    exact ⟨callback, Option.bind_eq_some_iff.mpr ⟨registered, hview, hkind⟩, rfl⟩

/-- A pump makes just the callbacks for what is due: for each message that waits, then for each
channel text, then for each result that waits and after them for each that an engine event brings,
however many there are, then for each change, and at last for each window that was closed; each once
if its view has a callback for it, and none otherwise.  What counts is which callbacks there are when
the pump begins, also for the views that it forgets.  Whatever happens afterwards, with any number of
pumps, the next pump makes just the callbacks for what arrived since the last one. -/
theorem callbacks_once_in_order (h : Host) (hready : h.ready = true)
    (hplatform : h.hasPlatform = true) :
    ∃ activity h', h.pump = (.ok activity, h') ∧
      activity.invoked =
        (h.pending.messages.toList.filterMap fun (id, message) =>
            callback? h.callbacks (id, .received message)) ++
          (h.pending.channelTexts.toList.filterMap fun (id, text) =>
            callback? h.callbacks (id, .channel text)) ++
          ((h.pending.results.toList ++ h.pending.events.toList.filterMap reported?).filterMap
            fun (id, result, error) => callback? h.callbacks (id, .result result error)) ++
          (h.pending.changes.toList.filterMap fun (id, change) =>
            callback? h.callbacks (id, .changed change)) ++
          (h.pending.closes.toList.filterMap fun id => callback? h.callbacks (id, .closed)) ∧
      (∀ id notice call, callback? h.callbacks (id, notice) = some call ↔
        ∃ registered callback, h.callbacks.get? id = some registered ∧
          registered.get? notice.kind = some callback ∧ call = (callback, notice)) ∧
      (∀ id, (id, Command.close) ∈ h.commands ∨ id ∈ h.pending.closes →
        h'.callbacks.get? id = none) ∧
      ∀ files happenings, ∃ later h'', (h'.run files happenings).pump = (.ok later, h'') ∧
        later.invoked =
          ((awaited happenings).foldl Pending.arrive h.pending.emptied).due.filterMap
            (callback? (h'.run files happenings).callbacks) := by
  refine ⟨_, _, pump_eq hready hplatform, ?_, callback?_eq_some_iff h.callbacks, ?_, ?_⟩
  · rw [pumpWith_eq, Pending.due]
    simp only [List.filterMap_append, List.filterMap_map]
    rfl
  · intro id hclose
    rw [pumpWith_eq, Keyed.get?_eraseAll, if_pos ((h.mem_closing_iff id).mpr hclose)]
  · intro files happenings
    -- the first pump left nothing behind that a later one could find
    have hwaits := waits_run_pumped files hready hplatform happenings
    refine ⟨_, _, pump_eq hwaits.ready_eq hwaits.hasPlatform_eq, ?_⟩
    rw [pumpWith_eq, hwaits.pending_eq]

/-- A view that a command closes and whose window was closed is told of a result that waits, of one
that an engine event brings, and that it is closed; another view has no callback for results; and the
next pump makes no callback again. -/
theorem callbacks_once_in_order_closed_view :
    let h : Host := { fresh with
      ready := true
      hasPlatform := true
      commands := #[(1, .close)]
      callbacks := [(1, [(.scriptResult, "result"), (.loadedChanged, "loaded"), (.closed, "gone")]),
        (2, [(.loadingChanged, "loading")])]
      pending := { Pending.empty with
        events := (EventQueue.empty 1).push 1 (.evaluated .report (.value "2"))
        closes := #[1]
        results := #[(1, "1", ""), (2, "3", "")]
        changes := #[(1, .loading true), (2, .loading true), (1, .loaded true)] } }
    h.ready = true ∧ h.hasPlatform = true ∧
      ∃ activity h', h.pump = (.ok activity, h') ∧
        activity.invoked = [("result", .result "1" ""), ("result", .result "2" ""),
          ("loading", .changed (.loading true)), ("loaded", .changed (.loaded true)),
          ("gone", .closed)] ∧
        h'.callbacks.get? 1 = none ∧
        ∃ later h'', h'.pump = (.ok later, h'') ∧ later.invoked = [] := by
  intro h
  obtain ⟨activity, h', hpump, hinvoked, -, hforgotten, hagain⟩ := callbacks_once_in_order h rfl rfl
  obtain ⟨later, h'', hlater, hnone⟩ := hagain .empty []
  refine ⟨rfl, rfl, activity, h', hpump, hinvoked, hforgotten 1 (.inl (by simp [h])), later, h'',
    hlater, hnone⟩

end PageBridge.Host
