import PageBridge.Engine.EventQueue

/-!
# What a queue of events keeps

A queue is known from outside by its answers.  `backlog` reads off them which events were taken since
the queue was last drained, and `arrivals` reads off its history which were pushed since then.  The
queue holds its backlog (`toList_run`), so that an event which may be dropped is taken just while the
backlog is shorter than the capacity.  The first arrivals fill a queue up to its capacity, whatever
they are, and after them it takes outcomes of evaluations alone: `kept` is what is left of arrivals,
and `toList_run_empty` says that a queue holds just that.
-/

namespace PageBridge

namespace EventQueue

variable {κ : Type}

/-- The event that an action pushes. -/
def Action.pushed? : Action κ → Option (κ × EngineEvent)
  | push key event => some (key, event)
  | drain => none

/-- The events that an answer gives out. -/
def Answer.events : Answer κ → List (κ × EngineEvent)
  | pushed _ => []
  | drained events => events

/-- Whether an event of a view may be dropped. -/
def mayDrop (entry : κ × EngineEvent) : Bool := entry.2.isDroppable

/-- The events that were taken and not given out, after one more answer. -/
def gather (taken : List (κ × EngineEvent)) : Action κ × Answer κ → List (κ × EngineEvent)
  | (.push key event, .pushed true) => taken ++ [(key, event)]
  | (.push _ _, _) => taken
  | (.drain, _) => []

/-- The events that were taken since the last drain, as the answers tell. -/
def backlog (log : List (Action κ × Answer κ)) : List (κ × EngineEvent) :=
  log.foldl gather []

/-- The events that were pushed since the last drain, after one more action. -/
def arrive (pushed : List (κ × EngineEvent)) : Action κ → List (κ × EngineEvent)
  | .push key event => pushed ++ [(key, event)]
  | .drain => []

/-- The events that were pushed since the last drain of a history, taken or not. -/
def arrivals (history : List (Action κ)) : List (κ × EngineEvent) :=
  history.foldl arrive []

/-- What a queue keeps of arrivals. -/
def kept (capacity : Nat) (arrivals : List (κ × EngineEvent)) : List (κ × EngineEvent) :=
  arrivals.take capacity ++ (arrivals.drop capacity).filter (!mayDrop ·)

/-! ## Runs -/

variable {q : EventQueue κ}

@[simp]
theorem run_nil (q : EventQueue κ) : q.run [] = (q, []) := rfl

@[simp]
theorem run_cons (q : EventQueue κ) (action : Action κ) (actions : List (Action κ)) :
    q.run (action :: actions) =
      (((q.after action).run actions).1,
        (action, q.answer action) :: ((q.after action).run actions).2) :=
  rfl

/-- A run in two parts has the answers of both, the second from where the first ends. -/
theorem run_append (q : EventQueue κ) (actions more : List (Action κ)) :
    q.run (actions ++ more) =
      (((q.run actions).1.run more).1, (q.run actions).2 ++ ((q.run actions).1.run more).2) := by
  induction actions generalizing q with
  | nil => rfl
  | cons action actions ih => rw [List.cons_append, run_cons, run_cons, ih, List.cons_append]

theorem capacity_after (q : EventQueue κ) (action : Action κ) :
    (q.after action).capacity = q.capacity := by
  cases action with
  | push key event => exact capacity_push q key event
  | drain => rfl

/-- A queue has one capacity for its whole life. -/
theorem capacity_run (q : EventQueue κ) (actions : List (Action κ)) :
    (q.run actions).1.capacity = q.capacity := by
  induction actions generalizing q with
  | nil => rfl
  | cons action actions ih => rw [run_cons, ih, capacity_after]

/-! ## A queue holds its backlog -/

/-- What a queue holds after an action is what its answer says. -/
theorem toList_after (q : EventQueue κ) (action : Action κ) :
    (q.after action).toList = gather q.toList (action, q.answer action) := by
  cases action with
  | push key event =>
      rw [after, toList_push]
      by_cases ht : q.accepts event = true
      · rw [if_pos ht, answer, ht]
        rfl
      · rw [if_neg ht, List.append_nil, answer, Bool.of_not_eq_true ht]
        rfl
  | drain => rfl

/-- A queue holds just what its answers in a run say: its contents are known from outside. -/
theorem toList_run (q : EventQueue κ) (actions : List (Action κ)) :
    (q.run actions).1.toList = (q.run actions).2.foldl gather q.toList := by
  induction actions generalizing q with
  | nil => rfl
  | cons action actions ih => rw [run_cons, ih, List.foldl_cons, toList_after]

/-- An event is taken if it may not be dropped or there is room for it. -/
theorem accepts_eq (q : EventQueue κ) (event : EngineEvent) :
    q.accepts event = (!event.isDroppable || decide (q.toList.length < q.capacity)) := by
  rw [accepts, size_eq_length, Bool.or_comm]

/-- Just the events that may be dropped are refused, and just when the queue is full. -/
theorem accepts_eq_false_iff (q : EventQueue κ) (event : EngineEvent) :
    q.accepts event = false ↔ event.isDroppable = true ∧ q.capacity ≤ q.toList.length := by
  rw [accepts_eq, Bool.or_eq_false_iff, Bool.not_eq_false', decide_eq_false_iff_not, Nat.not_lt]

/-! ## What is kept of the arrivals -/

theorem kept_nil (capacity : Nat) : kept capacity ([] : List (κ × EngineEvent)) = [] := by
  rw [kept, List.take_nil, List.drop_nil]
  rfl

/-- There is room among what is kept exactly while fewer events than the capacity have arrived,
whatever they are. -/
theorem length_kept_lt_iff (capacity : Nat) (pushed : List (κ × EngineEvent)) :
    (kept capacity pushed).length < capacity ↔ pushed.length < capacity := by
  rw [kept, List.length_append, List.length_take]
  constructor
  · intro h
    omega
  · intro h
    rw [List.drop_of_length_le (by omega), List.filter_nil, List.length_nil]
    omega

/-- One more arrival is kept if there is room or it may not be dropped. -/
theorem kept_append_singleton (capacity : Nat) (pushed : List (κ × EngineEvent))
    (entry : κ × EngineEvent) :
    kept capacity (pushed ++ [entry]) =
      kept capacity pushed ++
        if !mayDrop entry || decide ((kept capacity pushed).length < capacity)
        then [entry] else [] := by
  by_cases hroom : pushed.length < capacity
  · -- there is room: everything that arrived is kept, the new event too
    have hlength : (kept capacity pushed).length < capacity :=
      (length_kept_lt_iff capacity pushed).mpr hroom
    have hall : (pushed ++ [entry]).length ≤ capacity := by
      rw [List.length_append, List.length_singleton]
      omega
    rw [decide_eq_true hlength, Bool.or_true, if_pos rfl, kept, kept, List.take_of_length_le hall,
      List.drop_of_length_le hall, List.take_of_length_le (by omega),
      List.drop_of_length_le (by omega), List.filter_nil, List.append_nil, List.append_nil]
  · -- the queue is full: the first arrivals stay and the new event is judged with the rest
    have hfull : ¬ (kept capacity pushed).length < capacity := fun h =>
      hroom ((length_kept_lt_iff capacity pushed).mp h)
    have hle : capacity ≤ pushed.length := Nat.le_of_not_lt hroom
    rw [decide_eq_false hfull, Bool.or_false, kept, kept, List.take_append_of_le_length hle,
      List.drop_append_of_le_length hle, List.filter_append, List.append_assoc, List.filter_cons,
      List.filter_nil]

/-- A queue that keeps what it should of its arrivals does so after one more action. -/
theorem toList_after_kept {pushed : List (κ × EngineEvent)} (h : q.toList = kept q.capacity pushed)
    (action : Action κ) :
    (q.after action).toList = kept q.capacity (arrive pushed action) := by
  cases action with
  | push key event =>
      rw [after, toList_push, accepts_eq, h]
      exact (kept_append_singleton q.capacity pushed (key, event)).symm
  | drain => exact (kept_nil q.capacity).symm

/-- A queue that keeps what it should of its arrivals does so after a whole run. -/
theorem toList_run_kept {pushed : List (κ × EngineEvent)} (h : q.toList = kept q.capacity pushed)
    (actions : List (Action κ)) :
    (q.run actions).1.toList = kept q.capacity (actions.foldl arrive pushed) := by
  induction actions generalizing q pushed with
  | nil => exact h
  | cons action actions ih =>
      -- the invariant is about the queue after the action, whose capacity is the same
      have hafter : (q.after action).toList =
          kept (q.after action).capacity (arrive pushed action) := by
        rw [capacity_after]
        exact toList_after_kept h action
      rw [run_cons, ih hafter, capacity_after, List.foldl_cons]

/-- A queue keeps what it should keep of its arrivals, after every history. -/
theorem toList_run_empty (capacity : Nat) (history : List (Action κ)) :
    ((empty capacity).run history).1.toList = kept capacity (arrivals history) := by
  have hnone : (empty capacity : EventQueue κ).toList = kept capacity [] := (kept_nil capacity).symm
  exact toList_run_kept hnone history

/-- No more events that may be dropped are kept than the capacity. -/
theorem countP_mayDrop_kept_le (capacity : Nat) (pushed : List (κ × EngineEvent)) :
    (kept capacity pushed).countP mayDrop ≤ capacity := by
  have hrest : ((pushed.drop capacity).filter (!mayDrop ·)).countP mayDrop = 0 := by
    refine List.countP_eq_zero.mpr fun entry hentry hdrop => ?_
    have howed := (List.mem_filter.mp hentry).2
    rw [hdrop] at howed
    cases howed
  calc (kept capacity pushed).countP mayDrop
      = (pushed.take capacity).countP mayDrop := by
        rw [kept, List.countP_append, hrest, Nat.add_zero]
    _ ≤ (pushed.take capacity).length := List.countP_le_length
    _ ≤ capacity := List.length_take_le capacity pushed

/-! ## Outcomes are not lost -/

/-- In each step the outcomes that were held or are pushed are given out or held. -/
theorem outcomes_after (q : EventQueue κ) (action : Action κ) :
    (q.toList ++ action.pushed?.toList).filter (!mayDrop ·) =
      ((q.answer action).events ++ (q.after action).toList).filter (!mayDrop ·) := by
  cases action with
  | push key event =>
      rw [after, toList_push]
      by_cases ht : q.accepts event = true
      · rw [if_pos ht]
        rfl
      · -- what is refused is no outcome
        have hdrop : event.isDroppable = true :=
          ((accepts_eq_false_iff q event).mp (Bool.of_not_eq_true ht)).1
        have hnone : [(key, event)].filter (!mayDrop ·) = [] :=
          List.filter_cons_of_neg (by rw [mayDrop, hdrop]; exact Bool.false_ne_true)
        rw [if_neg ht, List.append_nil, List.filter_append]
        simp only [Action.pushed?, Option.toList_some, hnone, List.append_nil]
        rfl
  | drain => rfl

/-- In a run the outcomes that were held or are pushed are given out or held, in one order. -/
theorem outcomes_run (q : EventQueue κ) (actions : List (Action κ)) :
    (q.toList ++ actions.filterMap Action.pushed?).filter (!mayDrop ·) =
      ((q.run actions).2.flatMap (·.2.events) ++ (q.run actions).1.toList).filter
        (!mayDrop ·) := by
  induction actions generalizing q with
  | nil => rw [List.filterMap_nil, List.append_nil, run_nil, List.flatMap_nil, List.nil_append]
  | cons action actions ih =>
      -- split off the event of the first action, so that `outcomes_after` applies to it
      have hpushed : (action :: actions).filterMap Action.pushed? =
          action.pushed?.toList ++ actions.filterMap Action.pushed? := by
        cases action <;> rfl
      rw [hpushed, ← List.append_assoc, List.filter_append, outcomes_after, ← List.filter_append,
        List.append_assoc, List.filter_append, ih, ← List.filter_append, run_cons,
        List.flatMap_cons, List.append_assoc]

/-! ## A queue that is full -/

/-- A queue that is full stays full as long as it is not drained. -/
theorem full_run (h : q.capacity ≤ q.toList.length) {actions : List (Action κ)}
    (hpushes : ∀ action ∈ actions, action.pushed?.isSome = true) :
    (q.run actions).1.capacity ≤ (q.run actions).1.toList.length := by
  induction actions generalizing q with
  | nil => exact h
  | cons action actions ih =>
      have hafter : (q.after action).capacity ≤ (q.after action).toList.length := by
        have hpush := hpushes action List.mem_cons_self
        cases action with
        | push key event =>
            rw [capacity_after, after, toList_push, List.length_append]
            omega
        | drain => cases hpush
      exact ih hafter fun later hlater => hpushes later (List.mem_cons_of_mem action hlater)

/-- A refusal says that the event may be dropped and that the queue is full. -/
theorem answer_push_eq_false_iff (q : EventQueue κ) (key : κ) (event : EngineEvent) :
    q.answer (.push key event) = .pushed false ↔
      event.isDroppable = true ∧ q.capacity ≤ q.toList.length := by
  rw [← accepts_eq_false_iff, answer, Answer.pushed.injEq]

/-! ## The specification -/

/-- After every history of pushes and drains, with keys of any kind, a queue takes the outcome of an
evaluation always, and another event just if it took fewer events than its capacity since it was last
drained.  It gives out all that it took since then, in the order of arrival, and is a new queue
afterwards.  What it took is the first arrivals up to its capacity and the outcomes after them, so no
more events that may be dropped wait than the capacity; every outcome that was ever pushed was given
out or waits; and after one refusal no event that may be dropped is taken until the next drain. -/
theorem answers_by_backlog (capacity : Nat) (history : List (Action κ)) :
    let q := ((empty capacity).run history).1
    let log := ((empty capacity).run history).2
    let taken := backlog log
    (∀ action, (empty capacity).run (history ++ [action]) =
        (q.after action, log ++ [(action, q.answer action)])) ∧
      (∀ key event, q.answer (.push key event) =
        .pushed (!event.isDroppable || decide (taken.length < capacity))) ∧
      q.answer .drain = .drained taken ∧
      q.after .drain = empty capacity ∧
      q.toList = taken ∧
      taken = kept capacity (arrivals history) ∧
      q.toList.countP mayDrop ≤ capacity ∧
      (history.filterMap Action.pushed?).filter (!mayDrop ·) =
        (log.flatMap (·.2.events) ++ q.toList).filter (!mayDrop ·) ∧
      (∀ key event later, q.answer (.push key event) = .pushed false →
        (∀ action ∈ later, action.pushed?.isSome = true) →
        ∀ key' event', event'.isDroppable = true →
          ((empty capacity).run (history ++ .push key event :: later)).1.answer
            (.push key' event') = .pushed false) := by
  intro q log taken
  have hcapacity : q.capacity = capacity := capacity_run (empty capacity) history
  have hheld : q.toList = taken := toList_run (empty capacity) history
  have hkept : q.toList = kept capacity (arrivals history) := toList_run_empty capacity history
  refine ⟨?_, ?_, ?_, ?_, hheld, hheld.symm.trans hkept, ?_, ?_, ?_⟩
  · intro action
    rw [run_append]
    rfl
  · intro key event
    rw [answer, accepts_eq, hcapacity, hheld]
  · rw [answer, hheld]
  · rw [after, drained_eq_empty, hcapacity]
  · rw [hkept]
    exact countP_mayDrop_kept_le capacity (arrivals history)
  · have houtcomes := outcomes_run (empty capacity) history
    rw [toList_empty, List.nil_append] at houtcomes
    exact houtcomes
  · intro key event later hrefused hpushes key' event' hdrop
    have hfull : q.capacity ≤ q.toList.length :=
      ((answer_push_eq_false_iff q key event).mp hrefused).2
    -- the refused push is itself one of the pushes that leave the queue full
    have hall : ∀ action ∈ (.push key event :: later : List (Action κ)),
        action.pushed?.isSome = true :=
      List.forall_mem_cons.mpr ⟨rfl, hpushes⟩
    rw [answer_push_eq_false_iff, run_append]
    exact ⟨hdrop, full_run hfull hall⟩

/-- An outcome counts as an event that was taken, and is taken when nothing else is. -/
example (posting : Posting) :
    let outcome : EngineEvent := .evaluated .report (.value "2")
    let run (capacity : Nat) := ((empty capacity).run
      [.push 1 outcome, .push 2 (.posted posting), .push 1 outcome, .drain]).2.map (·.2)
    run 0 = [.pushed true, .pushed false, .pushed true, .drained [(1, outcome), (1, outcome)]] ∧
      run 1 = run 0 := by
  constructor <;> rfl

end EventQueue

end PageBridge
