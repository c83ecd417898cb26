import PageBridge.Proofs.Host.Actions
import PageBridge.Proofs.Host.Pump

/-!
# What happens to a host

Between two pumps a program acts on a host and its views, and engine events, effects of bridges and
closed windows arrive.  Only arrivals touch what waits, and only a pump takes it out
(`waits_after`).  So after any history what waits is what arrived since the last pump
(`waits_run`), however many pumps there were before.
-/

namespace PageBridge.Host

/-- Something that comes to wait for the next pump. -/
inductive Arrival where
  | deferred (id : ViewId) (event : EngineEvent)
  | told (id : ViewId) (effect : Effect)
  | windowClosed (id : ViewId)

/-- The buffers after an arrival. -/
def Pending.arrive (p : Pending) : Arrival → Pending
  | .deferred id event => p.defer id event
  | .told id effect => p.record id effect
  | .windowClosed id => p.windowClosed id

/-- A host that is ready, on a machine with a platform, at the start of a program. -/
def started : Host := { fresh with ready := true, hasPlatform := true }

/-- Something that happens to a host. -/
inductive Happening where
  | act (action : Action)
  | arrive (arrival : Arrival)

/-- The host after something happened to it. -/
def after (files : File.Disk) (h : Host) : Happening → Host
  | .act action => (h.perform files action).2
  | .arrive arrival => { h with pending := h.pending.arrive arrival }

/-- The host after all that happened to it. -/
def run (files : File.Disk) (h : Host) (happenings : List Happening) : Host :=
  happenings.foldl (after files) h

/-- What arrived since the last pump, after one more happening. -/
def await (arrivals : List Arrival) : Happening → List Arrival
  | .act .pump => []
  | .act _ => arrivals
  | .arrive arrival => arrivals ++ [arrival]

/-- What arrived since the last pump of a history. -/
def awaited (happenings : List Happening) : List Arrival :=
  happenings.foldl await []

/-! ## Actions -/

/-- In two hosts the same waits, and one is as ready to be pumped as the other. -/
structure SameWait (h h' : Host) : Prop where
  pending_eq : h'.pending = h.pending
  ready_eq : h'.ready = h.ready
  hasPlatform_eq : h'.hasPlatform = h.hasPlatform

/-- In a host the same waits as in itself. -/
theorem SameWait.refl (h : Host) : SameWait h h := ⟨rfl, rfl, rfl⟩

/-- What is done to a view is not done to what waits. -/
theorem sameWait_change (h : Host) (id : ViewId) (c : ViewChange) :
    SameWait h (h.change id c) := ⟨rfl, rfl, rfl⟩

/-- Acting on a view queues commands and changes what is known of the view. -/
theorem sameWait_performOn (files : File.Disk) (h : Host) (id : ViewId) (action : ViewAction) :
    SameWait h (h.performOn files id action).2 := by
  obtain ⟨c, -, hchange⟩ := h.exists_change files id action
  rw [hchange]
  exact h.sameWait_change id c

/-- A new view has nothing that waits. -/
theorem sameWait_create (h : Host) (options : Options) :
    SameWait h (h.create options).2 := by
  rcases h.create_cases options with ⟨e, hfails⟩ | ⟨-, -, hdoes⟩
  · rw [hfails]
    exact .refl h
  · rw [hdoes]
    exact ⟨rfl, rfl, rfl⟩

/-- Whatever a program does but pumping leaves alone what waits. -/
theorem sameWait_perform (files : File.Disk) (h : Host) {action : Action} (hpump : action ≠ .pump) :
    SameWait h (h.perform files action).2 := by
  cases action with
  | start =>
      rw [perform, start]
      split <;> exact .refl h
  | create options => exact h.sameWait_create options
  | onView id action => exact h.sameWait_performOn files id action
  | pump => exact absurd rfl hpump

/-! ## Arrivals -/

/-- The capacity of the queue is not for arrivals to change. -/
theorem capacity_arrive (p : Pending) (arrival : Arrival) :
    (p.arrive arrival).events.capacity = p.events.capacity := by
  cases arrival with
  | deferred id event => exact p.events.capacity_push id event
  | told id effect => cases effect <;> rfl
  | windowClosed id => rfl

/-- Whatever arrived, a pump leaves the same empty buffers. -/
theorem emptied_foldl_arrive (p : Pending) (arrivals : List Arrival) :
    (arrivals.foldl Pending.arrive p).emptied = p.emptied := by
  induction arrivals generalizing p with
  | nil => rfl
  | cons arrival arrivals ih =>
      rw [List.foldl_cons, ih, Pending.emptied, capacity_arrive]
      rfl

/-! ## Histories -/

/-- A host is ready to be pumped, and what waits in it is what arrived in buffers that were like those
of `p` after a pump. -/
structure Waits (p : Pending) (arrivals : List Arrival) (h : Host) : Prop where
  ready_eq : h.ready = true
  hasPlatform_eq : h.hasPlatform = true
  pending_eq : h.pending = arrivals.foldl Pending.arrive p.emptied

variable (files : File.Disk) {p : Pending} {arrivals : List Arrival} {h : Host}

/-- A pump takes out all that waits, nothing else takes anything out, and arrivals are added. -/
theorem waits_after (hwaits : Waits p arrivals h) (happening : Happening) :
    Waits p (await arrivals happening) (h.after files happening) := by
  obtain ⟨hready, hplatform, hpending⟩ := hwaits
  cases happening with
  | arrive arrival =>
      refine ⟨hready, hplatform, ?_⟩
      rw [after, await, List.foldl_append, ← hpending]
      rfl
  | act action =>
      by_cases hpump : action = .pump
      · subst hpump
        have hafter : h.after files (.act .pump) = (h.pumpWith refuse).2 := by
          rw [after, perform, pump_eq hready hplatform]
        rw [hafter, pumpWith_eq]
        refine ⟨hready, hplatform, ?_⟩
        rw [hpending, emptied_foldl_arrive]
        rfl
      · have hsame : SameWait h (h.after files (.act action)) := h.sameWait_perform files hpump
        have hawait : await arrivals (.act action) = arrivals := by
          cases action with
          | pump => exact absurd rfl hpump
          | start | create | onView => rfl
        rw [hawait]
        exact ⟨hsame.ready_eq.trans hready, hsame.hasPlatform_eq.trans hplatform,
          hsame.pending_eq.trans hpending⟩

/-- What waits after a history is what arrived since its last pump. -/
theorem waits_run (hwaits : Waits p arrivals h) (happenings : List Happening) :
    Waits p (happenings.foldl await arrivals) (h.run files happenings) := by
  induction happenings generalizing h arrivals with
  | nil => exact hwaits
  | cons happening happenings ih => exact ih (waits_after files hwaits happening)

/-- After a pump and any history since, with more pumps or without, what waits is what arrived since
the last one. -/
theorem waits_run_pumped (hready : h.ready = true) (hplatform : h.hasPlatform = true)
    (happenings : List Happening) :
    Waits h.pending (awaited happenings) ((h.pumpWith refuse).2.run files happenings) := by
  have hpumped : Waits h.pending [] (h.pumpWith refuse).2 := by
    rw [pumpWith_eq]
    exact ⟨hready, hplatform, rfl⟩
  exact waits_run files hpumped happenings

end PageBridge.Host
