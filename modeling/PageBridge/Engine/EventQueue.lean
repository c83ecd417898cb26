import PageBridge.Engine.Event

/-!
# Queues of engine events

A queue keeps the events of all views in the order of their arrival.  Once it holds as many events
as its capacity, it refuses further events that may be dropped until it is drained, and counts them.
-/

namespace PageBridge

/-- A queue of events with the keys of their views. -/
structure EventQueue (κ : Type) where
  capacity : Nat
  events : Array (κ × EngineEvent)
  refused : Nat

namespace EventQueue

variable {κ : Type}

/-- The queue without events. -/
def empty (capacity : Nat) : EventQueue κ := ⟨capacity, #[], 0⟩

/-- The number of events. -/
def size (q : EventQueue κ) : Nat := q.events.size

/-- Whether the queue takes an event. -/
def accepts (q : EventQueue κ) (event : EngineEvent) : Bool :=
  decide (q.size < q.capacity) || !event.isDroppable

/-- The queue with an event at its end, if the queue takes it. -/
def push (q : EventQueue κ) (key : κ) (event : EngineEvent) : EventQueue κ :=
  if q.accepts event then { q with events := q.events.push (key, event) }
  else { q with refused := q.refused + 1 }

/-- The events in their order. -/
def toList (q : EventQueue κ) : List (κ × EngineEvent) := q.events.toList

/-- The queue after its events were taken out. -/
def drained (q : EventQueue κ) : EventQueue κ := { q with events := #[], refused := 0 }

/-- What is done with a queue. -/
inductive Action (κ : Type) where
  | push (key : κ) (event : EngineEvent)
  | drain

/-- What a queue answers: whether it took an event, or the events that were taken out of it. -/
inductive Answer (κ : Type) where
  | pushed (taken : Bool)
  | drained (events : List (κ × EngineEvent))

/-- The queue after an action. -/
def after (q : EventQueue κ) : Action κ → EventQueue κ
  | .push key event => q.push key event
  | .drain => q.drained

/-- What the queue answers to an action. -/
def answer (q : EventQueue κ) : Action κ → Answer κ
  | .push _ event => .pushed (q.accepts event)
  | .drain => .drained q.toList

/-- The queue after actions, and its answer to each of them. -/
def run (q : EventQueue κ) : List (Action κ) → EventQueue κ × List (Action κ × Answer κ)
  | [] => (q, [])
  | action :: actions =>
    let (last, log) := (q.after action).run actions
    (last, (action, q.answer action) :: log)

/-! ## Laws -/

@[simp]
theorem toList_empty (capacity : Nat) : (empty capacity : EventQueue κ).toList = [] := rfl

/-- An event that is taken stands at the end, and one that is refused leaves no trace. -/
theorem toList_push (q : EventQueue κ) (key : κ) (event : EngineEvent) :
    (q.push key event).toList = q.toList ++ if q.accepts event then [(key, event)] else [] := by
  unfold push toList
  split <;> simp

/-- The capacity is fixed when the queue is made. -/
theorem capacity_push (q : EventQueue κ) (key : κ) (event : EngineEvent) :
    (q.push key event).capacity = q.capacity := by
  unfold push
  split <;> rfl

/-- A queue that was drained is as good as new: nothing is left that could refuse an event. -/
theorem drained_eq_empty (q : EventQueue κ) : q.drained = empty q.capacity := rfl

/-- What is compared with the capacity is the number of events that wait. -/
theorem size_eq_length (q : EventQueue κ) : q.size = q.toList.length := by
  simp [size, toList]

end EventQueue

end PageBridge
