import PageBridge.Bridge.Effect
import PageBridge.Engine.EventQueue
import PageBridge.Host.Command
import PageBridge.Host.Notice

/-!
# What waits for the next pump

Engine events and the effects of bridges are kept until the next pump.  A buffer that is full takes
nothing more until it is emptied.  Only the results of scripts are kept without limit, since they
are owed to whoever asked for them.
-/

namespace PageBridge.Host

/-- The most that one buffer takes between two pumps. -/
def maxPending : Nat := 10000

/-- Adds to a buffer that is not full. -/
def pushCapped {α : Type} (buffer : Array α) (item : α) : Array α :=
  if buffer.size < maxPending then buffer.push item else buffer

/-- The buffers of all views. -/
structure Pending where
  events : EventQueue ViewId
  closes : Array ViewId
  messages : Array (ViewId × Message)
  channelTexts : Array (ViewId × String)
  results : Array (ViewId × String × String)
  changes : Array (ViewId × Navigation.Change)

namespace Pending

/-- Nothing. -/
def empty : Pending := ⟨.empty maxPending, #[], #[], #[], #[], #[]⟩

/-- Keeps an engine event. -/
def defer (p : Pending) (id : ViewId) (event : EngineEvent) : Pending :=
  { p with events := p.events.push id event }

/-- Keeps that the window of a view was closed. -/
def windowClosed (p : Pending) (id : ViewId) : Pending :=
  { p with closes := pushCapped p.closes id }

/-- Keeps what an effect of the bridge of a view means to the application. -/
def record (p : Pending) (id : ViewId) : Effect → Pending
  | .received message => { p with messages := pushCapped p.messages (id, message) }
  | .channel message => { p with channelTexts := pushCapped p.channelTexts (id, message.text) }
  | .result result error => { p with results := p.results.push (id, result, error) }
  | .changed change => { p with changes := pushCapped p.changes (id, change) }
  | .call _ => p
  | .completed _ _ => p

/-- Keeps effects in their order. -/
def recordAll (p : Pending) (effects : List (ViewId × Effect)) : Pending :=
  effects.foldl (fun p (id, effect) => p.record id effect) p

/-- Takes out the windows that were closed. -/
def takeCloses (p : Pending) : List ViewId × Pending :=
  (p.closes.toList, { p with closes := #[] })

/-- Takes out the engine events. -/
def takeEvents (p : Pending) : List (ViewId × EngineEvent) × Pending :=
  (p.events.toList, { p with events := p.events.drained })

/-- Takes out the notices that wait: messages, channel texts, results and changes. -/
def takeNotices (p : Pending) : List (ViewId × Notice) × Pending :=
  (p.messages.toList.map (fun (id, message) => (id, .received message)) ++
      p.channelTexts.toList.map (fun (id, text) => (id, .channel text)) ++
      p.results.toList.map (fun (id, result, error) => (id, .result result error)) ++
      p.changes.toList.map (fun (id, change) => (id, .changed change)),
    { p with messages := #[], channelTexts := #[], results := #[], changes := #[] })

end Pending

end PageBridge.Host
