import PageBridge.Host.Basic

/-!
# Pumping a host

A pump carries out the commands, hands engine events on, makes the callbacks that are due, and only
then forgets the views that were closed, so that they still hear of what happened before.  A command
that fails is noted, and the pump goes on.
-/

namespace PageBridge.Host

/-- What a pump does: the errors that commands ended with, the outcomes that callers of evaluations
are told, and the callbacks that are made. -/
structure Activity where
  faults : List Error
  completed : List (String × Outcome)
  invoked : List (Callback × Notice)
deriving DecidableEq, Repr

/-- Nothing. -/
def Activity.none : Activity := ⟨[], [], []⟩

/-! ## Commands -/

/-- How a platform answers to commands. -/
abbrev Processor := ViewId × Command → Except Error Unit

/-- The platform of this host has no engine for any command. -/
def refuse : Processor := fun _ => .error .noEngine

/-- What comes of commands: the views that they close, and the errors that they end with. -/
structure Round where
  closed : List ViewId
  faults : List Error

/-- The round after one more command. -/
def Round.next (process : Processor) (round : Round) (command : ViewId × Command) : Round where
  closed := if command.2.isClose then round.closed ++ [command.1] else round.closed
  faults :=
    match process command with
    | .ok _ => round.faults
    | .error e => round.faults ++ [e]

/-- Carries out commands, one after the other. -/
def carryOut (process : Processor) (commands : List (ViewId × Command)) : Round :=
  commands.foldl (Round.next process) ⟨[], []⟩

/-! ## Engine events -/

/-- The effect of an engine event, whose view has no bridge. -/
def orphanEffect? : ViewId × EngineEvent → Option (ViewId × Effect)
  | (id, event) => event.orphanEffect?.map fun effect => (id, effect)

/-- The outcome that an effect tells a caller. -/
def completed? : ViewId × Effect → Option (String × Outcome)
  | (_, .completed label outcome) => some (label, outcome)
  | _ => none

/-- Hands the engine events on, in the order in which they came. -/
def dispatch (p : Pending) : List (String × Outcome) × Pending :=
  let (events, p) := p.takeEvents
  let effects := events.filterMap orphanEffect?
  (effects.filterMap completed?, p.recordAll effects)

/-! ## Callbacks -/

/-- The callback for a notice, if one is registered. -/
def callback? (callbacks : Keyed ViewId Callbacks) :
    ViewId × Notice → Option (Callback × Notice)
  | (id, notice) =>
    ((callbacks.get? id).bind (·.get? notice.kind)).map fun callback => (callback, notice)

/-- Makes the callbacks for what waits, and for windows that were closed. -/
def flush (callbacks : Keyed ViewId Callbacks) (closes : List ViewId) (p : Pending) :
    List (Callback × Notice) × Pending :=
  let (notices, p) := p.takeNotices
  ((notices ++ closes.map fun id => (id, Notice.closed)).filterMap (callback? callbacks), p)

/-! ## Pumps -/

/-- Pumps a host whose platform answers to commands in some way and has no bridges. -/
def pumpWith (process : Processor) (h : Host) : Activity × Host :=
  let round := carryOut process h.commands.toList
  let (closes, pending) := h.pending.takeCloses
  let (completed, pending) := dispatch pending
  let (invoked, pending) := flush h.callbacks closes pending
  (⟨round.faults, completed, invoked⟩,
    (round.closed ++ closes).foldl remove { h with commands := #[], pending })

/-- Pumps a host.  Without a platform the commands are dropped, and the rest goes on waiting. -/
def pump (h : Host) : Except Error Activity × Host :=
  if !h.ready then (.error .notReady, h)
  else if !h.hasPlatform then (.ok .none, { h with commands := #[] })
  else
    let (activity, h) := h.pumpWith refuse
    (.ok activity, h)

end PageBridge.Host
