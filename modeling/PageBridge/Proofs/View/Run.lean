import PageBridge.Proofs.Bridge.Run
import PageBridge.View

/-!
# Runs of a view

Only two things that happen to a view have postings handled: an action that hands one to the bridge
at once, and draining the queue.  `received_step` says what the owner is told then: the messages of
the postings that the bridge accepts as it stands at that moment, in their order.  The installation
of a view is, at every moment of a run, the one that stands after the actions passed on to it
(`installation_run_fresh`).
-/

namespace PageBridge

/-- The posting that an event reports. -/
def EngineEvent.posting? : EngineEvent → Option Posting
  | posted posting => some posting
  | _ => none

namespace Effect

/-- The outcome of an evaluation is no message to the owner. -/
theorem received?_run (completion : Completion) (outcome : Outcome) :
    (completion.run outcome).received? = none :=
  see_run (fun _ _ => rfl) (fun _ _ => rfl) completion outcome

theorem channel?_run (completion : Completion) (outcome : Outcome) :
    (completion.run outcome).channel? = none :=
  see_run (fun _ _ => rfl) (fun _ _ => rfl) completion outcome

end Effect

namespace Bridge

/-- The posting that an action has the bridge handle. -/
def Action.posting? : Action → Option Posting
  | handle event => event.posting?
  | _ => none

/-- The owner is told of a message that is let in. -/
theorem received_messageEffects (b : Bridge) (message : Message) :
    (b.messageEffects message).filterMap Effect.received? = [message] := by
  rw [messageEffects]
  split <;> rfl

/-- A channel has a message that is let in, if there is a channel. -/
theorem channel_messageEffects (b : Bridge) (message : Message) :
    (b.messageEffects message).filterMap Effect.channel? =
      if b.hasChannel then [message] else [] := by
  rw [messageEffects]
  split <;> rfl

/-- The owner is told of the message that an event brings, if it is a posting and is accepted. -/
theorem received_eventEffects (b : Bridge) (event : EngineEvent) :
    (b.eventEffects event).filterMap Effect.received? =
      event.posting?.toList.filterMap b.installation.accept? := by
  cases event with
  | posted posting =>
      cases ha : b.installation.accept? posting with
      | none =>
          simp only [eventEffects, EngineEvent.posting?, Option.toList_some, ha]
          rw [List.filterMap_cons_none ha]
          rfl
      | some message =>
          simp only [eventEffects, EngineEvent.posting?, Option.toList_some, ha]
          rw [List.filterMap_cons_some ha]
          exact received_messageEffects b message
  | navigated step => exact Effect.filterMap_map_changed (fun _ => rfl) _
  | evaluated completion outcome =>
      rw [eventEffects, List.filterMap_cons_none (Effect.received?_run completion outcome)]
      rfl

/-- A channel has the messages that the owner is told of, and no others. -/
theorem channel_eventEffects (b : Bridge) (event : EngineEvent) :
    (b.eventEffects event).filterMap Effect.channel? =
      if b.hasChannel then (b.eventEffects event).filterMap Effect.received? else [] := by
  cases event with
  | posted posting =>
      cases ha : b.installation.accept? posting with
      | none =>
          simp only [eventEffects, ha]
          exact (ite_self []).symm
      | some message =>
          simp only [eventEffects, ha]
          rw [received_messageEffects]
          exact channel_messageEffects b message
  | navigated step =>
      have hnone : (b.eventEffects (.navigated step)).filterMap Effect.channel? = [] :=
        Effect.filterMap_map_changed (fun _ => rfl) _
      rw [hnone, received_eventEffects]
      split <;> rfl
  | evaluated completion outcome =>
      rw [received_eventEffects, eventEffects,
        List.filterMap_cons_none (Effect.channel?_run completion outcome)]
      split <;> rfl

/-- The owner is told of the message that an action brings, if the action handles a posting that is
accepted. -/
theorem received_effects (b : Bridge) (action : Action) :
    (b.effects action).filterMap Effect.received? =
      action.posting?.toList.filterMap b.installation.accept? := by
  cases action with
  | handle event => exact received_eventEffects b event
  | manage _ | send _ | run _ => exact Effect.filterMap_map_call (fun _ => rfl) _
  | setChannel => rfl

/-- In each action a channel has the messages that the owner is told of, and no others. -/
theorem channel_effects (b : Bridge) (action : Action) :
    (b.effects action).filterMap Effect.channel? =
      if b.hasChannel then (b.effects action).filterMap Effect.received? else [] := by
  cases action with
  | handle event => exact channel_eventEffects b event
  | manage _ | send _ | run _ =>
      rw [received_effects]
      exact (Effect.filterMap_map_call (fun _ => rfl) _).trans (ite_self []).symm
  | setChannel => exact (ite_self []).symm

/-- Handling events leaves the installation alone. -/
theorem installation_run_handle (b : Bridge) (events : List EngineEvent) :
    (b.run (events.map .handle)).1.installation = b.installation := by
  induction events generalizing b with
  | nil => rfl
  | cons event events ih =>
      rw [List.map_cons, run_cons, ih]
      exact installation_afterEvent b event

/-- Events in a row are all judged by the installation as it was before them. -/
theorem received_run_handle (b : Bridge) (events : List EngineEvent) :
    (b.run (events.map .handle)).2.filterMap Effect.received? =
      (events.filterMap EngineEvent.posting?).filterMap b.installation.accept? := by
  -- for every bridge with this installation, as an event may change the rest of a bridge
  induction events generalizing b with
  | nil => rfl
  | cons event events ih =>
      have hsame : (b.after (.handle event)).installation = b.installation :=
        installation_afterEvent b event
      rw [List.map_cons, run_cons, List.filterMap_append, ih, hsame, received_effects,
        ← List.filterMap_append]
      -- the rest of the events is settled, so only the first one is left to look at
      congr 1
      cases hp : event.posting? with
      | none => simp only [Action.posting?, List.filterMap_cons, hp]; rfl
      | some posting => simp only [Action.posting?, List.filterMap_cons, hp]; rfl

/-- Over events in a row a channel has the messages that the owner is told of, and no others. -/
theorem channel_run_handle (b : Bridge) (events : List EngineEvent) :
    (b.run (events.map .handle)).2.filterMap Effect.channel? =
      if b.hasChannel then (b.run (events.map .handle)).2.filterMap Effect.received? else [] := by
  induction events generalizing b with
  | nil => exact (ite_self []).symm
  | cons event events ih =>
      have hsame : (b.after (.handle event)).hasChannel = b.hasChannel :=
        hasChannel_afterEvent b event
      rw [List.map_cons, run_cons, List.filterMap_append, List.filterMap_append, ih, hsame,
        channel_effects]
      split <;> rfl

end Bridge

namespace View

/-- What an action passes on to the installation, while there is one. -/
def Action.managed? : Action → Option Installation.Action
  | act action => action.managed?
  | _ => none

/-- The postings that are handled in an action, in their order. -/
def postings (v : View) : Action → List Posting
  | .act action => action.posting?.toList
  | .drain => v.queue.toList.filterMap (·.2.posting?)
  | _ => []

/-- The message that a posting would bring to the owner now. -/
def accept? (v : View) (posting : Posting) : Option Message :=
  v.bridge.bind (·.installation.accept? posting)

/-- Whether messages go to a channel, too. -/
def hasChannel (v : View) : Bool :=
  v.bridge.any (·.hasChannel)

/-! ## Steps -/

variable {v : View}

/-- A view without a bridge accepts no posting. -/
theorem accept?_of_bridge_eq_none (h : v.bridge = none) (postings : List Posting) :
    postings.filterMap v.accept? = [] :=
  List.filterMap_eq_nil_iff.mpr fun posting _ => by rw [accept?, h, Option.bind_none]

/-- A view accepts what the installation of its bridge accepts. -/
theorem accept?_of_bridge_eq_some {b : Bridge} (h : v.bridge = some b) :
    v.accept? = b.installation.accept? := by
  funext posting
  rw [accept?, h, Option.bind_some]

theorem bridge_step_finish (v : View) (outcome : Outcome) :
    (v.step (.finish outcome)).1.bridge = v.bridge := by
  simp only [step]
  split <;> rfl

theorem bridge_step_deferFinish (v : View) (outcome : Outcome) :
    (v.step (.deferFinish outcome)).1.bridge = v.bridge := by
  simp only [step]
  split <;> rfl

/-- A bridge that is there after a step was there before it, and its installation followed what the
step passes on. -/
theorem bridge_step {action : Action} {b : Bridge} (h : (v.step action).1.bridge = some b) :
    ∃ b', v.bridge = some b' ∧
      b.installation = action.managed?.elim b'.installation b'.installation.after := by
  cases action with
  | finish outcome =>
      rw [bridge_step_finish] at h
      exact ⟨b, h, rfl⟩
  | deferFinish outcome =>
      rw [bridge_step_deferFinish] at h
      exact ⟨b, h, rfl⟩
  | defer event => exact ⟨b, h, rfl⟩
  | act action =>
      cases hb : v.bridge with
      | none =>
          simp only [step, hb] at h
          cases h
      | some b' =>
          simp only [step, hb, settle, Option.some.injEq] at h
          rw [← h]
          exact ⟨b', rfl, Bridge.installation_after b' action⟩
  | drain =>
      cases hb : v.bridge with
      | none =>
          simp only [step, hb, settle, handleAll] at h
          cases h
      | some b' =>
          simp only [step, hb, settle, handleAll, Option.some.injEq] at h
          rw [← h]
          exact ⟨b', rfl, Bridge.installation_run_handle b' _⟩
  | close =>
      -- a closed view has no bridge, whatever there was
      cases hb : v.bridge with
      | none =>
          simp only [step, hb] at h
          cases h
      | some b' =>
          simp only [step, hb, settle] at h
          cases h

/-- What is left of events without a bridge brings no message to anyone. -/
theorem messages_orphanEffects (events : List EngineEvent) :
    (events.filterMap EngineEvent.orphanEffect?).filterMap Effect.received? = [] ∧
      (events.filterMap EngineEvent.orphanEffect?).filterMap Effect.channel? = [] := by
  rw [List.filterMap_filterMap, List.filterMap_filterMap]
  constructor <;> refine List.filterMap_eq_nil_iff.mpr fun event _ => ?_
  · cases event with
    | evaluated completion outcome => exact Effect.received?_run completion outcome
    | posted _ | navigated _ => rfl
  · cases event with
    | evaluated completion outcome => exact Effect.channel?_run completion outcome
    | posted _ | navigated _ => rfl

/-- In each step the owner is told of the postings that are handled and accepted as the view stands
before it, in their order. -/
theorem received_step (v : View) (action : Action) :
    (v.step action).2.filterMap Effect.received? = (v.postings action).filterMap v.accept? := by
  cases action with
  | finish outcome =>
      simp only [step]
      split
      · exact List.filterMap_cons_none (Effect.received?_run _ outcome)
      · rfl
  | deferFinish outcome =>
      simp only [step]
      split <;> rfl
  | defer event => rfl
  | act action =>
      cases hb : v.bridge with
      | none =>
          rw [accept?_of_bridge_eq_none hb]
          simp only [step, hb]
          rfl
      | some b =>
          rw [accept?_of_bridge_eq_some hb]
          simp only [step, hb, settle]
          exact Bridge.received_effects b action
  | drain =>
      cases hb : v.bridge with
      | none =>
          rw [accept?_of_bridge_eq_none hb]
          simp only [step, hb, settle, handleAll]
          exact (messages_orphanEffects _).1
      | some b =>
          rw [accept?_of_bridge_eq_some hb]
          simp only [step, hb, settle, handleAll]
          rw [Bridge.received_run_handle, List.filterMap_map]
          rfl
  | close =>
      -- what still waits in the queue is not handled by closing
      cases hb : v.bridge with
      | none =>
          simp only [step, hb]
          rfl
      | some b =>
          simp only [step, hb, settle]
          exact Bridge.received_effects b (.manage .uninstall)

/-- In each step a channel has the messages that the owner is told of, and no others. -/
theorem channel_step (v : View) (action : Action) :
    (v.step action).2.filterMap Effect.channel? =
      if v.hasChannel then (v.step action).2.filterMap Effect.received? else [] := by
  cases action with
  | finish outcome =>
      simp only [step]
      split
      · rw [List.filterMap_cons_none (Effect.channel?_run _ outcome),
          List.filterMap_cons_none (Effect.received?_run _ outcome)]
        exact (ite_self []).symm
      · exact (ite_self []).symm
  | deferFinish outcome =>
      simp only [step]
      split <;> exact (ite_self []).symm
  | defer event => exact (ite_self []).symm
  | act action =>
      cases hb : v.bridge with
      | none =>
          simp only [step, hb]
          exact (ite_self []).symm
      | some b =>
          simp only [step, hasChannel, hb, settle]
          exact Bridge.channel_effects b action
  | drain =>
      cases hb : v.bridge with
      | none =>
          simp only [step, hb, settle, handleAll]
          rw [(messages_orphanEffects _).1, (messages_orphanEffects _).2]
          exact (ite_self []).symm
      | some b =>
          simp only [step, hasChannel, hb, settle, handleAll]
          exact Bridge.channel_run_handle b _
  | close =>
      cases hb : v.bridge with
      | none =>
          simp only [step, hb]
          exact (ite_self []).symm
      | some b =>
          simp only [step, hasChannel, hb, settle]
          exact Bridge.channel_effects b (.manage .uninstall)

/-! ## Runs -/

@[simp]
theorem run_nil (v : View) : v.run [] = (v, []) := rfl

@[simp]
theorem run_cons (v : View) (action : Action) (actions : List Action) :
    v.run (action :: actions) =
      (((v.step action).1.run actions).1, (v.step action).2 ++ ((v.step action).1.run actions).2) :=
  rfl

/-- A run in two parts has the effects of both, the second from where the first ends. -/
theorem run_append (v : View) (actions more : List Action) :
    v.run (actions ++ more) =
      (((v.run actions).1.run more).1, (v.run actions).2 ++ ((v.run actions).1.run more).2) := by
  induction actions generalizing v with
  | nil => rfl
  | cons action actions ih => rw [List.cons_append, run_cons, run_cons, ih, List.append_assoc]

/-- A bridge that is there after a run was there before it, and its installation ran through what
the run passes on. -/
theorem bridge_run {actions : List Action} {b : Bridge} (h : (v.run actions).1.bridge = some b) :
    ∃ b', v.bridge = some b' ∧
      b.installation = (b'.installation.run (actions.filterMap Action.managed?)).1 := by
  induction actions generalizing v with
  | nil => exact ⟨b, h, rfl⟩
  | cons action actions ih =>
      rw [run_cons] at h
      -- backwards from the end of the run: a bridge is never built anew, so each one came from the
      -- one before
      obtain ⟨b₁, hb₁, hrun⟩ := ih h
      obtain ⟨b₀, hb₀, hstep⟩ := bridge_step hb₁
      refine ⟨b₀, hb₀, ?_⟩
      rw [hrun, hstep]
      cases hm : action.managed? with
      | none => rw [List.filterMap_cons_none hm, Option.elim_none]
      | some managed =>
          rw [List.filterMap_cons_some hm, Option.elim_some, Installation.run_cons]

/-- The installation of a view is the one that stands after what was passed on to it. -/
theorem installation_run_fresh {home : World} {capacity : Nat} {history : List Action} {b : Bridge}
    (h : ((fresh home capacity).run history).1.bridge = some b) :
    b.installation =
      (Installation.Standing.ofHistory (history.filterMap Action.managed?)).installation home := by
  obtain ⟨b', hb', hrun⟩ := bridge_run h
  -- a new view has the new bridge
  cases hb'
  rw [hrun]
  exact Installation.run_vacant home _

end View

end PageBridge
