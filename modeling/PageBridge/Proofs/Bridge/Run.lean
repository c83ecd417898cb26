import PageBridge.Bridge.Basic
import PageBridge.Proofs.Installation.Lockstep

/-!
# Runs of a bridge

A bridge passes some of its actions on to its installation.  A run of the bridge is a run of the
installation through these actions, with the same calls (`installation_run`, `calls_run`), and the
events that a bridge handles leave the installation alone.
-/

namespace PageBridge

/-! ## What is seen of effects -/

namespace Effect

section See

variable {α : Type} {see : Effect → Option α}

/-- Who does not look at calls sees nothing of effects that are calls. -/
theorem filterMap_map_call (h : ∀ call, see (.call call) = none) (calls : List Call) :
    (calls.map Effect.call).filterMap see = [] := by
  rw [List.filterMap_map]
  exact List.filterMap_eq_nil_iff.mpr fun call _ => h call

/-- Who does not look at changes of the page sees nothing of effects that report them. -/
theorem filterMap_map_changed (h : ∀ change, see (.changed change) = none)
    (changes : List Navigation.Change) : (changes.map Effect.changed).filterMap see = [] := by
  rw [List.filterMap_map]
  exact List.filterMap_eq_nil_iff.mpr fun change _ => h change

/-- Who looks neither at results nor at what callers are told sees nothing of an outcome. -/
theorem see_run (hresult : ∀ result error, see (.result result error) = none)
    (hcompleted : ∀ label outcome, see (.completed label outcome) = none)
    (completion : Completion) (outcome : Outcome) : see (completion.run outcome) = none := by
  cases completion with
  | report =>
      cases outcome with
      | value result => exact hresult result ""
      | failure error => exact hresult "" error
  | caller label => exact hcompleted label outcome

end See

theorem filterMap_call?_map_call (calls : List Call) :
    (calls.map Effect.call).filterMap Effect.call? = calls := by
  rw [List.filterMap_map]
  exact List.filterMap_some

/-- Telling an outcome to whoever asked for it is no call into the engine. -/
theorem call?_run (completion : Completion) (outcome : Outcome) :
    (completion.run outcome).call? = none :=
  see_run (fun _ _ => rfl) (fun _ _ => rfl) completion outcome

end Effect

namespace Bridge

/-- Who looks neither at messages nor at channel texts sees nothing of a posting, be it let in or not. -/
theorem filterMap_eventEffects_posted {α : Type} {see : Effect → Option α}
    (hchannel : ∀ message, see (.channel message) = none)
    (hreceived : ∀ message, see (.received message) = none) (b : Bridge) (posting : Posting) :
    (b.eventEffects (.posted posting)).filterMap see = [] := by
  rw [eventEffects]
  cases b.installation.accept? posting with
  | none => rfl
  | some message =>
      simp only [messageEffects]
      split <;> simp [hchannel, hreceived]

/-! ## What an action does with the installation -/

/-- No event changes the installation: postings, news of the page and outcomes leave it alone. -/
theorem installation_afterEvent (b : Bridge) (event : EngineEvent) :
    (b.afterEvent event).installation = b.installation := by
  cases event <;> rfl

/-- No event gives a bridge a channel or takes it away. -/
theorem hasChannel_afterEvent (b : Bridge) (event : EngineEvent) :
    (b.afterEvent event).hasChannel = b.hasChannel := by
  cases event <;> rfl

/-- The installation follows an action that is passed on to it and ignores the others. -/
theorem installation_after (b : Bridge) (action : Action) :
    (b.after action).installation =
      action.managed?.elim b.installation b.installation.after := by
  cases action with
  | handle event => exact installation_afterEvent b event
  | _ => rfl

/-- Handling an event makes no call into the engine. -/
theorem calls_eventEffects (b : Bridge) (event : EngineEvent) :
    (b.eventEffects event).filterMap Effect.call? = [] := by
  cases event with
  | posted posting => exact filterMap_eventEffects_posted (fun _ => rfl) (fun _ => rfl) b posting
  | navigated step => exact Effect.filterMap_map_changed (fun _ => rfl) _
  | evaluated completion outcome =>
      rw [eventEffects, List.filterMap_cons_none (Effect.call?_run completion outcome)]
      rfl

/-- The calls of an action are those of what it passes on. -/
theorem calls_effects (b : Bridge) (action : Action) :
    (b.effects action).filterMap Effect.call? =
      action.managed?.elim [] b.installation.calls := by
  cases action with
  | handle event => exact calls_eventEffects b event
  | setChannel => rfl
  | manage action => exact Effect.filterMap_call?_map_call _
  | send message => exact Effect.filterMap_call?_map_call _
  | run script => rfl

/-! ## Runs -/

@[simp]
theorem run_nil (b : Bridge) : b.run [] = (b, []) := rfl

/-- A run is its first action followed by the run of the rest, and the effects come in this
order. -/
@[simp]
theorem run_cons (b : Bridge) (action : Action) (actions : List Action) :
    b.run (action :: actions) =
      (((b.after action).run actions).1, b.effects action ++ ((b.after action).run actions).2) :=
  rfl

/-- The installation after a run of a bridge is the one after the actions that were passed on. -/
theorem installation_run (b : Bridge) (actions : List Action) :
    (b.run actions).1.installation =
      (b.installation.run (actions.filterMap Action.managed?)).1 := by
  -- for every bridge, as the first action may change it
  induction actions generalizing b with
  | nil => rfl
  | cons action actions ih =>
      rw [run_cons, ih, installation_after]
      cases hm : action.managed? with
      | none => rw [List.filterMap_cons_none hm, Option.elim_none]
      | some managed =>
          rw [List.filterMap_cons_some hm, Option.elim_some, Installation.run_cons]

/-- The calls of a run of a bridge are those of the actions that were passed on. -/
theorem calls_run (b : Bridge) (actions : List Action) :
    (b.run actions).2.filterMap Effect.call? =
      (b.installation.run (actions.filterMap Action.managed?)).2 := by
  induction actions generalizing b with
  | nil => rfl
  | cons action actions ih =>
      rw [run_cons, List.filterMap_append, ih, calls_effects, installation_after]
      cases hm : action.managed? with
      | none => rw [List.filterMap_cons_none hm, Option.elim_none, Option.elim_none, List.nil_append]
      | some managed =>
          rw [List.filterMap_cons_some hm, Option.elim_some, Option.elim_some,
            Installation.run_cons]

/-- A new bridge has run through the installation that stands. -/
theorem installation_run_fresh (home : World) (actions : List Action) :
    ((fresh home).run actions).1.installation =
      (Installation.Standing.ofHistory (actions.filterMap Action.managed?)).installation home := by
  rw [installation_run]
  exact Installation.run_vacant home _

/-- Whether a bridge is apart from the page is decided by its engine, for the whole life of the
bridge. -/
theorem isIsolated_run_fresh (isolates : Bool) (actions : List Action) :
    ((fresh (.home isolates)).run actions).1.installation.home.isIsolated = isolates := by
  have hhome : ((fresh (.home isolates)).run actions).1.installation.home = .home isolates := by
    rw [installation_run]
    exact Installation.home_run (.vacant (.home isolates)) _
  rw [hhome, World.isIsolated_home]

/-- What lives in the engine of a new bridge is what its installation holds, after every run. -/
theorem inStep_run_fresh (home : World) (actions : List Action) :
    Installation.InStep ((fresh home).run actions).1.installation
      (Engine.empty.replay (((fresh home).run actions).2.filterMap Effect.call?)) := by
  have hvacant : Installation.InStep (fresh home).installation Engine.empty :=
    Installation.inStep_vacant home []
  rw [installation_run, calls_run]
  exact hvacant.run _

end Bridge

end PageBridge
