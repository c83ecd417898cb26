import PageBridge.Proofs.Installation.Standing

/-!
# An installation and its engine in step

The engine of an installation is known from the calls that were made into it.  `InStep` says that
what lives in the engine is what the installation holds; `InStep.after` shows that every action
keeps it, whatever the state it starts from, and `InStep.run` that every run does.  Together with
what stands after a history this is `run_in_step`.
-/

namespace PageBridge

namespace Engine

/-! ## Replaying the calls of an action -/

/-- Adding scripts leaves the handlers alone. -/
theorem handlers_replay_addScripts (engine : Engine) (scripts : List UserScript) :
    (engine.replay (scripts.map .addScript)).handlers = engine.handlers := by
  induction scripts generalizing engine with
  | nil => rfl
  | cons script scripts ih =>
      rw [List.map_cons, replay_cons, ih]
      rfl

/-- Scripts that are added stand behind those that live already, in their order. -/
theorem scripts_replay_addScripts (engine : Engine) (scripts : List UserScript) :
    (engine.replay (scripts.map .addScript)).scripts = engine.scripts ++ scripts := by
  induction scripts generalizing engine with
  | nil => rw [List.map_nil, replay_nil, List.append_nil]
  | cons script scripts ih =>
      rw [List.map_cons, replay_cons, ih, List.append_cons]
      rfl

/-- Registering a handler leaves it once, whether it was registered before or not. -/
theorem handlers_replay_listenCalls (engine : Engine) (home : World) (name : String) :
    (engine.replay (Installation.listenCalls home name)).handlers =
      engine.handlers.filter (· ≠ (name, home)) ++ [(name, home)] := rfl

/-- Registering a handler leaves the scripts alone. -/
theorem scripts_replay_listenCalls (engine : Engine) (home : World) (name : String) :
    (engine.replay (Installation.listenCalls home name)).scripts = engine.scripts := rfl

end Engine

namespace Installation

open PageBridge.Script (Loader Loaded)

/-- What lives in an engine is what an installation holds. -/
structure InStep (i : Installation) (engine : Engine) : Prop where
  handlers_eq : engine.handlers = if i.listening then [(handlerName, i.home)] else []
  scripts_eq : engine.scripts = i.scripts

variable {i : Installation} {engine : Engine}

/-- Nothing is in step with an engine in which no handler and no script lives. -/
theorem inStep_vacant (home : World) (pending : List Completion) :
    InStep (vacant home) ⟨[], [], pending⟩ := ⟨rfl, rfl⟩

namespace InStep

/-- Taking everything out empties the engine of whatever the installation put there. -/
theorem uninstall (h : InStep i engine) :
    InStep (vacant i.home) (engine.replay i.uninstallCalls) := by
  obtain ⟨hh, hs⟩ := h
  rw [uninstallCalls, Engine.replay_append]
  -- each of the two calls is made only when there is something to take out
  cases hl : i.listening with
  | false =>
      rw [hl] at hh
      by_cases he : i.scripts.isEmpty
      · rw [if_neg Bool.false_ne_true, if_pos he]
        exact ⟨hh, hs.trans (List.isEmpty_iff.mp he)⟩
      · rw [if_neg Bool.false_ne_true, if_neg he]
        exact ⟨hh, rfl⟩
  | true =>
      rw [hl, if_pos rfl] at hh
      have hnone : (engine.perform (.removeHandler handlerName i.home)).handlers = [] := by
        simp [Engine.perform, hh]
      by_cases he : i.scripts.isEmpty
      · rw [if_pos rfl, if_pos he]
        exact ⟨hnone, hs.trans (List.isEmpty_iff.mp he)⟩
      · rw [if_pos rfl, if_neg he]
        exact ⟨hnone, rfl⟩

/-- A plan ends in step with the installation that it leaves, whatever it was put in the place
of. -/
theorem apply (h : InStep i engine) (plan : Plan) :
    InStep (ofPlan i.home plan) (engine.replay (i.applyCalls plan)) := by
  obtain ⟨hh, hs⟩ := h.uninstall
  rw [applyCalls_eq, apply_eq, Engine.replay_append, Engine.replay_append]
  constructor
  -- the engine was emptied, so the handler of the plan is the only one
  · rw [Engine.handlers_replay_addScripts, Engine.handlers_replay_listenCalls, hh]
    rfl
  · rw [Engine.scripts_replay_addScripts, Engine.scripts_replay_listenCalls, hs]
    rfl

/-- A request that fails ends in step, too: with nothing. -/
theorem install (h : InStep i engine) (loader : Loader) (request : Request) :
    InStep (i.install loader request) (engine.replay (i.installCalls loader request)) := by
  rw [installCalls_eq, Engine.replay_append, install_eq]
  cases Plan.resolve loader request with
  | ok plan => exact h.uninstall.apply plan
  | error e => exact h.uninstall

/-- A replacement drops all scripts of the engine and brings back those that the record holds. -/
theorem replaceScripts (h : InStep i engine) (scripts : List Loaded) :
    InStep (i.replaceScripts scripts) (engine.replay (i.replaceCalls scripts)) := by
  rw [replaceCalls_eq]
  by_cases hi : i.session.installed
  · rw [if_pos hi, Engine.replay_cons]
    constructor
    · rw [Engine.handlers_replay_addScripts, Installation.replaceScripts, if_pos hi]
      exact h.handlers_eq
    · exact Engine.scripts_replay_addScripts _ _
  · rw [if_neg hi, Installation.replaceScripts, if_neg hi]
    exact h

/-- A delivery is an evaluation, which leaves no handler and no script behind. -/
theorem post (h : InStep i engine) (json : String) :
    InStep i (engine.replay (i.postCalls json)) := by
  rw [postCalls]
  split
  · exact ⟨h.handlers_eq, h.scripts_eq⟩
  · exact h

/-- Every action keeps an installation and its engine in step. -/
theorem after (h : InStep i engine) (action : Action) :
    InStep (i.after action) (engine.replay (i.calls action)) := by
  cases action with
  | install loader request => exact h.install loader request
  | apply plan =>
      rw [Installation.after, apply_eq]
      exact h.apply plan
  | uninstall =>
      rw [Installation.after, uninstall_eq]
      exact h.uninstall
  | post json => exact h.post json
  -- an evaluation adds to what is pending, and nothing else
  | evaluate script completion => exact ⟨h.handlers_eq, h.scripts_eq⟩
  | updateOrigins origins => exact ⟨h.handlers_eq, h.scripts_eq⟩
  | replaceScripts scripts => exact h.replaceScripts scripts

/-- Every run keeps an installation and its engine in step. -/
theorem run (h : InStep i engine) (actions : List Action) :
    InStep (i.run actions).1 (engine.replay (i.run actions).2) := by
  induction actions generalizing i engine with
  | nil => exact h
  | cons action actions ih =>
      rw [run_cons, Engine.replay_append]
      exact ih (h.after action)

end InStep

/-! ## Runs from nothing -/

/-- No run moves a bridge into another world. -/
@[simp]
theorem home_run (i : Installation) (actions : List Action) : (i.run actions).1.home = i.home := by
  induction actions generalizing i with
  | nil => rfl
  | cons action actions ih => rw [run_cons, ih, home_after]

/-- A bridge listens exactly while it is installed. -/
theorem listening_run_vacant (home : World) (actions : List Action) :
    ((vacant home).run actions).1.listening = ((vacant home).run actions).1.session.installed := by
  rw [run_vacant, Standing.listening_installation, Standing.installed_installation]

/-- A plan brings its page and its bridge bootstrap, and the channel script that it has. -/
theorem length_bootstrapsOf (home : World) (plan : Plan) :
    (bootstrapsOf home plan).length = if plan.channelSource.isSome then 3 else 2 := by
  cases h : plan.channelSource <;> simp [bootstrapsOf, h]

/-- After every run from nothing the engine holds exactly what the installation does: the one
handler while a bridge is installed, and the bootstrap scripts before the user scripts.  The bootstrap
scripts are those of the plan that was installed last; nothing is left in the installation when no
bridge is installed, and dropping it empties the engine. -/
theorem run_in_step (home : World) (pending : List Completion) (actions : List Action) :
    let i := ((vacant home).run actions).1
    let engine := Engine.replay ⟨[], [], pending⟩ ((vacant home).run actions).2
    (i.listening = true ↔ i.session.installed = true) ∧
      engine.handlers = (if i.session.installed then [(handlerName, home)] else []) ∧
      engine.scripts = i.bootstrapScripts ++ i.userScripts ∧
      (i.session.installed = false →
        i.bootstrapScripts = [] ∧ i.userScripts = [] ∧
          i.session.nspace = "" ∧ i.session.invokeKey = "") ∧
      (i.session.installed = true →
        ∃ before decision since plan, actions = before ++ decision :: since ∧
          decision.plan? = some plan ∧ (∀ action ∈ since, action.decides = false) ∧
          i.bootstrapScripts.length = if plan.channelSource.isSome then 3 else 2) ∧
      (engine.replay (i.calls .uninstall)).handlers = [] ∧
      (engine.replay (i.calls .uninstall)).scripts = [] := by
  intro i engine
  have step : InStep i engine := (inStep_vacant home pending).run actions
  have hi : i = (Standing.ofHistory actions).installation home := run_vacant home actions
  have hhome : i.home = home := home_run (vacant home) actions
  have hlisten : i.listening = i.session.installed := listening_run_vacant home actions
  -- dropping an installation is uninstalling it, which keeps the empty installation in step
  have dropped : InStep (vacant i.home) (engine.replay (i.calls .uninstall)) := step.uninstall
  refine ⟨by rw [hlisten], ?_, step.scripts_eq, ?_, ?_, dropped.handlers_eq, dropped.scripts_eq⟩
  · rw [← hlisten, ← hhome]
    exact step.handlers_eq
  · intro hnot
    rw [hi, Standing.installed_installation, Option.isSome_eq_false_iff,
      Option.isNone_iff_eq_none] at hnot
    rw [hi, Standing.installation_of_plan_eq_none home hnot]
    exact ⟨rfl, rfl, rfl, rfl⟩
  · intro hinst
    rw [hi, Standing.installed_installation] at hinst
    obtain ⟨plan, hplan⟩ := Option.isSome_iff_exists.mp hinst
    obtain ⟨before, decision, since, hactions, hdecision, hsince, -⟩ :=
      Standing.exists_decision hplan
    refine ⟨before, decision, since, plan, hactions, hdecision, hsince, ?_⟩
    rw [hi, Standing.installation_of_plan_eq_some home hplan]
    exact length_bootstrapsOf home plan

end Installation

end PageBridge
