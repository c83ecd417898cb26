import PageBridge.Proofs.Installation.Lockstep
import PageBridge.Proofs.Installation.Prepared

/-!
# The order of the calls

The calls of an installation are right not only when an action is over but at every moment in
between.  A handler is registered in an engine that holds nothing, and a script is added where the
handler of the bridge is registered and no other (`InStep.orderly_run`).  The scripts that live in
the engine are at each moment a first part of those of one installation: while an action is carried
out, of the one before it or of the one after it (`InStep.scripts_prefix_action`), and so along a run
(`InStep.scripts_prefix_run`).  `calls_in_order` says both of every first part of the calls of a run.
-/

namespace PageBridge

/-- A call is in order in an engine: the handler of the bridge, and no other, goes where no handler
and no script lives, and a script goes where this handler is the only one. -/
def Call.InOrder (home : World) (engine : Engine) : Call → Prop
  | addHandler name world =>
    name = handlerName ∧ world = home ∧ engine.handlers = [] ∧ engine.scripts = []
  | addScript _ => engine.handlers = [(handlerName, home)]
  | removeHandler _ _ | removeAllScripts | evaluate _ _ _ => True

namespace Engine

/-- Each of some calls is in order in the engine that it is made into. -/
def Orderly (home : World) : Engine → List Call → Prop
  | _, [] => True
  | engine, call :: calls => call.InOrder home engine ∧ (engine.perform call).Orderly home calls

variable {home : World} {engine : Engine}

/-- Calls are in order one after the other if the later ones are so in what the earlier ones
leave. -/
theorem orderly_append {calls more : List Call} :
    engine.Orderly home (calls ++ more) ↔
      engine.Orderly home calls ∧ (engine.replay calls).Orderly home more := by
  induction calls generalizing engine with
  | nil => exact (true_and _).symm ▸ Iff.rfl
  | cons call calls ih =>
      rw [List.cons_append, Orderly, Orderly, ih, replay_cons, and_assoc]

/-- The next call is in order, wherever the calls are cut. -/
theorem Orderly.inOrder {made left : List Call} {call : Call}
    (h : engine.Orderly home (made ++ call :: left)) : call.InOrder home (engine.replay made) :=
  (orderly_append.mp h).2.1

/-- Calls that are in order everywhere are in order one after the other. -/
theorem orderly_of_forall {calls : List Call}
    (h : ∀ call ∈ calls, ∀ engine, call.InOrder home engine) : engine.Orderly home calls := by
  induction calls generalizing engine with
  | nil => trivial
  | cons call calls ih =>
      exact ⟨h call List.mem_cons_self engine, ih fun c hc => h c (List.mem_cons_of_mem _ hc)⟩

/-- Scripts are in order where the handler of the bridge is the only one, as they leave it there. -/
theorem orderly_addScripts (h : engine.handlers = [(handlerName, home)])
    (scripts : List UserScript) : engine.Orderly home (scripts.map .addScript) := by
  induction scripts generalizing engine with
  | nil => trivial
  | cons script scripts ih => exact ⟨h, ih h⟩

/-! ## Scripts in the course of calls -/

/-- What calls leave of the scripts depends on nothing else in the engine. -/
theorem scripts_replay_congr {engine' : Engine} (h : engine.scripts = engine'.scripts)
    (calls : List Call) : (engine.replay calls).scripts = (engine'.replay calls).scripts := by
  induction calls generalizing engine engine' with
  | nil => exact h
  | cons call calls ih =>
      rw [replay_cons, replay_cons]
      apply ih
      cases call with
      | addScript script => simp only [perform, h]
      | removeAllScripts => rfl
      | addHandler | removeHandler | evaluate => exact h

/-- In the course of adding scripts a first part of them is there. -/
theorem scripts_replay_of_prefix_addScripts {scripts : List UserScript} {made : List Call}
    (h : made <+: scripts.map .addScript) :
    (engine.replay made).scripts <+: engine.scripts ++ scripts := by
  have hmade : made = (scripts.take made.length).map .addScript := by
    rw [List.map_take]
    exact List.prefix_iff_eq_take.mp h
  rw [hmade, scripts_replay_addScripts]
  exact (List.prefix_append_right_inj engine.scripts).mpr (List.take_prefix _ scripts)

end Engine

namespace Call

/-- Whether a call adds a script. -/
def addsScript : Call → Bool
  | addScript _ => true
  | _ => false

end Call

/-- In the course of calls that add no scripts, the engine keeps those it has or loses them all. -/
theorem Engine.scripts_replay_of_not_addsScript {engine : Engine} {calls : List Call}
    (h : ∀ call ∈ calls, call.addsScript = false) :
    (engine.replay calls).scripts <+: engine.scripts := by
  induction calls generalizing engine with
  | nil => exact List.prefix_rfl
  | cons call calls ih =>
      have hrest : ((engine.perform call).replay calls).scripts <+: (engine.perform call).scripts :=
        ih fun c hc => h c (List.mem_cons_of_mem _ hc)
      refine hrest.trans ?_
      cases call with
      | addScript script => exact absurd (h _ List.mem_cons_self) Bool.true_eq_false.mp
      | removeAllScripts => exact List.nil_prefix
      | addHandler | removeHandler | evaluate => exact List.prefix_rfl

namespace Installation

open PageBridge.Script (Loaded)

variable {i : Installation} {engine : Engine}

/-- A bridge that listens exactly while it is installed goes on to do so. -/
theorem listening_after (h : i.listening = i.session.installed) (action : Action) :
    (i.after action).listening = (i.after action).session.installed := by
  cases action with
  | install loader request =>
      simp only [after, install_eq]
      split <;> rfl
  | apply => rfl
  | uninstall => rw [after, uninstall_eq, vacant, Session.none]
  | post | evaluate | updateOrigins => exact h
  | replaceScripts scripts =>
      simp only [after, replaceScripts]
      split <;> exact h

/-- Emptying an engine takes at most one call for the handler and one for the scripts. -/
theorem mem_uninstallCalls {call : Call} (h : call ∈ i.uninstallCalls) :
    call = .removeHandler handlerName i.home ∨ call = .removeAllScripts := by
  rw [uninstallCalls, List.mem_append] at h
  rcases h with h | h <;> split at h
  · exact Or.inl (List.mem_singleton.mp h)
  · cases h
  · cases h
  · exact Or.inr (List.mem_singleton.mp h)

/-- The calls before the scripts of a plan are added. -/
def clearCalls (i : Installation) : List Call :=
  i.uninstallCalls ++ listenCalls i.home handlerName

/-- The engine is cleared for a plan before its scripts are added. -/
theorem applyCalls_eq_clearCalls (i : Installation) (plan : Plan) :
    i.applyCalls plan = i.clearCalls ++ (i.apply plan).scripts.map .addScript :=
  applyCalls_eq i plan

/-- Emptying an engine adds no script. -/
theorem not_addsScript_of_mem_uninstallCalls {call : Call} (h : call ∈ i.uninstallCalls) :
    call.addsScript = false := by
  rcases mem_uninstallCalls h with rfl | rfl <;> rfl

/-- A delivery adds no script. -/
theorem not_addsScript_of_mem_postCalls {json : String} {call : Call}
    (h : call ∈ i.postCalls json) : call.addsScript = false := by
  rw [postCalls] at h
  split at h
  · rw [List.mem_singleton.mp h]
    rfl
  · cases h

/-- Clearing an engine for a plan adds no script yet. -/
theorem not_addsScript_of_mem_clearCalls {call : Call} (h : call ∈ i.clearCalls) :
    call.addsScript = false := by
  rw [clearCalls, List.mem_append] at h
  rcases h with h | h
  · exact not_addsScript_of_mem_uninstallCalls h
  · rw [listenCalls] at h
    simp only [List.mem_cons, List.not_mem_nil, or_false] at h
    rcases h with rfl | rfl <;> rfl

/-- Removals are in order in every engine. -/
theorem orderly_uninstallCalls (i : Installation) (engine : Engine) :
    engine.Orderly i.home i.uninstallCalls := by
  refine Engine.orderly_of_forall fun call hcall engine => ?_
  rcases mem_uninstallCalls hcall with rfl | rfl <;> trivial

namespace InStep

/-- What lives in an engine that is ready for the scripts of a plan. -/
theorem clear (h : InStep i engine) :
    (engine.replay i.clearCalls).handlers = [(handlerName, i.home)] ∧
      (engine.replay i.clearCalls).scripts = [] := by
  obtain ⟨hh, hs⟩ := h.uninstall
  rw [clearCalls, Engine.replay_append, Engine.handlers_replay_listenCalls,
    Engine.scripts_replay_listenCalls, hh, hs]
  exact ⟨rfl, rfl⟩

/-- A plan registers its handler in an engine that it has emptied, and adds its scripts to this
handler. -/
theorem orderly_applyCalls (h : InStep i engine) (plan : Plan) :
    engine.Orderly i.home (i.applyCalls plan) := by
  obtain ⟨hh, hs⟩ := h.uninstall
  rw [applyCalls_eq_clearCalls, Engine.orderly_append, clearCalls, Engine.orderly_append]
  refine ⟨⟨orderly_uninstallCalls i engine, ?_⟩, ?_⟩
  · -- the older handler is taken out first, and there is none any more
    have hnone : ((engine.replay i.uninstallCalls).perform
        (.removeHandler handlerName i.home)).handlers = [] := by
      rw [Engine.perform, hh]
      rfl
    exact ⟨trivial, ⟨rfl, rfl, hnone, hs⟩, trivial⟩
  · exact Engine.orderly_addScripts h.clear.1 _

/-- A replacement adds scripts to the handler of the bridge, which it never takes out. -/
theorem orderly_replaceCalls (h : InStep i engine)
    (hlisten : i.listening = i.session.installed) (scripts : List Loaded) :
    engine.Orderly i.home (i.replaceCalls scripts) := by
  rw [replaceCalls_eq]
  by_cases hi : i.session.installed = true
  · have hhandlers : (engine.perform .removeAllScripts).handlers = [(handlerName, i.home)] := by
      rw [Engine.perform, h.handlers_eq, hlisten, if_pos hi]
    rw [if_pos hi]
    exact ⟨trivial, Engine.orderly_addScripts hhandlers _⟩
  · rw [if_neg hi]
    trivial

/-- The calls of every action are in order. -/
theorem orderly_calls (h : InStep i engine) (hlisten : i.listening = i.session.installed)
    (action : Action) : engine.Orderly i.home (i.calls action) := by
  cases action with
  | install loader request =>
      rw [← calls_prepared]
      cases hr : Plan.resolve loader request with
      | ok plan =>
          rw [Action.prepared_of_ok hr]
          exact h.orderly_applyCalls plan
      | error e =>
          rw [Action.prepared_of_error hr]
          exact orderly_uninstallCalls i engine
  | apply plan => exact h.orderly_applyCalls plan
  | uninstall => exact orderly_uninstallCalls i engine
  | post json =>
      rw [calls, postCalls]
      split
      · exact ⟨trivial, trivial⟩
      · trivial
  | evaluate script completion => exact ⟨trivial, trivial⟩
  | updateOrigins origins => trivial
  | replaceScripts scripts => exact h.orderly_replaceCalls hlisten scripts

/-- The calls of every run are in order. -/
theorem orderly_run (h : InStep i engine) (hlisten : i.listening = i.session.installed)
    (actions : List Action) : engine.Orderly i.home (i.run actions).2 := by
  induction actions generalizing i engine with
  | nil => trivial
  | cons action actions ih =>
      have hrest := ih (h.after action) (listening_after hlisten action)
      rw [home_after] at hrest
      rw [run_cons, Engine.orderly_append]
      exact ⟨h.orderly_calls hlisten action, hrest⟩

/-! ## The scripts in the course of an action -/

/-- In the course of calls that add no scripts, a first part of what is installed is there. -/
theorem scripts_prefix_of_not_addsScript (h : InStep i engine) {made calls : List Call}
    (hm : made <+: calls) (hcalls : ∀ call ∈ calls, call.addsScript = false) :
    (engine.replay made).scripts <+: i.scripts := by
  rw [← h.scripts_eq]
  exact Engine.scripts_replay_of_not_addsScript fun call hcall => hcalls call (hm.subset hcall)

/-- While a plan is put in, the scripts that live are a first part of the older ones or of its
own. -/
theorem scripts_prefix_apply (h : InStep i engine) (plan : Plan) {made : List Call}
    (hm : made <+: i.applyCalls plan) :
    (engine.replay made).scripts <+: i.scripts ∨
      (engine.replay made).scripts <+: (i.apply plan).scripts := by
  obtain ⟨left, hleft⟩ := hm
  rw [applyCalls_eq_clearCalls, List.append_eq_append_iff] at hleft
  -- the engine is still being cleared, or it is clear and scripts are being added
  rcases hleft with ⟨rest, hclear, -⟩ | ⟨added, rfl, hadd⟩
  · exact Or.inl (h.scripts_prefix_of_not_addsScript ⟨rest, hclear.symm⟩ fun _ hcall =>
      not_addsScript_of_mem_clearCalls hcall)
  · refine Or.inr ?_
    have hadded : ((engine.replay i.clearCalls).replay added).scripts <+:
        (engine.replay i.clearCalls).scripts ++ (i.apply plan).scripts :=
      Engine.scripts_replay_of_prefix_addScripts ⟨left, hadd.symm⟩
    rw [h.clear.2, List.nil_append] at hadded
    rw [Engine.replay_append]
    exact hadded

/-- While user scripts are replaced, the scripts that live are a first part of those before or of
those after. -/
theorem scripts_prefix_replace (h : InStep i engine) (scripts : List Loaded) {made : List Call}
    (hm : made <+: i.replaceCalls scripts) :
    (engine.replay made).scripts <+: i.scripts ∨
      (engine.replay made).scripts <+: (i.replaceScripts scripts).scripts := by
  rw [replaceCalls_eq] at hm
  split at hm
  · rcases List.prefix_cons_iff.mp hm with rfl | ⟨added, rfl, hadded⟩
    -- no call is made yet, so all of the older scripts are still there
    · exact Or.inl (h.scripts_eq ▸ List.prefix_rfl)
    · -- the older scripts were dropped by the first call
      exact Or.inr (Engine.scripts_replay_of_prefix_addScripts hadded)
  · rw [List.prefix_nil.mp hm]
    exact Or.inl (h.scripts_eq ▸ List.prefix_rfl)

/-- While an action is carried out, the scripts that live are a first part of those that were
installed before it or of those that are installed after it. -/
theorem scripts_prefix_action (h : InStep i engine) (action : Action) {made : List Call}
    (hm : made <+: i.calls action) :
    (engine.replay made).scripts <+: i.scripts ∨
      (engine.replay made).scripts <+: (i.after action).scripts := by
  cases action with
  | install loader request =>
      rw [← calls_prepared] at hm
      rw [← after_prepared]
      cases hr : Plan.resolve loader request with
      | ok plan =>
          rw [Action.prepared_of_ok hr] at hm ⊢
          exact h.scripts_prefix_apply plan hm
      | error e =>
          rw [Action.prepared_of_error hr] at hm
          exact Or.inl (h.scripts_prefix_of_not_addsScript hm fun _ hcall =>
            not_addsScript_of_mem_uninstallCalls hcall)
  | apply plan => exact h.scripts_prefix_apply plan hm
  | uninstall =>
      exact Or.inl (h.scripts_prefix_of_not_addsScript hm fun _ hcall =>
        not_addsScript_of_mem_uninstallCalls hcall)
  | post json =>
      exact Or.inl (h.scripts_prefix_of_not_addsScript hm fun _ hcall =>
        not_addsScript_of_mem_postCalls hcall)
  | evaluate script completion =>
      refine Or.inl (h.scripts_prefix_of_not_addsScript hm fun call hcall => ?_)
      rw [List.mem_singleton.mp hcall]
      rfl
  | updateOrigins origins =>
      exact Or.inl (h.scripts_prefix_of_not_addsScript hm fun _ hcall => nomatch hcall)
  | replaceScripts scripts => exact h.scripts_prefix_replace scripts hm

end InStep

/-! ## Runs -/

/-- A run can be cut in two: the later actions start from what the earlier ones leave. -/
theorem run_append (i : Installation) (actions more : List Action) :
    i.run (actions ++ more) =
      (((i.run actions).1.run more).1, (i.run actions).2 ++ ((i.run actions).1.run more).2) := by
  induction actions generalizing i with
  | nil => rfl
  | cons action actions ih => rw [List.cons_append, run_cons, run_cons, ih, List.append_assoc]

/-- The calls of a first part of a run are the first of its calls. -/
theorem calls_run_mono (i : Installation) {actions more : List Action} (h : actions <+: more) :
    (i.run actions).2 <+: (i.run more).2 := by
  obtain ⟨rest, rfl⟩ := h
  rw [run_append]
  exact List.prefix_append _ _

/-- In the course of a run the scripts that live are a first part of those that are installed after
some of its actions, of which all but the last are over. -/
theorem InStep.scripts_prefix_run (h : InStep i engine) (actions : List Action)
    {made : List Call} (hm : made <+: (i.run actions).2) :
    ∃ history, history <+: actions ∧ (i.run history.dropLast).2 <+: made ∧
      (engine.replay made).scripts <+: (i.run history).1.scripts := by
  induction actions generalizing i engine made with
  | nil =>
      rw [List.prefix_nil.mp hm]
      exact ⟨[], List.prefix_rfl, List.prefix_rfl, h.scripts_eq ▸ List.prefix_rfl⟩
  | cons action actions ih =>
      obtain ⟨left, hleft⟩ := hm
      rw [run_cons, List.append_eq_append_iff] at hleft
      -- the calls that were made end within this action, or go on into the later ones
      rcases hleft with ⟨rest, hcalls, -⟩ | ⟨later, rfl, hlater⟩
      · rcases h.scripts_prefix_action action ⟨rest, hcalls.symm⟩ with hbefore | hafter
        · exact ⟨[], List.nil_prefix, List.nil_prefix, hbefore⟩
        · exact ⟨[action], List.prefix_append [action] actions, List.nil_prefix, hafter⟩
      · obtain ⟨history, hhist, hover, hscripts⟩ := ih (h.after action) ⟨left, hlater.symm⟩
        refine ⟨action :: history, (List.prefix_cons_inj action).mpr hhist, ?_, ?_⟩
        · cases history with
          | nil => exact List.nil_prefix
          | cons next history =>
              rw [List.dropLast_cons_cons, run_cons]
              exact (List.prefix_append_right_inj _).mpr hover
        · rw [run_cons, Engine.replay_append]
          exact hscripts

/-- Scripts that are a first part of what is installed after a history are those of the plan that was
installed last, with the user scripts that were given last. -/
theorem exists_decision_of_scripts {home : World} {history : List Action}
    {scripts : List UserScript} (hne : scripts ≠ [])
    (hpre : scripts <+: ((vacant home).run history).1.scripts) :
    ∃ before decision since plan, history = before ++ decision :: since ∧
      decision.plan? = some plan ∧ (∀ action ∈ since, action.decides = false) ∧
      scripts <+: bootstrapsOf home plan ++ userScriptsOf home (scriptsSince plan since) := by
  rw [run_vacant] at hpre
  cases hplan : (Standing.ofHistory history).plan with
  | none =>
      rw [Standing.installation_of_plan_eq_none home hplan] at hpre
      exact absurd (List.prefix_nil.mp hpre) hne
  | some plan =>
      rw [Standing.installation_of_plan_eq_some home hplan] at hpre
      obtain ⟨before, decision, since, rfl, hd, hs, -⟩ := Standing.exists_decision hplan
      rw [Standing.scripts_ofHistory before hd (Action.decides_of_plan? hd) hs] at hpre
      exact ⟨before, decision, since, plan, rfl, hd, hs, hpre⟩

/-- However the calls of a run are cut in two, what lives in the engine in between is in order.  If a
handler is registered next, it is that of the bridge, and no handler and no script lives; if a script
is added next, the handler of the bridge is the only one.  The scripts that live there were all added
after the last handler; they are a first part of the bootstrap scripts of one plan, that of a
decision of the run which has begun, followed by the user scripts that were given last. -/
theorem calls_in_order (home : World) (pending : List Completion) (actions : List Action)
    {made left : List Call} (hlog : ((vacant home).run actions).2 = made ++ left) :
    let engine := Engine.replay ⟨[], [], pending⟩ made
    (∀ name world rest, left = .addHandler name world :: rest →
        name = handlerName ∧ world = home ∧ engine.handlers = [] ∧ engine.scripts = []) ∧
      (∀ script rest, left = .addScript script :: rest →
        engine.handlers = [(handlerName, home)]) ∧
      (∀ earlier name world later, made = earlier ++ .addHandler name world :: later →
        engine.scripts = (Engine.empty.replay later).scripts) ∧
      (engine.scripts ≠ [] →
        ∃ before decision since rest plan, actions = before ++ decision :: since ++ rest ∧
          decision.plan? = some plan ∧ (∀ action ∈ since, action.decides = false) ∧
          ((vacant home).run before).2 <+: made ∧
          engine.scripts <+:
            bootstrapsOf home plan ++ userScriptsOf home (scriptsSince plan since)) := by
  intro engine
  have hstep : InStep (vacant home) ⟨[], [], pending⟩ := inStep_vacant home pending
  have horder : Engine.Orderly home ⟨[], [], pending⟩ (made ++ left) := by
    rw [← hlog]
    exact hstep.orderly_run rfl actions
  refine ⟨?_, ?_, ?_, ?_⟩
  · rintro name world rest rfl
    exact horder.inOrder
  · rintro script rest rfl
    exact horder.inOrder
  · rintro earlier name world later rfl
    -- no script lived when the handler was registered
    rw [List.append_assoc, List.cons_append] at horder
    have hnone : ((Engine.replay ⟨[], [], pending⟩ earlier).perform
        (.addHandler name world)).scripts = [] := horder.inOrder.2.2.2
    have hengine : engine = ((Engine.replay ⟨[], [], pending⟩ earlier).perform
        (.addHandler name world)).replay later := Engine.replay_append _ _ _
    rw [hengine]
    exact Engine.scripts_replay_congr hnone later
  · intro hne
    have hmade : made <+: ((vacant home).run actions).2 := ⟨left, hlog.symm⟩
    obtain ⟨history, ⟨rest, hactions⟩, hover, hscripts⟩ := hstep.scripts_prefix_run actions hmade
    obtain ⟨before, decision, since, plan, rfl, hd, hs, hpre⟩ :=
      exists_decision_of_scripts hne hscripts
    refine ⟨before, decision, since, rest, plan, hactions.symm, hd, hs, ?_, hpre⟩
    refine (calls_run_mono (vacant home) ?_).trans hover
    rw [List.dropLast_append_cons]
    exact List.prefix_append _ _

/-- A plan over another one: seven calls in, the handler of the second one is registered, in an
engine that the first one has left. -/
theorem calls_in_order_second_plan :
    let plan (key : String) : Plan := ⟨"qt", [], key, none, "page", key, []⟩
    let calls := ((vacant .page).run [.apply (plan "k1"), .apply (plan "k2")]).2
    let engine := Engine.replay .empty (calls.take 7)
    calls = calls.take 7 ++ .addHandler handlerName .page :: calls.drop 8 ∧
      engine.handlers = [] ∧ engine.scripts = [] := by
  intro plan calls engine
  have hlog : calls = calls.take 7 ++ .addHandler handlerName .page :: calls.drop 8 := by
    decide +kernel
  exact ⟨hlog, ((calls_in_order .page [] _ hlog).1 _ _ _ rfl).2.2⟩

end Installation

end PageBridge
