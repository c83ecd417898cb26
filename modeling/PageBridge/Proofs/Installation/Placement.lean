import PageBridge.Proofs.Installation.Calls

/-!
# The worlds of the calls

The handler of a bridge, its inner half and the messages to it must meet in one world, the home of
the bridge, and everything else must stay out of it.  `Part.world` and `Errand.world` say where each
part of a bridge and each evaluation belongs, whatever it was that asked for it.  A run puts the
parts of the plans it installs into the engine, and evaluates what it is asked to, each in its own
world (`calls_placed`).  What is put in again when user scripts are replaced are the parts of the plan
that stands, so they come back in the worlds and the frames that they had.
-/

namespace PageBridge

namespace Call

/-- The handler that a call registers or removes, with its world. -/
def handler? : Call → Option (String × World)
  | addHandler name world | removeHandler name world => some (name, world)
  | addScript _ | removeAllScripts | evaluate .. => none

/-- The handler that a call registers, with its world. -/
def registers? : Call → Option (String × World)
  | addHandler name world => some (name, world)
  | removeHandler .. | addScript _ | removeAllScripts | evaluate .. => none

/-- The script that a call adds. -/
def script? : Call → Option UserScript
  | addScript script => some script
  | addHandler .. | removeHandler .. | removeAllScripts | evaluate .. => none

/-- The text that a call evaluates, its world and who is told the outcome. -/
def evaluation? : Call → Option (String × World × Option Completion)
  | evaluate source world completion => some (source, world, completion)
  | addHandler .. | removeHandler .. | addScript _ | removeAllScripts => none

end Call

namespace Installation

open PageBridge.Script (Loaded)

/-! ## Where things belong -/

/-- What a script that an engine runs at the start of every document is to a bridge. -/
inductive Part where
  | channel
  | pageHalf
  | bridgeHalf
  | user (subFrames : Bool)
deriving DecidableEq, Repr

namespace Part

/-- The world of a part: the inner half lives in the home world, and all else in the page. -/
def world (home : World) : Part → World
  | bridgeHalf => home
  | channel | pageHalf | user _ => .page

/-- Whether a part runs in the main frame only.  Only a user script can ask for more. -/
def mainFrameOnly : Part → Bool
  | user subFrames => !subFrames
  | channel | pageHalf | bridgeHalf => true

end Part

/-- A part of a bridge with its text. -/
structure Injection where
  part : Part
  source : String

/-- The script that puts a part into an engine. -/
def Injection.script (home : World) (injection : Injection) : UserScript :=
  ⟨injection.source, injection.part.mainFrameOnly, injection.part.world home⟩

/-- What is evaluated for a bridge: a message is delivered under a plan, or the application asks. -/
inductive Errand where
  | delivery (plan : Plan) (json : String)
  | application (script : String) (completion : Option Completion)

namespace Errand

/-- The world of an errand: messages go to the home world, and the application to the page. -/
def world (home : World) : Errand → World
  | delivery .. => home
  | application .. => .page

/-- The evaluation that an errand takes.  Nobody is told how a delivery ends. -/
def evaluation (home : World) (errand : Errand) : String × World × Option Completion :=
  match errand with
  | delivery plan json =>
    (home.delivery (Text.Literal.escapeText json) plan.nspace plan.invokeKey, errand.world home, none)
  | application script completion => (script, errand.world home, completion)

end Errand

/-- The parts that are put in for a plan, with user scripts that may be others than its own. -/
def Plan.injections (plan : Plan) (scripts : List Loaded) : List Injection :=
  plan.channelSource.toList.map (⟨.channel, ·⟩) ++
    [⟨.pageHalf, plan.pageBootstrap⟩, ⟨.bridgeHalf, plan.bridgeBootstrap⟩] ++
    scripts.map fun s => ⟨.user s.subFrames, s.source⟩

namespace Action

/-- The parts that an action puts into the engine, when a plan stands or none does. -/
def injects (standing : Option Plan) : Action → List Injection
  | replaceScripts scripts => standing.toList.flatMap (·.injections scripts)
  | action => action.plan?.toList.flatMap fun plan => plan.injections plan.userScripts

/-- The errands of an action, when a plan stands or none does. -/
def errands (standing : Option Plan) : Action → List Errand
  | post json => standing.toList.map (.delivery · json)
  | evaluate script completion => [.application script completion]
  | install .. | apply _ | uninstall | updateOrigins _ | replaceScripts _ => []

end Action

/-- What actions give one after the other, each with the plan that stands before it. -/
def Standing.trace {β : Type} (given : Option Plan → Action → List β) :
    Standing → List Action → List β
  | _, [] => []
  | s, action :: actions => given s.plan action ++ trace given (s.after action) actions

/-! ## Decisions -/

/-- A decision puts in the parts of its own plan, whatever plan stands. -/
theorem Action.injects_of_decides (standing : Option Plan) {action : Action}
    (h : action.decides = true) :
    action.injects standing =
      action.plan?.toList.flatMap fun plan => plan.injections plan.userScripts := by
  cases action with
  | install | apply | uninstall => rfl
  | post | evaluate | updateOrigins | replaceScripts => cases h

/-- The calls before the scripts of a plan concern the handler of the bridge, or clear the engine. -/
theorem mem_clearCalls {i : Installation} {call : Call} (h : call ∈ i.clearCalls) :
    call = .removeHandler handlerName i.home ∨ call = .removeAllScripts ∨
      call = .addHandler handlerName i.home := by
  rw [clearCalls, List.mem_append] at h
  rcases h with h | h
  · rcases mem_uninstallCalls h with h | h
    · exact Or.inl h
    · exact Or.inr (Or.inl h)
  · rw [listenCalls] at h
    simp only [List.mem_cons, List.not_mem_nil, or_false] at h
    rcases h with h | h
    · exact Or.inl h
    · exact Or.inr (Or.inr h)

/-! ## Handlers -/

/-- Every handler that an action registers or removes is that of the bridge, in the home world. -/
theorem handler?_of_mem_calls {i : Installation} {action : Action} {call : Call}
    (h : call ∈ i.calls action) {handler : String × World} (hh : call.handler? = some handler) :
    handler = (handlerName, i.home) := by
  -- no call that concerns a handler is one that adds a script
  have hscripts : ∀ scripts : List UserScript, call ∉ scripts.map Call.addScript := by
    intro scripts hmem
    obtain ⟨script, -, rfl⟩ := List.mem_map.mp hmem
    cases hh
  have hclear : call ∈ i.clearCalls → handler = (handlerName, i.home) := by
    intro hmem
    rcases mem_clearCalls hmem with rfl | rfl | rfl
    · exact (Option.some.inj hh).symm
    · cases hh
    · exact (Option.some.inj hh).symm
  cases hd : action.decides with
  | true =>
      rw [calls_of_decides i hd] at h
      cases hp : action.plan? with
      | none =>
          rw [hp] at h
          exact hclear (List.mem_append_left _ h)
      | some plan =>
          rw [hp, Option.elim_some, applyCalls_eq_clearCalls, List.mem_append] at h
          exact h.elim hclear fun hmem => absurd hmem (hscripts _)
  | false =>
      cases action with
      | install | apply | uninstall => cases hd
      | post json =>
          rw [calls, postCalls] at h
          split at h
          · rw [List.mem_singleton.mp h] at hh
            cases hh
          · cases h
      | evaluate script completion =>
          rw [List.mem_singleton.mp h] at hh
          cases hh
      | updateOrigins origins => cases h
      | replaceScripts scripts =>
          rw [calls, replaceCalls_eq] at h
          split at h
          · rcases List.mem_cons.mp h with rfl | hmem
            · cases hh
            · exact absurd hmem (hscripts _)
          · cases h

/-- An action registers one handler for a plan that it installs, and no other. -/
theorem filterMap_registers?_calls (i : Installation) (action : Action) :
    (i.calls action).filterMap Call.registers? =
      action.plan?.toList.map fun _ => (handlerName, i.home) := by
  have htraffic : (i.trafficCalls action).filterMap Call.registers? = [] := by
    cases action with
    | post json =>
        rw [trafficCalls, postCalls]
        split <;> rfl
    | install | apply | uninstall | evaluate | updateOrigins | replaceScripts => rfl
  rw [filterMap_calls (fun _ => rfl) (fun _ _ => rfl) rfl, htraffic, List.append_nil]
  cases action.plan? <;> rfl

/-! ## Scripts -/

/-- The scripts of a plan, with user scripts that may be others than its own, are those of its
parts. -/
theorem scripts_eq_injections (home : World) (plan : Plan) (scripts : List Loaded) :
    bootstrapsOf home plan ++ userScriptsOf home scripts =
      (plan.injections scripts).map (Injection.script home) := by
  cases h : plan.channelSource <;>
    simp [bootstrapsOf, userScriptsOf, Plan.injections, h, Injection.script, Part.world,
      Part.mainFrameOnly, World.target, Function.comp_def]

/-- A view of the scripts sees all those that are added. -/
theorem filterMap_script?_addScripts (scripts : List UserScript) :
    (scripts.map Call.addScript).filterMap Call.script? = scripts := by
  rw [List.filterMap_map]
  exact List.filterMap_some

/-- No script is seen while an engine is cleared for a plan. -/
theorem filterMap_script?_clearCalls (i : Installation) :
    i.clearCalls.filterMap Call.script? = [] := by
  refine List.filterMap_eq_nil_iff.mpr fun call hcall => ?_
  rcases mem_clearCalls hcall with rfl | rfl | rfl <;> rfl

/-- The user scripts are replaced beside the bootstrap scripts of the plan that stands. -/
theorem scripts_replaceScripts (home : World) {s : Standing} {plan : Plan} (h : s.plan = some plan)
    (scripts : List Loaded) :
    ((s.installation home).replaceScripts scripts).scripts =
      bootstrapsOf home plan ++ userScriptsOf home scripts := by
  rw [replaceScripts, Standing.installed_installation, h, Option.isSome_some, if_pos rfl,
    Standing.installation_of_plan_eq_some home h]
  rfl

/-- An action adds the scripts of what it injects. -/
theorem filterMap_script?_calls (home : World) (s : Standing) (action : Action) :
    ((s.installation home).calls action).filterMap Call.script? =
      (action.injects s.plan).map (Injection.script home) := by
  cases hd : action.decides with
  | true =>
      rw [calls_of_decides _ hd, Action.injects_of_decides _ hd]
      cases action.plan? with
      | none => exact filterMap_uninstallCalls (fun _ _ => rfl) rfl _
      | some plan =>
          rw [Option.elim_some, applyCalls_eq_clearCalls, apply_eq, List.filterMap_append,
            filterMap_script?_clearCalls, filterMap_script?_addScripts, Standing.home_installation,
            Option.toList_some, List.flatMap_singleton, ← scripts_eq_injections]
          rfl
  | false =>
      cases action with
      | install | apply | uninstall => cases hd
      | post json =>
          rw [calls, postCalls]
          split <;> rfl
      | evaluate | updateOrigins => rfl
      | replaceScripts scripts =>
          rw [calls, replaceCalls_eq, Standing.installed_installation, Action.injects]
          -- without a plan nothing is put back, and with one it is all of its parts
          cases hp : s.plan with
          | none => rfl
          | some plan =>
              rw [Option.isSome_some, if_pos rfl, List.filterMap_cons_none rfl,
                filterMap_script?_addScripts, scripts_replaceScripts home hp,
                scripts_eq_injections, Option.toList_some, List.flatMap_singleton]

/-! ## Evaluations -/

/-- An action evaluates its errands. -/
theorem filterMap_evaluation?_calls (home : World) (s : Standing) (action : Action) :
    ((s.installation home).calls action).filterMap Call.evaluation? =
      (action.errands s.plan).map (Errand.evaluation home) := by
  rw [filterMap_calls_eq_traffic (fun _ => rfl) (fun _ _ => rfl) (fun _ _ => rfl) rfl]
  cases action with
  | post json =>
      rw [trafficCalls, postCalls, Standing.installed_installation, Action.errands]
      cases hp : s.plan with
      | none => rfl
      | some plan =>
          rw [Standing.installation_of_plan_eq_some home hp]
          rfl
  | install | apply | uninstall | evaluate | updateOrigins | replaceScripts => rfl

/-! ## Runs -/

/-- A view of the calls that is right for every action is right for every run. -/
theorem filterMap_calls_run {β γ : Type} {home : World} {view : Call → Option γ}
    {given : Option Plan → Action → List β} {shown : β → γ}
    (h : ∀ s action, ((Standing.installation home s).calls action).filterMap view =
      (given s.plan action).map shown) (s : Standing) (actions : List Action) :
    ((s.installation home).run actions).2.filterMap view = (s.trace given actions).map shown := by
  induction actions generalizing s with
  | nil => rfl
  | cons action actions ih =>
      rw [run_cons, List.filterMap_append, h, Standing.after_installation, ih, Standing.trace,
        List.map_append]

/-- What holds of the handlers of an action holds along a run, as the home world stays the same. -/
theorem handler?_of_mem_run {i : Installation} {actions : List Action} {call : Call}
    (h : call ∈ (i.run actions).2) {handler : String × World} (hh : call.handler? = some handler) :
    handler = (handlerName, i.home) := by
  induction actions generalizing i with
  | nil => cases h
  | cons action actions ih =>
      rw [run_cons, List.mem_append] at h
      rcases h with h | h
      · exact handler?_of_mem_calls h hh
      · rw [← home_after i action]
        exact ih h

/-- A run registers one handler for each plan that it installs, and no other. -/
theorem filterMap_registers?_run (i : Installation) (actions : List Action) :
    (i.run actions).2.filterMap Call.registers? =
      (actions.filterMap Action.plan?).map fun _ => (handlerName, i.home) := by
  induction actions generalizing i with
  | nil => rfl
  | cons action actions ih =>
      rw [run_cons, List.filterMap_append, filterMap_registers?_calls, ih, home_after,
        filterMap_cons_eq_append, List.map_append]

/-- A bridge has one home world for its whole life, the isolated world of the bridge in an engine
that has isolated worlds and the page world in one that has not.  Along every run, handlers are
registered and removed there and nowhere else, once for each plan that is installed.  The scripts that
are added, at first or again, are those of the parts of a plan, each in the world and the frames of
its part, and what is evaluated are the deliveries and the scripts of the application, each in its
world. -/
theorem calls_placed (isolates : Bool) (actions : List Action) :
    let home := World.home isolates
    let run := (vacant home).run actions
    let nothing := Standing.ofPlan? none
    home = (if isolates then .isolated "WebViewBridge" else .page) ∧
      run.1.home = home ∧
      (∀ name world, .addHandler name world ∈ run.2 ∨ .removeHandler name world ∈ run.2 →
        name = handlerName ∧ world = home) ∧
      run.2.filterMap Call.registers? =
        (actions.filterMap Action.plan?).map (fun _ => (handlerName, home)) ∧
      run.2.filterMap Call.script? =
        (nothing.trace Action.injects actions).map (Injection.script home) ∧
      run.2.filterMap Call.evaluation? =
        (nothing.trace Action.errands actions).map (Errand.evaluation home) := by
  intro home run nothing
  refine ⟨rfl, home_run (vacant home) actions, ?_, filterMap_registers?_run (vacant home) actions,
    filterMap_calls_run (filterMap_script?_calls home) nothing actions,
    filterMap_calls_run (filterMap_evaluation?_calls home) nothing actions⟩
  intro name world h
  have hhandler : (name, world) = (handlerName, home) :=
    h.elim (fun hadd => handler?_of_mem_run hadd rfl) fun hremove => handler?_of_mem_run hremove rfl
  exact Prod.mk.inj hhandler

end Installation

end PageBridge
