import PageBridge.Proofs.Installation.Standing

/-!
# Requests that are prepared first

A request can be resolved before anything is done to the engine.  Then its plan is applied, or what
is there is uninstalled when it has none.  This is the same as installing the request
(`after_prepared`, `calls_prepared`), although the engine is emptied twice on one way and once on the
other: an engine that was emptied needs no call to be emptied again.
-/

namespace PageBridge.Installation

open PageBridge.Script (Loader)

namespace Action

/-- What is done with the outcome of a request: its plan is applied, and without one everything is
uninstalled. -/
def ofPlan? : Option Plan → Action
  | some plan => .apply plan
  | none => .uninstall

/-- An action with the request in it resolved. -/
def prepared : Action → Action
  | .install loader request => ofPlan? (Plan.resolve loader request).toOption
  | action => action

/-- The outcome of a request is a decision either way. -/
theorem decides_ofPlan? (plan : Option Plan) : (ofPlan? plan).decides = true := by
  cases plan <;> rfl

/-- The plan that a request ended with is the one that is installed. -/
theorem plan?_ofPlan? (plan : Option Plan) : (ofPlan? plan).plan? = plan := by
  cases plan <;> rfl

/-- A request that has a plan is prepared to the plan. -/
theorem prepared_of_ok {loader : Loader} {request : Request} {plan : Plan}
    (h : Plan.resolve loader request = .ok plan) :
    (install loader request).prepared = .apply plan := by
  rw [prepared, h]
  rfl

/-- A request that fails is prepared to the end of what is installed. -/
theorem prepared_of_error {loader : Loader} {request : Request} {e : Error}
    (h : Plan.resolve loader request = .error e) :
    (install loader request).prepared = .uninstall := by
  rw [prepared, h]
  rfl

end Action

/-- Nothing has to be taken out to apply a plan where nothing is installed. -/
theorem applyCalls_vacant (home : World) (plan : Plan) :
    (vacant home).applyCalls plan =
      listenCalls home handlerName ++ (ofPlan home plan).scripts.map .addScript := by
  rw [applyCalls_eq, apply_eq]
  rfl

/-- A request that is resolved first leaves the same installation. -/
theorem after_prepared (i : Installation) (action : Action) :
    i.after action.prepared = i.after action := by
  cases action with
  | install loader request =>
      cases h : Plan.resolve loader request with
      | ok plan => simp only [Action.prepared_of_ok h, after, install_eq, apply_eq, h]
      | error e => simp only [Action.prepared_of_error h, after, install_eq, uninstall_eq, h]
  | apply | uninstall | post | evaluate | updateOrigins | replaceScripts => rfl

/-- A request that is resolved first takes the same calls. -/
theorem calls_prepared (i : Installation) (action : Action) :
    i.calls action.prepared = i.calls action := by
  cases action with
  | install loader request =>
      cases h : Plan.resolve loader request with
      | ok plan =>
          simp only [Action.prepared_of_ok h, calls, installCalls_eq, h]
          -- the second time that the engine is emptied takes no call
          rw [applyCalls_vacant, applyCalls_eq, apply_eq, List.append_assoc]
      | error e =>
          simp only [Action.prepared_of_error h, calls, installCalls_eq, h]
          rw [List.append_nil]
  | apply | uninstall | post | evaluate | updateOrigins | replaceScripts => rfl

end PageBridge.Installation
