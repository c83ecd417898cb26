import PageBridge.Installation.Basic

/-!
# What a run of actions leaves standing

An installation is decided by the last action that installs or uninstalls, together with the
allow-list and the user scripts that were given since.  `Standing` keeps these three and nothing
else of a history.  `run_vacant` shows that they describe the installation after every run, and
`Standing.exists_decision` finds them in the history again: the deciding action, and the actions
since, none of which decides.
-/

namespace PageBridge.Installation

open PageBridge.Script (Loaded)

namespace Action

/-- Whether an action decides anew what is installed. -/
def decides : Action → Bool
  | .install .. | .apply _ | .uninstall => true
  | _ => false

/-- The plan that an action installs. -/
def plan? : Action → Option Plan
  | .install loader request => (Plan.resolve loader request).toOption
  | .apply plan => some plan
  | _ => none

/-- The allow-list that an action gives to what is installed. -/
def origins? : Action → Option (List String)
  | .updateOrigins origins => some origins
  | _ => none

/-- The user scripts that an action gives to what is installed. -/
def scripts? : Action → Option (List Loaded)
  | .replaceScripts scripts => some scripts
  | _ => none

/-- An action that installs a plan decides. -/
theorem decides_of_plan? {action : Action} {plan : Plan} (h : action.plan? = some plan) :
    action.decides = true := by
  cases action with
  | install | apply | uninstall => rfl
  | post | evaluate | updateOrigins | replaceScripts => cases h

end Action

/-- The allow-list of a plan after actions that decide nothing. -/
def originsSince (plan : Plan) (since : List Action) : List String :=
  (since.filterMap Action.origins?).getLast?.getD plan.allowedOrigins

/-- The user scripts of a plan after actions that decide nothing. -/
def scriptsSince (plan : Plan) (since : List Action) : List Loaded :=
  (since.filterMap Action.scripts?).getLast?.getD plan.userScripts

/-- What a history leaves standing: the plan that is installed, if there is one, and the allow-list
and the user scripts that are in the place of those of the plan. -/
structure Standing where
  plan : Option Plan
  origins : List String
  scripts : List Loaded

namespace Standing

/-- What stands right after a plan was installed, or after everything was uninstalled. -/
def ofPlan? (plan : Option Plan) : Standing :=
  ⟨plan, (plan.map (·.allowedOrigins)).getD [], (plan.map (·.userScripts)).getD []⟩

/-- What stands after one more action. -/
def after (s : Standing) : Action → Standing
  | .updateOrigins origins => { s with origins }
  | .replaceScripts scripts => { s with scripts }
  | .post _ => s
  | .evaluate _ _ => s
  | action => ofPlan? action.plan?

/-- The installation that is described by what stands. -/
def installation (home : World) (s : Standing) : Installation :=
  match s.plan with
  | none => { vacant home with session := { Session.none with allowedOrigins := s.origins } }
  | some plan =>
    { ofPlan home plan with
      session := ⟨true, plan.nspace, plan.invokeKey, s.origins⟩
      userScripts := userScriptsOf home s.scripts }

/-- What stands after a history that starts with nothing installed. -/
def ofHistory (history : List Action) : Standing :=
  history.foldl after (ofPlan? none)

/-! ## The installation that stands -/

/-- With no plan there is what a new bridge has. -/
theorem installation_ofPlan?_none (home : World) : (ofPlan? none).installation home = vacant home :=
  rfl

/-- A plan that was just installed stands as it is. -/
theorem installation_ofPlan?_some (home : World) (plan : Plan) :
    (ofPlan? (some plan)).installation home = ofPlan home plan := rfl

/-- What stands is described for one home world. -/
@[simp]
theorem home_installation (home : World) (s : Standing) : (s.installation home).home = home := by
  unfold installation
  split <;> rfl

/-- A bridge is installed while a plan stands. -/
@[simp]
theorem installed_installation (home : World) (s : Standing) :
    (s.installation home).session.installed = s.plan.isSome := by
  unfold installation
  split <;> simp_all [Session.none]

/-- A bridge listens while a plan stands. -/
@[simp]
theorem listening_installation (home : World) (s : Standing) :
    (s.installation home).listening = s.plan.isSome := by
  unfold installation
  split <;> simp_all [vacant, ofPlan]

/-- The allow-list that is checked is the one that stands, with or without a plan. -/
@[simp]
theorem allowedOrigins_installation (home : World) (s : Standing) :
    (s.installation home).session.allowedOrigins = s.origins := by
  unfold installation
  split <;> rfl

/-- With no plan all that can stand is an allow-list. -/
theorem installation_of_plan_eq_none (home : World) {s : Standing} (h : s.plan = none) :
    s.installation home =
      { vacant home with session := { Session.none with allowedOrigins := s.origins } } := by
  simp only [installation, h]

/-- A plan stands with the allow-list and the user scripts that were given last. -/
theorem installation_of_plan_eq_some (home : World) {s : Standing} {plan : Plan}
    (h : s.plan = some plan) :
    s.installation home =
      { ofPlan home plan with
        session := ⟨true, plan.nspace, plan.invokeKey, s.origins⟩
        userScripts := userScriptsOf home s.scripts } := by
  simp only [installation, h]

/-- What stands follows the installation through every action. -/
theorem after_installation (home : World) (s : Standing) (action : Action) :
    (s.installation home).after action = (s.after action).installation home := by
  cases action with
  | install loader request =>
      simp only [Installation.after, install_eq, home_installation]
      cases h : Plan.resolve loader request with
      | ok plan => simp only [after, Action.plan?, h, Except.toOption, installation_ofPlan?_some]
      | error e => simp only [after, Action.plan?, h, Except.toOption, installation_ofPlan?_none]
  | apply plan =>
      simp only [Installation.after, apply_eq, home_installation]
      exact (installation_ofPlan?_some home plan).symm
  | uninstall =>
      simp only [Installation.after, uninstall_eq, home_installation]
      exact (installation_ofPlan?_none home).symm
  | post json => rfl
  | evaluate script completion => rfl
  | updateOrigins origins =>
      simp only [Installation.after, after, installation]
      split <;> rfl
  | replaceScripts scripts =>
      -- user scripts are remembered without a plan, too, but then no installation holds them
      simp only [Installation.after, replaceScripts, injectUserScripts, installed_installation,
        home_installation]
      cases h : s.plan with
      | none => simp [after, installation, h]
      | some plan => simp [after, installation, h]

/-- What stands follows the installation through every run. -/
theorem run_installation (home : World) (s : Standing) (actions : List Action) :
    ((s.installation home).run actions).1 = (actions.foldl after s).installation home := by
  induction actions generalizing s with
  | nil => rfl
  | cons action actions ih =>
      rw [run_cons, after_installation, List.foldl_cons]
      exact ih (s.after action)

/-! ## The decision behind what stands -/

/-- A decision leaves nothing of what stood before. -/
theorem after_of_decides (s : Standing) {action : Action} (h : action.decides = true) :
    s.after action = ofPlan? action.plan? := by
  cases action with
  | install | apply | uninstall => rfl
  | post | evaluate | updateOrigins | replaceScripts => cases h

/-- Whatever decides nothing leaves the plan as it is. -/
theorem plan_after_of_not_decides (s : Standing) {action : Action} (h : action.decides = false) :
    (s.after action).plan = s.plan := by
  cases action with
  | install | apply | uninstall => cases h
  | post | evaluate | updateOrigins | replaceScripts => rfl

/-- Between decisions the allow-list changes only where one is given. -/
theorem origins_after_of_not_decides (s : Standing) {action : Action}
    (h : action.decides = false) :
    (s.after action).origins = action.origins?.getD s.origins := by
  cases action with
  | install | apply | uninstall => cases h
  | post | evaluate | updateOrigins | replaceScripts => rfl

/-- A plan stands through any number of actions that decide nothing. -/
theorem plan_foldl_after (s : Standing) {since : List Action}
    (h : ∀ action ∈ since, action.decides = false) : (since.foldl after s).plan = s.plan := by
  induction since generalizing s with
  | nil => rfl
  | cons action since ih =>
      rw [List.foldl_cons, ih _ fun a ha => h a (List.mem_cons_of_mem _ ha)]
      exact plan_after_of_not_decides s (h action List.mem_cons_self)

/-- Between decisions the user scripts change only where new ones are given. -/
theorem scripts_after_of_not_decides (s : Standing) {action : Action}
    (h : action.decides = false) :
    (s.after action).scripts = action.scripts?.getD s.scripts := by
  cases action with
  | install | apply | uninstall => cases h
  | post | evaluate | updateOrigins | replaceScripts => rfl

/-- A part of what stands that actions may give anew is the one that was given last. -/
theorem part_foldl_after {β : Type} (part : Standing → β) (given : Action → Option β)
    (hstep : ∀ s action, action.decides = false →
      part (s.after action) = (given action).getD (part s))
    (s : Standing) {since : List Action} (h : ∀ action ∈ since, action.decides = false) :
    part (since.foldl after s) = (since.filterMap given).getLast?.getD (part s) := by
  induction since generalizing s with
  | nil => rfl
  | cons action since ih =>
      rw [List.foldl_cons, ih _ fun a ha => h a (List.mem_cons_of_mem _ ha),
        hstep s action (h action List.mem_cons_self)]
      -- what is given later takes the place of this one
      cases hg : given action with
      | none => rw [List.filterMap_cons_none hg, Option.getD_none]
      | some new =>
          rw [List.filterMap_cons_some hg, List.getLast?_cons, Option.getD_some, Option.getD_some]

/-- What stands after a decision that nothing has changed since. -/
theorem plan_ofHistory (before : List Action) {decision : Action} {since : List Action}
    (hd : decision.decides = true) (hs : ∀ action ∈ since, action.decides = false) :
    (ofHistory (before ++ decision :: since)).plan = decision.plan? := by
  rw [ofHistory, List.foldl_append, List.foldl_cons, plan_foldl_after _ hs,
    after_of_decides _ hd, ofPlan?]

/-- The allow-list that stands after an installation that no decision has followed. -/
theorem origins_ofHistory (before : List Action) {decision : Action} {since : List Action}
    {plan : Plan} (hp : decision.plan? = some plan)
    (hd : decision.decides = true) (hs : ∀ action ∈ since, action.decides = false) :
    (ofHistory (before ++ decision :: since)).origins = originsSince plan since := by
  rw [ofHistory, List.foldl_append, List.foldl_cons,
    part_foldl_after origins Action.origins? (fun s _ h => origins_after_of_not_decides s h) _ hs,
    after_of_decides _ hd, hp]
  rfl

/-- The user scripts that stand after an installation that no decision has followed. -/
theorem scripts_ofHistory (before : List Action) {decision : Action} {since : List Action}
    {plan : Plan} (hp : decision.plan? = some plan)
    (hd : decision.decides = true) (hs : ∀ action ∈ since, action.decides = false) :
    (ofHistory (before ++ decision :: since)).scripts = scriptsSince plan since := by
  rw [ofHistory, List.foldl_append, List.foldl_cons,
    part_foldl_after scripts Action.scripts? (fun s _ h => scripts_after_of_not_decides s h) _ hs,
    after_of_decides _ hd, hp]
  rfl

/-- No plan stands where nothing was ever decided. -/
theorem plan_ofHistory_of_undecided {history : List Action}
    (h : ∀ action ∈ history, action.decides = false) : (ofHistory history).plan = none :=
  plan_foldl_after _ h

/-- A history has a last decision, or none at all. -/
theorem decided_or_undecided (history : List Action) :
    (∃ before decision since, history = before ++ decision :: since ∧ decision.decides = true ∧
      ∀ action ∈ since, action.decides = false) ∨ ∀ action ∈ history, action.decides = false := by
  -- the first action is the last decision only when none of the later ones decides
  induction history with
  | nil => exact Or.inr (by simp)
  | cons action history ih =>
      rcases ih with ⟨before, decision, since, rfl, hd, hs⟩ | h
      · exact Or.inl ⟨action :: before, decision, since, rfl, hd, hs⟩
      · cases ha : action.decides with
        | true => exact Or.inl ⟨[], action, history, rfl, ha, h⟩
        | false =>
            refine Or.inr fun a hmem => ?_
            rcases List.mem_cons.mp hmem with rfl | hmem
            · exact ha
            · exact h a hmem

/-- A plan stands because the last decision of the history installed it. -/
theorem exists_decision {history : List Action} {plan : Plan}
    (h : (ofHistory history).plan = some plan) :
    ∃ before decision since, history = before ++ decision :: since ∧
      decision.plan? = some plan ∧ (∀ action ∈ since, action.decides = false) ∧
      (ofHistory history).origins = originsSince plan since := by
  rcases decided_or_undecided history with ⟨before, decision, since, rfl, hd, hs⟩ | hu
  · have hp : decision.plan? = some plan := by
      rw [← plan_ofHistory before hd hs]
      exact h
    exact ⟨before, decision, since, rfl, hp, hs, origins_ofHistory before hp hd hs⟩
  · rw [plan_ofHistory_of_undecided hu] at h
    cases h

end Standing

/-- The installation after a run from nothing is the one that stands after its actions. -/
theorem run_vacant (home : World) (actions : List Action) :
    ((vacant home).run actions).1 = (Standing.ofHistory actions).installation home :=
  Standing.run_installation home (.ofPlan? none) actions

end PageBridge.Installation
