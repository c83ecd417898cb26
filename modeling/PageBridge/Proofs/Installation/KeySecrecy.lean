import Mathlib.Data.List.Forall2
import PageBridge.Installation.Basic
import PageBridge.Proofs.Installation.Plan

/-!
# What the page learns of the invoke key

Where the home of a bridge is a world of its own, the key goes into the bootstrap script of the
bridge half and into the deliveries, and both belong to the home world.  Two installations that the
page cannot tell apart (`SameToPage`) stay so under actions that differ in their keys
(`Action.SameButKey`), and make the same calls into the page world.
-/

namespace PageBridge

/-- Whether a call acts on the page world.  Dropping all scripts acts on every world. -/
def Call.reachesPage : Call → Bool
  | addHandler _ world | removeHandler _ world => world = .page
  | addScript script => script.world = .page
  | removeAllScripts => true
  | evaluate _ world _ => world = .page

/-- A script as the page can know it: of one in another world only that it is there. -/
def UserScript.masked (script : UserScript) : UserScript :=
  if script.world = .page then script else { script with source := "" }

/-- Of a script in a world apart the page does not know the source. -/
theorem UserScript.masked_of_world_ne {script : UserScript} (h : script.world ≠ .page) :
    script.masked = { script with source := "" } := if_neg h

/-- Masking scripts changes none that is added to the page world. -/
theorem filter_addScript_masked (scripts : List UserScript) :
    ((scripts.map UserScript.masked).map Call.addScript).filter Call.reachesPage =
      (scripts.map Call.addScript).filter Call.reachesPage := by
  induction scripts with
  | nil => rfl
  | cons script scripts ih =>
      simp only [List.map_cons, List.filter_cons, ih]
      by_cases h : script.world = .page
      · rw [UserScript.masked, if_pos h]
      · rw [UserScript.masked_of_world_ne h]
        simp [Call.reachesPage, h]

namespace Installation

open PageBridge.Text (blank)

/-! ## Actions that differ in their keys -/

/-- Two actions that are the same but for the key of the request that they install, or of the
request that the plan they install was made of. -/
inductive Action.SameButKey : Action → Action → Prop where
  | refl (action : Action) : SameButKey action action
  | install {loader : Script.Loader} (serves : Script.Serves loader) (request : Request)
      {key : String} (blank_eq : blank key = blank request.invokeKey) :
      SameButKey (.install loader request) (.install loader { request with invokeKey := key })
  | apply {loader : Script.Loader} (serves : Script.Serves loader) {request : Request}
      {key : String} {plan plan' : Plan} (plan_eq : Plan.resolve loader request = .ok plan)
      (plan_eq' : Plan.resolve loader { request with invokeKey := key } = .ok plan') :
      SameButKey (.apply plan) (.apply plan')

/-- Plans of requests that differ in their keys differ in the key and the bridge half. -/
theorem Plan.eq_withKey_of_resolve {loader : Script.Loader} (serves : Script.Serves loader)
    {request : Request} {key : String} {plan plan' : Plan}
    (h : resolve loader request = .ok plan)
    (h' : resolve loader { request with invokeKey := key } = .ok plan') :
    plan' = plan.withKey key := by
  have hkey : blank request.invokeKey = false :=
    (Request.validate_eq_ok_iff.mp (validate_of_resolve h)).2
  have hkey' : blank key = false := (Request.validate_eq_ok_iff.mp (validate_of_resolve h')).2
  rw [resolve_withKey serves request (hkey'.trans hkey.symm), h] at h'
  exact (Except.ok.inj h').symm

/-! ## Installations that the page cannot tell apart -/

/-- Two installations in a world apart that show the page the same: the scripts of the page world,
and that others are there. -/
structure SameToPage (i j : Installation) : Prop where
  apart : i.home ≠ .page
  home_eq : j.home = i.home
  installed_eq : j.session.installed = i.session.installed
  listening_eq : j.listening = i.listening
  bootstraps_eq : j.bootstrapScripts.map UserScript.masked = i.bootstrapScripts.map UserScript.masked
  userScripts_eq : j.userScripts = i.userScripts

/-- The calls of an action that act on the page world. -/
def pageCalls (calls : List Call) : List Call :=
  calls.filter Call.reachesPage

/-- The page sees of two groups of calls what it sees of each. -/
theorem pageCalls_append (calls more : List Call) :
    pageCalls (calls ++ more) = pageCalls calls ++ pageCalls more :=
  List.filter_append calls more

/-- The handler of a bridge in a world apart is out of the sight of the page. -/
theorem pageCalls_listenCalls {home : World} (h : home ≠ .page) (name : String) :
    pageCalls (listenCalls home name) = [] := by
  simp [pageCalls, listenCalls, Call.reachesPage, h]

/-- The bootstrap scripts of a plan look the same to the page for every key. -/
theorem map_masked_bootstrapsOf_withKey {home : World} (h : home ≠ .page) (plan : Plan)
    (key : String) :
    (bootstrapsOf home (plan.withKey key)).map UserScript.masked =
      (bootstrapsOf home plan).map UserScript.masked := by
  simp [bootstrapsOf, Plan.withKey, UserScript.masked, World.target, h]

namespace SameToPage

variable {i j : Installation}

/-- An installation in a world apart shows the page the same as itself. -/
theorem refl (h : i.home ≠ .page) : SameToPage i i :=
  ⟨h, rfl, rfl, rfl, rfl, rfl⟩

/-- A plan shows the page the same with every key, in a home that is apart. -/
theorem ofPlan {home : World} (h : home ≠ .page) (plan : Plan) (key : String) :
    SameToPage (ofPlan home plan) (ofPlan home (plan.withKey key)) :=
  ⟨h, rfl, rfl, rfl, map_masked_bootstrapsOf_withKey h plan key, rfl⟩

/-- Of the scripts of both installations the page knows the same. -/
theorem scripts_eq (h : SameToPage i j) :
    j.scripts.map UserScript.masked = i.scripts.map UserScript.masked := by
  rw [scripts, scripts, List.map_append, List.map_append, h.bootstraps_eq, h.userScripts_eq]

/-- To add the scripts of either installation shows the page the same. -/
theorem pageCalls_addScripts (h : SameToPage i j) :
    pageCalls (j.scripts.map .addScript) = pageCalls (i.scripts.map .addScript) := by
  -- the scripts themselves differ, so both sides go through what the page knows of them
  rw [pageCalls, pageCalls, ← filter_addScript_masked, h.scripts_eq, filter_addScript_masked]

/-- Both are taken out by the same calls: whether there is a handler or a script is no secret. -/
theorem uninstallCalls_eq (h : SameToPage i j) : j.uninstallCalls = i.uninstallCalls := by
  have hempty : j.scripts.isEmpty = i.scripts.isEmpty := by
    rw [← List.isEmpty_map (f := UserScript.masked), h.scripts_eq, List.isEmpty_map]
  rw [uninstallCalls, uninstallCalls, h.listening_eq, h.home_eq, hempty]

/-- Plans that show the page the same do so while they are put in, each over its installation. -/
theorem pageCalls_applyCalls (h : SameToPage i j) {plan plan' : Plan}
    (hp : SameToPage (Installation.ofPlan i.home plan) (Installation.ofPlan i.home plan')) :
    pageCalls (j.applyCalls plan') = pageCalls (i.applyCalls plan) := by
  rw [applyCalls_eq, applyCalls_eq, apply_eq, apply_eq, pageCalls_append, pageCalls_append,
    pageCalls_append, pageCalls_append, h.uninstallCalls_eq, h.home_eq, pageCalls_listenCalls h.apart,
    hp.pageCalls_addScripts]

/-- Deliveries go to the home world. -/
theorem pageCalls_postCalls (h : i.home ≠ .page) (json : String) :
    pageCalls (i.postCalls json) = [] := by
  rw [postCalls]
  split
  · simp [pageCalls, Call.reachesPage, h]
  · rfl

/-- The same user scripts in the place of those of either show the page the same again. -/
theorem replaceScripts (h : SameToPage i j) (loaded : List Script.Loaded) :
    SameToPage (i.replaceScripts loaded) (j.replaceScripts loaded) := by
  rw [Installation.replaceScripts, Installation.replaceScripts, h.installed_eq, h.home_eq]
  split
  · exact ⟨h.apart, rfl, h.installed_eq, h.listening_eq, h.bootstraps_eq, rfl⟩
  · exact h

/-- The bootstrap scripts that a replacement adds again are masked as they were at first. -/
theorem pageCalls_replaceCalls (h : SameToPage i j) (loaded : List Script.Loaded) :
    pageCalls (j.replaceCalls loaded) = pageCalls (i.replaceCalls loaded) := by
  rw [replaceCalls_eq, replaceCalls_eq, h.installed_eq]
  split
  · have hadd := (h.replaceScripts loaded).pageCalls_addScripts
    rw [pageCalls, pageCalls] at hadd
    rw [pageCalls, pageCalls, List.filter_cons_of_pos rfl, List.filter_cons_of_pos rfl, hadd]
  · rfl

/-- A request with another key fails or succeeds with the first one, and the page is shown the
same. -/
theorem install (h : SameToPage i j) {loader : Script.Loader} (serves : Script.Serves loader)
    (request : Request) {key : String} (hb : blank key = blank request.invokeKey) :
    pageCalls (j.installCalls loader { request with invokeKey := key }) =
        pageCalls (i.installCalls loader request) ∧
      SameToPage (i.install loader request)
        (j.install loader { request with invokeKey := key }) := by
  -- both are uninstalled first, so that the plans go into the same empty installation
  have hv : SameToPage (vacant i.home) (vacant i.home) := refl h.apart
  rw [installCalls_eq, installCalls_eq, install_eq, install_eq,
    Plan.resolve_withKey serves request hb, pageCalls_append, pageCalls_append,
    h.uninstallCalls_eq, h.home_eq]
  cases Plan.resolve loader request with
  | error e => exact ⟨rfl, hv⟩
  | ok plan =>
      have hp := ofPlan h.apart plan key
      refine ⟨?_, hp⟩
      exact congrArg _ (hv.pageCalls_applyCalls hp)

/-- The same action shows the page the same again. -/
theorem after_self (h : SameToPage i j) (action : Action) :
    pageCalls (j.calls action) = pageCalls (i.calls action) ∧
      SameToPage (i.after action) (j.after action) := by
  cases action with
  | install loader request =>
      simp only [calls, Installation.after, installCalls_eq, install_eq]
      rw [h.uninstallCalls_eq, h.home_eq]
      refine ⟨rfl, ?_⟩
      cases Plan.resolve loader request with
      | error e => exact refl h.apart
      | ok plan => exact refl h.apart
  | apply plan =>
      have hp : SameToPage (Installation.ofPlan i.home plan) (Installation.ofPlan i.home plan) :=
        refl h.apart
      refine ⟨h.pageCalls_applyCalls hp, ?_⟩
      simp only [Installation.after, apply_eq]
      rw [h.home_eq]
      exact hp
  | uninstall =>
      simp only [calls, Installation.after, uninstall_eq]
      rw [h.uninstallCalls_eq, h.home_eq]
      exact ⟨rfl, refl h.apart⟩
  | post json =>
      refine ⟨?_, h⟩
      simp only [calls]
      rw [pageCalls_postCalls h.apart, pageCalls_postCalls (h.home_eq ▸ h.apart)]
  | evaluate script completion => exact ⟨rfl, h⟩
  | updateOrigins origins =>
      -- allow-lists are no part of what the page is shown
      exact ⟨rfl, h.apart, h.home_eq, h.installed_eq, h.listening_eq, h.bootstraps_eq,
        h.userScripts_eq⟩
  | replaceScripts loaded => exact ⟨h.pageCalls_replaceCalls loaded, h.replaceScripts loaded⟩

/-- Actions that differ in their keys show the page the same. -/
theorem after (h : SameToPage i j) {action action' : Action} (ha : action.SameButKey action') :
    pageCalls (j.calls action') = pageCalls (i.calls action) ∧
      SameToPage (i.after action) (j.after action') := by
  cases ha with
  | refl => exact h.after_self action
  | install serves request hb => exact h.install serves request hb
  | @apply _ serves _ key plan plan' hplan hplan' =>
      obtain rfl := Plan.eq_withKey_of_resolve serves hplan hplan'
      have hp := ofPlan h.apart plan key
      refine ⟨h.pageCalls_applyCalls hp, ?_⟩
      simp only [Installation.after, apply_eq]
      rw [h.home_eq]
      exact hp

/-- Runs that differ in their keys make the same calls into the page world. -/
theorem run (h : SameToPage i j) {actions actions' : List Action}
    (ha : List.Forall₂ Action.SameButKey actions actions') :
    pageCalls (j.run actions').2 = pageCalls (i.run actions).2 := by
  induction ha generalizing i j with
  | nil => rfl
  | cons hab _ ih =>
      obtain ⟨hcalls, hafter⟩ := h.after hab
      rw [run_cons, run_cons, pageCalls_append, pageCalls_append, hcalls, ih hafter]

end SameToPage

end Installation

end PageBridge
