import PageBridge.Proofs.Installation.Order

/-!
# Views of the calls

Much can be said of the calls of an action by looking at some kinds of calls only.  A decision
registers a handler for its plan, adds scripts and takes out what was there; apart from that only
traffic makes calls.  So a view of the calls that sees neither scripts nor removals sees the handler
for a plan and the calls of the traffic, and nothing more (`filterMap_calls`).
-/

namespace PageBridge

/-- A view of a list sees its first element, if it shows, ahead of the others. -/
theorem filterMap_cons_eq_append {α β : Type} (view : α → Option β) (a : α) (as : List α) :
    (a :: as).filterMap view = (view a).toList ++ as.filterMap view := by
  cases h : view a with
  | none => rw [List.filterMap_cons_none h, Option.toList_none, List.nil_append]
  | some b => rw [List.filterMap_cons_some h, Option.toList_some, List.singleton_append]

namespace Installation

/-- A decision applies its plan, or empties the engine when it has none. -/
theorem calls_of_decides (i : Installation) {action : Action} (h : action.decides = true) :
    i.calls action = action.plan?.elim i.uninstallCalls i.applyCalls := by
  cases action with
  | install loader request =>
      rw [← calls_prepared, Action.plan?]
      cases hr : Plan.resolve loader request with
      | ok plan => rw [Action.prepared_of_ok hr]; rfl
      | error e => rw [Action.prepared_of_error hr]; rfl
  | apply | uninstall => rfl
  | post | evaluate | updateOrigins | replaceScripts => cases h

/-- The calls of the traffic through an installation. -/
def trafficCalls (i : Installation) : Action → List Call
  | .post json => i.postCalls json
  | .evaluate script completion => [.evaluate script (i.home.target true) completion]
  | .install .. | .apply _ | .uninstall | .updateOrigins _ | .replaceScripts _ => []

section View

variable {β : Type} {view : Call → Option β}

/-- A view that sees no script sees nothing of scripts that are added. -/
theorem filterMap_addScripts (hadd : ∀ script, view (.addScript script) = none)
    (scripts : List UserScript) : (scripts.map Call.addScript).filterMap view = [] := by
  rw [List.filterMap_map]
  exact List.filterMap_eq_nil_iff.mpr fun script _ => hadd script

/-- A view that sees no removals sees nothing of an engine that is emptied. -/
theorem filterMap_uninstallCalls (hremove : ∀ name world, view (.removeHandler name world) = none)
    (hclear : view .removeAllScripts = none) (i : Installation) :
    i.uninstallCalls.filterMap view = [] := by
  refine List.filterMap_eq_nil_iff.mpr fun call hcall => ?_
  rcases mem_uninstallCalls hcall with rfl | rfl
  · exact hremove _ _
  · exact hclear

/-- A view that sees neither scripts nor removals sees the handler for the plan of an action, and its
traffic. -/
theorem filterMap_calls (hadd : ∀ script, view (.addScript script) = none)
    (hremove : ∀ name world, view (.removeHandler name world) = none)
    (hclear : view .removeAllScripts = none) (i : Installation) (action : Action) :
    (i.calls action).filterMap view =
      (action.plan?.toList.filterMap fun _ => view (.addHandler handlerName i.home)) ++
        (i.trafficCalls action).filterMap view := by
  cases hd : action.decides with
  | true =>
      have htraffic : i.trafficCalls action = [] := by
        cases action with
        | install | apply | uninstall => rfl
        | post | evaluate | updateOrigins | replaceScripts => cases hd
      rw [calls_of_decides i hd, htraffic, List.filterMap_nil, List.append_nil]
      cases action.plan? with
      | none => exact filterMap_uninstallCalls hremove hclear i
      | some plan =>
          rw [Option.elim_some, applyCalls_eq, listenCalls, List.filterMap_append,
            List.filterMap_append, filterMap_uninstallCalls hremove hclear,
            filterMap_addScripts hadd, List.filterMap_cons_none (hremove _ _), List.append_nil]
          rfl
  | false =>
      cases action with
      | install | apply | uninstall => cases hd
      | post | evaluate | updateOrigins => rfl
      | replaceScripts scripts =>
          rw [calls, replaceCalls_eq]
          split
          -- what is added again are scripts, whichever they are
          · rw [List.filterMap_cons_none hclear]
            exact filterMap_addScripts hadd _
          · rfl

/-- A view that sees evaluations only sees the traffic. -/
theorem filterMap_calls_eq_traffic (hadd : ∀ script, view (.addScript script) = none)
    (hregister : ∀ name world, view (.addHandler name world) = none)
    (hremove : ∀ name world, view (.removeHandler name world) = none)
    (hclear : view .removeAllScripts = none) (i : Installation) (action : Action) :
    (i.calls action).filterMap view = (i.trafficCalls action).filterMap view := by
  have hplan : (action.plan?.toList.filterMap fun _ =>
      view (.addHandler handlerName i.home)) = [] :=
    List.filterMap_eq_nil_iff.mpr fun _ _ => hregister _ _
  rw [filterMap_calls hadd hremove hclear, hplan, List.nil_append]

end View

end Installation

end PageBridge
