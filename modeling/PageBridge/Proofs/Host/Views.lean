import PageBridge.Host.Action
import PageBridge.Proofs.Bridge.Reports

/-!
# What can be seen of a view

A program has two ways to know a view.  It can look at it, and sees what its bridge is at that moment;
and it can listen, and is told of every change.  `ofBridge_run_fresh` says that both agree at every
moment in the life of a bridge: what is seen of the page is what an observer of the reports knows, and
the bridge is seen to be installed while a plan stands.  At the beginning of its life a bridge looks
like none at all, so the views of a host that keeps no bridges look like new ones for ever.
-/

namespace PageBridge.Host

open PageBridge.Installation (Standing)

namespace ViewState

/-- A view whose bridge is new looks like one that has no bridge. -/
theorem ofBridge_fresh (home : World) : ofBridge (.fresh home) = .bare := rfl

/-- What was done with the installation decides whether a bridge is seen to be installed, and all else
that is seen of it is what an observer of its reports was told. -/
theorem ofBridge_run_fresh (home : World) (history : List Bridge.Action) :
    let told := observe ((Bridge.fresh home).run history).2
    let decided := Standing.ofHistory (history.filterMap Bridge.Action.managed?)
    ofBridge ((Bridge.fresh home).run history).1 =
      ⟨decided.plan.isSome, told.loading, told.loaded, told.url⟩ := by
  intro told decided
  have htold : told = ((Bridge.fresh home).run history).1.navigation.observed :=
    (Bridge.tells_run (.fresh home) history [] rfl).1
  rw [ofBridge, Bridge.installation_run_fresh, Standing.installed_installation, htold]
  rfl

/-- Nothing that is seen of a bridge is loading and loaded at once. -/
theorem ofBridge_not_loading_and_loaded (b : Bridge) :
    ¬ ((ofBridge b).loading = true ∧ (ofBridge b).loaded = true) :=
  b.navigation.not_loading_and_loaded

end ViewState

section Views

variable {bridges : Bridges} {h : Host} {id : ViewId}

/-- A platform shows the bridge that it keeps for a view. -/
theorem viewStateWith_of_bridge {b : Bridge} (hplatform : h.hasPlatform = true)
    (hbridge : bridges id = some b) : h.viewStateWith bridges id = .ofBridge b := by
  rw [viewStateWith, if_pos hplatform, hbridge, Option.elim_some]

/-- A view without a bridge shows nothing, whether there is a platform or not. -/
theorem viewStateWith_of_none (hbridge : bridges id = none) :
    h.viewStateWith bridges id = .bare := by
  rw [viewStateWith, hbridge, Option.elim_none, ite_self]

/-- Whatever bridges a platform keeps, no view is seen to be loading and loaded at once. -/
theorem viewStateWith_not_loading_and_loaded (bridges : Bridges) (h : Host) (id : ViewId) :
    ¬ ((h.viewStateWith bridges id).loading = true ∧
      (h.viewStateWith bridges id).loaded = true) := by
  have hbare : ¬ (ViewState.bare.loading = true ∧ ViewState.bare.loaded = true) := by decide
  cases hbridge : bridges id with
  | none => rwa [viewStateWith_of_none hbridge]
  | some b =>
      by_cases hplatform : h.hasPlatform = true
      · rw [viewStateWith_of_bridge hplatform hbridge]
        exact ViewState.ofBridge_not_loading_and_loaded b
      · -- a bridge that is left over from a platform that is gone is not shown
        rwa [viewStateWith, if_neg hplatform]

/-- As this host keeps no bridges, its views look for ever as if their bridges were new. -/
theorem viewState_eq_ofBridge_fresh (h : Host) (id : ViewId) (home : World) :
    h.viewState id = .ofBridge (.fresh home) := by
  rw [viewState, viewStateWith_of_none rfl, ViewState.ofBridge_fresh]

end Views

end PageBridge.Host
