import PageBridge.Host.Action
import PageBridge.Proofs.Bridge.Run
import PageBridge.Proofs.Installation.Prepared

/-!
# Installing through the queue

A host resolves a request when it is asked to install a bridge, and queues what came of it.  The
bridge of the view is told later: to apply a plan, or to uninstall.  A bridge that is asked directly
empties the engine first and resolves the request then.  Both ways leave the same bridge and have the
same effects in the same order, for one request (`queued_install_eq_direct`) and for all requests of
a run (`Bridge.run_prepared`).
-/

namespace PageBridge

namespace Bridge

open PageBridge.Installation (Plan)
open PageBridge.Script (Loader)

/-- An action with the request in it resolved. -/
def Action.prepared : Action → Action
  | manage action => manage action.prepared
  | action => action

/-- Whether the request was resolved before makes no difference to the bridge. -/
theorem after_prepared (b : Bridge) (action : Action) : b.after action.prepared = b.after action := by
  cases action with
  | manage action =>
      exact congrArg (fun installation => { b with installation })
        (Installation.after_prepared b.installation action)
  | setChannel | send | run | handle => rfl

/-- Nor does it to what the engine is told to do. -/
theorem effects_prepared (b : Bridge) (action : Action) :
    b.effects action.prepared = b.effects action := by
  cases action with
  | manage action =>
      exact congrArg (List.map Effect.call) (Installation.calls_prepared b.installation action)
  | setChannel | send | run | handle => rfl

/-- A run with all its requests resolved beforehand has the same bridge and the same effects. -/
theorem run_prepared (b : Bridge) (actions : List Action) :
    b.run (actions.map Action.prepared) = b.run actions := by
  induction actions generalizing b with
  | nil => rfl
  | cons action actions ih =>
      rw [List.map_cons, run_cons, run_cons, after_prepared, effects_prepared, ih]

/-! ## Requests that fail -/

variable {b : Bridge} {loader : Loader} {request : Installation.Request}

/-- A bridge is installed after a request exactly when the request has a plan. -/
theorem installed_after_install (b : Bridge) (loader : Loader) (request : Installation.Request) :
    (b.after (.manage (.install loader request))).installation.session.installed =
      (Plan.resolve loader request).toOption.isSome := by
  simp only [after, Action.managed?, Installation.after, Installation.install]
  cases Plan.resolve loader request <;> rfl

/-- A request that fails leaves the bridge as uninstalling does, with the same effects. -/
theorem install_of_fails (h : (Plan.resolve loader request).toOption = none) :
    b.after (.manage (.install loader request)) = b.after (.manage .uninstall) ∧
      b.effects (.manage (.install loader request)) = b.effects (.manage .uninstall) := by
  have hprepared : (Action.manage (.install loader request)).prepared = .manage .uninstall := by
    rw [Action.prepared, Installation.Action.prepared, h]
    rfl
  rw [← after_prepared, ← effects_prepared, hprepared]
  exact ⟨rfl, rfl⟩

/-- A bridge that is not installed after a run has nothing to take out. -/
theorem effects_uninstall_of_not_installed {home : World} {history : List Action}
    (h : ((fresh home).run history).1.installation.session.installed = false) :
    ((fresh home).run history).1.effects (.manage .uninstall) = [] := by
  have hcalls : ((fresh home).run history).1.installation.uninstallCalls = [] := by
    -- only an installation that came out of a history is known to be empty without a plan
    rw [installation_run_fresh] at h ⊢
    rw [Installation.Standing.installed_installation, Option.isSome_eq_false_iff,
      Option.isNone_iff_eq_none] at h
    rw [Installation.Standing.installation_of_plan_eq_none home h]
    rfl
  simp only [effects, Action.managed?, Installation.calls, hcalls, List.map_nil]

end Bridge

namespace Host

open PageBridge.Installation (Plan)
open PageBridge.Script (Loader)

/-- What is queued for the outcome of a request acts on the bridge by what is done with it. -/
theorem bridgeAction?_install (plan : Option Plan) :
    (Command.install plan).bridgeAction? = some (.manage (Installation.Action.ofPlan? plan)) := by
  cases plan <;> rfl

/-- A view that is known queues the outcome of the request, and answers whether there is a plan. -/
theorem performOn_install {files : File.Disk} {h : Host} {id : ViewId} {config : Config}
    (hconfig : h.config id = .ok config) (nspace : Option String) (origins : List String)
    (key : String) (channelPath : Option String) :
    let plan := (Plan.resolve (config.store.load files)
      (config.request nspace origins key channelPath)).toOption
    h.performOn files id (.install nspace origins key channelPath) =
      (.ok (.installed plan.isSome), h.push id (.install plan)) := by
  simp only [performOn, install, hconfig, plan?]

/-- After any run of a bridge, what a host queues for a request leaves the bridge that the request
leaves directly, with the very same effects, and the host answers whether the bridge is installed
then.  A request that fails does what uninstalling does, and nothing at all where no bridge is
installed. -/
theorem queued_install_eq_direct (home : World) (history : List Bridge.Action) (loader : Loader)
    (request : Installation.Request) :
    let b := ((Bridge.fresh home).run history).1
    let direct := Bridge.Action.manage (.install loader request)
    let plan := (Plan.resolve loader request).toOption
    (∃ queued, (Command.install plan).bridgeAction? = some queued ∧
        b.after queued = b.after direct ∧ b.effects queued = b.effects direct) ∧
      plan.isSome = (b.after direct).installation.session.installed ∧
      (∀ files (h : Host) id config nspace origins key channelPath, h.config id = .ok config →
        loader = config.store.load files →
        request = config.request nspace origins key channelPath →
        h.performOn files id (.install nspace origins key channelPath) =
          (.ok (.installed (b.after direct).installation.session.installed),
            h.push id (.install plan))) ∧
      (plan = none →
        b.after direct = b.after (.manage .uninstall) ∧
          b.effects direct = b.effects (.manage .uninstall) ∧
          (b.installation.session.installed = false → b.effects direct = [])) ∧
      ∀ actions, b.run (actions.map Bridge.Action.prepared) = b.run actions := by
  intro b direct plan
  have hflag : (b.after direct).installation.session.installed = plan.isSome :=
    b.installed_after_install loader request
  refine ⟨⟨direct.prepared, bridgeAction?_install plan, b.after_prepared direct,
    b.effects_prepared direct⟩, hflag.symm, ?_, ?_, b.run_prepared⟩
  · rintro files h id config nspace origins key channelPath hconfig rfl rfl
    rw [hflag]
    exact performOn_install hconfig nspace origins key channelPath
  · intro hnone
    obtain ⟨hafter, heffects⟩ := Bridge.install_of_fails (b := b) hnone
    refine ⟨hafter, heffects, fun hout => ?_⟩
    rw [heffects]
    exact Bridge.effects_uninstall_of_not_installed hout

end Host

end PageBridge
