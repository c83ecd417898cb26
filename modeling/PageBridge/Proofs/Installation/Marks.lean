import PageBridge.Proofs.Installation.Lockstep
import PageBridge.Proofs.Installation.Plan

/-!
# The marks of an installation

The namespace and the invoke key of an installation are written into scripts in three places: as the
argument of the page half, as the arguments of the bridge half, and in every delivery to the page.
Each of these scripts is a skeleton with literals in its gaps, and `SaysMarks` says that a script
engine reads the marks of the session, and nothing else, from all of them.
`bootstraps_and_deliveries_agree` shows it of every installation of a plan that was made with the
bundled bootstrap scripts, for every key that a request may have.  So the key that a bridge half
compares with is never that of a delivery of an installation with another key.
-/

namespace PageBridge

open PageBridge.Text (Skeleton)
open PageBridge.Text.Literal

namespace World

/-- A delivery with gaps for the namespace, the invoke key and the message. -/
def deliverySkeleton : World → Skeleton
  | isolated _ => ⟨"window.__wvbDeliver&&window.__wvbDeliver(", [",", ",", ");"]⟩
  | page =>
    ⟨"document.dispatchEvent(new CustomEvent('__wvb_deliver__',\x7bdetail:\x7bns:",
      [",invokeKey:", ",data:", "\x7d\x7d));"]⟩

/-- A skeleton with three gaps filled, the quotes of the last literal being written with the pieces
around it. -/
theorem fill_eq_append (start first second third nspace key json : String) :
    (Skeleton.mk start [first, second, third]).fill [nspace, key, json] =
      start ++ quote nspace ++ first ++ quote key ++ (second ++ "'") ++ escapeText json ++
        ("'" ++ third) := by
  have hjson : quote json = "'" ++ escapeText json ++ "'" := rfl
  simp only [Skeleton.fill, Skeleton.fillFrom, hjson, String.append_assoc]

/-- A delivery is its skeleton with the marks and the message in the gaps. -/
theorem delivery_eq_fill (home : World) (json nspace key : String) :
    home.delivery (escapeText json) nspace key =
      home.deliverySkeleton.fill [nspace, key, json] := by
  cases home with
  | isolated name =>
      rw [deliverySkeleton, fill_eq_append]
      rfl
  | page =>
      rw [deliverySkeleton, fill_eq_append]
      rfl

/-- The marks and the message are read from a delivery. -/
theorem read?_delivery (home : World) (json nspace key : String) :
    home.deliverySkeleton.read? (home.delivery (escapeText json) nspace key) =
      some [nspace, key, json] := by
  rw [delivery_eq_fill]
  cases home <;> exact Skeleton.read?_fill _ rfl

end World

namespace Installation

open PageBridge.Script (Loader Serves pageSkeleton bridgeSkeleton)

/-! ## Plans -/

namespace Plan

/-- A plan with the bundled bootstrap scripts has the marks of its request, and its bootstrap scripts
are the templates with these marks in the gaps. -/
theorem eq_of_resolve {loader : Loader} (serves : Serves loader) {request : Request} {plan : Plan}
    (h : resolve loader request = .ok plan) :
    plan.nspace = request.nspace ∧ plan.invokeKey = request.invokeKey ∧
      plan.pageBootstrap = pageSkeleton.fill [request.nspace] ∧
      plan.bridgeBootstrap = bridgeSkeleton.fill [request.nspace, request.invokeKey] := by
  have hvalid := validate_of_resolve h
  have hid : isIdentifier request.nspace = true := (Request.validate_eq_ok_iff.mp hvalid).1
  rw [resolve_of_serves serves, hvalid] at h
  cases hc : loadOptional loader request.channelPath? with
  | error e =>
      rw [hc] at h
      cases h
  | ok channelSource =>
      rw [hc] at h
      obtain rfl := Except.ok.inj h
      exact ⟨rfl, rfl, Script.fill_pageTemplate hid request.invokeKey,
        Script.fill_bridgeTemplate hid request.invokeKey⟩

/-- A valid request without a channel script has a plan. -/
theorem exists_resolve {loader : Loader} (serves : Serves loader) {request : Request}
    (hvalid : request.validate = .ok ()) (hchannel : request.channelPath? = none) :
    ∃ plan, resolve loader request = .ok plan := by
  rw [resolve_of_serves serves, hvalid, hchannel]
  exact ⟨_, rfl⟩

end Plan

/-- An action that installs a request with the bundled bootstrap scripts: the request itself, or a
plan that was made of it. -/
inductive Action.Installs : Action → Request → Prop where
  | install {loader : Loader} (serves : Serves loader) {request : Request} {plan : Plan}
      (plan_eq : Plan.resolve loader request = .ok plan) :
      Installs (.install loader request) request
  | apply {loader : Loader} (serves : Serves loader) {request : Request} {plan : Plan}
      (plan_eq : Plan.resolve loader request = .ok plan) :
      Installs (.apply plan) request

/-- However a request is installed, there is a loader behind it that gave it a plan. -/
theorem Action.Installs.exists_plan {action : Action} {request : Request}
    (h : action.Installs request) :
    ∃ loader plan, Serves loader ∧ Plan.resolve loader request = .ok plan ∧
      action.plan? = some plan := by
  cases h with
  | @install loader serves _ plan plan_eq =>
      refine ⟨loader, plan, serves, plan_eq, ?_⟩
      rw [Action.plan?, plan_eq]
      rfl
  | @apply loader serves _ plan plan_eq => exact ⟨loader, plan, serves, plan_eq, rfl⟩

/-! ## Installations -/

/-- The scripts of an installation say its marks: those of the two halves, the last of its bootstrap
scripts, and all that it delivers to the page. -/
structure SaysMarks (i : Installation) : Prop where
  halves : ∃ channel page bridge, i.bootstrapScripts = channel ++ [page, bridge] ∧
    pageSkeleton.read? page.source = some [i.session.nspace] ∧
    bridgeSkeleton.read? bridge.source = some [i.session.nspace, i.session.invokeKey]
  deliveries : ∀ json, ∃ source, i.postCalls json = [.evaluate source i.home none] ∧
    i.home.deliverySkeleton.read? source = some [i.session.nspace, i.session.invokeKey, json]

namespace SaysMarks

variable {i j : Installation}

/-- Nothing that one installation delivers has the key that the bridge half of another one compares
with, when their keys differ. -/
theorem checked_ne_delivered (hi : SaysMarks i) (hj : SaysMarks j)
    (hkey : j.session.invokeKey ≠ i.session.invokeKey) (json : String) :
    ∃ bridge source checked delivered, i.bootstrapScripts.getLast? = some bridge ∧
      j.postCalls json = [.evaluate source j.home none] ∧
      bridgeSkeleton.read? bridge.source = some checked ∧
      j.home.deliverySkeleton.read? source = some delivered ∧
      delivered[1]? ≠ checked[1]? := by
  obtain ⟨channel, page, bridge, hscripts, -, hchecked⟩ := hi.halves
  obtain ⟨source, hpost, hdelivered⟩ := hj.deliveries json
  refine ⟨bridge, source, _, _, ?_, hpost, hchecked, hdelivered, ?_⟩
  · rw [hscripts, List.getLast?_append]
    rfl
  · intro h
    exact hkey (Option.some.inj h)

/-- Installations with different keys have different bridge halves. -/
theorem bridge_source_ne (hi : SaysMarks i) (hj : SaysMarks j)
    (hkey : j.session.invokeKey ≠ i.session.invokeKey) :
    j.bootstrapScripts.getLast?.map (·.source) ≠ i.bootstrapScripts.getLast?.map (·.source) := by
  obtain ⟨channel, page, bridge, hscripts, -, hread⟩ := hi.halves
  obtain ⟨channel', page', bridge', hscripts', -, hread'⟩ := hj.halves
  rw [hscripts, hscripts', List.getLast?_append, List.getLast?_append]
  intro h
  have hsource : bridge'.source = bridge.source := Option.some.inj h
  -- one script cannot be read in two ways
  rw [hsource, hread] at hread'
  have hmarks := Option.some.inj hread'
  rw [List.cons.injEq, List.cons.injEq] at hmarks
  exact hkey hmarks.2.1.symm

end SaysMarks

/-- What is installed after a request, or a plan that was made of it, until the next decision. -/
theorem installation_of_installs (home : World) (before : List Action) {decision : Action}
    {request : Request} {since : List Action} (hd : decision.Installs request)
    (hs : ∀ action ∈ since, action.decides = false) :
    let i := ((vacant home).run (before ++ decision :: since)).1
    SaysMarks i ∧ i.session.installed = true ∧ i.session.nspace = request.nspace ∧
      i.session.invokeKey = request.invokeKey := by
  intro i
  obtain ⟨loader, plan, serves, hresolve, hplan⟩ := hd.exists_plan
  obtain ⟨hnspace, hkey, hpage, hbridge⟩ := Plan.eq_of_resolve serves hresolve
  have hstands : (Standing.ofHistory (before ++ decision :: since)).plan = some plan := by
    rw [Standing.plan_ofHistory before (Action.decides_of_plan? hplan) hs, hplan]
  -- all the scripts are read off the plan that stands
  have hi : i = _ := (run_vacant home (before ++ decision :: since)).trans
    (Standing.installation_of_plan_eq_some home hstands)
  rw [hi]
  refine ⟨⟨?_, ?_⟩, rfl, hnspace, hkey⟩
  · refine ⟨plan.channelSource.toList.map (⟨·, true, home.target true⟩), _, _, rfl, ?_, ?_⟩
    · simp only [hpage, hnspace]
      exact Skeleton.read?_fill pageSkeleton rfl
    · simp only [hbridge, hnspace, hkey]
      exact Skeleton.read?_fill bridgeSkeleton rfl
  · intro json
    exact ⟨_, rfl, World.read?_delivery home json plan.nspace plan.invokeKey⟩

/-- While a request is installed with the bundled bootstrap scripts, whatever was done before it and
whatever else than a decision since, all scripts that carry its marks agree on them: the two halves
that live in the engine and every delivery.  Both halves are the templates with other literals in the
gaps that hold the placeholders.  An installation with another key, earlier or later, has another
bridge half, and the key of its deliveries is not the one that the bridge half of this one compares
with. -/
theorem bootstraps_and_deliveries_agree (home : World) (pending : List Completion)
    (before since : List Action) {decision : Action} {request : Request}
    (hd : decision.Installs request) (hs : ∀ action ∈ since, action.decides = false) :
    let actions := before ++ decision :: since
    let i := ((vacant home).run actions).1
    let engine := Engine.replay ⟨[], [], pending⟩ ((vacant home).run actions).2
    i.session.installed = true ∧ i.session.nspace = request.nspace ∧
      i.session.invokeKey = request.invokeKey ∧
      engine.scripts = i.bootstrapScripts ++ i.userScripts ∧ SaysMarks i ∧
      pageSkeleton.read? Script.pageTemplate = some [Script.namespaceMark] ∧
      bridgeSkeleton.read? Script.bridgeTemplate =
        some [Script.namespaceMark, Script.invokeKeyMark] ∧
      ∀ before' since' decision' request', Action.Installs decision' request' →
        (∀ action ∈ since', action.decides = false) →
        request'.invokeKey ≠ request.invokeKey →
        let j := ((vacant home).run (before' ++ decision' :: since')).1
        j.bootstrapScripts.getLast?.map (·.source) ≠ i.bootstrapScripts.getLast?.map (·.source) ∧
          ∀ json, ∃ bridge source checked delivered, i.bootstrapScripts.getLast? = some bridge ∧
            j.postCalls json = [.evaluate source home none] ∧
            bridgeSkeleton.read? bridge.source = some checked ∧
            home.deliverySkeleton.read? source = some delivered ∧
            delivered[1]? ≠ checked[1]? := by
  intro actions i engine
  obtain ⟨hmarks, hinst, hnspace, hkey⟩ := installation_of_installs home before hd hs
  have hstep : InStep i engine := (inStep_vacant home pending).run actions
  refine ⟨hinst, hnspace, hkey, hstep.scripts_eq, hmarks, ?_, ?_, ?_⟩
  · rw [Script.pageTemplate_eq_fill]
    exact Skeleton.read?_fill pageSkeleton rfl
  · rw [Script.bridgeTemplate_eq_fill]
    exact Skeleton.read?_fill bridgeSkeleton rfl
  · intro before' since' decision' request' hd' hs' hne j
    obtain ⟨hmarks', -, -, hkey'⟩ := installation_of_installs home before' hd' hs'
    have hhome : j.home = home := home_run (vacant home) _
    have hdiffer : j.session.invokeKey ≠ i.session.invokeKey := by
      rw [hkey, hkey']
      exact hne
    refine ⟨hmarks.bridge_source_ne hmarks' hdiffer, fun json => ?_⟩
    have hdelivered := hmarks.checked_ne_delivered hmarks' hdiffer json
    rw [hhome] at hdelivered
    exact hdelivered

/-- A key with a quote, a backslash, a line end and both placeholders in it. -/
theorem bootstraps_and_deliveries_agree_hostile_key :
    let loader := Script.Store.bootstrap.load .empty
    let request : Request := ⟨"qt", ["*"], "k'\\\n%NS%%INVOKE_KEY%", none, []⟩
    let actions : List Action := [.uninstall, .install loader request, .updateOrigins []]
    let i := ((vacant (World.home true)).run actions).1
    Action.Installs (.install loader request) request ∧
      (∀ action ∈ [Action.updateOrigins []], action.decides = false) ∧
      i.session.invokeKey = "k'\\\n%NS%%INVOKE_KEY%" ∧ SaysMarks i := by
  intro loader request actions i
  have hserves : Serves loader := Script.Store.serves_bootstrap .empty
  have hvalid : request.validate = .ok () :=
    Request.validate_eq_ok_iff.mpr ⟨by decide, by decide⟩
  obtain ⟨plan, hplan⟩ := Plan.exists_resolve hserves hvalid rfl
  have hinstalls : Action.Installs (.install loader request) request := .install hserves hplan
  have hsince : ∀ action ∈ [Action.updateOrigins []], action.decides = false := by
    simp [Action.decides]
  obtain ⟨-, -, hkey, -, hmarks, -⟩ := bootstraps_and_deliveries_agree (World.home true) []
    [.uninstall] [.updateOrigins []] hinstalls hsince
  exact ⟨hinstalls, hsince, hkey, hmarks⟩

end Installation

end PageBridge
