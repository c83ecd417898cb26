import PageBridge.Installation.Plan
import PageBridge.Proofs.Script.Store
import PageBridge.Proofs.Script.Template

/-!
# Plans and the invoke key

When a loader serves the bundled bootstrap scripts, requests that differ in nothing but their keys
have plans that differ in nothing but the key and the bootstrap script of the bridge half
(`Plan.resolve_withKey`).
-/

namespace PageBridge.Installation

open PageBridge.Text (blank)

/-- Computations that succeed one after the other. -/
theorem exists_of_bind {α β : Type} {x : Except Error α} {f : α → Except Error β} {b : β}
    (h : x >>= f = .ok b) : ∃ a, x = .ok a ∧ f a = .ok b := by
  cases x with
  | error e => cases h
  | ok a => exact ⟨a, rfl, h⟩

/-- A request is valid when its namespace is an identifier and its key is not blank. -/
theorem Request.validate_eq_ok_iff {request : Request} :
    request.validate = .ok () ↔
      isIdentifier request.nspace = true ∧ blank request.invokeKey = false := by
  rw [validate]
  cases isIdentifier request.nspace <;> cases blank request.invokeKey <;> simp

/-- Whether a request is valid does not depend on its key, as long as it is blank or not. -/
theorem Request.validate_withKey (request : Request) {key : String}
    (h : blank key = blank request.invokeKey) :
    { request with invokeKey := key }.validate = request.validate := by
  simp only [validate, h]

namespace Plan

/-- The plan with another invoke key, also in the bootstrap script of the bridge half. -/
def withKey (plan : Plan) (key : String) : Plan :=
  { plan with
    invokeKey := key
    bridgeBootstrap := Script.fill Script.bridgeTemplate plan.nspace key }

/-- A plan with the bundled bootstrap scripts fails with the request or with its channel script. -/
theorem resolve_of_serves {loader : Script.Loader} (h : Script.Serves loader) (request : Request) :
    resolve loader request =
      request.validate.bind fun _ =>
        (loadOptional loader request.channelPath?).map fun channelSource =>
          { nspace := request.nspace
            allowedOrigins := request.allowedOrigins
            invokeKey := request.invokeKey
            channelSource
            pageBootstrap := Script.fill Script.pageTemplate request.nspace request.invokeKey
            bridgeBootstrap := Script.fill Script.bridgeTemplate request.nspace request.invokeKey
            userScripts := Script.loadAll loader request.userScripts } := by
  rw [resolve, h.page_eq, h.bridge_eq]
  cases request.validate with
  | error e => rfl
  | ok u => cases loadOptional loader request.channelPath? <;> rfl

/-- A request with another key fails in the same way, or has the same plan with the other key. -/
theorem resolve_withKey {loader : Script.Loader} (h : Script.Serves loader) (request : Request)
    {key : String} (hb : blank key = blank request.invokeKey) :
    resolve loader { request with invokeKey := key } =
      (resolve loader request).map (·.withKey key) := by
  rw [resolve_of_serves h, resolve_of_serves h, Request.validate_withKey request hb]
  cases hv : request.validate with
  | error e => rfl
  | ok u =>
      have hid : isIdentifier request.nspace = true := (Request.validate_eq_ok_iff.mp hv).1
      change (loadOptional loader request.channelPath?).map _ =
        ((loadOptional loader request.channelPath?).map _).map _
      cases loadOptional loader request.channelPath? with
      | error e => rfl
      | ok channelSource =>
          -- the page half has no gap for a key, and an identifier cannot bring one in
          simp only [Except.map, withKey, Script.fill_pageTemplate hid]

/-- A plan that was made has what its request asks for, with the scripts that the loader gives. -/
theorem eq_mk_of_resolve {loader : Script.Loader} {request : Request} {plan : Plan}
    (h : resolve loader request = .ok plan) :
    request.validate = .ok () ∧ ∃ pageTemplate bridgeTemplate channelSource,
      loader Script.pageBootstrapPath = .ok pageTemplate ∧
        loader Script.bridgeBootstrapPath = .ok bridgeTemplate ∧
        loadOptional loader request.channelPath? = .ok channelSource ∧
        plan =
          { nspace := request.nspace
            allowedOrigins := request.allowedOrigins
            invokeKey := request.invokeKey
            channelSource
            pageBootstrap := Script.fill pageTemplate request.nspace request.invokeKey
            bridgeBootstrap := Script.fill bridgeTemplate request.nspace request.invokeKey
            userScripts := Script.loadAll loader request.userScripts } := by
  rw [resolve] at h
  obtain ⟨u, hvalid, h⟩ := exists_of_bind h
  obtain ⟨pageTemplate, hpage, h⟩ := exists_of_bind h
  obtain ⟨bridgeTemplate, hbridge, h⟩ := exists_of_bind h
  obtain ⟨channelSource, hchannel, h⟩ := exists_of_bind h
  exact ⟨hvalid, pageTemplate, bridgeTemplate, channelSource, hpage, hbridge, hchannel,
    (Except.ok.inj h).symm⟩

/-- A plan that was made comes from a valid request. -/
theorem validate_of_resolve {loader : Script.Loader} {request : Request} {plan : Plan}
    (h : resolve loader request = .ok plan) : request.validate = .ok () :=
  (eq_mk_of_resolve h).1

/-- The namespace of a plan is the one that was asked for. -/
theorem nspace_of_resolve {loader : Script.Loader} {request : Request} {plan : Plan}
    (h : resolve loader request = .ok plan) : plan.nspace = request.nspace := by
  obtain ⟨-, _, _, _, -, -, -, rfl⟩ := eq_mk_of_resolve h
  rfl

/-- A plan has the user scripts of its request that could be loaded. -/
theorem userScripts_of_resolve {loader : Script.Loader} {request : Request} {plan : Plan}
    (h : resolve loader request = .ok plan) :
    plan.userScripts = Script.loadAll loader request.userScripts := by
  obtain ⟨-, _, _, _, -, -, -, rfl⟩ := eq_mk_of_resolve h
  rfl

end Plan

end PageBridge.Installation
