import PageBridge.Engine.Call
import PageBridge.Installation.Plan
import PageBridge.Message.Admission

/-!
# Installations

An installation is what a bridge has put into one engine: a message handler in its home world,
bootstrap scripts and user scripts.  Every action on it gives the installation after it and the
calls into the engine that bring the engine along.  A plan is put in stage by stage, on what is
left when everything was taken out; `uninstall_eq` and `apply_eq` say that this is what a new bridge
has.  An engine can drop its scripts only all at once, so user scripts are replaced by adding the
bootstrap scripts again.
-/

namespace PageBridge

open PageBridge.Script (Loader Loaded)

/-- What a bridge has installed in an engine. -/
structure Installation where
  home : World
  session : Session
  listening : Bool
  bootstrapScripts : List UserScript
  userScripts : List UserScript
deriving DecidableEq, Repr

namespace Installation

/-- The installation of a new bridge. -/
def vacant (home : World) : Installation := ⟨home, .none, false, [], []⟩

/-- The scripts that live in the engine. -/
def scripts (i : Installation) : List UserScript :=
  i.bootstrapScripts ++ i.userScripts

/-! ## Installing and uninstalling -/

/-- The bootstrap scripts of a plan.  Only the one of the inner half runs in the home world. -/
def bootstrapsOf (home : World) (plan : Plan) : List UserScript :=
  plan.channelSource.toList.map (⟨·, true, home.target true⟩) ++
    [⟨plan.pageBootstrap, true, home.target true⟩, ⟨plan.bridgeBootstrap, true, home.target false⟩]

/-- The user scripts to inject for loaded ones. -/
def userScriptsOf (home : World) (scripts : List Loaded) : List UserScript :=
  scripts.map fun s => ⟨s.source, !s.subFrames, home.target true⟩

/-- The installation of a plan by a new bridge. -/
def ofPlan (home : World) (plan : Plan) : Installation where
  home := home
  session := ⟨true, plan.nspace, plan.invokeKey, plan.allowedOrigins⟩
  listening := true
  bootstrapScripts := bootstrapsOf home plan
  userScripts := userScriptsOf home plan.userScripts

/-- Forgets the scripts, if there are any. -/
def dropScripts (i : Installation) : Installation :=
  if i.scripts.isEmpty then i else { i with bootstrapScripts := [], userScripts := [] }

/-- The installation after everything is taken out. -/
def uninstall (i : Installation) : Installation :=
  { dropScripts { i with listening := false } with session := .none }

/-- Listens for messages, for a session that has only its allowed origins yet. -/
def listen (i : Installation) (origins : List String) : Installation :=
  { i with listening := true, session := { i.session with allowedOrigins := origins } }

/-- Adds the bootstrap scripts of a plan behind those that are there. -/
def injectBootstraps (i : Installation) (plan : Plan) : Installation :=
  { i with bootstrapScripts := i.bootstrapScripts ++ bootstrapsOf i.home plan }

/-- Adds user scripts behind those that are there. -/
def injectUserScripts (i : Installation) (scripts : List Loaded) : Installation :=
  { i with userScripts := i.userScripts ++ userScriptsOf i.home scripts }

/-- Opens the session of a plan. -/
def openSession (i : Installation) (plan : Plan) : Installation :=
  { i with session :=
    { i.session with nspace := plan.nspace, invokeKey := plan.invokeKey, installed := true } }

/-- The installation after a plan is put in the place of what is installed. -/
def apply (i : Installation) (plan : Plan) : Installation :=
  let ready := i.uninstall.listen plan.allowedOrigins
  let injected := (ready.injectBootstraps plan).injectUserScripts plan.userScripts
  injected.openSession plan

/-- The calls that empty the engine. -/
def uninstallCalls (i : Installation) : List Call :=
  (if i.listening then [.removeHandler handlerName i.home] else []) ++
    (if i.scripts.isEmpty then [] else [.removeAllScripts])

/-- The calls that register a message handler, in the place of an older one. -/
def listenCalls (home : World) (name : String) : List Call :=
  [.removeHandler name home, .addHandler name home]

/-- The calls that put a plan in the place of what is installed.  The handler comes first, so that no
script can run without it. -/
def applyCalls (i : Installation) (plan : Plan) : List Call :=
  i.uninstallCalls ++ listenCalls i.home handlerName ++
    (bootstrapsOf i.home plan).map .addScript ++
    (userScriptsOf i.home plan.userScripts).map .addScript

/-- The installation after a request: its plan is applied, and nothing is left if it fails. -/
def install (i : Installation) (loader : Loader) (request : Request) : Installation :=
  match Plan.resolve loader request with
  | .ok plan => i.uninstall.apply plan
  | .error _ => i.uninstall

/-- The calls of a request.  The engine is emptied before the request is looked at. -/
def installCalls (i : Installation) (loader : Loader) (request : Request) : List Call :=
  i.uninstallCalls ++
    match Plan.resolve loader request with
    | .ok plan => i.uninstall.applyCalls plan
    | .error _ => []

/-! ## Traffic -/

/-- The calls that deliver a JSON text to the page. -/
def postCalls (i : Installation) (json : String) : List Call :=
  if i.session.installed then
    [.evaluate
      (i.home.delivery (Text.Literal.escapeText json) i.session.nspace i.session.invokeKey)
      i.home none]
  else []

/-- Takes a posting through the first check, if there is a bridge to receive it. -/
def receive? (i : Installation) (posting : Posting) : Option (Except Rejection Message) :=
  if i.listening then some (posting.receive i.session.allowedOrigins) else none

/-- The message that a posting brings to the application, if there is a bridge and the posting
passes both checks. -/
def accept? (i : Installation) (posting : Posting) : Option Message :=
  if i.listening then (posting.accept i.session).toOption else none

/-! ## Replacing user scripts -/

/-- The installation with other user scripts, if there is one. -/
def replaceScripts (i : Installation) (scripts : List Loaded) : Installation :=
  if i.session.installed then injectUserScripts { i with userScripts := [] } scripts else i

/-- The calls that replace the user scripts.  All scripts are dropped, so the bootstrap scripts are
added again. -/
def replaceCalls (i : Installation) (scripts : List Loaded) : List Call :=
  if i.session.installed then
    .removeAllScripts ::
      (i.bootstrapScripts.map .addScript ++ (userScriptsOf i.home scripts).map .addScript)
  else []

/-! ## Actions -/

/-- What can be done with an installation. -/
inductive Action where
  | install (loader : Loader) (request : Request)
  | apply (plan : Plan)
  | uninstall
  | post (json : String)
  | evaluate (script : String) (completion : Option Completion)
  | updateOrigins (origins : List String)
  | replaceScripts (scripts : List Loaded)

/-- Loads scripts and puts those that could be loaded in the place of the user scripts. -/
def Action.setScripts (loader : Loader) (descriptors : List Script.Descriptor) : Action :=
  .replaceScripts (Script.loadAll loader descriptors)

/-- Takes out all user scripts. -/
def Action.removeScripts : Action := .replaceScripts []

/-- The installation after an action. -/
def after (i : Installation) : Action → Installation
  | .install loader request => i.install loader request
  | .apply plan => i.apply plan
  | .uninstall => i.uninstall
  | .post _ => i
  | .evaluate _ _ => i
  | .updateOrigins origins => { i with session := { i.session with allowedOrigins := origins } }
  | .replaceScripts scripts => i.replaceScripts scripts

/-- The calls of an action. -/
def calls (i : Installation) : Action → List Call
  | .install loader request => i.installCalls loader request
  | .apply plan => i.applyCalls plan
  | .uninstall => i.uninstallCalls
  | .post json => i.postCalls json
  | .evaluate script completion => [.evaluate script (i.home.target true) completion]
  | .updateOrigins _ => []
  | .replaceScripts scripts => i.replaceCalls scripts

/-- The installation after actions, and their calls in order. -/
def run (i : Installation) : List Action → Installation × List Call
  | [] => (i, [])
  | action :: actions =>
    let (last, calls) := (i.after action).run actions
    (last, i.calls action ++ calls)

/-! ## Laws -/

@[simp]
theorem run_nil (i : Installation) : i.run [] = (i, []) := rfl

/-- A run acts on what the first action leaves, and its calls come in the same order. -/
@[simp]
theorem run_cons (i : Installation) (action : Action) (actions : List Action) :
    i.run (action :: actions) =
      (((i.after action).run actions).1, i.calls action ++ ((i.after action).run actions).2) := rfl

@[simp]
theorem home_vacant (home : World) : (vacant home).home = home := rfl

@[simp]
theorem home_ofPlan (home : World) (plan : Plan) : (ofPlan home plan).home = home := rfl

/-- Whatever is installed, taking it out leaves what a new bridge has. -/
theorem uninstall_eq (i : Installation) : i.uninstall = vacant i.home := by
  by_cases h : i.scripts.isEmpty = true
  · -- with no scripts of either kind there is nothing to forget
    obtain ⟨hb, hu⟩ := List.append_eq_nil_iff.mp (List.isEmpty_iff.mp h)
    have hdrop : dropScripts { i with listening := false } = { i with listening := false } :=
      if_pos h
    rw [uninstall, hdrop, hb, hu, vacant]
  · have hdrop : dropScripts { i with listening := false } =
        ⟨i.home, i.session, false, [], []⟩ := if_neg h
    rw [uninstall, hdrop, vacant]

/-- Whatever is installed, a plan leaves what it leaves for a new bridge. -/
theorem apply_eq (i : Installation) (plan : Plan) : i.apply plan = ofPlan i.home plan := by
  rw [apply, uninstall_eq]
  rfl

/-- A request leaves what its plan leaves, or what a new bridge has. -/
theorem install_eq (i : Installation) (loader : Loader) (request : Request) :
    i.install loader request =
      match Plan.resolve loader request with
      | .ok plan => ofPlan i.home plan
      | .error _ => vacant i.home := by
  rw [install, uninstall_eq]
  split
  · exact apply_eq (vacant i.home) _
  · rfl

/-- A plan that follows a teardown finds nothing to take out. -/
theorem installCalls_eq (i : Installation) (loader : Loader) (request : Request) :
    i.installCalls loader request =
      i.uninstallCalls ++
        match Plan.resolve loader request with
        | .ok plan => (vacant i.home).applyCalls plan
        | .error _ => [] := by
  rw [installCalls, uninstall_eq]

/-- After the handler, a plan adds the scripts that the installation holds then, in their order. -/
theorem applyCalls_eq (i : Installation) (plan : Plan) :
    i.applyCalls plan =
      i.uninstallCalls ++ listenCalls i.home handlerName ++
        (i.apply plan).scripts.map .addScript := by
  rw [applyCalls, apply_eq, scripts, List.map_append, List.append_assoc]
  rfl

/-- A replacement adds the scripts that the installation holds after it, in their order. -/
theorem replaceCalls_eq (i : Installation) (scripts : List Loaded) :
    i.replaceCalls scripts =
      if i.session.installed then
        .removeAllScripts :: (i.replaceScripts scripts).scripts.map .addScript
      else [] := by
  by_cases h : i.session.installed = true
  -- the record is updated after the calls, from the same two lists of scripts
  · rw [replaceCalls, replaceScripts, if_pos h, if_pos h, if_pos h, ← List.map_append]
    rfl
  · rw [replaceCalls, if_neg h, if_neg h]

/-- A request leaves the home world as it is, also when it fails. -/
theorem home_install (i : Installation) (loader : Loader) (request : Request) :
    (i.install loader request).home = i.home := by
  rw [install_eq]
  split <;> rfl

/-- A replacement does not move the bridge into another world. -/
theorem home_replaceScripts (i : Installation) (scripts : List Loaded) :
    (i.replaceScripts scripts).home = i.home := by
  unfold replaceScripts
  split <;> rfl

/-- The home world is fixed for the life of a bridge. -/
theorem home_after (i : Installation) (action : Action) : (i.after action).home = i.home := by
  cases action with
  | install loader request => exact home_install i loader request
  | apply plan => rw [after, apply_eq, home_ofPlan]
  | uninstall => rw [after, uninstall_eq, home_vacant]
  | replaceScripts scripts => exact home_replaceScripts i scripts
  | _ => rfl

end Installation

end PageBridge
