import PageBridge.Proofs.Installation.Refusal
import PageBridge.Proofs.Installation.Supersession

/-!
# Replacing user scripts

An engine can drop its scripts only all at once, so a replacement takes out everything and adds the
bootstrap scripts again, from the record that the installation keeps of them.  `replaceScripts_eq` says
all that a replacement does to the record.  Of two replacements only the later one counts, and one that
follows a request is that request with other user scripts.  Both are about the installation alone;
`InStep.leaves_eq` carries them over to the engine, which is in step with it before and after.
-/

namespace PageBridge.Installation

open PageBridge.Script (Descriptor Loaded Loader)

/-! ## Replacements of one installation -/

/-- A replacement changes the user scripts of an installation, and nothing if there is none. -/
theorem replaceScripts_eq (i : Installation) (scripts : List Loaded) :
    i.replaceScripts scripts =
      { i with userScripts :=
        if i.session.installed then userScriptsOf i.home scripts else i.userScripts } := by
  rw [replaceScripts]
  split <;> rfl

/-- Of two replacements only the later one counts. -/
theorem replaceScripts_replaceScripts (i : Installation) (scripts scripts' : List Loaded) :
    (i.replaceScripts scripts).replaceScripts scripts' = i.replaceScripts scripts' := by
  rw [replaceScripts_eq i, replaceScripts_eq i, replaceScripts_eq]
  split <;> rfl

/-- Of any sequence of replacements only the last one counts. -/
theorem run_replacements (i : Installation) (replaced : List (List Loaded)) (last : List Loaded) :
    (i.run (replaced.map .replaceScripts ++ [.replaceScripts last])).1 = i.replaceScripts last := by
  induction replaced generalizing i with
  | nil => rfl
  | cons scripts replaced ih =>
      rw [List.map_cons, List.cons_append, run_cons, ih]
      exact replaceScripts_replaceScripts i scripts last

/-- To replace the user scripts by none leaves the bootstrap scripts, as there are user scripts only
with a bridge installed. -/
theorem scripts_replaceScripts_nil {i : Installation}
    (h : i.session.installed = false → i.userScripts = []) :
    (i.replaceScripts []).scripts = i.bootstrapScripts := by
  rw [replaceScripts_eq, scripts]
  cases hi : i.session.installed with
  | false => exact (congrArg (i.bootstrapScripts ++ ·) (h hi)).trans (List.append_nil _)
  | true => exact List.append_nil _

/-- With no bridge installed a replacement changes nothing and makes no call. -/
theorem replaceScripts_of_not_installed {i : Installation} (h : i.session.installed = false)
    (scripts : List Loaded) : i.replaceScripts scripts = i ∧ i.replaceCalls scripts = [] := by
  rw [replaceScripts, replaceCalls, h, if_neg Bool.false_ne_true, if_neg Bool.false_ne_true]
  exact ⟨rfl, rfl⟩

/-- A plan whose user scripts are replaced is the plan with other user scripts. -/
theorem replaceScripts_ofPlan (home : World) (plan : Plan) (scripts : List Loaded) :
    (ofPlan home plan).replaceScripts scripts = ofPlan home (plan.withScripts scripts) := rfl

/-- A request whose user scripts are replaced is the request with other user scripts, even if it
fails. -/
theorem replaceScripts_install (i : Installation) (loader : Loader) (request : Request)
    (scripts : List Descriptor) :
    (i.install loader request).replaceScripts (Script.loadAll loader scripts) =
      i.install loader { request with userScripts := scripts } := by
  rw [install_eq, install_eq, Plan.resolve_withScripts loader request scripts]
  cases Plan.resolve loader request with
  | ok plan => exact replaceScripts_ofPlan i.home plan _
  | error e => rfl

/-! ## What lives in the engine -/

/-- What actions leave, in the installation and alive in its engine. -/
def leaves (i : Installation) (engine : Engine) (actions : List Action) :
    Installation × List (String × World) × List UserScript :=
  ((i.run actions).1, (engine.replay (i.run actions).2).live)

section Engine

variable {i : Installation} {engine : Engine} {actions actions' : List Action}

/-- Runs that leave the same installation leave the same alive in the engine. -/
theorem InStep.leaves_eq (h : InStep i engine) (hsame : (i.run actions).1 = (i.run actions').1) :
    i.leaves engine actions = i.leaves engine actions' := by
  have hrun := h.run actions
  rw [hsame] at hrun
  exact Prod.ext hsame (hrun.live_eq (h.run actions'))

/-- A replacement leaves the handlers as they are. -/
theorem InStep.handlers_replaceScripts (h : InStep i engine) (scripts : List Loaded) :
    (engine.replay (i.replaceCalls scripts)).handlers = engine.handlers := by
  rw [(h.replaceScripts scripts).handlers_eq, h.handlers_eq, home_replaceScripts, replaceScripts_eq]

end Engine

/-- Replacing user scripts commutes with installing.  After any history, a request or a plan that is
followed by replacements leaves the same installation, and the same handlers and scripts in the engine,
as with the last scripts from the beginning; and of replacements alone only the last one counts.  To
take out all user scripts is to replace them by none, which leaves the bootstrap scripts.  None of this
changes the session, the listening or the handlers, and with no bridge installed it changes nothing and
makes no call. -/
theorem replacing_commutes_with_installing (home : World) (pending : List Completion)
    (history : List Action) :
    let s := ((vacant home).run history).1
    let engine := Engine.replay ⟨[], [], pending⟩ ((vacant home).run history).2
    (∀ loader request (replaced : List (List Loaded)) scripts,
        s.leaves engine (.install loader request ::
            (replaced.map .replaceScripts ++ [.setScripts loader scripts])) =
          s.leaves engine [.install loader { request with userScripts := scripts }]) ∧
      (∀ (plan : Plan) (replaced : List (List Loaded)) scripts,
        s.leaves engine (.apply plan :: (replaced.map .replaceScripts ++ [.replaceScripts scripts])) =
          s.leaves engine [.apply (plan.withScripts scripts)]) ∧
      (∀ (replaced : List (List Loaded)) last,
        s.leaves engine (replaced.map .replaceScripts ++ [.replaceScripts last]) =
          s.leaves engine [.replaceScripts last]) ∧
      (s.leaves engine [.removeScripts] = s.leaves engine [.replaceScripts []] ∧
        (engine.replay (s.calls .removeScripts)).scripts = s.bootstrapScripts) ∧
      ∀ loader descriptors scripts,
        ∀ replacement ∈ [Action.setScripts loader descriptors, .replaceScripts scripts,
          .removeScripts],
          (s.after replacement).session = s.session ∧
            (s.after replacement).listening = s.listening ∧
            (engine.replay (s.calls replacement)).handlers = engine.handlers ∧
            (s.session.installed = false → s.after replacement = s ∧ s.calls replacement = []) := by
  intro s engine
  have hstep : InStep s engine := (inStep_vacant home pending).run history
  refine ⟨fun loader request replaced scripts => hstep.leaves_eq ?_,
    fun plan replaced scripts => hstep.leaves_eq ?_,
    fun replaced last => hstep.leaves_eq ?_, ⟨rfl, ?_⟩, fun loader descriptors scripts => ?_⟩
  · rw [run_cons, Action.setScripts, run_replacements]
    exact replaceScripts_install s loader request scripts
  · rw [run_cons, run_replacements, run_cons, after, after, apply_eq, apply_eq]
    exact replaceScripts_ofPlan s.home plan scripts
  · exact run_replacements s replaced last
  · obtain ⟨-, -, -, hnone, -⟩ := run_in_step home pending history
    rw [(hstep.after .removeScripts).scripts_eq]
    exact scripts_replaceScripts_nil fun hnot => (hnone hnot).2.1
  · intro replacement hmem
    -- all three ways to replace are one
    obtain ⟨loaded, rfl⟩ : ∃ loaded, replacement = .replaceScripts loaded := by
      rcases List.mem_cons.mp hmem with rfl | hmem
      · exact ⟨_, rfl⟩
      rcases List.mem_cons.mp hmem with rfl | hmem
      · exact ⟨scripts, rfl⟩
      exact ⟨[], List.mem_singleton.mp hmem⟩
    refine ⟨?_, ?_, hstep.handlers_replaceScripts loaded,
      fun hnot => replaceScripts_of_not_installed hnot loaded⟩
    · rw [after, replaceScripts_eq]
    · rw [after, replaceScripts_eq]

end PageBridge.Installation
