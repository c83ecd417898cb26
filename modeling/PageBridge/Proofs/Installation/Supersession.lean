import PageBridge.Proofs.Installation.Lockstep

/-!
# New installations and the past

An installation that is made over another one takes nothing over from it.  Whatever was installed,
failed, replaced or updated before, a request, a plan or an uninstallation leaves what it leaves on a
new engine, in the installation and in the engine, and so does everything that follows.
`decision_supersedes_history` compares the two runs; that their engines hold the same comes from
`InStep`, as each engine holds what its own installation does.
-/

namespace PageBridge

/-- What a page can meet in an engine: the handlers and the scripts, but not the evaluations that
are on their way. -/
def Engine.live (engine : Engine) : List (String × World) × List UserScript :=
  (engine.handlers, engine.scripts)

namespace Installation

open PageBridge.Script (Loader)

/-- Engines that are in step with one installation hold the same. -/
theorem InStep.live_eq {i : Installation} {engine engine' : Engine} (h : InStep i engine)
    (h' : InStep i engine') : engine.live = engine'.live := by
  rw [Engine.live, Engine.live, h.handlers_eq, h.scripts_eq, h'.handlers_eq, h'.scripts_eq]

/-- A decision looks at nothing of what is installed but the home world. -/
theorem after_of_decides (i : Installation) {decision : Action} (h : decision.decides = true) :
    i.after decision = (vacant i.home).after decision := by
  cases decision with
  | install loader request => rw [after, after, install_eq, install_eq, home_vacant]
  | apply plan => rw [after, after, apply_eq, apply_eq, home_vacant]
  | uninstall => rw [after, after, uninstall_eq, uninstall_eq, home_vacant]
  | post | evaluate | updateOrigins | replaceScripts => cases h

section Decision

variable {i : Installation} {engine anew : Engine} {decision : Action}

/-- A run that starts with a decision leaves the installation that it leaves on nothing. -/
theorem run_of_decides (i : Installation) (h : decision.decides = true) (later : List Action) :
    (i.run (decision :: later)).1 = ((vacant i.home).run (decision :: later)).1 := by
  rw [run_cons, run_cons, after_of_decides i h]

/-- A run that starts with a decision leaves the handlers and scripts that it leaves in an engine in
which nothing lives. -/
theorem InStep.live_run_of_decides (h : InStep i engine) (h' : InStep (vacant i.home) anew)
    (hd : decision.decides = true) (later : List Action) :
    (engine.replay (i.run (decision :: later)).2).live =
      (anew.replay ((vacant i.home).run (decision :: later)).2).live := by
  have hrun := h.run (decision :: later)
  rw [run_of_decides i hd later] at hrun
  -- both engines are in step with the one installation that both runs leave
  exact hrun.live_eq (h'.run (decision :: later))

end Decision

/-- After any history, a request, a plan and an uninstallation each leave the installation and the
live handlers and scripts that they leave when nothing was ever done before, and an uninstallation
leaves nothing.  Nor does the past come back later: every run that goes on from there has the same
calls, the same installation and the same handlers and scripts. -/
theorem decision_supersedes_history (home : World) (pending : List Completion)
    (history later : List Action) :
    let s := ((vacant home).run history).1
    let engine := Engine.replay ⟨[], [], pending⟩ ((vacant home).run history).2
    (∀ loader request,
        s.after (.install loader request) = (vacant home).after (.install loader request) ∧
          (engine.replay (s.calls (.install loader request))).live =
            (Engine.empty.replay ((vacant home).calls (.install loader request))).live) ∧
      (∀ plan,
        s.after (.apply plan) = (vacant home).after (.apply plan) ∧
          (engine.replay (s.calls (.apply plan))).live =
            (Engine.empty.replay ((vacant home).calls (.apply plan))).live) ∧
      (s.after .uninstall = vacant home ∧ (engine.replay (s.calls .uninstall)).live = ([], [])) ∧
      ∀ decision, decision.decides = true →
        (s.after decision).run later = ((vacant home).after decision).run later ∧
          (engine.replay (s.run (decision :: later)).2).live =
            (Engine.empty.replay ((vacant home).run (decision :: later)).2).live := by
  intro s engine
  have hhome : s.home = home := home_run (vacant home) history
  have hstep : InStep s engine := (inStep_vacant home pending).run history
  have hnew : InStep (vacant s.home) Engine.empty := inStep_vacant s.home []
  have hafter : ∀ decision, decision.decides = true →
      s.after decision = (vacant home).after decision := by
    intro decision hd
    rw [after_of_decides s hd, hhome]
  -- the calls of one decision are those of a run that ends with it
  have hlive : ∀ decision, decision.decides = true →
      (engine.replay (s.calls decision)).live =
        (Engine.empty.replay ((vacant home).calls decision)).live := by
    intro decision hd
    have hrun := hstep.live_run_of_decides hnew hd []
    rw [run_cons, run_cons, run_nil, run_nil, List.append_nil, List.append_nil, hhome] at hrun
    exact hrun
  refine ⟨fun loader request => ⟨hafter _ rfl, hlive _ rfl⟩,
    fun plan => ⟨hafter _ rfl, hlive _ rfl⟩, ⟨?_, hlive .uninstall rfl⟩,
    fun decision hd => ⟨?_, ?_⟩⟩
  · rw [hafter .uninstall rfl, after, uninstall_eq, home_vacant]
  · rw [hafter decision hd]
  · rw [hstep.live_run_of_decides hnew hd, hhome]

end Installation

end PageBridge
