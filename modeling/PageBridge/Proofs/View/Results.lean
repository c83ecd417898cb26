import PageBridge.Proofs.Installation.Calls
import PageBridge.Proofs.View.Ledger
import PageBridge.Proofs.View.Run

/-!
# Results of evaluations

The outcome of an evaluation goes a long way: it may end when its bridge was installed anew or is
gone, and wait in a queue that is full.  `Tracks` says that a ledger knows the way of every
evaluation of a view, and `Tracks.step` that it goes on to, whatever happens.  A queue takes every
outcome, whatever its capacity (`EventQueue.toList_push_evaluated`), so the outcomes that are told
are those of the ledger, each once and in the order in which the completions were run
(`results_once_in_order`).
-/

namespace PageBridge

/-- The evaluation whose outcome an event brings. -/
def EngineEvent.evaluation? : EngineEvent → Option (Completion × Outcome)
  | evaluated completion outcome => some (completion, outcome)
  | _ => none

namespace Effect

/-- Whether an effect tells the outcome of an evaluation. -/
def tells : Effect → Bool
  | result _ _ | completed _ _ => true
  | _ => false

/-- The result and the error that an effect tells the owner. -/
def result? : Effect → Option (String × String)
  | result text error => some (text, error)
  | _ => none

theorem tells_run (completion : Completion) (outcome : Outcome) :
    (completion.run outcome).tells = true := by
  cases completion with
  | report => cases outcome <;> rfl
  | caller label => rfl

theorem filter_tells_map_call (calls : List Call) : (calls.map Effect.call).filter tells = [] := by
  rw [List.filter_map]
  simp [Function.comp_def, tells]

/-- Whatever has a result tells an outcome. -/
theorem filterMap_result?_filter_tells (effects : List Effect) :
    (effects.filter tells).filterMap result? = effects.filterMap result? := by
  have hview : (fun effect : Effect => if effect.tells then effect.result? else none) = result? := by
    funext effect
    cases effect <;> rfl
  rw [List.filterMap_filter, hview]

end Effect

/-- What the owner reads off the effect of an evaluation that ended is what the owner is told of
it. -/
theorem Ended.result?_effect (ended : Ended) : ended.effect.result? = ended.result? := by
  rcases ended with ⟨⟨number, - | label⟩, outcome⟩
  · cases outcome <;> rfl
  · rfl

/-- A queue takes every outcome, however much it holds. -/
theorem EventQueue.toList_push_evaluated {κ : Type} (q : EventQueue κ) (key : κ)
    (completion : Completion) (outcome : Outcome) :
    (q.push key (.evaluated completion outcome)).toList =
      q.toList ++ [(key, .evaluated completion outcome)] := by
  rw [toList_push, accepts, EngineEvent.isDroppable, Bool.not_false, Bool.or_true, if_pos rfl]

/-! ## The evaluations that are pending in an engine -/

/-- The completion that a call leaves with the engine. -/
def Call.completion? : Call → Option Completion
  | evaluate _ _ completion => completion
  | addHandler .. | removeHandler .. | addScript _ | removeAllScripts => none

/-- An engine keeps the completions that calls leave with it, in their order, after those it had. -/
theorem Engine.pending_replay (engine : Engine) (calls : List Call) :
    (engine.replay calls).pending = engine.pending ++ calls.filterMap Call.completion? := by
  induction calls generalizing engine with
  | nil => rw [replay_nil, List.filterMap_nil, List.append_nil]
  | cons call calls ih =>
      have hcall : (engine.perform call).pending = engine.pending ++ call.completion?.toList := by
        cases call with
        | evaluate source world completion => rfl
        | addHandler | removeHandler | addScript | removeAllScripts =>
            exact (List.append_nil _).symm
      rw [replay_cons, ih, hcall, List.append_assoc, ← filterMap_cons_eq_append]

namespace Installation

/-- The completion of the evaluation that an action asks for. -/
def Action.completion? : Action → Option Completion
  | evaluate _ completion => completion
  | _ => none

/-- An action leaves the completion with the engine that it was given, and no other. -/
theorem filterMap_completion?_calls (i : Installation) (action : Action) :
    (i.calls action).filterMap Call.completion? = action.completion?.toList := by
  rw [filterMap_calls_eq_traffic (fun _ => rfl) (fun _ _ => rfl) (fun _ _ => rfl) rfl]
  cases action with
  | post json =>
      rw [trafficCalls, postCalls]
      split <;> rfl
  | evaluate script completion => cases completion <;> rfl
  | install | apply | uninstall | updateOrigins | replaceScripts => rfl

end Installation

/-! ## The outcomes that a bridge tells -/

namespace Bridge

theorem filter_tells_messageEffects (b : Bridge) (message : Message) :
    (b.messageEffects message).filter Effect.tells = [] := by
  rw [messageEffects]
  split <;> rfl

/-- Handling an event tells the outcome that it brings. -/
theorem filter_tells_eventEffects (b : Bridge) (event : EngineEvent) :
    (b.eventEffects event).filter Effect.tells =
      event.evaluation?.toList.map fun ended => ended.1.run ended.2 := by
  cases event with
  | posted posting =>
      rw [eventEffects]
      split
      · exact filter_tells_messageEffects b _
      · rfl
  | navigated step =>
      rw [eventEffects, List.filter_map]
      simp [Function.comp_def, Effect.tells, EngineEvent.evaluation?]
  | evaluated completion outcome =>
      rw [eventEffects, List.filter_cons_of_pos (Effect.tells_run completion outcome)]
      rfl

/-- Events in a row tell the outcomes that they bring, in their order. -/
theorem filter_tells_run_handle (b : Bridge) (events : List EngineEvent) :
    (b.run (events.map .handle)).2.filter Effect.tells =
      (events.filterMap EngineEvent.evaluation?).map fun ended => ended.1.run ended.2 := by
  induction events generalizing b with
  | nil => rfl
  | cons event events ih =>
      have hevent : (b.effects (.handle event)).filter Effect.tells =
          event.evaluation?.toList.map fun ended => ended.1.run ended.2 :=
        filter_tells_eventEffects b event
      rw [List.map_cons, run_cons, List.filter_append, hevent, ih, filterMap_cons_eq_append,
        List.map_append]

theorem filterMap_call?_run_handle (b : Bridge) (events : List EngineEvent) :
    (b.run (events.map .handle)).2.filterMap Effect.call? = [] := by
  rw [calls_run, List.filterMap_map]
  have hnone : events.filterMap (Action.managed? ∘ .handle) = [] :=
    List.filterMap_eq_nil_iff.mpr fun _ _ => rfl
  rw [hnone]
  rfl

end Bridge

namespace View

theorem isSome_handleAll (bridge : Option Bridge) (events : List EngineEvent) :
    (handleAll bridge events).1.isSome = bridge.isSome := by
  cases bridge <;> rfl

/-- Handling events makes no call into the engine, whether there is a bridge or not. -/
theorem filterMap_call?_handleAll (bridge : Option Bridge) (events : List EngineEvent) :
    (handleAll bridge events).2.filterMap Effect.call? = [] := by
  cases bridge with
  | some b => exact b.filterMap_call?_run_handle events
  | none =>
      rw [handleAll, List.filterMap_filterMap]
      refine List.filterMap_eq_nil_iff.mpr fun event _ => ?_
      cases event with
      | evaluated completion outcome => exact Effect.call?_run completion outcome
      | posted | navigated => rfl

/-- Handling events tells the outcomes that they bring, whether there is a bridge or not. -/
theorem filter_tells_handleAll (bridge : Option Bridge) (events : List EngineEvent) :
    (handleAll bridge events).2.filter Effect.tells =
      (events.filterMap EngineEvent.evaluation?).map fun ended => ended.1.run ended.2 := by
  cases bridge with
  | some b => exact b.filter_tells_run_handle events
  | none =>
      have horphan : EngineEvent.orphanEffect? =
          fun event => event.evaluation?.map fun ended => ended.1.run ended.2 := by
        funext event
        cases event <;> rfl
      rw [handleAll, horphan, ← List.map_filterMap, List.filter_eq_self]
      intro effect heffect
      obtain ⟨ended, -, rfl⟩ := List.mem_map.mp heffect
      exact Effect.tells_run ended.1 ended.2

end View

/-! ## A view and its ledger -/

namespace Ledger

/-- A ledger knows the way of every evaluation of a view that has had some effects. -/
structure Tracks (l : Ledger) (v : View) (effects : List Effect) : Prop where
  live_eq : v.bridge.isSome = l.live
  pending_eq : v.engine.pending = l.pending.map (·.completion)
  waiting_eq : v.queue.toList.filterMap (·.2.evaluation?) =
    l.waiting.map fun ended => (ended.completion, ended.outcome)
  told_eq : effects.filter Effect.tells = l.told.map Ended.effect

namespace Tracks

variable {l : Ledger} {v : View} {effects : List Effect}

/-- An empty ledger knows the way of the evaluations of a new view: there are none. -/
theorem fresh (home : World) (capacity : Nat) : Tracks empty (.fresh home capacity) [] :=
  ⟨rfl, rfl, rfl, rfl⟩

/-- The outcome of an evaluation waits as an event in the queue. -/
theorem enqueue (h : Tracks l v effects) (ended : Ended) :
    Tracks (l.settle true ended) (v.enqueue (.evaluated ended.completion ended.outcome)) effects := by
  refine ⟨h.live_eq, h.pending_eq, ?_, h.told_eq⟩
  rw [View.enqueue, EventQueue.toList_push_evaluated, List.filterMap_append, h.waiting_eq, settle,
    if_pos rfl, List.map_append]
  rfl

/-- The outcome of an evaluation is told at once. -/
theorem tell (h : Tracks l v effects) (ended : Ended) :
    Tracks (l.settle false ended) v (effects ++ [ended.effect]) := by
  refine ⟨h.live_eq, h.pending_eq, h.waiting_eq, ?_⟩
  have heffect : [ended.effect].filter Effect.tells = [ended.effect] :=
    List.filter_cons_of_pos (Effect.tells_run _ _)
  rw [List.filter_append, h.told_eq, heffect, settle, if_neg Bool.false_ne_true, List.map_append]
  rfl

/-- A view settles with a ledger that has what its effects leave pending and what they tell. -/
theorem settle (h : Tracks l v effects) {l' : Ledger} {bridge : Option Bridge} {more : List Effect}
    (hlive : bridge.isSome = l'.live)
    (hpending : l'.pending.map (·.completion) =
      l.pending.map (·.completion) ++ (more.filterMap Effect.call?).filterMap Call.completion?)
    (hwaiting : l'.waiting = l.waiting)
    (htold : l'.told.map Ended.effect = l.told.map Ended.effect ++ more.filter Effect.tells) :
    Tracks l' (v.settle bridge more).1 (effects ++ more) := by
  refine ⟨hlive, ?_, ?_, ?_⟩
  · rw [View.settle, Engine.pending_replay, h.pending_eq, hpending]
  · rw [hwaiting]
    exact h.waiting_eq
  · rw [List.filter_append, h.told_eq, htold]

/-- A view settles after calls with a ledger in which is pending what they ask for. -/
theorem settle_calls (h : Tracks l v effects) {l' : Ledger} {bridge : Option Bridge}
    {calls : List Call} (asked : Option Completion) (hlive : bridge.isSome = l'.live)
    (hcalls : calls.filterMap Call.completion? = asked.toList)
    (hpending : l'.pending = (asked.elim l l.ask).pending) (hwaiting : l'.waiting = l.waiting)
    (htold : l'.told = l.told) :
    Tracks l' (v.settle bridge (calls.map .call)).1 (effects ++ calls.map .call) := by
  refine h.settle hlive ?_ hwaiting ?_
  · rw [Effect.filterMap_call?_map_call, hcalls, hpending]
    cases asked with
    | none => exact (List.append_nil _).symm
    | some completion => exact List.map_append
  · rw [Effect.filter_tells_map_call, htold, List.append_nil]

/-- The oldest pending evaluation of the ledger is the one that the engine finishes. -/
theorem finish? (h : Tracks l v effects) {evaluation : Evaluation} {pending : List Evaluation}
    (hp : l.pending = evaluation :: pending) :
    ∃ engine, v.engine.finish? = some (evaluation.completion, engine) ∧
      Tracks { l with pending } { v with engine } effects := by
  have hpending := h.pending_eq
  rw [hp, List.map_cons] at hpending
  refine ⟨{ v.engine with pending := pending.map (·.completion) }, ?_, h.live_eq, rfl,
    h.waiting_eq, h.told_eq⟩
  simp only [Engine.finish?, hpending]

/-- Where nothing is pending the engine finishes nothing. -/
theorem finish?_eq_none (h : Tracks l v effects) (hp : l.pending = []) :
    v.engine.finish? = none := by
  have hpending := h.pending_eq
  rw [hp, List.map_nil] at hpending
  simp only [Engine.finish?, hpending]

/-! ### Steps -/

/-- A bridge that handles an event tells the outcome that it brings, and leaves nothing pending. -/
theorem handle (h : Tracks l v effects) (b : Bridge) {bridge : Option Bridge}
    (hlive : bridge.isSome = l.live) (event : EngineEvent) :
    Tracks (l.act (.handle event)) (v.settle bridge (b.eventEffects event)).1
      (effects ++ b.eventEffects event) := by
  have hpending : (l.act (.handle event)).pending = l.pending := by cases event <;> rfl
  have hwaiting : (l.act (.handle event)).waiting = l.waiting := by cases event <;> rfl
  have htold : (l.act (.handle event)).told.map Ended.effect =
      l.told.map Ended.effect ++ event.evaluation?.toList.map fun ended => ended.1.run ended.2 := by
    cases event with
    | evaluated completion outcome => exact List.map_append
    | posted | navigated => exact (List.append_nil _).symm
  refine h.settle (hlive.trans (live_act l _).symm) ?_ hwaiting ?_
  · rw [hpending, b.calls_eventEffects, List.filterMap_nil, List.append_nil]
  · rw [htold, b.filter_tells_eventEffects]

/-- An action on the installation leaves the evaluation pending that it asks for, and tells
nothing. -/
theorem manage (h : Tracks l v effects) (b : Bridge) {bridge : Option Bridge}
    (hlive : bridge.isSome = l.live) (action : Installation.Action) :
    Tracks (l.act (.manage action)) (v.settle bridge (b.effects (.manage action))).1
      (effects ++ b.effects (.manage action)) := by
  have hact : l.act (.manage action) = action.completion?.elim l l.ask := by
    cases action with
    | evaluate script completion => cases completion <;> rfl
    | install | apply | uninstall | post | updateOrigins | replaceScripts => rfl
  refine h.settle_calls action.completion? (hlive.trans (live_act l _).symm)
    (b.installation.filterMap_completion?_calls action) (by rw [hact]) ?_ ?_
  · rw [hact]
    cases action.completion? <;> rfl
  · rw [hact]
    cases action.completion? <;> rfl

/-- An action on the bridge: a script that is run is pending, an outcome that is handled is told,
and nothing else moves an evaluation.  Without a bridge nothing happens at all. -/
theorem step_act (h : Tracks l v effects) (action : Bridge.Action) :
    Tracks (l.step (.act action)) (v.step (.act action)).1
      (effects ++ (v.step (.act action)).2) := by
  cases hb : v.bridge with
  | none =>
      -- no bridge, so the ledger is closed and ignores the action as the view does
      have hl : l.live = false := by rw [← h.live_eq, hb, Option.isSome_none]
      simp only [Ledger.step, hl, View.step, hb, List.append_nil, Bool.false_eq_true, if_false]
      exact h
  | some b =>
      have hl : l.live = true := by rw [← h.live_eq, hb, Option.isSome_some]
      have hlive : (some (b.after action)).isSome = l.live := hl.symm
      simp only [Ledger.step, hl, View.step, hb, if_true]
      cases action with
      | run script =>
          exact h.settle_calls (some .report) hlive
            (b.installation.filterMap_completion?_calls (.evaluate script (some .report))) rfl rfl rfl
      | send message =>
          exact h.settle_calls none hlive
            (b.installation.filterMap_completion?_calls (.post message.render)) rfl rfl rfl
      | setChannel =>
          have hnone : ([] : List Call).filterMap Call.completion? = (none : Option Completion).toList :=
            rfl
          exact h.settle_calls none hlive hnone rfl rfl rfl
      | manage action => exact h.manage b hlive action
      | handle event => exact h.handle b hlive event

/-- The evaluation that the engine finishes is told of at once, or it waits in the queue. -/
theorem step_finish (h : Tracks l v effects) (outcome : Outcome) :
    Tracks (l.step (.finish outcome)) (v.step (.finish outcome)).1
      (effects ++ (v.step (.finish outcome)).2) := by
  cases hp : l.pending with
  | nil =>
      simp only [Ledger.step, Ledger.finish, hp, View.step, h.finish?_eq_none hp, List.append_nil]
      exact h
  | cons evaluation pending =>
      obtain ⟨engine, hfinish, htracks⟩ := h.finish? hp
      simp only [Ledger.step, Ledger.finish, hp, View.step, hfinish]
      exact htracks.tell ⟨evaluation, outcome⟩

/-- The evaluation that the engine finishes waits in the queue, which takes it even if it is
full. -/
theorem step_deferFinish (h : Tracks l v effects) (outcome : Outcome) :
    Tracks (l.step (.deferFinish outcome)) (v.step (.deferFinish outcome)).1
      (effects ++ (v.step (.deferFinish outcome)).2) := by
  cases hp : l.pending with
  | nil =>
      simp only [Ledger.step, Ledger.finish, hp, View.step, h.finish?_eq_none hp, List.append_nil]
      exact h
  | cons evaluation pending =>
      obtain ⟨engine, hfinish, htracks⟩ := h.finish? hp
      simp only [Ledger.step, Ledger.finish, hp, View.step, hfinish, List.append_nil]
      exact htracks.enqueue ⟨evaluation, outcome⟩

/-- A queue may refuse any event but an outcome, and no other event is in the ledger. -/
theorem step_defer (h : Tracks l v effects) (event : EngineEvent) :
    Tracks (l.step (.defer event)) (v.step (.defer event)).1
      (effects ++ (v.step (.defer event)).2) := by
  simp only [View.step, List.append_nil]
  -- an event that brings no outcome may be refused or taken: the ledger does not see it
  have hother : event.evaluation? = none → Tracks l (v.enqueue event) effects := by
    intro hnone
    refine ⟨h.live_eq, h.pending_eq, ?_, h.told_eq⟩
    have hskip : [((), event)].filterMap (·.2.evaluation?) = [] := List.filterMap_cons_none hnone
    rw [View.enqueue, EventQueue.toList_push, List.filterMap_append, h.waiting_eq]
    split
    · rw [hskip, List.append_nil]
    · rw [List.filterMap_nil, List.append_nil]
  cases event with
  | evaluated completion outcome => exact h.enqueue ⟨⟨l.count, completion⟩, outcome⟩
  | posted | navigated => exact hother rfl

/-- Draining the queue tells all that waits, in its order. -/
theorem step_drain (h : Tracks l v effects) :
    Tracks (l.step .drain) (v.step .drain).1 (effects ++ (v.step .drain).2) := by
  -- draining is two things: the queue is emptied, and then all that it held is handled
  have hempty : Tracks { l with waiting := [] } { v with queue := v.queue.drained } effects :=
    ⟨h.live_eq, h.pending_eq, rfl, h.told_eq⟩
  have hstep : v.step .drain =
      View.settle { v with queue := v.queue.drained }
        (View.handleAll v.bridge (v.queue.toList.map Prod.snd)).1
        (View.handleAll v.bridge (v.queue.toList.map Prod.snd)).2 := rfl
  rw [hstep]
  refine hempty.settle ((View.isSome_handleAll _ _).trans h.live_eq) ?_ rfl ?_
  · rw [View.filterMap_call?_handleAll, List.filterMap_nil, List.append_nil]
    rfl
  · have hwaiting : (v.queue.toList.map Prod.snd).filterMap EngineEvent.evaluation? =
        l.waiting.map fun ended => (ended.completion, ended.outcome) := by
      rw [List.filterMap_map]
      exact h.waiting_eq
    rw [View.filter_tells_handleAll, hwaiting, List.map_map, Ledger.step, List.map_append]
    rfl

/-- Closing takes the bridge away, and leaves what is pending and what waits where it is. -/
theorem step_close (h : Tracks l v effects) :
    Tracks (l.step .close) (v.step .close).1 (effects ++ (v.step .close).2) := by
  cases hb : v.bridge with
  | none =>
      simp only [View.step, hb, List.append_nil]
      exact ⟨by rw [hb]; rfl, h.pending_eq, h.waiting_eq, h.told_eq⟩
  | some b =>
      have hlive : (some b).isSome = l.live := by rw [← hb, h.live_eq]
      -- a live bridge is uninstalled, which asks for no evaluation, and then forgotten
      have hclosed := h.manage b hlive .uninstall
      simp only [View.step, hb]
      exact ⟨rfl, hclosed.pending_eq, hclosed.waiting_eq, hclosed.told_eq⟩

/-- A ledger goes on to know the way of every evaluation, whatever happens to the view. -/
theorem step (h : Tracks l v effects) (action : View.Action) :
    Tracks (l.step action) (v.step action).1 (effects ++ (v.step action).2) := by
  cases action with
  | act action => exact h.step_act action
  | finish outcome => exact h.step_finish outcome
  | deferFinish outcome => exact h.step_deferFinish outcome
  | defer event => exact h.step_defer event
  | drain => exact h.step_drain
  | close => exact h.step_close

/-- A ledger knows the way of every evaluation over a whole run. -/
theorem run (h : Tracks l v effects) (actions : List View.Action) :
    Tracks (actions.foldl Ledger.step l) (v.run actions).1 (effects ++ (v.run actions).2) := by
  induction actions generalizing l v effects with
  | nil =>
      rw [View.run_nil, List.append_nil]
      exact h
  | cons action actions ih =>
      rw [View.run_cons, List.foldl_cons, ← List.append_assoc]
      exact ih (h.step action)

/-- The results that the owner is told are those that the ledger says were told, in its order. -/
theorem result_eq (h : Tracks l v effects) :
    effects.filterMap Effect.result? = l.told.filterMap Ended.result? := by
  have hresult : Effect.result? ∘ Ended.effect = Ended.result? := funext Ended.result?_effect
  rw [← Effect.filterMap_result?_filter_tells, h.told_eq, List.filterMap_map, hresult]

end Tracks

/-! ## Counting results -/

/-- The owner is told of just those outcomes that were to be reported. -/
theorem length_results (told : List Ended) :
    (told.filterMap Ended.result?).length = told.countP (·.completion = .report) := by
  rw [List.length_filterMap_eq_countP]
  refine List.countP_congr fun ended _ => ?_
  rcases ended with ⟨⟨number, - | label⟩, outcome⟩ <;> simp [Ended.result?]

/-- A report that the owner asked for was told, waits or is pending. -/
theorem reports_eq (l : Ledger) :
    l.reports = (l.told.filterMap Ended.result?).length +
      l.waiting.countP (·.completion = .report) +
      (l.pending.map (·.completion)).countP (· = .report) := by
  rw [length_results, reports, evaluations, List.countP_append, List.countP_append, List.countP_map,
    List.countP_map, List.countP_map]
  rfl

/-- Nothing is told but by finishing an evaluation at once, by draining the queue, and by handling an
outcome. -/
theorem told_step (l : Ledger) {action : View.Action} (h : action.dispatches = false) :
    (l.step action).told = l.told := by
  cases action with
  | act action =>
      cases action with
      | handle event =>
          cases event with
          | evaluated completion outcome => cases h
          | posted | navigated => simp only [step, act, ite_self]
      | manage action =>
          cases action with
          | evaluate script completion =>
              cases completion <;> simp only [step, act] <;> split <;> rfl
          | install | apply | uninstall | post | updateOrigins | replaceScripts =>
              simp only [step, act, ite_self]
      | run script =>
          simp only [step, act]
          split <;> rfl
      | setChannel | send => simp only [step, act, ite_self]
  | deferFinish outcome =>
      simp only [step, finish]
      split <;> rfl
  | defer event => cases event <;> rfl
  | close => rfl
  | finish | drain => cases h

end Ledger

namespace View

/-- The results that the owner of a view is told are those of its evaluations, each once and in the
order in which their completions are run.  Whatever happens to the view, the effects that tell
outcomes are those of the ledger, in its order; every evaluation has one place in the ledger, so none
is told twice; what is not told yet waits in the queue or is pending in the engine.  The queue takes
every outcome, and nothing has a result but finishing an evaluation, handling its outcome and
draining the queue.  When no outcome waits, as after draining, the owner was told of as many results
as scripts were run, but for those that are pending. -/
theorem results_once_in_order (home : World) (capacity : Nat) (actions : List Action) :
    let v := ((fresh home capacity).run actions).1
    let effects := ((fresh home capacity).run actions).2
    let ledger := Ledger.ofHistory actions
    effects.filter Effect.tells = ledger.told.map Ended.effect ∧
      effects.filterMap Effect.result? = ledger.told.filterMap Ended.result? ∧
      v.queue.toList.filterMap (·.2.evaluation?) =
        ledger.waiting.map (fun ended => (ended.completion, ended.outcome)) ∧
      v.engine.pending = ledger.pending.map (·.completion) ∧
      ledger.numbers.Perm (List.range ledger.count) ∧
      (ledger.told.map (·.number)).Nodup ∧
      (∀ completion outcome, (v.queue.push () (.evaluated completion outcome)).toList =
        v.queue.toList ++ [((), .evaluated completion outcome)]) ∧
      (∀ action, action.dispatches = false → (v.step action).2.filterMap Effect.result? = []) ∧
      (v.step .drain).1.queue.toList = [] ∧
      ((∀ action ∈ actions, action.genuine = true) → v.queue.toList = [] →
        (effects.filterMap Effect.result?).length + v.engine.pending.countP (· = .report) =
          runs actions) := by
  intro v effects ledger
  have htracks : ledger.Tracks v effects := (Ledger.Tracks.fresh home capacity).run actions
  refine ⟨htracks.told_eq, htracks.result_eq, htracks.waiting_eq, htracks.pending_eq,
    Ledger.numbers_ofHistory actions, Ledger.nodup_told actions, v.queue.toList_push_evaluated (), ?_,
    rfl, ?_⟩
  · intro action hnot
    -- the ledger tells nothing in such a step, so the results before and after it are the same
    have hstep := (htracks.step action).result_eq
    rw [Ledger.told_step ledger hnot, List.filterMap_append, htracks.result_eq] at hstep
    exact List.append_right_eq_self.mp hstep
  · intro hgenuine hempty
    have hwaiting : ledger.waiting = [] := by
      have hmap := htracks.waiting_eq
      rw [hempty, List.filterMap_nil] at hmap
      exact List.map_eq_nil_iff.mp hmap.symm
    have hreports := Ledger.reports_ofHistory hgenuine
    rw [Ledger.reports_eq, hwaiting, List.countP_nil, Nat.add_zero] at hreports
    rw [htracks.result_eq, htracks.pending_eq]
    exact hreports

/-- An outcome that waits is told after one that came later and was told at once, in a queue without
room and of a view that is closed. -/
example :
    ((fresh .page 0).run [.act (.run "1"), .act (.run "2"), .deferFinish (.value "one"), .close,
      .finish (.failure "two"), .drain]).2.filterMap Effect.result? = [("", "two"), ("one", "")] := by
  decide +kernel

end View

end PageBridge
