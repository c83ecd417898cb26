import PageBridge.View

/-!
# The ledger of evaluations

The outcome of an evaluation is owed to whoever asked for it, but completions look alike, so a view
does not show which evaluation an outcome belongs to.  A ledger numbers the evaluations of a view and
keeps each in one of three places: it is pending, or it ended and its outcome waits in the queue, or
its outcome was told.  Nothing else of a view is in a ledger.  `numbers_ofHistory` says that every
evaluation has one place at every moment, so that none is lost and none is told twice, and
`reports_ofHistory` finds the number of reports that are owed to the owner in the actions alone.
-/

namespace PageBridge

/-- An evaluation whose outcome is owed, by its number. -/
structure Evaluation where
  number : Nat
  completion : Completion
deriving DecidableEq, Repr

/-- An evaluation that ended. -/
structure Ended extends Evaluation where
  outcome : Outcome
deriving DecidableEq, Repr

/-- The result and the error that the owner is told, one of them empty. -/
def Outcome.texts : Outcome → String × String
  | value result => (result, "")
  | failure error => ("", error)

namespace Ended

/-- The effect of telling the outcome to whoever asked. -/
def effect (ended : Ended) : Effect := ended.completion.run ended.outcome

/-- What the owner is told, if it was the owner who asked. -/
def result? (ended : Ended) : Option (String × String) :=
  match ended.completion with
  | .report => some ended.outcome.texts
  | .caller _ => none

end Ended

/-- The completion of the evaluation that an action asks for, or brings along when it has ended. -/
def Bridge.Action.opens? : Bridge.Action → Option Completion
  | .run _ => some .report
  | .manage (.evaluate _ completion) => completion
  | .handle (.evaluated completion _) => some completion
  | _ => none

namespace View.Action

/-- The completion of the evaluation that comes up with an action, while there is a bridge or when
there is none. -/
def opens? (live : Bool) : Action → Option Completion
  | act action => if live then action.opens? else none
  | defer (.evaluated completion _) => some completion
  | _ => none

/-- Whether an action closes the view. -/
def closes : Action → Bool
  | close => true
  | _ => false

/-- Whether an action can have an outcome told: an evaluation is finished at once, or an outcome is
handled, or the queue is drained. -/
def dispatches : Action → Bool
  | finish _ | drain | act (.handle (.evaluated _ _)) => true
  | _ => false

/-- Whether an action runs a script and reports its outcome to the owner. -/
def runs : Action → Bool
  | act (.run _) => true
  | _ => false

/-- Whether an action leaves it to running scripts to ask for reports to the owner.  Whatever else is
evaluated, or has ended elsewhere, has a completion of its own. -/
def genuine (action : Action) : Bool :=
  action.runs || decide (action.opens? true ≠ some .report)

end View.Action

/-- How many scripts a history runs before the view is closed. -/
def View.runs (history : List View.Action) : Nat :=
  (history.takeWhile (!·.closes)).countP (·.runs)

/-- The evaluations of a view: which are pending, oldest first, which wait to be told, and which were
told, in this order. -/
structure Ledger where
  live : Bool
  pending : List Evaluation
  waiting : List Ended
  told : List Ended

namespace Ledger

/-- The ledger of a new view. -/
def empty : Ledger := ⟨true, [], [], []⟩

/-- The evaluations, place by place. -/
def evaluations (l : Ledger) : List Evaluation :=
  l.told.map (·.toEvaluation) ++ l.waiting.map (·.toEvaluation) ++ l.pending

/-- How many evaluations there were, which is the number of the next one. -/
def count (l : Ledger) : Nat := l.evaluations.length

/-- An evaluation that ended is told of at once, or it waits. -/
def settle (l : Ledger) (waits : Bool) (ended : Ended) : Ledger :=
  if waits then { l with waiting := l.waiting ++ [ended] } else { l with told := l.told ++ [ended] }

/-- The oldest pending evaluation ends. -/
def finish (l : Ledger) (waits : Bool) (outcome : Outcome) : Ledger :=
  match l.pending with
  | [] => l
  | evaluation :: pending => { l with pending }.settle waits ⟨evaluation, outcome⟩

/-- An evaluation is asked for. -/
def ask (l : Ledger) (completion : Completion) : Ledger :=
  { l with pending := l.pending ++ [⟨l.count, completion⟩] }

/-- An evaluation that was asked for elsewhere has ended. -/
def arrive (l : Ledger) (waits : Bool) (completion : Completion) (outcome : Outcome) : Ledger :=
  l.settle waits ⟨⟨l.count, completion⟩, outcome⟩

/-- The ledger after an action on the bridge. -/
def act (l : Ledger) : Bridge.Action → Ledger
  | .run _ => l.ask .report
  | .manage (.evaluate _ (some completion)) => l.ask completion
  | .handle (.evaluated completion outcome) => l.arrive false completion outcome
  | _ => l

/-- The ledger after something happened to the view.  Nothing can be asked of a bridge that is
closed, but what is pending still ends and what waits is still told. -/
def step (l : Ledger) : View.Action → Ledger
  | .act action => if l.live then l.act action else l
  | .finish outcome => l.finish false outcome
  | .deferFinish outcome => l.finish true outcome
  | .defer (.evaluated completion outcome) => l.arrive true completion outcome
  | .defer _ => l
  | .drain => { l with waiting := [], told := l.told ++ l.waiting }
  | .close => { l with live := false }

/-- The ledger of a view after its history. -/
def ofHistory (history : List View.Action) : Ledger :=
  history.foldl step empty

/-! ## The places of the evaluations -/

/-- The evaluation that comes up with an action. -/
def opened (l : Ledger) (action : View.Action) : List Evaluation :=
  (action.opens? l.live).toList.map (⟨l.count, ·⟩)

/-- An evaluation that settles is added to the others, wherever it goes. -/
theorem evaluations_settle (l : Ledger) (waits : Bool) (ended : Ended) :
    (l.settle waits ended).evaluations.Perm (l.evaluations ++ [ended.toEvaluation]) := by
  -- the evaluation lands in the middle of the list, so only the multiset is what was expected
  refine List.perm_iff_count.mpr fun evaluation => ?_
  cases waits with
  | true =>
      simp only [settle, if_pos, evaluations, List.map_append, List.map_cons, List.map_nil,
        List.count_append]
      omega
  | false =>
      simp only [settle, Bool.false_eq_true, if_false, evaluations, List.map_append, List.map_cons,
        List.map_nil, List.count_append]
      omega

/-- An evaluation that ends moves on from the pending ones. -/
theorem evaluations_finish (l : Ledger) (waits : Bool) (outcome : Outcome) :
    (l.finish waits outcome).evaluations.Perm l.evaluations := by
  cases hp : l.pending with
  | nil => simp only [finish, hp, List.Perm.refl]
  | cons evaluation pending =>
      -- taking the oldest from the pending ones and settling it moves it to another place
      have hlast : ({ l with pending }.evaluations ++ [evaluation]).Perm l.evaluations := by
        simp only [evaluations, hp, List.append_assoc]
        exact ((List.perm_append_singleton evaluation pending).append_left _).append_left _
      simp only [finish, hp]
      exact (evaluations_settle _ waits _).trans hlast

theorem evaluations_ask (l : Ledger) (completion : Completion) :
    (l.ask completion).evaluations = l.evaluations ++ [⟨l.count, completion⟩] := by
  simp only [ask, evaluations, List.append_assoc]

/-- An evaluation that comes up ended is added to the others. -/
theorem evaluations_arrive (l : Ledger) (waits : Bool) (completion : Completion)
    (outcome : Outcome) :
    (l.arrive waits completion outcome).evaluations.Perm
      (l.evaluations ++ [⟨l.count, completion⟩]) :=
  evaluations_settle _ waits _

/-- An action on the bridge adds the evaluation that it asks for or brings along, and no other. -/
theorem evaluations_act (l : Ledger) (action : Bridge.Action) :
    (l.act action).evaluations.Perm
      (l.evaluations ++ action.opens?.toList.map (⟨l.count, ·⟩)) := by
  cases action with
  | run script => exact List.Perm.of_eq (evaluations_ask l .report)
  | handle event =>
      cases event with
      | evaluated completion outcome => exact evaluations_arrive l false completion outcome
      | posted | navigated => exact List.Perm.of_eq (List.append_nil _).symm
  | manage action =>
      cases action with
      | evaluate script completion =>
          cases completion with
          | some completion => exact List.Perm.of_eq (evaluations_ask l completion)
          | none => exact List.Perm.of_eq (List.append_nil _).symm
      | install | apply | uninstall | post | updateOrigins | replaceScripts =>
          exact List.Perm.of_eq (List.append_nil _).symm
  | setChannel | send => exact List.Perm.of_eq (List.append_nil _).symm

/-- In each step the evaluations are those before it, and the one that comes up. -/
theorem evaluations_step (l : Ledger) (action : View.Action) :
    (l.step action).evaluations.Perm (l.evaluations ++ l.opened action) := by
  have same : (l.evaluations ++ []).Perm l.evaluations := List.Perm.of_eq (List.append_nil _)
  cases action with
  | act action =>
      cases hl : l.live with
      | true =>
          simp only [step, opened, View.Action.opens?, hl, if_true]
          exact evaluations_act l action
      | false =>
          simp only [step, opened, View.Action.opens?, hl, Bool.false_eq_true, if_false]
          exact same.symm
  | finish outcome => exact (evaluations_finish l false outcome).trans same.symm
  | deferFinish outcome => exact (evaluations_finish l true outcome).trans same.symm
  | defer event =>
      cases event with
      | evaluated completion outcome => exact evaluations_arrive l true completion outcome
      | posted | navigated => exact same.symm
  | drain =>
      simp only [step, evaluations, List.map_append, List.map_nil, List.append_nil]
      exact List.Perm.of_eq (List.append_nil _).symm
  | close => exact same.symm

/-! ## Every evaluation has one place -/

/-- The numbers of the evaluations, place by place. -/
def numbers (l : Ledger) : List Nat := l.evaluations.map (·.number)

/-- Evaluations that are numbered one after the other go on to be. -/
theorem numbers_step {l : Ledger} (h : l.numbers.Perm (List.range l.count)) (action : View.Action) :
    (l.step action).numbers.Perm (List.range (l.step action).count) := by
  have hstep := evaluations_step l action
  -- the evaluation that comes up gets the next number, as the others are those below it
  have hcount : (l.step action).count = l.count + (l.opened action).length := by
    rw [count, hstep.length_eq, List.length_append, count]
  have hnumbers : (l.step action).numbers.Perm
      (l.numbers ++ (l.opened action).map (·.number)) := by
    rw [numbers, numbers, ← List.map_append]
    exact hstep.map _
  refine hnumbers.trans ?_
  rw [hcount, opened]
  cases action.opens? l.live with
  | none =>
      rw [Option.toList_none, List.map_nil, List.map_nil, List.append_nil]
      exact h
  | some completion =>
      rw [Option.toList_some, List.map_singleton, List.map_singleton, List.length_singleton,
        List.range_succ]
      exact h.append_right _

/-- Evaluations that are numbered one after the other still are after any history. -/
theorem numbers_foldl {l : Ledger} (h : l.numbers.Perm (List.range l.count))
    (history : List View.Action) :
    (history.foldl step l).numbers.Perm (List.range (history.foldl step l).count) := by
  induction history generalizing l with
  | nil => exact h
  | cons action history ih => exact ih (numbers_step h action)

/-- Every evaluation of a view has one place, after every history. -/
theorem numbers_ofHistory (history : List View.Action) :
    (ofHistory history).numbers.Perm (List.range (ofHistory history).count) :=
  numbers_foldl (List.Perm.refl _) history

/-- No outcome is told twice. -/
theorem nodup_told (history : List View.Action) :
    ((ofHistory history).told.map (·.number)).Nodup := by
  have hnodup : (ofHistory history).numbers.Nodup :=
    (numbers_ofHistory history).nodup_iff.mpr List.nodup_range
  rw [numbers, evaluations, List.append_assoc, List.map_append, List.map_map] at hnodup
  exact (List.nodup_append.mp hnodup).1

/-! ## Reports to the owner -/

theorem live_settle (l : Ledger) (waits : Bool) (ended : Ended) :
    (l.settle waits ended).live = l.live := by
  cases waits <;> rfl

theorem live_finish (l : Ledger) (waits : Bool) (outcome : Outcome) :
    (l.finish waits outcome).live = l.live := by
  unfold finish
  split
  · rfl
  · exact live_settle _ waits _

theorem live_act (l : Ledger) (action : Bridge.Action) : (l.act action).live = l.live := by
  unfold act
  split <;> rfl

/-- A view is live until it is closed, and never again. -/
theorem live_step (l : Ledger) (action : View.Action) :
    (l.step action).live = (l.live && !action.closes) := by
  cases action with
  | act action =>
      simp only [step, View.Action.closes, Bool.not_false, Bool.and_true]
      split
      · exact live_act l action
      · rfl
  | finish outcome => exact (live_finish l false outcome).trans (Bool.and_true _).symm
  | deferFinish outcome => exact (live_finish l true outcome).trans (Bool.and_true _).symm
  | defer event => cases event <;> exact (Bool.and_true _).symm
  | drain => exact (Bool.and_true _).symm
  | close => exact (Bool.and_false _).symm

/-- How many evaluations the owner asked for. -/
def reports (l : Ledger) : Nat := l.evaluations.countP (·.completion = .report)

/-- An evaluation that comes up without a bridge comes up with one, too. -/
theorem opens?_true {action : View.Action} {live : Bool} {completion : Completion}
    (h : action.opens? live = some completion) : action.opens? true = some completion := by
  cases live with
  | true => exact h
  | false =>
      cases action with
      | defer event => cases event <;> exact h
      | act | finish | deferFinish | drain | close => cases h

/-- Among genuine actions the owner asks by running a script while there is a bridge, and in no other
way. -/
theorem countP_opens? {action : View.Action} (h : action.genuine = true) (live : Bool) :
    (action.opens? live).toList.countP (· = .report) =
      if live && action.runs then 1 else 0 := by
  cases hr : action.runs with
  | true =>
      cases action with
      | act action =>
          cases action with
          | run script => cases live <;> rfl
          | manage | setChannel | send | handle => cases hr
      | finish | defer | deferFinish | drain | close => cases hr
  | false =>
      -- a genuine action that runs no script asks for no report
      have hnot : action.opens? true ≠ some .report := by
        simpa [View.Action.genuine, hr] using h
      cases ho : action.opens? live with
      | none => simp
      | some completion =>
          have hne : completion ≠ .report := by
            rintro rfl
            exact hnot (opens?_true ho)
          simp [hne]

/-- A genuine step adds a report that is owed to the owner just if it runs a script while there is a
bridge. -/
theorem reports_step (l : Ledger) {action : View.Action} (h : action.genuine = true) :
    (l.step action).reports = l.reports + if l.live && action.runs then 1 else 0 := by
  rw [reports, (evaluations_step l action).countP_eq, List.countP_append, ← countP_opens? h,
    opened, List.countP_map]
  rfl

/-- The reports that a history adds are those of the scripts it runs before the view is closed. -/
theorem reports_foldl (l : Ledger) {history : List View.Action}
    (h : ∀ action ∈ history, action.genuine = true) :
    (history.foldl step l).reports = l.reports + if l.live then View.runs history else 0 := by
  induction history generalizing l with
  | nil => cases l.live <;> rfl
  | cons action history ih =>
      rw [List.foldl_cons, ih _ fun a ha => h a (List.mem_cons_of_mem _ ha),
        reports_step l (h action List.mem_cons_self), live_step, View.runs, View.runs]
      cases hc : action.closes with
      | true =>
          -- closing runs nothing, and nothing is run after it
          have hr : action.runs = false := by
            cases action with
            | close => rfl
            | act | finish | defer | deferFinish | drain => cases hc
          simp [hc, hr]
      | false =>
          cases l.live <;> cases hr : action.runs <;> simp [hc, hr]
          omega

/-- The reports that are owed to the owner are those of the scripts that were run. -/
theorem reports_ofHistory {history : List View.Action}
    (h : ∀ action ∈ history, action.genuine = true) :
    (ofHistory history).reports = View.runs history := by
  rw [ofHistory, reports_foldl empty h]
  exact Nat.zero_add _

end Ledger

end PageBridge
