import PageBridge.Proofs.Bridge.Acceptance
import PageBridge.Proofs.View.Run

/-!
# Where the messages of a view come from

A message may be handled long after it was posted, when its bridge was installed anew or is gone.
`Vouched` says what a history has to hold for a message to be let in: the last action that installed
or uninstalled put a plan in place, the marks of the envelope are those of this plan, and the
allow-list that was given last since then, or else that of the plan, admits the frame.
`received_vouched` shows that the owner is told of no other message, in any order of actions and
deferred events.
-/

namespace PageBridge

namespace Installation

/-- What was installed last vouches for a posting with an envelope in its body. -/
def Vouched (history : List Action) (posting : Posting) (envelope : Envelope) : Prop :=
  ∃ before decision since plan,
    history = before ++ decision :: since ∧
      decision.plan? = some plan ∧
      (∀ action ∈ since, action.decides = false) ∧
      envelope.invokeKey = plan.invokeKey ∧
      (∀ nspace, envelope.nspace = some nspace → nspace = plan.nspace) ∧
      Origin.isAllowed (posting.frame.origin?.getD opaqueOrigin) (originsSince plan since) = true

variable {history : List Action} {posting : Posting} {envelope : Envelope}

/-- A posting that is admissible in the session that stands is vouched for. -/
theorem vouched_of_admissible {home : World}
    (h : posting.Admissible ((Standing.ofHistory history).installation home).session envelope) :
    Vouched history posting envelope := by
  have hinst : (Standing.ofHistory history).plan.isSome = true := by
    rw [← Standing.installed_installation home]
    exact h.installed
  obtain ⟨plan, hplan⟩ := Option.isSome_iff_exists.mp hinst
  obtain ⟨before, decision, since, hhist, hd, hs, ho⟩ := Standing.exists_decision hplan
  refine ⟨before, decision, since, plan, hhist, hd, hs, ?_, ?_, ?_⟩
  · rw [h.invokeKey_eq, Standing.installation_of_plan_eq_some home hplan]
  · intro nspace hn
    rw [h.nspace_eq nspace hn, Standing.installation_of_plan_eq_some home hplan]
  · rw [← ho, ← Standing.allowedOrigins_installation home]
    exact h.origin_allowed

/-- The key of a posting that is vouched for is that of the plan that stands. -/
theorem Vouched.invokeKey_eq (h : Vouched history posting envelope) :
    (Standing.ofHistory history).plan.map (·.invokeKey) = some envelope.invokeKey := by
  obtain ⟨before, decision, since, plan, rfl, hd, hs, hk, -, -⟩ := h
  rw [Standing.plan_ofHistory before (Action.decides_of_plan? hd) hs, hd, hk]
  rfl

end Installation

namespace View

open Installation (Vouched Standing)

/-- A posting that is accepted is vouched for by what was passed on before. -/
theorem vouched_of_accept? {home : World} {capacity : Nat} {history : List Action}
    {posting : Posting} {message : Message}
    (h : ((fresh home capacity).run history).1.accept? posting = some message) :
    ∃ envelope, Envelope.parse? posting.body = some envelope ∧
      Vouched (history.filterMap Action.managed?) posting envelope ∧
      message = posting.unpacked envelope := by
  obtain ⟨b, hb, hacc⟩ := Option.bind_eq_some_iff.mp h
  have hi := installation_run_fresh hb
  have hlisten : b.installation.listening = b.installation.session.installed := by
    rw [hi, Standing.listening_installation, Standing.installed_installation]
  obtain ⟨envelope, hadm, hm⟩ := (Installation.accept?_eq_some_iff hlisten).mp hacc
  rw [hi] at hadm
  exact ⟨envelope, hadm.body_eq, Installation.vouched_of_admissible hadm, hm⟩

/-- No posting is accepted whose key is not that of the plan that stands. -/
theorem accept?_eq_none_of_key_ne {home : World} {capacity : Nat} {history : List Action}
    {posting : Posting}
    (h : ∀ envelope, Envelope.parse? posting.body = some envelope →
      (Standing.ofHistory (history.filterMap Action.managed?)).plan.map (·.invokeKey) ≠
        some envelope.invokeKey) :
    ((fresh home capacity).run history).1.accept? posting = none := by
  refine Option.eq_none_iff_forall_ne_some.mpr fun message hm => ?_
  obtain ⟨envelope, hp, hv, -⟩ := vouched_of_accept? hm
  exact h envelope hp hv.invokeKey_eq

/-- At every moment of every run, the owner is told of the postings that are handled then and
accepted, each of them vouched for by what was installed last before this moment, and a channel is
told of nothing else.  A posting is not accepted, whenever it was queued, when its key is not the
one of the last decision, and so none is after that decision uninstalled or failed, or before there
is one. -/
theorem received_vouched (home : World) (capacity : Nat) (history : List Action) (action : Action)
    (rest : List Action) :
    let v := ((fresh home capacity).run history).1
    let managed := history.filterMap Action.managed?
    ((fresh home capacity).run (history ++ action :: rest)).2 =
        ((fresh home capacity).run history).2 ++ (v.step action).2 ++
          ((v.step action).1.run rest).2 ∧
      (v.step action).2.filterMap Effect.received? = (v.postings action).filterMap v.accept? ∧
      (v.step action).2.filterMap Effect.channel? =
        (if v.hasChannel then (v.postings action).filterMap v.accept? else []) ∧
      (∀ posting message, v.accept? posting = some message →
        ∃ envelope, Envelope.parse? posting.body = some envelope ∧
          Vouched managed posting envelope ∧ message = posting.unpacked envelope) ∧
      (∀ before decision since, managed = before ++ decision :: since →
        decision.decides = true → (∀ later ∈ since, later.decides = false) →
        ∀ posting,
          (∀ envelope, Envelope.parse? posting.body = some envelope →
            decision.plan?.map (·.invokeKey) ≠ some envelope.invokeKey) →
          v.accept? posting = none) ∧
      ((∀ earlier ∈ managed, earlier.decides = false) → ∀ posting, v.accept? posting = none) := by
  intro v managed
  refine ⟨?_, received_step v action, ?_, fun posting message hm => vouched_of_accept? hm, ?_, ?_⟩
  · rw [run_append, run_cons, List.append_assoc]
  · rw [channel_step, received_step]
  · intro before decision since hm hd hs posting hkey
    refine accept?_eq_none_of_key_ne fun envelope hp => ?_
    rw [show history.filterMap Action.managed? = before ++ decision :: since from hm,
      Standing.plan_ofHistory before hd hs]
    exact hkey envelope hp
  · intro hu posting
    refine accept?_eq_none_of_key_ne fun envelope _ => ?_
    rw [Standing.plan_ofHistory_of_undecided hu]
    exact Option.some_ne_none _ |>.symm

/-- A posting that waits while another plan is installed comes too late. -/
example :
    let plan (key : String) : Installation.Plan := ⟨"qt", ["*"], key, none, "", "", []⟩
    let posting : Posting := ⟨handlerName, Envelope.written "k1" "qt" "1", ⟨true, none, none⟩⟩
    let received (actions : List Action) : List Message :=
      ((fresh .page 8).run actions).2.filterMap Effect.received?
    received [.act (.manage (.apply (plan "k1"))), .defer (.posted posting), .drain] =
        [⟨"1", "null", true⟩] ∧
      received [.act (.manage (.apply (plan "k1"))), .defer (.posted posting),
        .act (.manage (.apply (plan "k2"))), .drain] = [] := by
  decide +kernel

end View

end PageBridge
