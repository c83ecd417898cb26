import PageBridge.Proofs.Bridge.Run
import PageBridge.Proofs.Message.Acceptance

/-!
# The messages that a bridge lets in

A bridge takes a posting exactly when it is admissible in the session of the moment.  One that is
taken goes to the channel and then to the owner, with one content; one that is not leaves no trace.
Neither changes the bridge, so that postings in a row are judged one by one.
-/

namespace PageBridge

namespace Installation

/-- While listening and being installed are the same, acceptance is admissibility. -/
theorem accept?_eq_some_iff {i : Installation} (h : i.listening = i.session.installed)
    {posting : Posting} {message : Message} :
    i.accept? posting = some message ↔
      ∃ envelope, posting.Admissible i.session envelope ∧ message = posting.unpacked envelope := by
  rw [accept?]
  -- a bridge that does not listen is not installed, so that no posting is admissible either
  cases hl : i.listening with
  | true =>
      rw [if_pos rfl, ← Posting.accept_eq_ok_iff]
      cases posting.accept i.session <;> simp [Except.toOption]
  | false =>
      rw [if_neg Bool.false_ne_true]
      constructor
      · intro hnone
        cases hnone
      · rintro ⟨envelope, hadm, -⟩
        have hi : i.session.installed = true := hadm.installed
        rw [← h, hl] at hi
        cases hi

end Installation

namespace Bridge

variable {b : Bridge} {posting : Posting}

/-- A bridge that listens while it is installed takes just the admissible postings. -/
theorem takes_iff (h : b.installation.listening = b.installation.session.installed) :
    b.takes posting = true ↔ ∃ envelope, posting.Admissible b.installation.session envelope := by
  rw [takes, Option.isSome_iff_exists]
  constructor
  · rintro ⟨message, hm⟩
    obtain ⟨envelope, hadm, -⟩ := (Installation.accept?_eq_some_iff h).mp hm
    exact ⟨envelope, hadm⟩
  · rintro ⟨envelope, hadm⟩
    exact ⟨_, (Installation.accept?_eq_some_iff h).mpr ⟨envelope, hadm, rfl⟩⟩

/-- A posting that is taken has the effects of its message. -/
theorem effects_handle_posted_of_takes {message : Message}
    (h : b.installation.accept? posting = some message) :
    b.effects (.handle (.posted posting)) = b.messageEffects message := by
  simp only [effects, eventEffects, h]

/-- A posting that is not taken leaves no trace. -/
theorem effects_handle_posted_of_not_takes (h : b.takes posting = false) :
    b.effects (.handle (.posted posting)) = [] := by
  rw [takes, Option.isSome_eq_false_iff, Option.isNone_iff_eq_none] at h
  simp only [effects, eventEffects, h]

/-- A posting never changes the bridge, whether it is taken or not. -/
theorem after_handle_posted (b : Bridge) (posting : Posting) :
    b.after (.handle (.posted posting)) = b := rfl

/-- Postings in a row are judged one by one, and those that are taken keep their order. -/
theorem run_handle_posted (b : Bridge) (postings : List Posting) :
    b.run (postings.map fun posting => .handle (.posted posting)) =
      (b, (postings.filter b.takes).flatMap fun posting => b.effects (.handle (.posted posting))) := by
  induction postings with
  | nil => rfl
  | cons posting postings ih =>
      rw [List.map_cons, run_cons, after_handle_posted, ih]
      cases ht : b.takes posting with
      | true => rw [List.filter_cons_of_pos ht, List.flatMap_cons]
      | false =>
          rw [List.filter_cons_of_neg (by simp [ht]), effects_handle_posted_of_not_takes ht,
            List.nil_append]

/-- A bridge listens exactly while it is installed, after every run. -/
theorem listening_run_fresh (home : World) (actions : List Action) :
    ((fresh home).run actions).1.installation.listening =
      ((fresh home).run actions).1.installation.session.installed := by
  rw [installation_run_fresh, Installation.Standing.listening_installation,
    Installation.Standing.installed_installation]

/-- After every run a bridge takes exactly the admissible postings.  A posting that is taken has one
message, for the channel if there is one and for the owner; one that is not has no effect.  In no
case is a call made or the bridge changed, and postings in a row are taken or not each on its
own. -/
theorem takes_iff_admissible (home : World) (actions : List Action) (posting : Posting)
    (postings : List Posting) :
    let b := ((fresh home).run actions).1
    let effects := b.effects (.handle (.posted posting))
    (b.takes posting = true ↔
        ∃ envelope, posting.Admissible b.installation.session envelope) ∧
      (∀ envelope, posting.Admissible b.installation.session envelope →
        effects = (if b.hasChannel then [.channel (posting.unpacked envelope)] else []) ++
          [.received (posting.unpacked envelope)]) ∧
      (b.takes posting = false → effects = []) ∧
      effects.filterMap Effect.call? = [] ∧
      b.after (.handle (.posted posting)) = b ∧
      b.run (postings.map fun posting => .handle (.posted posting)) =
        (b, (postings.filter b.takes).flatMap fun posting =>
          b.effects (.handle (.posted posting))) := by
  intro b effects
  have hlisten : b.installation.listening = b.installation.session.installed :=
    listening_run_fresh home actions
  refine ⟨takes_iff hlisten, ?_, ?_, calls_eventEffects b (.posted posting),
    after_handle_posted b posting, run_handle_posted b postings⟩
  · intro envelope hadm
    have hm : b.installation.accept? posting = some (posting.unpacked envelope) :=
      (Installation.accept?_eq_some_iff hlisten).mpr ⟨envelope, hadm, rfl⟩
    exact effects_handle_posted_of_takes hm
  · exact effects_handle_posted_of_not_takes

end Bridge

end PageBridge
