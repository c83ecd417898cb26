import PageBridge.Message.Admission

/-!
# What a posting needs to be accepted

A posting is accepted when it passes two checks, and the origin of its frame is looked at in both.
`Posting.accept_eq_ok_iff` gathers what they ask for in one list of conditions, `Admissible`, and
says which message comes out.
-/

namespace PageBridge

namespace Posting

/-- All that a posting with an envelope in its body needs to be accepted in a session. -/
structure Admissible (session : Session) (posting : Posting) (envelope : Envelope) : Prop where
  installed : session.installed = true
  handler_eq : posting.handler = handlerName
  size_le : posting.body.utf8ByteSize ≤ maxPostingSize
  origin_allowed : Origin.isAllowed (posting.frame.origin?.getD opaqueOrigin)
    session.allowedOrigins = true
  body_eq : Envelope.parse? posting.body = some envelope
  invokeKey_eq : envelope.invokeKey = session.invokeKey
  nspace_eq : ∀ nspace, envelope.nspace = some nspace → nspace = session.nspace
  payload_isJson : Json.isJson envelope.payload = true

/-- The message that is in a posting with an envelope in its body. -/
def unpacked (posting : Posting) (envelope : Envelope) : Message :=
  ⟨envelope.payload, posting.frame.origin?.getD opaqueOrigin, posting.frame.isMain⟩

variable {posting : Posting} {session : Session} {message : Message}

/-- The first check asks for the handler, the size and the origin, and lets the body pass as it
is. -/
theorem receive_eq_ok_iff {allowed : List String} :
    posting.receive allowed = .ok message ↔
      posting.handler = handlerName ∧ posting.body.utf8ByteSize ≤ maxPostingSize ∧
        Origin.isAllowed posting.frame.originText allowed = true ∧ message = posting.content := by
  rw [receive]
  by_cases hh : posting.handler = handlerName
  -- the checks one after the other, in the order in which they refuse
  · rw [if_neg (not_not_intro hh)]
    by_cases hs : maxPostingSize < posting.body.utf8ByteSize
    · rw [if_pos hs]
      simp [Nat.not_le.mpr hs]
    · rw [if_neg hs]
      by_cases ho : Origin.isAllowed posting.frame.originText allowed
      · rw [if_pos ho]
        simp [hh, Nat.not_lt.mp hs, ho, eq_comm (a := message)]
      · rw [if_neg ho]
        simp [ho]
  · rw [if_pos hh]
    simp [hh]

end Posting

/-- The marks of an envelope pass when a bridge is installed and they are its own. -/
theorem Session.check_eq_ok_iff {session : Session} {envelope : Envelope} :
    session.check envelope = .ok () ↔
      session.installed = true ∧ envelope.invokeKey = session.invokeKey ∧
        ∀ nspace, envelope.nspace = some nspace → nspace = session.nspace := by
  rw [Session.check]
  by_cases hi : session.installed = true
  · rw [if_neg (by simp [hi])]
    by_cases hk : envelope.invokeKey = session.invokeKey
    · rw [if_neg (not_not_intro hk)]
      cases hn : envelope.nspace with
      | none => simp [hi, hk]
      | some nspace => by_cases hs : nspace = session.nspace <;> simp [hi, hk, hs]
    · rw [if_pos hk]
      simp [hk]
  · rw [if_pos (by simp [hi])]
    simp [hi]

namespace Message

/-- A message is unwrapped when its text is an envelope that its session lets through. -/
theorem unwrap_eq_ok_iff {session : Session} {message inner : Message} :
    message.unwrap session = .ok inner ↔
      ∃ envelope, Envelope.parse? message.text = some envelope ∧
        Origin.isAllowed message.origin session.allowedOrigins = true ∧
        session.check envelope = .ok () ∧ Json.isJson envelope.payload = true ∧
        inner = { message with text := envelope.payload } := by
  constructor
  · intro h
    rw [unwrap] at h
    cases hp : Envelope.parse? message.text with
    | none =>
        rw [hp] at h
        cases h
    | some envelope =>
        simp only [hp] at h
        by_cases ho : Origin.isAllowed message.origin session.allowedOrigins = true
        · rw [if_neg (by simp [ho])] at h
          cases hc : session.check envelope with
          | error rejection =>
              rw [hc] at h
              cases h
          | ok =>
              simp only [hc] at h
              by_cases hj : Json.isJson envelope.payload = true
              · rw [if_pos hj] at h
                exact ⟨envelope, rfl, ho, hc, hj, (Except.ok.inj h).symm⟩
              · rw [if_neg hj] at h
                cases h
        · rw [if_pos (by simp [ho])] at h
          cases h
  · rintro ⟨envelope, hp, ho, hc, hj, rfl⟩
    rw [unwrap, hp]
    simp only [ho, hc, hj, Bool.not_true, Bool.false_eq_true, if_false, if_true]

end Message

namespace Posting

variable {posting : Posting} {session : Session} {message : Message}

/-- A posting is accepted exactly when it is admissible with the envelope in its body. -/
theorem accept_eq_ok_iff :
    posting.accept session = .ok message ↔
      ∃ envelope, posting.Admissible session envelope ∧ message = posting.unpacked envelope := by
  rw [accept]
  constructor
  · intro h
    cases hr : posting.receive session.allowedOrigins with
    | error rejection =>
        rw [hr] at h
        cases h
    | ok content =>
        rw [hr] at h
        obtain ⟨hh, hs, ho, rfl⟩ := receive_eq_ok_iff.mp hr
        -- the second look at the origin says nothing that the first has not said
        obtain ⟨envelope, hb, -, hc, hj, rfl⟩ := Message.unwrap_eq_ok_iff.mp h
        obtain ⟨hi, hk, hn⟩ := Session.check_eq_ok_iff.mp hc
        exact ⟨envelope, ⟨hi, hh, hs, ho, hb, hk, hn, hj⟩, rfl⟩
  · rintro ⟨envelope, ⟨hi, hh, hs, ho, hb, hk, hn, hj⟩, rfl⟩
    rw [receive_eq_ok_iff.mpr ⟨hh, hs, ho, rfl⟩]
    exact Message.unwrap_eq_ok_iff.mpr
      ⟨envelope, hb, ho, Session.check_eq_ok_iff.mpr ⟨hi, hk, hn⟩, hj, rfl⟩

end Posting

end PageBridge
