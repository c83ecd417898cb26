import PageBridge.Proofs.Message.Acceptance
import PageBridge.Proofs.Origin.Normalize

/-!
# What admits an opaque origin

A frame without an origin of its own is judged by the text `null`.  That text is no URL, so no wildcard
pattern and no entry with a colon admits it.  But it is compared with the entries like any other text:
an entry that spells `null` admits it as the universal pattern does.
-/

namespace PageBridge

open PageBridge.Text

namespace Origin

/-- Whether an entry is universal or spells the text of opaque origins. -/
def opaqueEntry (pattern : String) : Bool :=
  isUniversal pattern || bare pattern == opaqueOrigin

/-- The text of opaque origins is in normal form: it is no URL. -/
theorem normalize_opaqueOrigin : normalize opaqueOrigin = opaqueOrigin := by
  decide +kernel

/-- A text has the normal form of opaque origins only if it spells them. -/
theorem normalize_eq_opaqueOrigin_iff {text : String} :
    normalize text = opaqueOrigin ↔ bare text = opaqueOrigin := by
  rw [normalize_eq, Option.getD_eq_iff]
  constructor
  · rintro (horigin | ⟨-, hbare⟩)
    · exact absurd (Url.mem_of_extractOrigin horigin) (by decide)
    · exact hbare
  · intro hbare
    -- a URL has a colon, and a text that is bare `null` has none
    refine .inr ⟨Url.extractOrigin_of_not_mem fun hcolon => ?_, hbare⟩
    have hmem : ':' ∈ (bare text).toList := mem_bare (by decide) hcolon
    rw [hbare] at hmem
    exact absurd hmem (by decide)

/-- A spelling of opaque origins is no wildcard pattern. -/
theorem parse?_of_bare_eq_opaqueOrigin {pattern : String} (h : bare pattern = opaqueOrigin) :
    Wildcard.parse? (lowerAscii (trim pattern)).toList = none := by
  -- what is not in the bare text was not in the entry, as only slashes are taken off
  have hnot : ∀ c : Char, c ≠ '/' → c.toLower ∉ opaqueOrigin.toList →
      c ∉ (lowerAscii (trim pattern)).toList := by
    intro c hslash hc hmem
    rw [← trim_lowerAscii_trim] at hmem
    rw [← h, ← bare_lowerAscii_trim] at hc
    exact hc (mem_bare hslash hmem)
  exact Wildcard.parse?_of_not_mem (hnot '*' (by decide) (by decide))
    (hnot ':' (by decide) (by decide))

/-- An entry admits opaque origins when it is universal or spells them. -/
theorem isAllowed_opaqueOrigin_singleton (pattern : String) :
    isAllowed opaqueOrigin [pattern] = opaqueEntry pattern := by
  have hparts : Parts.parse? opaqueOrigin.toList = none := by decide +kernel
  rw [opaqueEntry, isAllowed_singleton, normalize_opaqueOrigin, hparts]
  refine congrArg (isUniversal pattern || ·) ?_
  rw [Bool.eq_iff_iff, beq_iff_eq, admits]
  by_cases hempty : lowerAscii (trim pattern) = ""
  · -- nothing but blanks is not compared at all
    rw [← bare_lowerAscii_trim, hempty]
    decide
  · cases hparse : Wildcard.parse? (lowerAscii (trim pattern)).toList with
    | some w =>
        have hbare : bare pattern ≠ opaqueOrigin := fun h => by
          rw [parse?_of_bare_eq_opaqueOrigin h] at hparse
          cases hparse
        simp [hempty, hbare]
    | none =>
        simp [hempty, normalize_eq_opaqueOrigin_iff, bare_lowerAscii_trim]

/-- A list admits opaque origins when one of its entries is universal or spells them. -/
theorem isAllowed_opaqueOrigin (allowed : List String) :
    isAllowed opaqueOrigin allowed = allowed.any opaqueEntry := by
  rw [isAllowed_eq_any]
  exact congrArg allowed.any (funext isAllowed_opaqueOrigin_singleton)

end Origin

/-- Without an entry for opaque origins, a message with such an origin is not unwrapped. -/
theorem Message.unwrap_of_opaque {session : Session} {message : Message}
    (horigin : message.origin = opaqueOrigin)
    (hnone : session.allowedOrigins.any Origin.opaqueEntry = false) :
    message.unwrap session = .error
      (if (Envelope.parse? message.text).isSome then .originNotAllowed else .malformedEnvelope) := by
  rw [unwrap, horigin, Origin.isAllowed_opaqueOrigin, hnone]
  cases Envelope.parse? message.text <;> rfl

/-- Frames without an origin get their postings in exactly when an entry is universal or spells `null`.
Without such an entry both checks refuse them. -/
theorem Posting.opaque_let_in_iff (allowed : List String) :
    Origin.isAllowed opaqueOrigin allowed = allowed.any Origin.opaqueEntry ∧
    (∀ posting : Posting, posting.frame.origin? = none →
      (∀ message, posting.receive allowed = .ok message ↔
        posting.handler = handlerName ∧ posting.body.utf8ByteSize ≤ maxPostingSize ∧
          allowed.any Origin.opaqueEntry = true ∧ message = posting.content) ∧
      (posting.handler = handlerName → posting.body.utf8ByteSize ≤ maxPostingSize →
        allowed.any Origin.opaqueEntry = false →
          posting.receive allowed = .error .originNotAllowed)) ∧
    ∀ (session : Session) (message : Message), session.allowedOrigins = allowed →
      message.origin = opaqueOrigin → allowed.any Origin.opaqueEntry = false →
        message.unwrap session = .error (if (Envelope.parse? message.text).isSome then
          .originNotAllowed else .malformedEnvelope) := by
  refine ⟨Origin.isAllowed_opaqueOrigin allowed, fun posting hnone => ?_, ?_⟩
  · have horigin : posting.frame.originText = opaqueOrigin := by
      rw [Frame.originText, hnone, Option.getD_none]
    constructor
    · intro message
      rw [receive_eq_ok_iff, horigin, Origin.isAllowed_opaqueOrigin]
    · intro hhandler hsize hentries
      rw [receive, if_neg (not_not_intro hhandler), if_neg (Nat.not_lt.mpr hsize), horigin,
        Origin.isAllowed_opaqueOrigin, hentries, if_neg Bool.false_ne_true]
  · rintro session message rfl horigin hentries
    exact Message.unwrap_of_opaque horigin hentries

/-- An entry need not be universal to let an opaque origin in: it may name it. -/
theorem Posting.opaque_let_in_by_name :
    let posting : Posting := ⟨handlerName, "{}", ⟨false, none, none⟩⟩
    posting.frame.origin? = none ∧ (∀ pattern ∈ ["null"], trim pattern ≠ "*") ∧
      Origin.isAllowed opaqueOrigin ["null"] = true ∧
        posting.receive ["null"] = .ok posting.content := by
  decide +kernel

end PageBridge
