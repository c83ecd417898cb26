import PageBridge.Proofs.Message.Acceptance

/-!
# What a frame is judged by

An engine may report the security origin of a frame, and the origin that it reports may be opaque.  A
frame with a reported origin that is not opaque is judged by it alone.  One with an opaque origin is
judged as though nothing was reported: by its URL, and as `null` only if the URL has no origin either.
`url_counts_iff_isOpaque` says that the URL counts for these frames and for no other frame with a
reported origin.
-/

namespace PageBridge

open PageBridge.Text

namespace SecurityOrigin

/-- Whether an origin has no protocol or no host. -/
def isOpaque (o : SecurityOrigin) : Bool :=
  o.scheme.isEmpty || (trim o.host).isEmpty

/-- Brackets are put around hosts only that are there. -/
theorem isEmpty_hostText (o : SecurityOrigin) : o.hostText.isEmpty = (trim o.host).isEmpty := by
  simp only [hostText]
  split
  -- only a host with a colon in it gets brackets, and such a host is not empty
  case isTrue hbrackets =>
    cases hempty : (trim o.host).isEmpty with
    | false => simp
    | true =>
        rw [String.isEmpty_iff.mp hempty] at hbrackets
        exact absurd hbrackets (by decide)
  case isFalse => exact isEmpty_lowerAscii _

/-- Just the opaque origins have no text. -/
theorem text?_eq_none_iff (o : SecurityOrigin) : o.text? = none ↔ o.isOpaque = true := by
  rw [text?, isEmpty_hostText, ← isOpaque]
  cases o.isOpaque with
  | true => simp
  | false =>
      rw [if_neg Bool.false_ne_true]
      split <;> simp

end SecurityOrigin

namespace Frame

variable {frame : Frame} {security : SecurityOrigin}

/-- A reported origin that is not opaque is the origin of the frame. -/
theorem origin?_of_not_isOpaque (hreported : frame.security = some security)
    (htuple : security.isOpaque = false) : frame.origin? = security.text? := by
  cases htext : security.text? with
  | none => exact absurd (security.text?_eq_none_iff.mp htext) (by simp [htuple])
  | some origin => rw [origin?, hreported, Option.bind_some, htext, Option.some_or]

/-- A frame with an opaque origin has the origin of its URL. -/
theorem origin?_of_isOpaque (hreported : frame.security = some security)
    (hisOpaque : security.isOpaque = true) :
    frame.origin? = frame.url.bind Url.extractOrigin := by
  rw [origin?, hreported, Option.bind_some, security.text?_eq_none_iff.mpr hisOpaque, Option.none_or]

end Frame

namespace Posting

/-- The same posting from a frame of which no security origin is reported. -/
def unreported (posting : Posting) : Posting :=
  { posting with frame := { posting.frame with security := none } }

/-- The checks look at nothing of the security origin of a frame but the origin that the frame has. -/
theorem receive_unreported {posting : Posting}
    (horigin : posting.frame.origin? = posting.frame.url.bind Url.extractOrigin)
    (allowed : List String) : posting.unreported.receive allowed = posting.receive allowed := by
  have hsame : posting.unreported.frame.originText = posting.frame.originText := by
    rw [Frame.originText, Frame.originText, horigin]
    rfl
  rw [receive, receive, content, content, hsame]
  rfl

/-- The URL of a frame with a reported security origin counts exactly when that origin is opaque.  When
it is not, the frame has the reported origin; when it is, the frame has the origin of its URL, if any,
and both checks treat what it posts as though no security origin had been reported. -/
theorem url_counts_iff_isOpaque (security : SecurityOrigin) :
    ((∃ isMain url url',
        Frame.origin? ⟨isMain, some security, url⟩ ≠ Frame.origin? ⟨isMain, some security, url'⟩) ↔
      security.isOpaque = true) ∧
    ∀ posting : Posting, posting.frame.security = some security →
      (security.isOpaque = false → posting.frame.origin? = security.text?) ∧
        (security.isOpaque = true →
          posting.frame.origin? = posting.frame.url.bind Url.extractOrigin ∧
            (∀ allowed, posting.unreported.receive allowed = posting.receive allowed) ∧
            ∀ session, posting.unreported.accept session = posting.accept session) := by
  refine ⟨⟨?_, fun hisOpaque => ?_⟩, fun posting hreported =>
    ⟨Frame.origin?_of_not_isOpaque hreported, fun hisOpaque => ?_⟩⟩
  · rintro ⟨isMain, url, url', hdiffer⟩
    cases htuple : security.isOpaque with
    | true => rfl
    | false =>
        refine absurd ?_ hdiffer
        rw [Frame.origin?_of_not_isOpaque rfl htuple, Frame.origin?_of_not_isOpaque rfl htuple]
  · -- a URL with an origin and no URL at all
    have hurl : Url.extractOrigin "https://app.example" ≠ none := by decide +kernel
    refine ⟨true, some "https://app.example", none, ?_⟩
    rw [Frame.origin?_of_isOpaque rfl hisOpaque, Frame.origin?_of_isOpaque rfl hisOpaque,
      Option.bind_some, Option.bind_none]
    exact hurl
  · have horigin := Frame.origin?_of_isOpaque hreported hisOpaque
    refine ⟨horigin, receive_unreported horigin, fun session => ?_⟩
    rw [accept, accept, receive_unreported horigin]

/-- A frame with an opaque origin, as a sandboxed one has, is let in for its URL by an allow-list that
does not admit `null`. -/
theorem sandboxed_frame_let_in :
    let frame : Frame := ⟨true, some ⟨"", "", 0⟩, some "https://app.example/page"⟩
    let allowed := ["https://app.example"]
    frame.origin? = some "https://app.example" ∧
      Frame.origin? { frame with url := none } = none ∧
      Origin.isAllowed opaqueOrigin allowed = false ∧
      receive allowed ⟨handlerName, "", frame⟩ = .ok ⟨"", "https://app.example", true⟩ := by
  intro frame allowed
  have horigin : frame.origin? = some "https://app.example" := by decide +kernel
  have htext : frame.originText = "https://app.example" := by rw [Frame.originText, horigin]; rfl
  refine ⟨horigin, by decide +kernel, by decide +kernel, ?_⟩
  refine receive_eq_ok_iff.mpr ⟨rfl, Nat.zero_le _, ?_, ?_⟩
  · rw [htext]
    decide +kernel
  · rw [content, htext]

end Posting

end PageBridge
