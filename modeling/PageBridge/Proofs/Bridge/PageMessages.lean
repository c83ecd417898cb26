import PageBridge.Proofs.Bridge.Acceptance
import PageBridge.Proofs.Message.Written

/-!
# Messages from the page to the application

The inner half of a bridge puts each message of the page into an envelope and posts it.  As long as
the bridge stays installed and admits the frame, it takes the posting exactly when the message is
JSON and its envelope is not too long, and the application has the message as the page gave it,
character by character (`takes_posting_iff_isJson`).
-/

namespace PageBridge.Bridge

/-- After every run that leaves a bridge installed, what its inner half posts for a message of an
allowed frame is taken exactly when it fits and the message is JSON.  Then the message itself goes to
the channel, if there is one, and to the owner; otherwise nothing happens. -/
theorem takes_posting_iff_isJson (home : World) (actions : List Action) (frame : Frame)
    (message : String)
    (hinst : ((fresh home).run actions).1.installation.session.installed = true)
    (horigin : Origin.isAllowed (frame.origin?.getD opaqueOrigin)
      ((fresh home).run actions).1.installation.session.allowedOrigins = true) :
    let b := ((fresh home).run actions).1
    let posting := b.installation.session.posting frame message
    let effects := b.effects (.handle (.posted posting))
    let content : Message := ⟨message, frame.origin?.getD opaqueOrigin, frame.isMain⟩
    posting.body =
        Envelope.written b.installation.session.invokeKey b.installation.session.nspace message ∧
      (b.takes posting = true ↔
        posting.body.utf8ByteSize ≤ maxPostingSize ∧ Json.isJson message = true) ∧
      (b.takes posting = true →
        effects = (if b.hasChannel then [.channel content] else []) ++ [.received content]) ∧
      (b.takes posting = false → effects = []) := by
  intro b posting effects content
  have hlisten : b.installation.listening = b.installation.session.installed :=
    listening_run_fresh home actions
  have htakes : b.takes posting = true ↔
      posting.body.utf8ByteSize ≤ maxPostingSize ∧ Json.isJson message = true := by
    rw [takes_iff hlisten]
    constructor
    · rintro ⟨envelope, hadm⟩
      exact ((Session.admissible_posting_iff hinst horigin).mp hadm).2
    · intro hfits
      exact ⟨_, (Session.admissible_posting_iff hinst horigin).mpr ⟨rfl, hfits⟩⟩
  refine ⟨rfl, htakes, ?_, effects_handle_posted_of_not_takes⟩
  intro htaken
  have hadm := (Session.admissible_posting_iff hinst horigin).mpr ⟨rfl, htakes.mp htaken⟩
  have haccept : b.installation.accept? posting = some content :=
    (Installation.accept?_eq_some_iff hlisten).mpr ⟨_, hadm, rfl⟩
  exact effects_handle_posted_of_takes haccept

/-- A message with quotes, a backslash and a line end in it comes through a session whose key has
them too, and what is left of it without its last character does not. -/
theorem takes_posting_iff_isJson_escapes :
    let plan : Installation.Plan := ⟨"qt", ["*"], "k\"\\\n", none, "", "", []⟩
    let b := ((fresh (.home true)).run [.setChannel, .manage (.apply plan)]).1
    let session := b.installation.session
    let frame : Frame := ⟨true, none, none⟩
    let effects (message : String) := b.effects (.handle (.posted (session.posting frame message)))
    session.installed = true ∧ Origin.isAllowed "null" session.allowedOrigins = true ∧
      effects "[\"\\n\",\n1]" =
        [.channel ⟨"[\"\\n\",\n1]", "null", true⟩, .received ⟨"[\"\\n\",\n1]", "null", true⟩] ∧
      effects "[\"\\n\",\n1" = [] := by
  intro plan b session frame effects
  have hinst : session.installed = true := by decide
  have horigin : Origin.isAllowed (frame.origin?.getD opaqueOrigin) session.allowedOrigins = true := by
    decide
  obtain ⟨-, htakes, htaken, -⟩ := takes_posting_iff_isJson (.home true)
    [.setChannel, .manage (.apply plan)] frame "[\"\\n\",\n1]" hinst horigin
  obtain ⟨-, hrefuses, -, hrefused⟩ := takes_posting_iff_isJson (.home true)
    [.setChannel, .manage (.apply plan)] frame "[\"\\n\",\n1" hinst horigin
  refine ⟨hinst, horigin, htaken (htakes.mpr ⟨by decide +kernel, by decide +kernel⟩), hrefused ?_⟩
  refine Bool.eq_false_iff.mpr fun h => ?_
  exact absurd (hrefuses.mp h).2 (by decide +kernel)

end PageBridge.Bridge
