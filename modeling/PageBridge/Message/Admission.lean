import PageBridge.Message.Envelope
import PageBridge.Message.Posting
import PageBridge.Session

/-!
# Admission of messages

The second check of a posting opens its envelope in a session: the origin must be allowed, the
marks of the envelope must be those of the session, and the payload must be JSON.
-/

namespace PageBridge

/-- Whether the marks of an envelope are those of a session. -/
def Session.check (session : Session) (envelope : Envelope) : Except Rejection Unit :=
  if !session.installed then .error .notInstalled
  else if envelope.invokeKey ≠ session.invokeKey then .error .staleSession
  else if envelope.nspace.any (· ≠ session.nspace) then .error .namespaceMismatch
  else .ok ()

/-- The message with its payload in the place of the envelope that it is in, if the session admits
it. -/
def Message.unwrap (session : Session) (message : Message) : Except Rejection Message :=
  match Envelope.parse? message.text with
  | none => .error .malformedEnvelope
  | some envelope =>
    if !Origin.isAllowed message.origin session.allowedOrigins then .error .originNotAllowed
    else
      match session.check envelope with
      | .error rejection => .error rejection
      | .ok () =>
        if Json.isJson envelope.payload then .ok { message with text := envelope.payload }
        else .error .invalidPayload

/-- Takes a posting through both checks. -/
def Posting.accept (session : Session) (posting : Posting) : Except Rejection Message :=
  (posting.receive session.allowedOrigins).bind (Message.unwrap session)

end PageBridge
