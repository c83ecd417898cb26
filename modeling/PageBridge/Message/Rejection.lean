/-!
# Rejections

Why a posting does not reach the application.
-/

namespace PageBridge

/-- Why a posting is refused. -/
inductive Rejection where
  | unknownHandler
  | oversized
  | originNotAllowed
  | malformedEnvelope
  | notInstalled
  | staleSession
  | namespaceMismatch
  | invalidPayload
deriving DecidableEq, Repr

/-- The words for a rejection. -/
def Rejection.message : Rejection → String
  | unknownHandler => "posted to an unknown handler"
  | oversized => "message exceeds size limit"
  | originNotAllowed => "origin not allowed"
  | malformedEnvelope => "malformed envelope"
  | notInstalled => "bridge not installed"
  | staleSession => "invoke key mismatch"
  | namespaceMismatch => "namespace mismatch"
  | invalidPayload => "payload is not JSON"

end PageBridge
