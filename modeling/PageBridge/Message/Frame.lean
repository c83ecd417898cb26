import PageBridge.Origin.Security

/-!
# Frames

A message comes from a frame of the page.  The origin of the frame is the security origin that the
engine reports, or else that of the URL the frame was loaded from.
-/

namespace PageBridge

/-- A frame as the engine describes it. -/
structure Frame where
  isMain : Bool
  security : Option SecurityOrigin
  url : Option String
deriving DecidableEq, Repr

namespace Frame

/-- The origin of a frame, if it has one. -/
def origin? (frame : Frame) : Option String :=
  (frame.security.bind (·.text?)).or (frame.url.bind Url.extractOrigin)

/-- The origin that a frame is judged by. -/
def originText (frame : Frame) : String :=
  frame.origin?.getD opaqueOrigin

end Frame

end PageBridge
