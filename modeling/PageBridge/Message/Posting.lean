import PageBridge.Message.Frame
import PageBridge.Message.Rejection
import PageBridge.Origin.AllowList

/-!
# Postings

A page posts a text to a message handler.  `Posting.receive` is the first of two checks on its way
to the application: the handler must be that of the bridge, the text must not be too long, and the
origin of the frame must be allowed.
-/

namespace PageBridge

/-- A text that a script in a frame posted to a message handler. -/
structure Posting where
  handler : String
  body : String
  frame : Frame
deriving DecidableEq, Repr

/-- A text on its way to the application, with the origin and rank of the frame it comes from. -/
structure Message where
  text : String
  origin : String
  fromMainFrame : Bool
deriving DecidableEq, Repr

/-- The message handler of a bridge. -/
def handlerName : String := "webviewBridge"

/-- The bytes of the longest posting. -/
def maxPostingSize : Nat := 10 * 1024 * 1024

namespace Posting

/-- What a posting says and where it comes from. -/
def content (posting : Posting) : Message :=
  ⟨posting.body, posting.frame.originText, posting.frame.isMain⟩

/-- Checks the handler, the size and the origin of a posting, in this order. -/
def receive (allowed : List String) (posting : Posting) : Except Rejection Message :=
  if posting.handler ≠ handlerName then .error .unknownHandler
  else if maxPostingSize < posting.body.utf8ByteSize then .error .oversized
  else if Origin.isAllowed posting.frame.originText allowed then .ok posting.content
  else .error .originNotAllowed

end Posting

end PageBridge
