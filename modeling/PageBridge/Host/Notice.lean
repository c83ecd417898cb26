import PageBridge.Keyed
import PageBridge.Message.Posting
import PageBridge.Navigation

/-!
# Notices to applications

An application registers callbacks with a view, one for each kind of notice.
-/

namespace PageBridge.Host

/-- Something that an application is told about a view. -/
inductive Notice where
  | received (message : Message)
  | channel (text : String)
  | result (result error : String)
  | changed (change : Navigation.Change)
  | closed
deriving DecidableEq, Repr

namespace Notice

/-- The kinds of notices. -/
inductive Kind where
  | webMessage
  | channelMessage
  | scriptResult
  | loadingChanged
  | loadedChanged
  | urlChanged
  | closed
deriving DecidableEq, Repr

/-- The kind of a change of a property. -/
def kindOfChange : Navigation.Change → Kind
  | .loading _ => .loadingChanged
  | .loaded _ => .loadedChanged
  | .url _ => .urlChanged

/-- The kind of a notice. -/
def kind : Notice → Kind
  | received _ => .webMessage
  | channel _ => .channelMessage
  | result _ _ => .scriptResult
  | changed change => kindOfChange change
  | closed => .closed

end Notice

/-- The name of a callback. -/
abbrev Callback := String

/-- The callbacks of a view, by the kind of notice that they are for. -/
abbrev Callbacks := Keyed Notice.Kind Callback

end PageBridge.Host
