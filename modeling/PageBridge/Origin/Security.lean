import PageBridge.Url.Origin

/-!
# Origins that an engine reports

An engine names the security origin of a frame by protocol, host and port.  `SecurityOrigin.text?`
writes it the way the origin of a URL is written.
-/

namespace PageBridge

open PageBridge.Text

/-- The origin of a frame as the engine reports it; port 0 means that there is none. -/
structure SecurityOrigin where
  protocol : String
  host : String
  port : Nat
deriving DecidableEq, Repr

namespace SecurityOrigin

/-- The scheme that a protocol names. -/
def scheme (o : SecurityOrigin) : String :=
  lowerAscii (String.ofList (dropRight (· == ':') (trim o.protocol).toList))

/-- The host, an address of sixteen bytes in brackets. -/
def hostText (o : SecurityOrigin) : String :=
  let host := lowerAscii (trim o.host)
  if host.toList.contains ':' && host.toList.head? != some '[' then "[" ++ host ++ "]" else host

/-- The text of the origin, or none for an opaque one, which has no protocol or no host. -/
def text? (o : SecurityOrigin) : Option String :=
  if o.scheme.isEmpty || o.hostText.isEmpty then none
  else if o.port = 0 ∨ Url.defaultPort? o.scheme = some o.port then
    some (o.scheme ++ "://" ++ o.hostText)
  else some (o.scheme ++ "://" ++ o.hostText ++ ":" ++ toString o.port)

end SecurityOrigin

/-- The text that stands for every opaque origin. -/
def opaqueOrigin : String := "null"

end PageBridge
