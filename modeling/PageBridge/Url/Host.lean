import PageBridge.Url.Address
import PageBridge.Url.Domain
import PageBridge.Url.Percent

/-!
# Hosts

The host of a URL: a domain, an address, or, where the scheme is not one of the special ones, a
name that the URL does not look into.
-/

namespace PageBridge.Url

/-- Why a text is no URL. -/
inductive Error where
  | emptyHost
  | invalidDomain
  | invalidPort
  | invalidIpv4
  | invalidIpv6
  | invalidHostCharacter
  | relativeWithoutBase
deriving DecidableEq, Repr

/-- The words for an error. -/
def Error.message : Error → String
  | emptyHost => "empty host"
  | invalidDomain => "invalid international domain name"
  | invalidPort => "invalid port number"
  | invalidIpv4 => "invalid IPv4 address"
  | invalidIpv6 => "invalid IPv6 address"
  | invalidHostCharacter => "invalid domain character"
  | relativeWithoutBase => "relative URL without a base"

/-- The host of a URL. -/
inductive Host where
  | domain (name : List Char)
  | ipv4 (address : Nat)
  | ipv6 (pieces : List Nat)
  | opaqueName (name : List Char)
deriving DecidableEq, Repr

namespace Host

/-- The text of a host. -/
def render : Host → List Char
  | domain name => name
  | ipv4 address => Ipv4.render address
  | ipv6 pieces => '[' :: Ipv6.render pieces ++ [']']
  | opaqueName name => name

/-- Reads an address in brackets, of which the first one is read already. -/
def parseBracketed (cs : List Char) : Except Error Host :=
  if cs.getLast? = some ']' then
    match Ipv6.parse cs.dropLast with
    | some pieces => .ok (.ipv6 pieces)
    | none => .error .invalidIpv6
  else .error .invalidIpv6

/-- The host that the ASCII form of a domain denotes. -/
def ofDomain (domain : List Char) : Except Error Host :=
  if domain.isEmpty then .error .emptyHost
  else if Ipv4.endsInNumber domain then
    match Ipv4.parse domain with
    | some address => .ok (.ipv4 address)
    | none => .error .invalidIpv4
  else .ok (.domain domain)

/-- Reads the host of a URL with a special scheme. -/
def parse : List Char → Except Error Host
  | '[' :: cs => parseBracketed cs
  | cs =>
    match (Percent.decodeText? cs).bind Domain.toAscii with
    | some ascii => ofDomain ascii
    | none => .error .invalidDomain

/-- The characters that no host may hold. -/
def isForbidden (c : Char) : Bool :=
  c == '\x00' || c == '\t' || c == '\n' || c == '\r' || c == ' ' || c == '#' || c == '/' || c == ':'
    || c == '<' || c == '>' || c == '?' || c == '@' || c == '[' || c == '\\' || c == ']'
    || c == '^' || c == '|'

/-- Reads the host of a URL with another scheme. -/
def parseOpaque : List Char → Except Error Host
  | '[' :: cs => parseBracketed cs
  | cs =>
    if cs.any isForbidden then .error .invalidHostCharacter
    else .ok (.opaqueName (Percent.encode Percent.controls cs))

end Host

end PageBridge.Url
