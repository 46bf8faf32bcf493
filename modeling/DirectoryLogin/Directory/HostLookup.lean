import DirectoryLogin.Text.Ascii
import DirectoryLogin.Url.Address

namespace DirectoryLogin

open Text

inductive HostLookup
  | numbered
  | pieced (address : List Nat)
  /-- A name that a name server would be asked for. -/
  | unanswered
  /-- A text that is the name of no host. -/
  | unknown
  deriving DecidableEq, Inhabited

namespace HostLookup

/-- An IPv4 address in up to four numbers. Unlike in a web URL no dot may end it, and a number has
digits after its `0x`. -/
def isNumbered (host : List Char) : Bool :=
  host.getLast? != some '.' &&
    !(pieces (· == '.') host).any (fun part => part.map Char.toLower == ['0', 'x']) &&
    (Url.ipv4? host).isSome

def maxLabel : Nat := 63

/-- The most bytes of a name on the wire, where a length byte precedes each label and a zero ends it. -/
def maxWire : Nat := 255

def isLabel (label : List Char) : Bool :=
  !label.isEmpty && label.length ≤ maxLabel &&
    label.all fun c => c.isAlphanum || c == '-' || c == '_'

/-- The labels of a name; a dot may end it. -/
def labels (host : List Char) : List (List Char) :=
  pieces (· == '.') (if host.getLast? = some '.' then host.dropLast else host)

/-- A name that a server can be asked for: the root of all names, or labels of which the first begins
with no hyphen. -/
def isName (host : List Char) : Bool :=
  host == ['.'] ||
    (labels host).all isLabel && host.head? != some '-' &&
      (labels host).foldl (fun size label => size + label.length + 1) 1 ≤ maxWire

/-- Looks up a host as a URL writes it, an IPv6 address in brackets. A star is any address of the
machine itself. -/
def ofHost (host : String) : HostLookup :=
  match host.toList with
  | '[' :: inner =>
    match Url.ipv6? inner.dropLast with
    | some address => pieced address
    | none => unknown
  | cs =>
    if isNumbered cs || cs == ['*'] || sameLetters host "localhost" then numbered
    else if isName cs then unanswered
    else unknown

/-- Why nothing at an IPv6 address is reached: one that stands for an IPv4 address or for a group of
machines has no way to it, one on the local link names no link, and for any other the machine has no
address to come from. -/
def pieceFailure (address : List Nat) : String :=
  let first := address.head?.getD 0
  if address.take 6 = [0, 0, 0, 0, 0, 0xffff] || 0xff00 ≤ first then
    "Network is unreachable (os error 101)"
  else if 0xfe80 ≤ first && first < 0xfec0 then "Invalid argument (os error 22)"
  else "Cannot assign requested address (os error 99)"

def failure : HostLookup → String
  | numbered => "Network is unreachable (os error 101)"
  | pieced address => pieceFailure address
  | unanswered => "failed to lookup address information: Temporary failure in name resolution"
  | unknown => "failed to lookup address information: Name or service not known"

end HostLookup

end DirectoryLogin
