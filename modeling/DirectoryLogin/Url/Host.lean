import DirectoryLogin.Url.Address
import DirectoryLogin.Url.Domain
import DirectoryLogin.Url.Percent

namespace DirectoryLogin.Url

open DirectoryLogin.Text

inductive ParseError
  | emptyHost
  | badPort
  | badIpv4
  | badIpv6
  | badDomainCharacter
  | badDomainName
  | noBase
  deriving DecidableEq, Inhabited

def ParseError.message : ParseError → String
  | emptyHost => "empty host"
  | badPort => "invalid port number"
  | badIpv4 => "invalid IPv4 address"
  | badIpv6 => "invalid IPv6 address"
  | badDomainCharacter => "invalid domain character"
  | badDomainName => "invalid international domain name"
  | noBase => "relative URL without a base"

def bracketedHost (inner : List Char) : Except ParseError (List Char) :=
  if inner.getLast? = some ']' then
    match ipv6? inner.dropLast with
    | some address => .ok ('[' :: ipv6Text address ++ [']'])
    | none => .error .badIpv6
  else .error .badIpv6

def isForbiddenInHost (c : Char) : Bool :=
  ['\x00', '\t', '\n', '\r', ' ', '#', '/', ':', '<', '>', '?', '@', '[', '\\', ']', '^',
    '|'].contains c

def plainHost (cs : List Char) : Except ParseError (List Char) :=
  match cs with
  | '[' :: inner => bracketedHost inner
  | _ =>
    if cs.any isForbiddenInHost then .error .badDomainCharacter
    else .ok (percentEncode isControl cs)

/-- The host of a URL whose scheme is one of the web's. -/
def webHost (cs : List Char) : Except ParseError (List Char) :=
  match cs with
  | '[' :: inner => bracketedHost inner
  | _ => do
    let domain ← match (ofUtf8? (percentDecode cs)).bind domainToAscii? with
      | some domain => pure domain
      | none => throw .badDomainName
    if domain.isEmpty then throw .emptyHost
    if endsInNumber domain then
      match ipv4? domain with
      | some address => return ipv4Text address
      | none => throw .badIpv4
    return domain

end DirectoryLogin.Url
