import DirectoryLogin.Directory.HostLookup
import DirectoryLogin.Directory.Wire
import DirectoryLogin.Machine
import DirectoryLogin.Url.Basic
import DirectoryLogin.Url.Percent

namespace DirectoryLogin

open Text

namespace Offline

/-- Why no connection comes about over the network. A URL without a host means the machine itself. -/
def unreachable (host : Option String) : String :=
  "I/O error: " ++ (HostLookup.ofHost (host.getD "localhost")).failure

/-- The room for the path of a socket, which an end mark needs one byte of. -/
def socketRoom : Nat := 108

/-- Why no connection comes about through a socket at a path. A path that begins with NUL is the name of
a socket apart from the files, and nobody listens there. -/
def noSocket (m : Machine) (path : List Char) : String :=
  "I/O error: " ++
    match path with
    | '\x00' :: name =>
      if socketRoom ≤ (utf8 name).length then
        "abstract socket name must be shorter than SUN_LEN"
      else PathError.refused.message
    | _ =>
      if path.contains '\x00' then "paths must not contain interior null bytes"
      else if socketRoom ≤ (utf8 path).length then "path must be shorter than SUN_LEN"
      else (m.connect (String.ofList path)).message

def noLocalSocket (m : Machine) (host : Option String) : String :=
  match host.getD "" with
  | "" => "empty Unix domain socket path"
  | path =>
    if path.toList.contains ':' then "the port must be empty in the ldapi scheme"
    else noSocket m (ofUtf8Lossy (Url.percentDecode path.toList))

def reason (m : Machine) (url : String) : String :=
  match Url.parse url with
  | .error e => "url parse error: " ++ e.message
  | .ok parsed =>
    match parsed.scheme with
    | "ldap" | "ldaps" => unreachable parsed.host
    | "ldapi" => noLocalSocket m parsed.host
    | other => "unknown LDAP URL scheme: " ++ other

end Offline

/-- The protocol library of a machine that reaches no other one. -/
def Wire.offline (m : Machine) : Wire Unit where
  dial url _ _ w := (.error (Offline.reason m url), w)
  bind _ _ _ w := (.error "result recv error: channel closed", w)
  search _ _ _ _ _ w := (.error "op send error: channel closed", w)
  next _ _ w := (.ok none, w)
  finish _ _ w := ({}, w)
  abandon _ _ w := (.error "op send error: channel closed", w)
  unbind _ w := (.error "op send error: channel closed", w)
  isClosed _ _ := true
  remaining _ _ _ := 0
  next_lt took := by simp at took

end DirectoryLogin
