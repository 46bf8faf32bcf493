import DirectoryLogin.Server

namespace DirectoryLogin

open Text

/-- The environment of one connection. Without a principal it is anonymous. -/
structure Environment where
  url : String
  mechanism : Mechanism
  principal : Option String
  credential : Option String
  realm : Option String
  /-- Whether later callers may use the connection again. -/
  pooled : Bool
  connectTimeout : Nat
  readTimeout : Nat
  deriving DecidableEq, Inhabited

namespace Environment

def forServer (s : Server) (principal credential : Option String) (pooled : Bool) : Environment :=
  { url := s.url
    mechanism := s.mechanism
    principal, credential
    realm := s.realm
    pooled
    connectTimeout := s.connectTimeout
    readTimeout := s.readTimeout }

def bind (s : Server) : Environment :=
  forServer s s.bindDn s.bindPassword true

/-- A connection as a user, which no one else may use. -/
def user (s : Server) (principal credential : String) : Environment :=
  forServer s (some principal) (some credential) false

def host? (e : Environment) : Option String :=
  hostOf e.url

/-- Everything but the credential, the host and the timeouts. -/
def dump (e : Environment) : String :=
  openRecord "BindEnvironment" [
    ("url", quoted e.url),
    ("mechanism", e.mechanism.dump),
    ("principal", quotedOption e.principal),
    ("credential", quotedOption (e.credential.map fun _ => "***")),
    ("realm", quotedOption e.realm),
    ("pooled", if e.pooled then "true" else "false")]

/-- Where a referral leads to: its scheme, host and port. -/
def referralUrl (referral : String) : Except Error String := do
  let url ← readUrl referral
  match url.host with
  | none => throw (.invalidUrl referral "missing host")
  | some host =>
    match url.port with
    | some port => return s!"{url.scheme}://{host}:{String.ofList (numeral port)}"
    | none => return s!"{url.scheme}://{host}"

/-- A connection to a referral's server with the bind credentials. -/
def referral (s : Server) (url : String) : Environment :=
  { bind s with url, pooled := false }

end Environment

end DirectoryLogin
