import DirectoryLogin.Mapping.Group
import DirectoryLogin.Mapping.User
import DirectoryLogin.Mechanism
import DirectoryLogin.ReferralPolicy
import DirectoryLogin.Text.Duration
import DirectoryLogin.Url.Basic

namespace DirectoryLogin

open Text

/-- One directory server. Timeouts are in milliseconds. -/
structure Server where
  /-- The name of the server among all servers. -/
  key : String
  url : String
  mechanism : Mechanism := .simple
  /-- Who looks entries up. -/
  bindDn : Option String := none
  bindPassword : Option String := none
  /-- The realm of challenge and response, and of Kerberos. -/
  realm : Option String := none
  referralPolicy : ReferralPolicy := .allowAll
  scope : Scope := .subtree
  connectTimeout : Nat := 5000
  readTimeout : Nat := 30000
  userMapping : Option UserMapping := none
  groupMapping : Option GroupMapping := none
  deriving Inhabited

def readUrl (url : String) : Except Error Url :=
  match Url.parse url with
  | .ok parsed => .ok parsed
  | .error e => .error (.invalidUrl url e.message)

def hostOf (url : String) : Option String :=
  match Url.parse url with
  | .ok parsed => parsed.host
  | .error _ => none

/-- A server is reached by a URL of a directory's scheme, and over the network only by a host. -/
def validateUrl (url : String) : Except Error Unit := do
  let parsed ← readUrl url
  if !(["ldap", "ldaps", "ldapi"].contains parsed.scheme) then
    throw (.invalidUrl url s!"unsupported scheme '{parsed.scheme}'")
  if parsed.scheme != "ldapi" && parsed.host.isNone then
    throw (.invalidUrl url "missing host")

namespace Server

/-- A server has a name, a URL of a directory, and a realm if it authenticates in one. -/
def validate (s : Server) : Except Error Unit := do
  if !hasContent s.key then throw (.configuration "server key cannot be empty")
  validateUrl s.url
  if s.mechanism = .digestMd5 && s.realm.isNone then
    throw (.configuration s!"server '{s.key}': DIGEST-MD5 authentication requires a realm")

def checked (s : Server) : Except Error Server := do
  s.validate
  return s

def readMechanism (s : Settings) (server : String) : Except Error Mechanism :=
  match s.get? (server ++ ".authentication") with
  | some word => Mechanism.read word
  | none => .ok .simple

def readReferralPolicy (s : Settings) (server : String) : Except Error ReferralPolicy :=
  ReferralPolicy.ofSettings (s.get? (server ++ ".referralHandling"))
    (s.getItems (server ++ ".referralFilterList"))

def readScope (s : Settings) (server : String) : Except Error Scope :=
  match s.get? (server ++ ".searchScope") with
  | some word => Scope.read word
  | none => .ok .subtree

def ofSettings (s : Settings) (server key url : String) : Except Error Server := do
  let mechanism ← readMechanism s server
  let referralPolicy ← readReferralPolicy s server
  let scope ← readScope s server
  let userMapping ← UserMapping.ofSettings s server
  let connectTimeout ← s.getMillis (server ++ ".connectTimeout")
  let readTimeout ← s.getMillis (server ++ ".readTimeout")
  checked {
    key, url, mechanism, referralPolicy, scope, userMapping
    bindDn := s.get? (server ++ ".bindDn")
    bindPassword := s.get? (server ++ ".bindPassword")
    realm := s.get? (server ++ ".realm")
    connectTimeout := connectTimeout.getD 5000
    readTimeout := readTimeout.getD 30000
    groupMapping := GroupMapping.ofSettings s server }

/-- What is logged while the server's settings are read, as far as reading comes. -/
def notices (s : Settings) (server : String) : List Event :=
  match readMechanism s server, readReferralPolicy s server, readScope s server with
  | .ok _, .ok _, .ok _ =>
    UserMapping.notices s server ++
      match UserMapping.ofSettings s server with
      | .ok _ => GroupMapping.notices s server
      | .error _ => []
  | _, _, _ => []

def host? (s : Server) : Option String :=
  hostOf s.url

/-- Everything about the server but its password. -/
def dump (s : Server) : String :=
  record "ServerConfig" [
    ("key", quoted s.key),
    ("url", quoted s.url),
    ("mechanism", s.mechanism.dump),
    ("bind_dn", quotedOption s.bindDn),
    ("bind_password", quotedOption (s.bindPassword.map fun _ => "***")),
    ("realm", quotedOption s.realm),
    ("referral_policy", s.referralPolicy.dump),
    ("scope", s.scope.name),
    ("connect_timeout", duration s.connectTimeout),
    ("read_timeout", duration s.readTimeout),
    ("user_mapping", optional (s.userMapping.map (·.dump))),
    ("group_mapping", optional (s.groupMapping.map (·.dump)))]

end Server

end DirectoryLogin
