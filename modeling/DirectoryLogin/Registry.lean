import DirectoryLogin.Discovery
import DirectoryLogin.Server

namespace DirectoryLogin

open Text

/-- Servers in the order in which they are asked: at least one, and each name once. -/
structure Registry where
  servers : List Server
  servers_ne : servers ≠ []
  keys_nodup : (servers.map (·.key)).Nodup

namespace Registry

def keys (r : Registry) : List String :=
  r.servers.map (·.key)

def get? (r : Registry) (key : String) : Option Server :=
  r.servers.find? (·.key == key)

def hasGroupMapping (r : Registry) : Bool :=
  r.servers.any (·.groupMapping.isSome)

def firstRepeated (seen : List String) : List String → Option String
  | [] => none
  | key :: rest => if seen.contains key then some key else firstRepeated (key :: seen) rest

def ofServers (servers : List Server) : Except Error Registry :=
  if some_ : servers ≠ [] then
    if distinct : (servers.map (·.key)).Nodup then .ok ⟨servers, some_, distinct⟩
    else
      let key := (firstRepeated [] (servers.map (·.key))).getD ""
      .error (.configuration s!"duplicate LDAP server key '{key}'")
  else .error (.configuration "no LDAP server configured")

def root : String := "ldap"

/-- The name of the only server where none is given. -/
def defaultKey : String := "<default>"

inductive Shape
  /-- Servers with names, each with settings of its own. -/
  | listed (keys : List String)
  | single (url : String)
  | discovered (realm : String)
  | none
  deriving DecidableEq, Inhabited

def Shape.of (s : Settings) : Shape :=
  match s.getItems "ldap.servers" with
  | [] =>
    match s.get? "ldap.url" with
    | some url => .single url
    | .none =>
      match s.get? "ldap.realm" with
      | some realm => .discovered realm
      | .none => .none
  | keys => .listed keys

/-- Where the settings of one server are: the text that its settings begin with, its name, and its
URL if there is one. -/
structure Source where
  start : String
  key : String
  url : Option String
  deriving DecidableEq, Inhabited

def missingUrl (start : String) : Error :=
  .configuration
    s!"The property '{start}.url' is empty and no LDAP server could be auto-discovered."

namespace Source

def listed (s : Settings) (key : String) : Source :=
  let start := root ++ "." ++ key
  ⟨start, key, s.get? (start ++ ".url")⟩

/-- A server that was discovered; it shares the settings with all others. -/
def discovered (r : SrvRecord) : Source :=
  ⟨root, r.key, some r.url⟩

def read (s : Settings) (source : Source) : Except Error Server :=
  match source.url with
  | .none => .error (missingUrl source.start)
  | some url => Server.ofSettings s source.start source.key url

def notices (s : Settings) (source : Source) : List Event :=
  match source.url with
  | .none => []
  | some _ => Server.notices s source.start

/-- What is logged while sources are read one after the other, up to the first that fails. -/
def allNotices (s : Settings) : List Source → List Event
  | [] => []
  | source :: rest =>
    source.notices s ++ match source.read s with
      | .ok _ => allNotices s rest
      | .error _ => []

end Source

/-- The settings of a server; where servers have names, they stand under the name. -/
def serverSettings : List String :=
  ["url", "authentication", "bindDn", "bindPassword", "realm", "referralHandling",
    "referralFilterList", "searchScope", "connectTimeout", "readTimeout", "user", "group"]

/-- The part of a setting's key that follows the namespace, up to the next dot. -/
def firstPart (key : String) : String :=
  String.ofList ((key.toList.drop (root.length + 1)).takeWhile (· != '.'))

/-- A setting of a server that belongs to none of the listed ones. -/
def unlinked? (s : Settings) (keys : List String) : Option String :=
  (s.keysFrom (root ++ ".")).find? fun key =>
    !keys.contains (firstPart key) && serverSettings.contains (firstPart key)

/-- Settings with a list of servers must belong to one of them. -/
def rejectUnlinked (s : Settings) (keys : List String) : Except Error Unit :=
  match unlinked? s keys with
  | .none => .ok ()
  | some key => .error (.configuration
      ("When defining multiple LDAP servers with the property 'ldap.servers', all LDAP " ++
        "properties must be linked to one of those servers. Please remove properties like " ++
        s!"'ldap.url', 'ldap.realm', ... (found '{key}')"))

variable {σ : Type}

/-- Where the settings of all servers are. The domain name system is asked for a realm alone. -/
def sources (s : Settings) (dns : Dns σ) : Act σ (Except Error (List Source)) :=
  match Shape.of s with
  | .listed keys =>
    match rejectUnlinked s keys with
    | .ok _ => return .ok (keys.map (Source.listed s))
    | .error e => return .error e
  | .single url => return .ok [⟨root, defaultKey, some url⟩]
  | .none => return .error (missingUrl root)
  | .discovered realm => do
    Act.note (.info "No LDAP URL configured, discovering servers" [("realm", realm)])
    match ← discover dns realm with
    | .error e => return .error e
    | .ok [] => return .error (missingUrl root)
    | .ok records => return .ok (records.map Source.discovered)

/-- The servers of a list of sources, if all of them can be read. -/
def ofSources (s : Settings) (sources : List Source) : Except Error Registry := do
  ofServers (← sources.mapM (Source.read s))

def announcement (server : Server) : List Event :=
  [.info "LDAP server configured" [("server", server.key), ("url", server.url),
      ("mechanism", server.mechanism.name), ("referral", server.referralPolicy.name)],
    match server.userMapping with
    | some mapping => .info "User mapping" [("server", server.key), ("mapping", mapping.dump)]
    | .none => .info "Users will not be resolved, because no user base DN is configured"
        [("server", server.key)],
    match server.groupMapping with
    | some mapping => .info "Group mapping" [("server", server.key), ("mapping", mapping.dump)]
    | .none => .info "Groups will not be synchronized, because no group base DN is configured"
        [("server", server.key)]]

def resolve (s : Settings) (dns : Dns σ) : Act σ (Except Error Registry) := do
  match ← sources s dns with
  | .error e => return .error e
  | .ok sources =>
    Act.noteAll (Source.allNotices s sources)
    match ofSources s sources with
    | .error e => return .error e
    | .ok registry =>
      Act.noteAll (registry.servers.flatMap announcement)
      return .ok registry

def dump (r : Registry) : String :=
  record "ServerRegistry" [("servers", bracketed (r.servers.map (·.dump)))]

end Registry

end DirectoryLogin
