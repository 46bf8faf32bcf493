import DirectoryLogin.Resolver

namespace DirectoryLogin

namespace Realm

def name : String := "LDAP"

variable {σ κ : Type}

def unsupported (svc : Service σ κ) (servers : List Server) : List Event :=
  (servers.filter fun s => !svc.supports s.mechanism).map fun s =>
    .info "Authentication mechanism is not supported by the directory client"
      [("server", s.key), ("mechanism", s.mechanism.name)]

/-- A wrong setting among test results fails the start; other errors are logged. -/
def judge : List (String × Except Error Unit) → Act σ (Except Error Unit)
  | [] => return .ok ()
  | (_, .ok _) :: rest => judge rest
  | (server, .error e) :: rest => do
    if e.isConfigurationError then return .error e
    Act.note (.warn "Unable to open LDAP connection" [("server", server), ("error", e.message)])
    judge rest

/-- Builds the realm that settings describe, and tests its servers. -/
def start (svc : Service σ κ) (dns : Dns σ) (s : Settings) : Act σ (Except Error (Resolver κ)) := do
  match ← Registry.resolve s dns with
  | .error e => return .error e
  | .ok registry =>
    Act.noteAll (unsupported svc registry.servers)
    let (results, resolver) ← (Resolver.ofRegistry registry).testConnections svc
    match ← judge results with
    | .ok _ => return .ok resolver
    | .error e => return .error e

end Realm

end DirectoryLogin
