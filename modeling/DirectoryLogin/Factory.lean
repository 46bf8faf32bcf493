import DirectoryLogin.Find
import DirectoryLogin.Pool

namespace DirectoryLogin

open Text

/-- A server with the pool of its bind connections. -/
structure Factory (κ : Type) where
  server : Server
  pool : Pool κ

namespace Factory

variable {σ κ : Type}

def ofServer (server : Server) (poolSize : Nat := Pool.usualSize) : Factory κ :=
  ⟨server, Pool.ofSize poolSize⟩

def onPool {α : Type} (f : Factory κ) (act : Pool κ → Act σ (α × Pool κ)) :
    Act σ (α × Factory κ) := do
  let (a, pool) ← act f.pool
  return (a, { f with pool })

/-- Opens a connection as a user, which the caller must close. -/
def openUser (svc : Service σ κ) (server : Server) (principal credential : String) :
    Act σ (Except Error κ) := do
  let env := Environment.user server principal credential
  Act.note (.debug "Opening user connection" [("server", server.key), ("env", env.dump)])
  Act.perform (svc.connect env)

def testConnection (svc : Service σ κ) (f : Factory κ) :
    Act σ (Except Error Unit × Factory κ) := do
  if f.server.mechanism.isSasl && f.server.bindDn.isNone then
    return (.error (.configuration
      s!"When using SASL - property bindDn is required (server '{f.server.key}')"), f)
  let place := [("server", f.server.key), ("url", f.server.url)]
  let (bound, pool) ← f.pool.bind svc f.server
  match bound with
  | .ok c =>
    let pool ← pool.release svc c
    Act.note (.info "Test LDAP connection: OK" place)
    return (.ok (), { f with pool })
  | .error e =>
    Act.note (.info "Test LDAP connection: FAIL" place)
    return (.error e, { f with pool })

def closeIdle (svc : Service σ κ) (f : Factory κ) : Act σ (Factory κ) := do
  return { f with pool := ← f.pool.closeIdle svc f.server }

/-- Runs a request on a bind connection. After an error of the connection it is closed; otherwise it
goes back into the pool. -/
def lookup (svc : Service σ κ) (r : Request) (mode : FindMode) (f : Factory κ) :
    Act σ (Except Error (List Entry) × Factory κ) := do
  let (bound, pool) ← f.pool.bind svc f.server
  match bound with
  | .error e => return (.error e, { f with pool })
  | .ok c =>
    let found ← Search.find svc f.server c r mode
    let broken := match found with
      | .error e => e.isConnectionError
      | .ok _ => false
    let pool ← if broken then pool.discard svc c else pool.release svc c
    return (found, { f with pool })

/-- Whether the server takes the password of a principal. A refused bind means that it does not. -/
def checkBind (svc : Service σ κ) (server : Server) (principal password : String) :
    Act σ (Except Error Bool) := do
  match ← openUser svc server principal password with
  | .ok c =>
    match ← Act.perform (svc.close c) with
    | .ok _ => return .ok true
    | .error e =>
      Act.note (.debug "Unable to close user connection"
        [("server", server.key), ("error", e.message)])
      return .ok true
  | .error (.bind reason) =>
    Act.note (.debug "Bind refused"
      [("server", server.key), ("principal", principal), ("reason", reason)])
    return .ok false
  | .error e => return .error e

def dump (f : Factory κ) : String :=
  openRecord "ConnectionFactory" [("config", f.server.dump)]

end Factory

end DirectoryLogin
