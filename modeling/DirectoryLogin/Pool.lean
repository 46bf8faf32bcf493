import DirectoryLogin.Service

namespace DirectoryLogin

/-- The bind connections of one server: how many are out, and the ones that wait, newest first. -/
structure Pool (κ : Type) where
  size : Nat
  inUse : Nat := 0
  idle : List κ := []
  deriving Inhabited

namespace Pool

variable {σ κ : Type}

def usualSize : Nat := 8

/-- An empty pool, which lends at least one connection. -/
def ofSize (size : Nat) : Pool κ := { size := max size 1 }

def hasPermit (p : Pool κ) : Bool := p.inUse < p.size

def lend (p : Pool κ) : Pool κ := { p with inUse := p.inUse + 1 }

def free (p : Pool κ) : Pool κ := { p with inUse := p.inUse - 1 }

/-- Takes the newest connection that is still open out of the waiting ones; closed ones are dropped. -/
def takeOpen (svc : Service σ κ) (server : Server) : List κ → Act σ (Option κ × List κ)
  | [] => return (none, [])
  | c :: older => do
    if ← Act.observe (svc.isClosed c) then
      Act.note (.debug "Dropping closed pooled connection" [("server", server.key)])
      takeOpen svc server older
    else return (some c, older)

/-- A bind connection for a caller who has a permit: a waiting one, or a new one. The permit goes back
if there is none. -/
def bind (svc : Service σ κ) (server : Server) (p : Pool κ) :
    Act σ (Except Error κ × Pool κ) := do
  let p := p.lend
  let (found, idle) ← takeOpen svc server p.idle
  let p := { p with idle }
  match found with
  | some c => return (.ok c, p)
  | none =>
    let env := Environment.bind server
    Act.note (.debug "Opening bind connection" [("server", server.key), ("env", env.dump)])
    match ← Act.perform (svc.connect env) with
    | .ok c => return (.ok c, p)
    | .error e => return (.error e, p.free)

/-- Takes a connection back, unless it was closed in the meantime. -/
def release (svc : Service σ κ) (c : κ) (p : Pool κ) : Act σ (Pool κ) := do
  if ← Act.observe (svc.isClosed c) then return p.free
  else return { p.free with idle := c :: p.idle }

def discard (svc : Service σ κ) (c : κ) (p : Pool κ) : Act σ (Pool κ) := do
  match ← Act.perform (svc.close c) with
  | .ok _ => return p.free
  | .error e =>
    Act.note (.debug "Unable to close discarded connection" [("error", e.message)])
    return p.free

/-- Closes connections one after the other; that this fails is only logged. -/
def closeAll (svc : Service σ κ) (server : Server) : List κ → Act σ Unit
  | [] => return
  | c :: rest => do
    match ← Act.perform (svc.close c) with
    | .ok _ => pure ()
    | .error e => Act.note (.debug "Unable to close pooled connection"
        [("server", server.key), ("error", e.message)])
    closeAll svc server rest

def closeIdle (svc : Service σ κ) (server : Server) (p : Pool κ) : Act σ (Pool κ) := do
  closeAll svc server p.idle.reverse
  return { p with idle := [] }

end Pool

end DirectoryLogin
