import DirectoryLogin.Factory
import DirectoryLogin.Registry
import DirectoryLogin.Unicode.Case

namespace DirectoryLogin

open Text

/-- A login with its realm in upper case, unless it names one itself. -/
def principalName (login : String) (realm : Option String) : String :=
  match realm with
  | some realm => if login.toList.contains '@' then login else login ++ "@" ++ Unicode.capitals realm
  | none => login

/-- The profile of a user; what the directory does not know is empty. -/
structure UserDetails where
  name : String
  email : String
  deriving DecidableEq, Inhabited

inductive Reply (α : Type)
  | answer (a : α)
  /-- The server cannot help. -/
  | nothing
  | failure (e : Error)

/-- A registry with the connections to each of its servers. -/
structure Resolver (κ : Type) where
  registry : Registry
  factories : List (Factory κ)

namespace Resolver

variable {σ κ α : Type}

def ofRegistry (registry : Registry) : Resolver κ :=
  ⟨registry, registry.servers.map Factory.ofServer⟩

abbrev Question (σ κ α : Type) := Factory κ → Act σ (Reply α × Factory κ)

/-- Asks the servers in turn until one has an answer. Gives the answer, if there is one, and else the
last error, if there was one. -/
def askUntil (ask : Question σ κ α) (last : Option Error) :
    List (Factory κ) → Act σ (Reply α × List (Factory κ))
  | [] => return (match last with | some e => .failure e | none => .nothing, [])
  | f :: rest => do
    let (reply, f) ← ask f
    match reply with
    | .answer a => return (.answer a, f :: rest)
    | .nothing =>
      let (found, rest) ← askUntil ask last rest
      return (found, f :: rest)
    | .failure e =>
      let (found, rest) ← askUntil ask (some e) rest
      return (found, f :: rest)

/-- Asks all servers. Gives their answers, in order, and the last error, if there was one. -/
def askAll (ask : Question σ κ α) (last : Option Error) :
    List (Factory κ) → Act σ ((List α × Option Error) × List (Factory κ))
  | [] => return (([], last), [])
  | f :: rest => do
    let (reply, f) ← ask f
    let last := match reply with
      | .failure e => some e
      | _ => last
    let ((answers, last), rest) ← askAll ask last rest
    let answers := match reply with
      | .answer a => a :: answers
      | _ => answers
    return ((answers, last), f :: rest)

/-- The entry of a login on one server, with the attributes given. That the base is missing there
means that the user is. -/
def findUser (svc : Service σ κ) (mapping : UserMapping) (login : String)
    (attributes : List String) (f : Factory κ) :
    Act σ (Except Error (Option Entry) × Factory κ) := do
  let request := { mapping.search login with scope := f.server.scope, attributes }
  let (found, f) ← f.lookup svc request mapping.findMode
  match found with
  | .ok entries => return (.ok entries.head?, f)
  | .error e =>
    if e.isNotFound then
      Act.note (.debug "Base DN not found"
        [("server", f.server.key), ("base", request.baseDn)])
      return (.ok none, f)
    else return (.error e, f)

/-- Who a login is on a server, as far as the password check is concerned: the entry's name, or the
login itself where the mechanism does without one. -/
def principalOf (svc : Service σ κ) (login : String) : Question σ κ String := fun f => do
  if f.server.mechanism.isSasl then return (.answer login, f)
  match f.server.userMapping with
  | none =>
    Act.note (.debug "No user mapping, skipping server" [("server", f.server.key)])
    return (.nothing, f)
  | some mapping =>
    let place := [("server", f.server.key), ("login", login)]
    let (found, f) ← findUser svc mapping login [] f
    match found with
    | .ok (some entry) => return (.answer entry.dn, f)
    | .ok none =>
      Act.note (.debug "User not found" place)
      return (.nothing, f)
    | .error e =>
      Act.note (.warn "Unable to look up user" (place ++ [("error", e.message)]))
      return (.failure e, f)

def checkPassword (svc : Service σ κ) (kerberos : Kerberos σ) (server : Server)
    (principal password : String) : Act σ (Except Error Bool) :=
  if server.mechanism = .gssapi then
    kerberos (principalName principal server.realm) password
  else Factory.checkBind svc server principal password

def accepts (svc : Service σ κ) (kerberos : Kerberos σ) (login password : String) :
    Question σ κ Unit := fun f => do
  let (who, f) ← principalOf svc login f
  match who with
  | .nothing => return (.nothing, f)
  | .failure e => return (.failure e, f)
  | .answer principal =>
    match ← checkPassword svc kerberos f.server principal password with
    | .ok true =>
      Act.note (.debug "User authenticated" [("server", f.server.key), ("login", login)])
      return (.answer (), f)
    | .ok false =>
      Act.note (.debug "Password is not valid for principal"
        [("server", f.server.key), ("principal", principal)])
      return (.nothing, f)
    | .error e =>
      Act.note (.warn "Unable to authenticate"
        [("server", f.server.key), ("login", login), ("error", e.message)])
      return (.failure e, f)

/-- Whether some server takes the password of a login. A blank login or password asks no server. -/
def authenticate (svc : Service σ κ) (kerberos : Kerberos σ) (login password : String)
    (r : Resolver κ) : Act σ (Bool × Resolver κ) := do
  if !hasContent login || !hasContent password then
    Act.note (.debug "Blank login or password, authentication refused")
    return (false, r)
  let (reply, factories) ← askUntil (accepts svc kerberos login password) none r.factories
  let r := { r with factories }
  match reply with
  | .answer _ => return (true, r)
  | .nothing => return (false, r)
  | .failure e =>
    Act.note (.error "User not authenticated" [("login", login), ("error", e.message)])
    return (false, r)

def detailsOn (svc : Service σ κ) (login : String) : Question σ κ UserDetails := fun f => do
  match f.server.userMapping with
  | none => return (.nothing, f)
  | some mapping =>
    let place := [("server", f.server.key), ("login", login)]
    let (found, f) ←
      findUser svc mapping login [mapping.realNameAttribute, mapping.emailAttribute] f
    match found with
    | .ok (some entry) =>
      return (.answer
        { name := (entry.first? mapping.realNameAttribute).getD ""
          email := (entry.first? mapping.emailAttribute).getD "" }, f)
    | .ok none =>
      Act.note (.debug "User not found" place)
      return (.nothing, f)
    | .error e =>
      Act.note (.warn "Unable to retrieve details" (place ++ [("error", e.message)]))
      return (.failure e, f)

/-- The profile of a login, from the first server that knows it. -/
def userDetails (svc : Service σ κ) (login : String) (r : Resolver κ) :
    Act σ (Except Error (Option UserDetails) × Resolver κ) := do
  Act.note (.debug "Requesting details for user" [("login", login)])
  let (reply, factories) ← askUntil (detailsOn svc login) none r.factories
  let r := { r with factories }
  match reply with
  | .answer details => return (.ok (some details), r)
  | .nothing => return (.ok none, r)
  | .failure e => return (.error e, r)

def groupsOn (svc : Service σ κ) (login : String) : Question σ κ (List String) := fun f => do
  match f.server.userMapping, f.server.groupMapping with
  | some users, some groups =>
    let place := [("server", f.server.key), ("login", login)]
    let (found, f) ← findUser svc users login groups.requiredAttributes f
    match found with
    | .ok none =>
      Act.note (.debug "User not found" place)
      return (.nothing, f)
    | .error e =>
      Act.note (.warn "Unable to look up user" (place ++ [("error", e.message)]))
      return (.failure e, f)
    | .ok (some user) =>
      let (found, f) ← f.lookup svc { groups.search user with scope := f.server.scope } .all
      match found with
      | .ok entries =>
        return (.answer (entries.flatMap fun e => (e.values? groups.idAttribute).getD []), f)
      | .error e =>
        Act.note (.warn "Unable to retrieve groups" (place ++ [("error", e.message)]))
        return (.failure e, f)
  | _, _ =>
    Act.note (.debug "No user or group mapping, skipping server" [("server", f.server.key)])
    return (.nothing, f)

/-- The texts of a list in ascending order, each once. -/
def distinctTexts (texts : List String) : List String :=
  (Dictionary.ofList (texts.map fun s => (s, ()))).keys

/-- The groups of a login on all servers that know it. -/
def groups (svc : Service σ κ) (login : String) (r : Resolver κ) :
    Act σ (Except Error (List String) × Resolver κ) := do
  if !r.registry.hasGroupMapping then
    return (.error (.configuration
      "No LDAP server has a group mapping, set the property 'group.baseDn'"), r)
  Act.note (.debug "Requesting groups for user" [("login", login)])
  let ((answers, last), factories) ← askAll (groupsOn svc login) none r.factories
  let r := { r with factories }
  match answers, last with
  | [], some e => return (.error e, r)
  | answers, _ => return (.ok (distinctTexts answers.flatten), r)

def testEach (svc : Service σ κ) :
    List (Factory κ) → Act σ (List (String × Except Error Unit) × List (Factory κ))
  | [] => return ([], [])
  | f :: rest => do
    let (result, f) ← f.testConnection svc
    let (results, rest) ← testEach svc rest
    return ((f.server.key, result) :: results, f :: rest)

def testConnections (svc : Service σ κ) (r : Resolver κ) :
    Act σ (List (String × Except Error Unit) × Resolver κ) := do
  let (results, factories) ← testEach svc r.factories
  return (results, { r with factories })

def close (svc : Service σ κ) (r : Resolver κ) : Act σ (Resolver κ) := do
  return { r with factories := ← r.factories.mapM (Factory.closeIdle svc) }

def dump (r : Resolver κ) : String :=
  openRecord "MultiServerResolver" [("servers", quotedList r.registry.keys)]

end Resolver

end DirectoryLogin
