import DirectoryLogin.Dictionary
import DirectoryLogin.Filter
import DirectoryLogin.Service

namespace DirectoryLogin

open Text

structure MemoryServer where
  entries : List Entry := []
  passwords : Dictionary String := .empty
  /-- Where every search is referred to, after its entries. -/
  referrals : List String := []
  /-- A search whose base does not end so finds no base. -/
  suffix : Option String := none
  down : Bool := false
  deriving Inhabited

namespace MemoryServer

def withEntry (s : MemoryServer) (e : Entry) : MemoryServer :=
  { s with entries := s.entries ++ [e] }

def withPassword (s : MemoryServer) (principal password : String) : MemoryServer :=
  { s with passwords := s.passwords.insert principal password }

/-- Adds a person who can bind by name or by login. -/
def withUser (s : MemoryServer) (login dn password : String) : MemoryServer :=
  ((s.withEntry (.ofAttributes dn [
      ("objectClass", ["top", "inetOrgPerson"]),
      ("uid", [login]),
      ("cn", [login ++ " user"]),
      ("mail", [login ++ "@example.org"])])).withPassword dn password).withPassword login password

def withGroup (s : MemoryServer) (cn baseDn : String) (members : List String) : MemoryServer :=
  s.withEntry (.ofAttributes ("cn=" ++ cn ++ "," ++ baseDn) [
    ("objectClass", ["top", "groupOfUniqueNames"]),
    ("cn", [cn]),
    ("uniqueMember", members)])

def withReferral (s : MemoryServer) (url : String) : MemoryServer :=
  { s with referrals := s.referrals ++ [url] }

def withSuffix (s : MemoryServer) (suffix : String) : MemoryServer :=
  { s with suffix := some (lowerCase suffix) }

/-- Whether the server lets a connection in: Kerberos always, anyone without a name, and a principal
with the right password. -/
def checkBind (s : MemoryServer) (env : Environment) : Except Error Unit :=
  if env.mechanism = .gssapi then .ok ()
  else match env.principal with
    | none => .ok ()
    | some principal =>
      match s.passwords.get? principal, env.credential with
      | some expected, some given =>
        if expected = given then .ok () else .error (.bind s!"{principal}: invalid credentials")
      | _, _ => .error (.bind s!"{principal}: invalid credentials")

def matching (s : MemoryServer) (base : String) (f : Filter) : List Entry :=
  s.entries.filter fun e => endsIn (lowerCase e.dn) (lowerCase base) && Filter.holds e f

/-- What a search yields: its entries, and then the referrals if there are any. -/
def search (s : MemoryServer) (base : String) (f : Filter) : List Item :=
  (s.matching base f).map .entry ++
    if s.referrals.isEmpty then [] else [.referral s.referrals]

end MemoryServer

structure MemoryConnection where
  url : String
  server : MemoryServer
  /-- The items of the running search that are still to come. -/
  pending : List Item := []
  closed : Bool := false

/-- Servers in memory, all connections ever opened to them, and counts by URL. -/
structure MemoryDirectory where
  servers : Dictionary MemoryServer
  connections : List MemoryConnection := []
  attempts : Dictionary Nat := .empty
  opened : Dictionary Nat := .empty
  closed : Dictionary Nat := .empty
  filters : List String := []

namespace MemoryDirectory

def count (counts : Dictionary Nat) (url : String) : Dictionary Nat :=
  counts.insert url ((counts.get? url).getD 0 + 1)

def connect (env : Environment) (d : MemoryDirectory) : Except Error Nat × MemoryDirectory :=
  let d := { d with attempts := count d.attempts env.url }
  let refused := .error (.connection s!"{env.url}: connection refused")
  match d.servers.get? env.url with
  | none => (refused, d)
  | some server =>
    if server.down then (refused, d)
    else match server.checkBind env with
      | .error e => (.error e, d)
      | .ok _ => (.ok d.connections.length,
          { d with
            opened := count d.opened env.url
            connections := d.connections ++ [{ url := env.url, server }] })

def update (d : MemoryDirectory) (c : Nat) (conn : MemoryConnection) : MemoryDirectory :=
  { d with connections := d.connections.set c conn }

def search (c : Nat) (base : String) (filter : String) (d : MemoryDirectory) :
    Except Error Unit × MemoryDirectory :=
  match d.connections[c]? with
  | none => (.error (.connection "connection closed"), d)
  | some conn =>
    if conn.closed then (.error (.connection "connection closed"), d)
    else if conn.server.suffix.any (!endsIn (lowerCase base) ·) then
      (.error (.notFound s!"search base: {base}"), d)
    else match Filter.read filter with
      | none => (.error (.search s!"bad filter {filter}"), d)
      | some f =>
        (.ok (), { d.update c { conn with pending := conn.server.search base f } with
          filters := d.filters ++ [filter] })

def next (c : Nat) (d : MemoryDirectory) : Except Error (Option Item) × MemoryDirectory :=
  match d.connections[c]? with
  | none => (.ok none, d)
  | some conn =>
    match conn.pending with
    | [] => (.ok none, d)
    | item :: rest => (.ok (some item), d.update c { conn with pending := rest })

def abandon (c : Nat) (d : MemoryDirectory) : Except Error Unit × MemoryDirectory :=
  match d.connections[c]? with
  | none => (.ok (), d)
  | some conn => (.ok (), d.update c { conn with pending := [] })

def close (c : Nat) (d : MemoryDirectory) : Except Error Unit × MemoryDirectory :=
  match d.connections[c]? with
  | none => (.ok (), d)
  | some conn =>
    if conn.closed then (.ok (), d)
    else (.ok (), { d.update c { conn with closed := true } with
      closed := count d.closed conn.url })

def isClosed (c : Nat) (d : MemoryDirectory) : Bool :=
  match d.connections[c]? with
  | none => true
  | some conn => conn.closed

def remaining (c : Nat) (d : MemoryDirectory) : Nat :=
  match d.connections[c]? with
  | none => 0
  | some conn => conn.pending.length

theorem next_lt {c : Nat} {d : MemoryDirectory} {item : Item} {e : MemoryDirectory}
    (took : next c d = (.ok (some item), e)) : remaining c e < remaining c d := by
  unfold next at took
  cases at_c : d.connections[c]? with
  | none => simp [at_c] at took
  | some conn =>
    cases pending : conn.pending with
    | nil => simp [at_c, pending] at took
    | cons first rest =>
      simp only [at_c, pending, Prod.mk.injEq] at took
      obtain ⟨bound, same⟩ := List.getElem?_eq_some_iff.1 at_c
      simp [← took.2, remaining, update, same, pending, bound]

/-- The service of directories in memory. Connections are numbered in the order of their opening. -/
def service : Service MemoryDirectory Nat where
  supports _ := true
  connect := connect
  search c base _ filter _ := search c base filter
  next := next
  abandon := abandon
  close := close
  isClosed := isClosed
  remaining := remaining
  next_lt := next_lt

end MemoryDirectory

end DirectoryLogin
