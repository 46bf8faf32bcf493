import DirectoryLogin.Dictionary
import DirectoryLogin.Service

namespace DirectoryLogin

inductive ItemScript
  | item (item : Item)
  | failure (e : Error)
  deriving Inhabited

inductive SearchScript
  | items (items : List ItemScript)
  | failure (e : Error)
  deriving Inhabited

structure ConnectionScript where
  searches : List SearchScript := []
  abandonError : Option Error := none
  closeError : Option Error := none
  /-- The connection reports itself closed once so many searches were started. -/
  closedAfter : Option Nat := none
  deriving Inhabited

inductive ConnectScript
  | opens (script : ConnectionScript)
  | failure (e : Error)
  deriving Inhabited

/-- A call of the service. Connections are numbered from 1. -/
inductive Call
  | connect (env : Environment)
  | search (conn : Nat) (base : String) (scope : Scope) (filter : String)
      (attributes : List String)
  | abandon (conn : Nat)
  | close (conn : Nat)

structure ScriptedConnection where
  script : ConnectionScript
  started : Nat := 0
  items : List ItemScript := []
  closed : Bool := false

/-- Scripted servers by URL, the connections opened, and the calls since they were last asked for. -/
structure ScriptedDirectory where
  servers : Dictionary (List ConnectScript)
  connects : Dictionary Nat := .empty
  connections : List ScriptedConnection := []
  calls : List Call := []

namespace ScriptedDirectory

def record (d : ScriptedDirectory) (call : Call) : ScriptedDirectory :=
  { d with calls := d.calls ++ [call] }

/-- The n-th of a list, the last one being repeated. -/
def nth? {α : Type} (n : Nat) (list : List α) : Option α :=
  (list[n]?).or list.getLast?

def connect (env : Environment) (d : ScriptedDirectory) : Except Error Nat × ScriptedDirectory :=
  let d := d.record (.connect env)
  let before := (d.connects.get? env.url).getD 0
  match (d.servers.get? env.url).bind (nth? before) with
  | none => (.error (.connection s!"{env.url}: connection refused"), d)
  | some script =>
    let d := { d with connects := d.connects.insert env.url (before + 1) }
    match script with
    | .failure e => (.error e, d)
    | .opens script =>
      (.ok d.connections.length, { d with connections := d.connections ++ [{ script }] })

def update (d : ScriptedDirectory) (c : Nat) (conn : ScriptedConnection) : ScriptedDirectory :=
  { d with connections := d.connections.set c conn }

def search (c : Nat) (base : String) (scope : Scope) (filter : String)
    (attributes : List String) (d : ScriptedDirectory) : Except Error Unit × ScriptedDirectory :=
  let d := d.record (.search (c + 1) base scope filter attributes)
  match d.connections[c]? with
  | none => (.ok (), d)
  | some conn =>
    let started := { conn with started := conn.started + 1 }
    match conn.script.searches[conn.started]? with
    | some (.failure e) => (.error e, d.update c started)
    | some (.items items) => (.ok (), d.update c { started with items })
    | none => (.ok (), d.update c { started with items := [] })

def next (c : Nat) (d : ScriptedDirectory) : Except Error (Option Item) × ScriptedDirectory :=
  match d.connections[c]? with
  | none => (.ok none, d)
  | some conn =>
    match conn.items with
    | [] => (.ok none, d)
    | script :: rest =>
      (match script with
        | .item item => .ok (some item)
        | .failure e => .error e, d.update c { conn with items := rest })

def abandon (c : Nat) (d : ScriptedDirectory) : Except Error Unit × ScriptedDirectory :=
  let d := d.record (.abandon (c + 1))
  match d.connections[c]? with
  | none => (.ok (), d)
  | some conn =>
    (match conn.script.abandonError with
      | some e => .error e
      | none => .ok (), d.update c { conn with items := [] })

def close (c : Nat) (d : ScriptedDirectory) : Except Error Unit × ScriptedDirectory :=
  let d := d.record (.close (c + 1))
  match d.connections[c]? with
  | none => (.ok (), d)
  | some conn =>
    (match conn.script.closeError with
      | some e => .error e
      | none => .ok (), d.update c { conn with closed := true })

def isClosed (c : Nat) (d : ScriptedDirectory) : Bool :=
  match d.connections[c]? with
  | none => true
  | some conn => conn.closed || conn.script.closedAfter.any (· ≤ conn.started)

def remaining (c : Nat) (d : ScriptedDirectory) : Nat :=
  match d.connections[c]? with
  | none => 0
  | some conn => conn.items.length

theorem next_lt {c : Nat} {d : ScriptedDirectory} {item : Item} {e : ScriptedDirectory}
    (took : next c d = (.ok (some item), e)) : remaining c e < remaining c d := by
  unfold next at took
  cases at_c : d.connections[c]? with
  | none => simp [at_c] at took
  | some conn =>
    cases items : conn.items with
    | nil => simp [at_c, items] at took
    | cons first rest =>
      simp only [at_c, items, Prod.mk.injEq] at took
      obtain ⟨bound, same⟩ := List.getElem?_eq_some_iff.1 at_c
      simp [← took.2, remaining, update, same, items, bound]

def service (unsupported : List String) : Service ScriptedDirectory Nat where
  supports mechanism := !unsupported.contains mechanism.name
  connect := connect
  search := search
  next := next
  abandon := abandon
  close := close
  isClosed := isClosed
  remaining := remaining
  next_lt := next_lt

end ScriptedDirectory

end DirectoryLogin
