import DirectoryLogin.Discovery
import DirectoryLogin.Service

namespace DirectoryLogin

structure KeyCentre where
  passwords : Dictionary String := .empty
  /-- The principals whose logins fail, each with its error. -/
  failures : Dictionary Error := .empty
  /-- The principals that logged in, oldest first. -/
  asked : List String := []

namespace KeyCentre

def answer (k : KeyCentre) (principal password : String) : Except Error Bool :=
  match k.failures.get? principal with
  | some e => .error e
  | none => .ok (k.passwords.get? principal == some password)

def login (principal password : String) (k : KeyCentre) : Except Error Bool × KeyCentre :=
  (k.answer principal password, { k with asked := k.asked ++ [principal] })

end KeyCentre

/-- The answers of the domain name system: the same to every name. -/
structure NameTable where
  answer : Except Error (List SrvRecord)
  /-- The names that were asked for, oldest first. -/
  asked : List String := []

namespace NameTable

def lookUp (name : String) (t : NameTable) : Except Error (List SrvRecord) × NameTable :=
  (t.answer, { t with asked := t.asked ++ [name] })

end NameTable

structure Surroundings (δ : Type) where
  directories : δ
  names : NameTable
  keyCentre : KeyCentre := {}

namespace Surroundings

variable {δ κ α : Type}

def inDirectories (step : δ → α × δ) (s : Surroundings δ) : α × Surroundings δ :=
  ((step s.directories).1, { s with directories := (step s.directories).2 })

/-- The service of the directories, the rest of the surroundings being left as it is. -/
def service (svc : Service δ κ) : Service (Surroundings δ) κ where
  supports := svc.supports
  connect env := inDirectories (svc.connect env)
  search c base scope filter attributes :=
    inDirectories (svc.search c base scope filter attributes)
  next c := inDirectories (svc.next c)
  abandon c := inDirectories (svc.abandon c)
  close c := inDirectories (svc.close c)
  isClosed c s := svc.isClosed c s.directories
  remaining c s := svc.remaining c s.directories
  next_lt took := by
    simp only [inDirectories, Prod.mk.injEq] at took
    rw [← took.2]
    exact svc.next_lt (Prod.ext took.1 rfl)

def dns : Dns (Surroundings δ) := fun name s =>
  let (answer, names) := s.names.lookUp name
  (answer, { s with names })

def kerberos : Kerberos (Surroundings δ) := fun principal password =>
  Act.perform fun s =>
    let (answer, keyCentre) := s.keyCentre.login principal password
    (answer, { s with keyCentre })

end Surroundings

end DirectoryLogin
