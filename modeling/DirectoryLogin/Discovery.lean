import DirectoryLogin.Act
import DirectoryLogin.Text.Numeral
import DirectoryLogin.Text.Split

namespace DirectoryLogin

open Text

structure SrvRecord where
  /-- Lower ones are preferred. -/
  priority : Nat
  /-- Among records of one priority, higher ones are preferred. -/
  weight : Nat
  port : Nat
  target : String
  deriving DecidableEq, Inhabited

namespace SrvRecord

/-- A record whose target has lost the dot at its end. -/
def ofAnswer (priority weight port : Nat) (target : String) : SrvRecord :=
  let name := target.toList
  { priority, weight, port
    target := if name.getLast? = some '.' then String.ofList name.dropLast else target }

def key (r : SrvRecord) : String :=
  r.target ++ ":" ++ String.ofList (numeral r.port)

def url (r : SrvRecord) : String :=
  "ldap://" ++ r.key

def preferred (r s : SrvRecord) : Bool :=
  r.priority < s.priority || (r.priority == s.priority && s.weight ≤ r.weight)

/-- The most preferred records first; equally preferred ones stay in their order. -/
def order (records : List SrvRecord) : List SrvRecord :=
  records.mergeSort preferred

end SrvRecord

/-- A look-up of service records by name. A name without records has an empty list. -/
abbrev Dns (σ : Type) := String → σ → Except Error (List SrvRecord) × σ

def serviceName (domain : String) : String :=
  "_ldap._tcp." ++ domain

def discover {σ : Type} (dns : Dns σ) (domain : String) :
    Act σ (Except Error (List SrvRecord)) := do
  match ← Act.perform (dns (serviceName domain)) with
  | .error e => return .error e
  | .ok records =>
    Act.note (.debug "LDAP servers discovered"
      [("domain", domain), ("count", String.ofList (numeral records.length))])
    return .ok (SrvRecord.order records)

end DirectoryLogin
