import DirectoryLogin.Directory.Memory
import DirectoryLogin.Environment
import DirectoryLogin.Service

namespace DirectoryLogin

/-- What a search yields: items, and then its end or an error. -/
structure Answer where
  items : List Item := []
  failure : Option Error := none

namespace Answer

def entries (a : Answer) : List Entry :=
  a.items.flatMap fun
    | .entry e => [e]
    | .referral _ => []

def referrals (a : Answer) : List String :=
  a.items.flatMap fun
    | .entry _ => []
    | .referral urls => urls

end Answer

variable {σ κ : Type}

/-- How a connection is opened: not if there is something against it. -/
inductive Connected (ready : σ → Prop) (opened : κ → σ → Prop) :
    Option Error → Except Error κ × σ → Prop
  | refused {e w} : ready w → Connected ready opened (some e) (.error e, w)
  | opened {c w} : opened c w → Connected ready opened none (.ok c, w)

/-- How a search starts that has an answer. One whose answer is an error alone may fail at once. -/
inductive Started (ready : σ → Prop) (running : List Item → Option Error → σ → Prop) (a : Answer) :
    Except Error Unit × σ → Prop
  | answered {w} : running a.items a.failure w → Started ready running a (.ok (), w)
  | refused {e w} : a = { failure := some e } → ready w → Started ready running a (.error e, w)

/-- Directories that answer alike at all times: in the worlds that count as `ready`, connections are
opened or refused by their environment alone, and every search hands out the items of its answer. -/
structure Steady (svc : Service σ κ) where
  refusal : Environment → Option Error
  answer : Environment → (base : String) → Scope → (filter : String) → (attributes : List String) →
    Answer
  ready : σ → Prop
  /-- The connection is open and no search runs on it. -/
  opened : κ → Environment → σ → Prop
  /-- The connection has these items to hand out, and then this error if there is one. -/
  running : κ → List Item → Option Error → σ → Prop
  connected : ∀ {env w}, ready w → Connected ready (opened · env) (refusal env) (svc.connect env w)
  search_started : ∀ {c env w base scope filter attributes}, opened c env w →
    Started ready (running c) (answer env base scope filter attributes)
      (svc.search c base scope filter attributes w)
  next_item : ∀ {c item items failure w}, running c (item :: items) failure w →
    ∃ next, svc.next c w = (.ok (some item), next) ∧ running c items failure next
  next_end : ∀ {c w}, running c [] none w → ∃ next, svc.next c w = (.ok none, next) ∧ ready next
  next_failure : ∀ {c e w}, running c [] (some e) w →
    ∃ next, svc.next c w = (.error e, next) ∧ ready next
  abandon_ready : ∀ {c w}, ready w → ready (svc.abandon c w).2
  close_ready : ∀ {c w}, ready w → ready (svc.close c w).2

section

variable (refusal : Environment → Option Error)
  (answer : Environment → String → Scope → String → List String → Answer)

/-- The directories with these answers. A connection is its environment, and the world is what the
search that runs has still to hand out. -/
def Answer.service : Service Answer Environment where
  supports _ := true
  connect env w := ((refusal env).elim (.ok env) .error, w)
  search env base scope filter attributes _ := (.ok (), answer env base scope filter attributes)
  next _ w :=
    match w.items with
    | item :: items => (.ok (some item), { w with items })
    | [] => (w.failure.elim (.ok none) .error, w)
  abandon _ w := (.ok (), w)
  close _ w := (.ok (), w)
  isClosed _ _ := false
  remaining _ w := w.items.length
  next_lt {c w item w'} took := by
    obtain ⟨_ | ⟨item, items⟩, failure⟩ := w
    · cases failure with
      | none => cases took
      | some e => cases took
    · cases took
      exact Nat.lt_succ_self _

/-- Steady directories may answer in any way at all. -/
def Answer.steady : Steady (Answer.service refusal answer) where
  refusal := refusal
  answer := answer
  ready _ := True
  opened c env _ := c = env
  running _ items failure w := w = ⟨items, failure⟩
  connected := by
    rintro env w -
    simp only [Answer.service]
    cases refusal env with
    | none => exact .opened rfl
    | some e => exact .refused trivial
  search_started := by
    rintro c env w base scope filter attributes rfl
    exact .answered rfl
  next_item := by
    rintro c item items failure w rfl
    exact ⟨_, rfl, rfl⟩
  next_end := by
    rintro c w rfl
    exact ⟨_, rfl, trivial⟩
  next_failure := by
    rintro c e w rfl
    exact ⟨_, rfl, trivial⟩
  abandon_ready _ := trivial
  close_ready _ := trivial

end

namespace MemoryDirectory

def refusal (servers : Dictionary MemoryServer) (env : Environment) : Option Error :=
  let refused := .connection s!"{env.url}: connection refused"
  match servers.get? env.url with
  | none => some refused
  | some server =>
    if server.down then some refused
    else match server.checkBind env with
      | .error e => some e
      | .ok _ => none

def answer (servers : Dictionary MemoryServer) (env : Environment) (base filter : String) : Answer :=
  match servers.get? env.url with
  | none => {}
  | some server =>
    if server.suffix.any (!Text.endsIn (Text.lowerCase base) ·) then
      { failure := some (.notFound s!"search base: {base}") }
    else match Filter.read filter with
      | none => { failure := some (.search s!"bad filter {filter}") }
      | some f => { items := server.search base f }

theorem getElem?_update {c : Nat} {d : MemoryDirectory} {conn : MemoryConnection}
    (found : d.connections[c]? = some conn) (other : MemoryConnection) :
    (d.update c other).connections[c]? = some other := by
  obtain ⟨within, _⟩ := List.getElem?_eq_some_iff.1 found
  simp [update, within]

def steady (servers : Dictionary MemoryServer) : Steady service where
  refusal := refusal servers
  answer env base _ filter _ := answer servers env base filter
  ready d := d.servers = servers
  opened c env d := d.servers = servers ∧ ∃ conn, d.connections[c]? = some conn ∧
    conn.closed = false ∧ servers.get? env.url = some conn.server
  running c items failure d := d.servers = servers ∧ failure = none ∧
    ∃ conn, d.connections[c]? = some conn ∧ conn.pending = items
  connected := by
    rintro env d rfl
    simp only [service, connect, refusal]
    cases found : d.servers.get? env.url with
    | none => exact .refused rfl
    | some server =>
      dsimp only
      by_cases down : server.down
      · rw [if_pos down, if_pos down]
        exact .refused rfl
      · rw [if_neg down, if_neg down]
        cases server.checkBind env with
        | error e => exact .refused rfl
        | ok _ => exact .opened ⟨rfl, _, List.getElem?_concat_length, rfl, rfl⟩
  search_started := by
    rintro c env d base scope filter attributes ⟨rfl, conn, found, live, server⟩
    simp only [service, search, answer, found, live, server, Bool.false_eq_true, if_false]
    by_cases outside : conn.server.suffix.any (!Text.endsIn (Text.lowerCase base) ·)
    · rw [if_pos outside, if_pos outside]
      exact .refused rfl rfl
    · rw [if_neg outside, if_neg outside]
      cases Filter.read filter with
      | none => exact .refused rfl rfl
      | some f => exact .answered ⟨rfl, rfl, _, getElem?_update found _, rfl⟩
  next_item := by
    rintro c item items failure d ⟨rfl, none, conn, found, pending⟩
    refine ⟨d.update c { conn with pending := items }, ?_, rfl, none, _, getElem?_update found _, rfl⟩
    simp only [service, next, found, pending]
  next_end := by
    rintro c d ⟨rfl, _, conn, found, pending⟩
    exact ⟨d, by simp only [service, next, found, pending], rfl⟩
  next_failure := by
    rintro c e d ⟨_, none, _⟩
    cases none
  abandon_ready := by
    rintro c d rfl
    simp only [service, abandon]
    split <;> rfl
  close_ready := by
    rintro c d rfl
    simp only [service, close]
    split
    · rfl
    · split <;> rfl

end MemoryDirectory

namespace Ring

def anna : Entry := .ofAttributes "uid=anna,dc=example,dc=org" [("mail", ["anna@example.org"])]

def bert : Entry := .ofAttributes "uid=bert,dc=example,dc=org" [("mail", ["bert@example.org"])]

/-- Two servers that refer to each other. -/
def servers : Dictionary MemoryServer :=
  .ofList [
    ("ldap://a.example.org", { entries := [anna], referrals := ["ldap://b.example.org"] }),
    ("ldap://b.example.org", { entries := [bert], referrals := ["ldap://a.example.org"] })]

def server : Server := { key := "a", url := "ldap://a.example.org" }

def everyone : Request :=
  { baseDn := "dc=example,dc=org", positional := "(mail=*)", parameters := [] }

def onlyAnna : Request :=
  { baseDn := "dc=example,dc=org", positional := "(mail=anna@example.org)", parameters := [] }

/-- The servers, and an open connection to the first of them. -/
def directory : MemoryDirectory :=
  (MemoryDirectory.connect (Environment.bind server) { servers }).2

end Ring

end DirectoryLogin
