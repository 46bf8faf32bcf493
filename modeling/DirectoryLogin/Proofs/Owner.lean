import DirectoryLogin.Proofs.Directory.Lookups
import DirectoryLogin.Proofs.Distinct
import DirectoryLogin.Proofs.FilterForm
import DirectoryLogin.Proofs.History
import DirectoryLogin.Proofs.Replies
import Mathlib.Data.List.Pairwise

namespace DirectoryLogin

open Text MemoryDirectory

namespace Entry

/-- The name of the entry ends like that of the base, up to the case of ASCII letters. -/
def Below (e : Entry) (base : String) : Prop :=
  endsIn (lowerCase e.dn) (lowerCase base)

/-- A person with this login. -/
def IsUser (e : Entry) (login : String) : Prop :=
  e.Has "objectClass" "inetOrgPerson" ∧ e.Has "uid" login ∨
    e.Has "objectClass" "user" ∧ e.Has "sAMAccountName" login

instance (e : Entry) (base : String) : Decidable (e.Below base) :=
  inferInstanceAs (Decidable (endsIn (lowerCase e.dn) (lowerCase base) = true))

instance (e : Entry) (login : String) : Decidable (e.IsUser login) :=
  inferInstanceAs (Decidable (_ ∨ _))

end Entry

theorem Text.ne_of_isAlpha {c other : Char} (letter : c.isAlpha) (sign : other.isAlpha = false) : c ≠ other := by
  intro same
  rw [same, sign] at letter
  cases letter

/-- A row of letters as the name of an attribute. -/
def AttributeText.ofLetters (text : String) (letters : text.toList.all Char.isAlpha := by decide) : AttributeText where
  text
  ordinary c member := by
    have letter := List.all_eq_true.1 letters c member
    exact ⟨ne_of_isAlpha letter rfl, ne_of_isAlpha letter rfl, ne_of_isAlpha letter rfl⟩
  noOperator c first := by
    have letter := List.all_eq_true.1 letters c (List.mem_of_mem_head? first)
    exact ⟨ne_of_isAlpha letter rfl, ne_of_isAlpha letter rfl, ne_of_isAlpha letter rfl⟩

/-- A row of letters as the value of an attribute. -/
def ValueText.ofLetters (text : String) (letters : text.toList.all Char.isAlpha := by decide) : ValueText where
  text
  ordinary c member := by
    have letter := List.all_eq_true.1 letters c member
    exact ⟨ne_of_isAlpha letter rfl, ne_of_isAlpha letter rfl, ne_of_isAlpha letter rfl⟩
  notPresence star := by
    subst star
    exact absurd letters (by decide)

/-- A row of letters as the name of a placeholder. -/
def PlaceholderText.ofLetters (text : String) (filled : text.toList ≠ [] := by decide)
    (letters : text.toList.all Char.isAlpha := by decide) : PlaceholderText where
  text
  filled
  ordinary c member := by
    have letter := List.all_eq_true.1 letters c member
    simp [Template.isNameCharacter, Char.isAlphanum, letter]

namespace FilterForm

def objectClass : AttributeText := .ofLetters "objectClass"

/-- The request for users that mappings have where none is set. -/
def userForm : FilterForm :=
  .or [
    .and [.equal objectClass (.ofLetters "inetOrgPerson"), .placed (.ofLetters "uid") (.ofLetters "login")],
    .and [.equal objectClass (.ofLetters "user"), .placed (.ofLetters "sAMAccountName") (.ofLetters "login")]]

theorem source_userForm : userForm.source = UserMapping.defaultRequest := by
  decide

theorem holds_userForm {e : Entry} (distinct : e.Distinct) (value : String → String) :
    Filter.holds e (userForm.fill value) ↔ e.IsUser (value "login") := by
  have some (filters : List Filter) : Filter.holds e (.or filters) = Filter.holdsAny e filters := by
    rw [Filter.holds]
  have every (filters : List Filter) : Filter.holds e (.and filters) = Filter.holdsAll e filters := by
    rw [Filter.holds]
  simp only [userForm, fill, fillAll, some, every, Filter.holdsAny, Filter.holdsAll, Bool.or_eq_true,
    Bool.and_eq_true, distinct.holds_equal, Bool.false_eq_true, or_false, and_true]
  rfl

end FilterForm

/-- The request for a login is read as the form with the login in it. -/
theorem UserMapping.read_requestFor {mapping : UserMapping} (usual : mapping.request = .compile defaultRequest)
    (login : String) (scope : Scope) (attributes : List String) :
    ∃ value, value "login" = login ∧
      Filter.read (mapping.requestFor login scope attributes).filter = some (FilterForm.userForm.fill value) := by
  refine ⟨fun name => ((Dictionary.ofList [("login", login)]).get? name).getD "", ?_, ?_⟩
  · simp [Dictionary.ofList, Dictionary.get?_insert]
  · refine FilterForm.read_of_written (.escaped _) ?_
    have written := FilterForm.userForm.filter_bind mapping.baseDn (.ofList [("login", login)])
    rw [FilterForm.source_userForm, ← usual] at written
    exact written

/-- The entries of a login below a base. -/
def MemoryServer.usersOf (s : MemoryServer) (base login : String) : List Entry :=
  s.entries.filter fun e => e.Below base ∧ e.IsUser login

theorem MemoryDirectory.forall_served {servers : Dictionary MemoryServer} {p : MemoryServer → Prop}
    (all : ∀ pair ∈ servers.pairs, p pair.2) : ∀ url s, servers.get? url = some s → p s :=
  fun _ _ served => all _ (Dictionary.get?_eq_some_iff.1 served)

/-- The attributes of all entries have distinct names. -/
def MemoryDirectory.Distinct (servers : Dictionary MemoryServer) : Prop :=
  ∀ url s, servers.get? url = some s → ∀ e ∈ s.entries, e.Distinct

theorem MemoryServer.matching_eq {s : MemoryServer} {base : String} {f : Filter} {p : Entry → Prop} [DecidablePred p]
    (holds : ∀ e ∈ s.entries, Filter.holds e f ↔ p e) :
    s.matching base f = s.entries.filter fun e => e.Below base ∧ p e := by
  refine List.filter_congr fun e member => ?_
  rw [Bool.eq_iff_iff, Bool.and_eq_true, holds e member, decide_eq_true_iff]
  rfl

/-- A lookup finds the entries below the base that its filter is about. -/
theorem MemoryDirectory.lookedUp_selected {servers : Dictionary MemoryServer} (unreferred : Unreferred servers)
    (distinct : MemoryDirectory.Distinct servers) {server : Server} (anonymous : server.bindDn = none) {r : Request}
    {f : Filter} (reads : Filter.read r.filter = some f) {p : Entry → Prop} [DecidablePred p]
    (holds : ∀ e : Entry, e.Distinct → (Filter.holds e f ↔ p e)) {mode : FindMode} {entries : List Entry} :
    lookedUp servers server r mode = .ok entries ↔ ∃ s, servers.get? server.url = some s ∧ s.down = false ∧
      s.Knows r.baseDn ∧ mode.outcome r (s.entries.filter fun e => e.Below r.baseDn ∧ p e) = .ok entries := by
  rw [lookedUp_eq_ok_iff unreferred anonymous reads]
  refine exists_congr fun s => and_congr_right fun served => and_congr_right fun _ => and_congr_right fun _ => ?_
  rw [MemoryServer.matching_eq fun e member => holds e (distinct _ _ served e member)]

/-- The lookup of a login finds its entries. -/
theorem UserMapping.lookedUp_users {mapping : UserMapping} (usual : mapping.request = .compile defaultRequest)
    {servers : Dictionary MemoryServer} (unreferred : Unreferred servers) (distinct : MemoryDirectory.Distinct servers)
    {server : Server} (anonymous : server.bindDn = none) {login : String} {scope : Scope} {attributes : List String}
    {mode : FindMode} {entries : List Entry} :
    lookedUp servers server (mapping.requestFor login scope attributes) mode = .ok entries ↔
      ∃ s, servers.get? server.url = some s ∧ s.down = false ∧ s.Knows mapping.baseDn ∧
        mode.outcome (mapping.requestFor login scope attributes) (s.usersOf mapping.baseDn login) = .ok entries := by
  obtain ⟨value, rfl, reads⟩ := read_requestFor usual login scope attributes
  exact lookedUp_selected unreferred distinct anonymous reads fun e known => FilterForm.holds_userForm known value

namespace Resolver

variable {kerberos : Kerberos (Surroundings MemoryDirectory)} {centre : KeyCentre → Prop}
  {told : (principal password : String) → Except Error Bool} {servers : Dictionary MemoryServer}
  {login password : String}

/-- What a server in memory has to say about a login and a password. -/
def answersOn (servers : Dictionary MemoryServer) (told : (principal password : String) → Except Error Bool)
    (login password : String) (server : Server) : Answers where
  lookup := match server.userMapping with
    | some mapping => userOf (lookedUp servers server (mapping.requestFor login server.scope []) mapping.findMode)
    | none => .ok none
  bind principal := (refusal servers (Environment.user server principal password)).elim (.ok ()) .error
  ticket principal := told principal password

theorem answersOn_given (constant : Kerberos.Constant kerberos centre told) (unreferred : Unreferred servers)
    {f : Factory Nat} {t : Trace (Surroundings MemoryDirectory)} (fit : Surroundings.Fit servers centre t.world)
    (known : Surroundings.AllKnown servers f.server f.pool.idle t.world.directories) :
    Answers.Given (Surroundings.service MemoryDirectory.service) kerberos login password f t
      (answersOn servers told login password f.server) := by
  have both : (Surroundings.alike constant servers).Paired f f t.world t.world := ⟨rfl, known, known⟩
  have fitThen := (principalOf_abreast (Surroundings.alike constant servers) login f f t t ⟨fit, fit⟩ both).1.1
  refine ⟨fun mapping users => ?_, fun principal => ?_, fun principal => ?_⟩
  · have looked := (Surroundings.lookup_settled unreferred (mapping.requestFor login f.server.scope [])
      mapping.findMode fit known).1
    rw [findUser_userOf, looked, answersOn, users]
  · exact (MemoryDirectory.connect_known servers (Environment.user f.server principal password) fitThen.1).outcome
  · exact constant.told principal password _ fitThen.2

/-- Each server has the same to say in its turn as before all turns. -/
theorem answersOn_inTurn (constant : Kerberos.Constant kerberos centre told) (unreferred : Unreferred servers)
    {fs : List (Factory Nat)} {t : Trace (Surroundings MemoryDirectory)} (fit : Surroundings.Fit servers centre t.world)
    (known : ∀ f ∈ fs, Surroundings.AllKnown servers f.server f.pool.idle t.world.directories) :
    InTurn (Surroundings.service MemoryDirectory.service) kerberos login password fs t
      ((fs.map Factory.server).map (answersOn servers told login password)) := by
  induction fs generalizing t with
  | nil => exact .nil
  | cons f rest ih =>
    obtain ⟨here, others⟩ := List.forall_mem_cons.1 known
    have both : (Surroundings.alike constant servers).Paired f f t.world t.world := ⟨rfl, here, here⟩
    obtain ⟨⟨fitThen, -⟩, ⟨keeps, -⟩, -⟩ :=
      accepts_abreast (Surroundings.alike constant servers) login password f f t t ⟨fit, fit⟩ both
    exact .cons (answersOn_given constant unreferred fit here)
      (ih fitThen fun g member => (others g member).keeps keeps)

theorem exists_accepting {servers : List Server} {answers : Server → Answers} :
    (∃ i, Accepting servers (servers.map answers) login i) ↔
      ∃ server ∈ servers, (answers server).Accepts server login := by
  constructor
  · rintro ⟨i, server, a, at_i, answers_i, accepts⟩
    rw [List.getElem?_map, at_i] at answers_i
    cases answers_i
    exact ⟨server, List.mem_of_getElem? at_i, accepts⟩
  · rintro ⟨server, member, accepts⟩
    obtain ⟨i, at_i⟩ := List.mem_iff_getElem?.1 member
    exact ⟨i, server, answers server, at_i, by rw [List.getElem?_map, at_i]; rfl, accepts⟩

/-- A login is authenticated if and only if a server accepts it, whatever has been asked before. -/
theorem authenticate_settled (constant : Kerberos.Constant kerberos centre told) (unreferred : Unreferred servers)
    {r : Resolver Nat} {t : Trace (Surroundings MemoryDirectory)} (fit : Surroundings.Fit servers centre t.world)
    (known : ∀ f ∈ r.factories, Surroundings.AllKnown servers f.server f.pool.idle t.world.directories) :
    (r.authenticate (Surroundings.service MemoryDirectory.service) kerberos login password t).1.1 = true ↔
      trimmed login ≠ "" ∧ trimmed password ≠ "" ∧ ∃ server ∈ r.factories.map Factory.server,
        (answersOn servers told login password server).Accepts server login := by
  by_cases blank : trimmed login = "" ∨ trimmed password = ""
  · have refused := (authenticate_blank (Surroundings.service MemoryDirectory.service) kerberos blank r t).1
    rw [refused]
    constructor
    · intro accepted
      cases accepted
    · rintro ⟨loginContent, passwordContent, -⟩
      exact absurd blank (not_or.2 ⟨loginContent, passwordContent⟩)
  · obtain ⟨loginContent, passwordContent⟩ := not_or.1 blank
    have given : InTurn _ kerberos login password r.factories t _ := answersOn_inTurn constant unreferred fit known
    have result := (authenticate_content (Surroundings.service MemoryDirectory.service) kerberos loginContent
      passwordContent r t).1
    have decided := (askUntil_decided given none).result
    rw [exists_accepting] at decided
    rw [result, decided]
    simp [loginContent, passwordContent]

/-- A server takes a login by the one entry that it has of it, and a password by that entry's name. -/
def Admits (servers : Dictionary MemoryServer) (login password : String) (server : Server) : Prop :=
  ∃ mapping s e, server.userMapping = some mapping ∧ servers.get? server.url = some s ∧ s.down = false ∧
    s.Knows mapping.baseDn ∧ s.usersOf mapping.baseDn login = [e] ∧ s.passwords.get? e.dn = some password

/-- A server where users are looked up by anyone, with the usual request, and where there may be only one. -/
structure Usual (server : Server) : Prop where
  simple : server.mechanism = .simple
  anonymous : server.bindDn = none
  request : ∀ mapping, server.userMapping = some mapping → mapping.request = .compile UserMapping.defaultRequest
  unique : ∀ mapping, server.userMapping = some mapping → mapping.findMode = .unique

theorem Usual.of_mapping {server : Server} {mapping : UserMapping} (simple : server.mechanism = .simple)
    (anonymous : server.bindDn = none) (users : server.userMapping = some mapping)
    (request : mapping.request = .compile UserMapping.defaultRequest) (unique : mapping.findMode = .unique) :
    Usual server := by
  have only (other : UserMapping) (has : server.userMapping = some other) : other = mapping :=
    Option.some.inj (has.symm.trans users)
  refine ⟨simple, anonymous, fun other has => ?_, fun other has => ?_⟩
  · rw [only other has, request]
  · rw [only other has, unique]

theorem userOf_eq_some_iff {found : Except Error (List Entry)} {e : Entry} :
    userOf found = .ok (some e) ↔ ∃ entries, found = .ok entries ∧ entries.head? = some e := by
  cases found with
  | ok entries => simp [userOf]
  | error failure =>
    dsimp only [userOf]
    split <;> simp

theorem checkBind_user {server : Server} (simple : server.mechanism = .simple) {s : MemoryServer}
    {principal password : String} : s.checkBind (Environment.user server principal password) = .ok () ↔
      s.passwords.get? principal = some password := by
  have mechanism : (Environment.user server principal password).mechanism ≠ .gssapi := by
    change server.mechanism ≠ .gssapi
    rw [simple]
    decide
  unfold MemoryServer.checkBind
  rw [if_neg mechanism]
  simp only [Environment.user, Environment.forServer]
  cases s.passwords.get? principal with
  | none => simp
  | some expected => by_cases same : expected = password <;> simp [same]

theorem Usual.lookup_iff {server : Server} (usual : Usual server) (unreferred : Unreferred servers)
    (distinct : MemoryDirectory.Distinct servers) {mapping : UserMapping} (users : server.userMapping = some mapping)
    {attributes : List String} {e : Entry} :
    userOf (lookedUp servers server (mapping.requestFor login server.scope attributes) mapping.findMode) =
        .ok (some e) ↔
      ∃ s, servers.get? server.url = some s ∧ s.down = false ∧ s.Knows mapping.baseDn ∧
        s.usersOf mapping.baseDn login = [e] := by
  rw [usual.unique mapping users, userOf_eq_some_iff]
  simp only [UserMapping.lookedUp_users (usual.request mapping users) unreferred distinct usual.anonymous,
    FindMode.outcome_unique]
  constructor
  · rintro ⟨entries, ⟨s, served, up, knows, rfl, few⟩, first⟩
    refine ⟨s, served, up, knows, ?_⟩
    generalize s.usersOf mapping.baseDn login = entries at few first
    match entries with
    | [] => cases first
    | [_] =>
      cases first
      rfl
    | _ :: _ :: _ => simp at few
  · rintro ⟨s, served, up, knows, only⟩
    exact ⟨[e], ⟨s, served, up, knows, only.symm, by rw [only]; exact Nat.le_refl 1⟩, rfl⟩

theorem Usual.accepts_iff {server : Server} (usual : Usual server) (unreferred : Unreferred servers)
    (distinct : MemoryDirectory.Distinct servers) :
    (answersOn servers told login password server).Accepts server login ↔ Admits servers login password server := by
  have bind (e : Entry) : (answersOn servers told login password server).bind e.dn = .ok () ↔
      ∃ s, servers.get? server.url = some s ∧ s.down = false ∧ s.passwords.get? e.dn = some password := by
    have free : (refusal servers (Environment.user server e.dn password)).elim (.ok ()) .error = Except.ok () ↔
        refusal servers (Environment.user server e.dn password) = none := by
      cases refusal servers (Environment.user server e.dn password) <;> simp
    simp only [answersOn, free, refusal_eq_none_iff, checkBind_user usual.simple]
    rfl
  have lookup {mapping : UserMapping} (users : server.userMapping = some mapping) :
      (answersOn servers told login password server).lookup =
        userOf (lookedUp servers server (mapping.requestFor login server.scope []) mapping.findMode) := by
    rw [answersOn, users]
  unfold Answers.Accepts
  rw [usual.simple]
  constructor
  · rintro ⟨mapped, e, found, bound⟩
    obtain ⟨mapping, users⟩ := Option.isSome_iff_exists.1 mapped
    rw [lookup users, usual.lookup_iff unreferred distinct users] at found
    obtain ⟨s, served, up, knows, only⟩ := found
    obtain ⟨s', served', -, expected⟩ := (bind e).1 bound
    obtain rfl : s = s' := Option.some.inj (served.symm.trans served')
    exact ⟨mapping, s, e, users, served, up, knows, only, expected⟩
  · rintro ⟨mapping, s, e, users, served, up, knows, only, expected⟩
    refine ⟨by rw [users]; rfl, e, ?_, (bind e).2 ⟨s, served, up, expected⟩⟩
    rw [lookup users, usual.lookup_iff unreferred distinct users]
    exact ⟨s, served, up, knows, only⟩

/-- On directories in memory that do not refer to each other, a login is authenticated if and only if it and the
password are not blank and a server in use has one entry of the login, with this password. -/
theorem authenticate_owner (registry : Registry) (usual : ∀ server ∈ registry.servers, Usual server)
    (history : List Operation) (login password : String) (t : Trace (Surroundings MemoryDirectory))
    (unreferred : Unreferred t.world.directories.servers)
    (distinct : MemoryDirectory.Distinct t.world.directories.servers) :
    let svc := Surroundings.service MemoryDirectory.service
    let run := Operation.performAll svc Surroundings.kerberos history (.ofRegistry registry) t
    (run.1.authenticate svc Surroundings.kerberos login password run.2).1.1 = true ↔
      trimmed login ≠ "" ∧ trimmed password ≠ "" ∧
        ∃ server ∈ registry.servers, Admits t.world.directories.servers login password server := by
  intro svc run
  obtain ⟨fit, known⟩ := Surroundings.performAll_known (Surroundings.kerberos_constant t.world.keyCentre) registry
    history (t := t) ⟨rfl, rfl, rfl⟩
  have servers := Operation.performAll_servers svc Surroundings.kerberos registry history t
  rw [authenticate_settled (Surroundings.kerberos_constant t.world.keyCentre) unreferred fit known, servers]
  refine and_congr_right fun _ => and_congr_right fun _ => exists_congr fun server => and_congr_right fun member => ?_
  exact (usual server member).accepts_iff unreferred distinct

namespace OddNames

def mapping : UserMapping := .ofRequest "ou=users,dc=example,dc=org" UserMapping.defaultRequest

def server : Server where
  key := "a"
  url := "ldap://a.example.org:389"
  userMapping := some mapping

def registered : Registry := ⟨[server], by decide, by decide⟩

/-- A person whose login is made of what filters are made of. -/
def anna : Entry := .ofAttributes "cn=anna,ou=users,dc=example,dc=org"
  [("objectClass", ["top", "inetOrgPerson"]), ("uid", ["*)(uid=bert"])]

def bert : Entry := .ofAttributes "cn=bert,ou=users,dc=example,dc=org"
  [("objectClass", ["top", "inetOrgPerson"]), ("uid", ["bert"])]

def people : MemoryServer where
  entries := [anna, bert]
  passwords := .ofList [(anna.dn, "secret"), (bert.dn, "secret")]

def directories : Surroundings MemoryDirectory where
  directories := { servers := .ofList [("ldap://a.example.org:389", people)] }
  names := { answer := .ok [] }

theorem usual : ∀ server ∈ registered.servers, Usual server :=
  List.forall_mem_singleton.2 (.of_mapping rfl rfl rfl rfl rfl)

end OddNames

open OddNames in
/-- The odd login is that of its owner, and a star is no one's. -/
theorem authenticate_owner_odd :
    let svc := Surroundings.service MemoryDirectory.service
    let run := Operation.performAll svc Surroundings.kerberos [.userDetails "bert"] (.ofRegistry registered)
      ⟨directories, []⟩
    (run.1.authenticate svc Surroundings.kerberos "*)(uid=bert" "secret" run.2).1.1 = true ∧
      (run.1.authenticate svc Surroundings.kerberos "*" "secret" run.2).1.1 = false := by
  have unreferred : Unreferred directories.directories.servers := forall_served (by decide +kernel)
  have distinct : MemoryDirectory.Distinct directories.directories.servers := forall_served (by decide +kernel)
  refine ⟨?_, ?_⟩
  · refine (authenticate_owner registered usual [.userDetails "bert"] "*)(uid=bert" "secret" ⟨directories, []⟩
      unreferred distinct).2 ⟨by decide, by decide, server, List.mem_singleton_self _, ?_⟩
    exact ⟨_, people, anna, rfl, rfl, rfl, nofun, by decide +kernel, by decide +kernel⟩
  · rw [Bool.eq_false_iff]
    intro accepted
    obtain ⟨-, -, other, member, mapping, s, e, users, served, -, -, only, -⟩ :=
      (authenticate_owner registered usual [.userDetails "bert"] "*" "secret" ⟨directories, []⟩ unreferred distinct).1
        accepted
    obtain rfl : other = server := List.mem_singleton.1 member
    cases users
    have here : directories.directories.servers.get? server.url = some people := rfl
    obtain rfl : s = people := Option.some.inj (served.symm.trans here)
    have none : people.usersOf mapping.baseDn "*" = [] := by decide +kernel
    cases none.symm.trans only

end Resolver

end DirectoryLogin
