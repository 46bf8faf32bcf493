import DirectoryLogin.Proofs.Groups
import DirectoryLogin.Proofs.Owner

namespace DirectoryLogin

open Text MemoryDirectory

/-- A group whose members are named, and this name among them. -/
def Entry.IsGroupOf (e : Entry) (dn : String) : Prop :=
  e.Has "objectClass" "groupOfUniqueNames" ∧ e.Has "uniqueMember" dn

instance (e : Entry) (dn : String) : Decidable (e.IsGroupOf dn) :=
  inferInstanceAs (Decidable (_ ∧ _))

/-- The groups of a member below a base. -/
def MemoryServer.groupsOf (s : MemoryServer) (base dn : String) : List Entry :=
  s.entries.filter fun e => e.Below base ∧ e.IsGroupOf dn

namespace GroupMapping

/-- The request for groups whose members have unique names. -/
def uniqueMemberRequest : String :=
  "(&(objectClass=groupOfUniqueNames)(uniqueMember=\x7bdn\x7d))"

end GroupMapping

namespace FilterForm

def memberForm : FilterForm :=
  .and [.equal objectClass (.ofLetters "groupOfUniqueNames"),
    .placed (.ofLetters "uniqueMember") (.ofLetters "dn")]

theorem source_memberForm : memberForm.source = GroupMapping.uniqueMemberRequest := by
  decide

theorem holds_memberForm {e : Entry} (distinct : e.Distinct) (value : String → String) :
    Filter.holds e (memberForm.fill value) ↔ e.IsGroupOf (value "dn") := by
  have every (filters : List Filter) : Filter.holds e (.and filters) = Filter.holdsAll e filters := by
    rw [Filter.holds]
  simp only [memberForm, fill, fillAll, every, Filter.holdsAll, Bool.and_eq_true, distinct.holds_equal, and_true]
  rfl

end FilterForm

namespace GroupMapping

variable {mapping : GroupMapping} {servers : Dictionary MemoryServer} {server : Server}

theorem placeholders_uniqueMember : (Template.compile uniqueMemberRequest).placeholders = ["dn"] := by
  rw [← FilterForm.source_memberForm, (FilterForm.compile_source _).1]
  decide

/-- The request for the groups of a user is read as the form with the user's name in it. -/
theorem read_requestFor (unique : mapping.request = .compile uniqueMemberRequest) (user : Entry) (scope : Scope) :
    ∃ value, value "dn" = user.dn ∧
      Filter.read (mapping.requestFor user scope).filter = some (FilterForm.memberForm.fill value) := by
  refine ⟨fun name => ((mapping.valuesOf user).get? name).getD "", ?_, ?_⟩
  · have isDn : user.value? "dn" = some user.dn := rfl
    rw [valuesOf, unique, placeholders_uniqueMember]
    simp [isDn, Dictionary.ofList, Dictionary.get?_insert]
  · refine FilterForm.read_of_written (.escaped _) ?_
    have written := FilterForm.memberForm.filter_bind mapping.baseDn (mapping.valuesOf user)
    rw [FilterForm.source_memberForm, ← unique] at written
    exact written

/-- The lookup of a user's groups finds all of them. -/
theorem lookedUp_groups (unique : mapping.request = .compile uniqueMemberRequest) (unreferred : Unreferred servers)
    (distinct : MemoryDirectory.Distinct servers) (anonymous : server.bindDn = none) {user : Entry} {scope : Scope}
    {entries : List Entry} :
    lookedUp servers server (mapping.requestFor user scope) .all = .ok entries ↔
      ∃ s, servers.get? server.url = some s ∧ s.down = false ∧ s.Knows mapping.baseDn ∧
        s.groupsOf mapping.baseDn user.dn = entries := by
  obtain ⟨value, named, reads⟩ := read_requestFor unique user scope
  rw [← named, lookedUp_selected unreferred distinct anonymous reads fun e known =>
    FilterForm.holds_memberForm known value]
  simp only [FindMode.outcome_all, Except.ok.injEq]
  rfl

end GroupMapping

namespace Resolver

variable {kerberos : Kerberos (Surroundings MemoryDirectory)} {centre : KeyCentre → Prop}
  {told : (principal password : String) → Except Error Bool} {servers : Dictionary MemoryServer} {login : String}

/-- The outcome of the lookup of a user on behalf of groups. -/
def userFor (servers : Dictionary MemoryServer) (login : String) (server : Server) (users : UserMapping)
    (groups : GroupMapping) : Except Error (Option Entry) :=
  (lookedUp servers server (users.requestFor login server.scope groups.requiredAttributes) users.findMode).map
    List.head?

/-- What comes of asking a server in memory for groups. -/
def surveyOn (servers : Dictionary MemoryServer) (login : String) (server : Server) : Surveyed where
  server := server
  user := match server.userMapping, server.groupMapping with
    | some users, some groups => userFor servers login server users groups
    | _, _ => .ok none
  groups := match server.userMapping, server.groupMapping with
    | some users, some groups =>
      match userFor servers login server users groups with
      | .ok (some user) => lookedUp servers server (groups.requestFor user server.scope) .all
      | _ => .ok []
    | _, _ => .ok []

theorem surveyOn_given (unreferred : Unreferred servers) {f : Factory Nat} {t : Trace (Surroundings MemoryDirectory)}
    (fit : Surroundings.Fit servers centre t.world)
    (known : Surroundings.AllKnown servers f.server f.pool.idle t.world.directories) :
    (surveyOn servers login f.server).Given (Surroundings.service MemoryDirectory.service) login f t := by
  have looked (users : UserMapping) (groups : GroupMapping) := Surroundings.lookup_settled unreferred
    (users.requestFor login f.server.scope groups.requiredAttributes) users.findMode fit known
  refine ⟨rfl, ?_, ?_⟩
  · rintro users groups ⟨hasUsers, hasGroups⟩
    change f.server.userMapping = some users at hasUsers
    change f.server.groupMapping = some groups at hasGroups
    rw [(looked users groups).1, surveyOn, hasUsers, hasGroups]
    rfl
  · rintro users groups user ⟨hasUsers, hasGroups⟩ found
    change f.server.userMapping = some users at hasUsers
    change f.server.groupMapping = some groups at hasGroups
    obtain ⟨-, server, fitThen, knownThen⟩ := looked users groups
    have search := (Surroundings.lookup_settled unreferred (groups.requestFor user f.server.scope) .all fitThen
      knownThen).1
    have user : userFor servers login f.server users groups = .ok (some user) := by
      rw [surveyOn, hasUsers, hasGroups] at found
      exact found
    dsimp only
    rw [search, server, surveyOn, hasUsers, hasGroups]
    dsimp only
    rw [user]

/-- Of each server the same comes in its turn as before all turns. -/
theorem surveyOn_inTurn (constant : Kerberos.Constant kerberos centre told) (unreferred : Unreferred servers)
    {fs : List (Factory Nat)} {t : Trace (Surroundings MemoryDirectory)} (fit : Surroundings.Fit servers centre t.world)
    (known : ∀ f ∈ fs, Surroundings.AllKnown servers f.server f.pool.idle t.world.directories) :
    Surveyed.InTurn (Surroundings.service MemoryDirectory.service) login fs t
      ((fs.map Factory.server).map (surveyOn servers login)) := by
  induction fs generalizing t with
  | nil => exact .nil
  | cons f rest ih =>
    obtain ⟨here, others⟩ := List.forall_mem_cons.1 known
    have both : (Surroundings.alike constant servers).Paired f f t.world t.world := ⟨rfl, here, here⟩
    obtain ⟨⟨fitThen, -⟩, ⟨keeps, -⟩, -⟩ :=
      groupsOn_abreast (Surroundings.alike constant servers) login f f t t ⟨fit, fit⟩ both
    exact .cons (surveyOn_given unreferred fit here) (ih fitThen fun g member => (others g member).keeps keeps)

/-- Without errors, the groups are all that are named. -/
theorem Surveyed.result_of_no_errors {survey : List Surveyed} (none : ∀ a ∈ survey, ∀ e, ¬ a.Errs e) :
    ∃ names, result survey = .ok names ∧ names.Pairwise (· < ·) ∧ ∀ x, x ∈ names ↔ ∃ a ∈ survey, a.Names x := by
  have union := union_result survey
  by_cases some : ∃ a ∈ survey, a.AnswersSome
  · exact union.answered some
  · have silent : ∀ a ∈ survey, ¬ a.AnswersSome := fun a member answers => some ⟨a, member, answers⟩
    refine ⟨[], union.silent fun a member => ⟨silent a member, none a member⟩, .nil, fun x => ?_⟩
    constructor
    · intro member
      cases member
    · rintro ⟨a, member, groups, entries, answers, -⟩
      exact absurd ⟨groups, entries, answers⟩ (silent a member)

/-- A server in use with users and groups below bases that it knows, and with at most one entry of the login. -/
structure Serving (servers : Dictionary MemoryServer) (login : String) (server : Server) (users : UserMapping)
    (groups : GroupMapping) (s : MemoryServer) : Prop where
  hasUsers : server.userMapping = some users
  hasGroups : server.groupMapping = some groups
  request : groups.request = .compile GroupMapping.uniqueMemberRequest
  served : servers.get? server.url = some s
  up : s.down = false
  knowsUsers : s.Knows users.baseDn
  knowsGroups : s.Knows groups.baseDn
  one : (s.usersOf users.baseDn login).length ≤ 1

/-- The name of a group on a server that has an entry of the login for a member. -/
def NamesGroup (servers : Dictionary MemoryServer) (login : String) (server : Server) (x : String) : Prop :=
  ∃ users groups s, server.userMapping = some users ∧ server.groupMapping = some groups ∧
    servers.get? server.url = some s ∧ ∃ user ∈ s.usersOf users.baseDn login,
      ∃ group ∈ s.groupsOf groups.baseDn user.dn, ∃ p ∈ group.attributes,
        sameLetters p.1 groups.idAttribute ∧ x ∈ p.2

section Serving

variable {server : Server} {users : UserMapping} {groups : GroupMapping} {s : MemoryServer}

theorem head?_eq_some_of_one {entries : List Entry} {e : Entry} (one : entries.length ≤ 1) (member : e ∈ entries) :
    entries.head? = some e := by
  match entries with
  | [other] =>
    rw [List.mem_singleton.1 member]
    rfl
  | _ :: _ :: _ => simp at one

theorem Serving.surveyOn_eq (serving : Serving servers login server users groups s) (usual : Usual server)
    (unreferred : Unreferred servers) (distinct : MemoryDirectory.Distinct servers) :
    surveyOn servers login server =
      { server
        user := .ok (s.usersOf users.baseDn login).head?
        groups := .ok ((s.usersOf users.baseDn login).head?.elim [] fun user =>
          s.groupsOf groups.baseDn user.dn) } := by
  have found : userFor servers login server users groups = .ok (s.usersOf users.baseDn login).head? := by
    have looked : lookedUp servers server (users.requestFor login server.scope groups.requiredAttributes)
        users.findMode = .ok (s.usersOf users.baseDn login) := by
      rw [usual.unique users serving.hasUsers, UserMapping.lookedUp_users (usual.request users serving.hasUsers)
        unreferred distinct usual.anonymous]
      exact ⟨s, serving.served, serving.up, serving.knowsUsers, FindMode.outcome_unique.2 ⟨rfl, serving.one⟩⟩
    rw [userFor, looked]
    rfl
  have search (user : Entry) : lookedUp servers server (groups.requestFor user server.scope) .all =
      .ok (s.groupsOf groups.baseDn user.dn) := by
    rw [GroupMapping.lookedUp_groups serving.request unreferred distinct usual.anonymous]
    exact ⟨s, serving.served, serving.up, serving.knowsGroups, rfl⟩
  rw [surveyOn, serving.hasUsers, serving.hasGroups]
  dsimp only
  rw [found]
  cases (s.usersOf users.baseDn login).head? with
  | none => rfl
  | some user =>
    dsimp only
    rw [search]
    rfl

theorem Serving.not_errs (serving : Serving servers login server users groups s) (usual : Usual server)
    (unreferred : Unreferred servers) (distinct : MemoryDirectory.Distinct servers) (e : Error) :
    ¬ (surveyOn servers login server).Errs e := by
  rw [serving.surveyOn_eq usual unreferred distinct]
  rintro ⟨_, _, -, ⟨failed, -⟩ | ⟨_, -, failed⟩⟩
  · cases failed
  · cases failed

theorem Serving.names_iff (serving : Serving servers login server users groups s) (usual : Usual server)
    (unreferred : Unreferred servers) (distinct : MemoryDirectory.Distinct servers) {x : String} :
    (surveyOn servers login server).Names x ↔ NamesGroup servers login server x := by
  have known {group : Entry} {dn : String} (member : group ∈ s.groupsOf groups.baseDn dn) : group.Distinct :=
    distinct _ _ serving.served group (List.mem_filter.1 member).1
  rw [serving.surveyOn_eq usual unreferred distinct]
  constructor
  · rintro ⟨_, _, ⟨_, user, ⟨hasUsers, hasGroups⟩, found, answered⟩, group, inEntries, values, named, member⟩
    obtain rfl := Option.some.inj (serving.hasGroups.symm.trans hasGroups)
    have found : (s.usersOf users.baseDn login).head? = some user := Except.ok.inj found
    rw [found] at answered
    cases answered
    obtain ⟨p, inGroup, same, rfl⟩ := (known inEntries).values?.1 named
    exact ⟨users, groups, s, serving.hasUsers, serving.hasGroups, serving.served, user, List.mem_of_head? found,
      group, inEntries, p, inGroup, same, member⟩
  · rintro ⟨users', groups', s', hasUsers, hasGroups, served, user, inUsers, group, inGroups, p, inGroup, same, member⟩
    obtain rfl : users = users' := Option.some.inj (serving.hasUsers.symm.trans hasUsers)
    obtain rfl : groups = groups' := Option.some.inj (serving.hasGroups.symm.trans hasGroups)
    obtain rfl : s = s' := Option.some.inj (serving.served.symm.trans served)
    have found := head?_eq_some_of_one serving.one inUsers
    refine ⟨groups, s.groupsOf groups.baseDn user.dn, ⟨users, user, ⟨hasUsers, hasGroups⟩, ?_, ?_⟩, group, inGroups,
      p.2, (known inGroups).values?.2 ⟨p, inGroup, same, rfl⟩, member⟩
    · exact congrArg Except.ok found
    · rw [found]
      rfl

end Serving

/-- On directories in memory that do not refer to each other, the groups of a login are those that have an entry of the
login for a member, if all servers are in use and there is at most one such entry on each. -/
theorem groups_members (registry : Registry) (usual : ∀ server ∈ registry.servers, Usual server)
    (history : List Operation) (login : String) (t : Trace (Surroundings MemoryDirectory))
    (unreferred : Unreferred t.world.directories.servers)
    (distinct : MemoryDirectory.Distinct t.world.directories.servers)
    (serving : ∀ server ∈ registry.servers, ∃ users groups s,
      Serving t.world.directories.servers login server users groups s) :
    let svc := Surroundings.service MemoryDirectory.service
    let run := Operation.performAll svc Surroundings.kerberos history (.ofRegistry registry) t
    ∃ names, (run.1.groups svc login run.2).1.1 = .ok names ∧ names.Pairwise (· < ·) ∧
      ∀ x, x ∈ names ↔ ∃ server ∈ registry.servers, NamesGroup t.world.directories.servers login server x := by
  intro svc run
  have constant := Surroundings.kerberos_constant t.world.keyCentre
  obtain ⟨fit, known⟩ := Surroundings.performAll_known constant registry history (t := t) ⟨rfl, rfl, rfl⟩
  have servers : run.1.factories.map Factory.server = registry.servers :=
    Operation.performAll_servers svc Surroundings.kerberos registry history t
  have same : run.1.registry = registry :=
    Operation.performAll_registry svc Surroundings.kerberos history (.ofRegistry registry) t
  have mapped : ∃ server ∈ run.1.registry.servers, server.groupMapping ≠ none := by
    rw [same]
    obtain ⟨server, member⟩ := List.exists_mem_of_ne_nil _ registry.servers_ne
    obtain ⟨users, groups, s, here⟩ := serving server member
    exact ⟨server, member, by rw [here.hasGroups]; exact nofun⟩
  have given : Surveyed.InTurn svc login run.1.factories (groupsRequested login run.2) _ :=
    surveyOn_inTurn constant unreferred fit known
  rw [servers] at given
  rw [groups_result mapped given]
  have none : ∀ a ∈ registry.servers.map (surveyOn t.world.directories.servers login), ∀ e, ¬ a.Errs e := by
    intro a member e
    obtain ⟨server, registered, rfl⟩ := List.mem_map.1 member
    obtain ⟨users, groups, s, here⟩ := serving server registered
    exact here.not_errs (usual server registered) unreferred distinct e
  obtain ⟨names, result, ascending, members⟩ := Surveyed.result_of_no_errors none
  refine ⟨names, result, ascending, fun x => ?_⟩
  simp only [members, List.mem_map, exists_exists_and_eq_and]
  refine exists_congr fun server => and_congr_right fun member => ?_
  obtain ⟨users, groups, s, here⟩ := serving server member
  exact here.names_iff (usual server member) unreferred distinct

namespace OddNames

def groupMapping : GroupMapping := .ofRequest "ou=groups,dc=example,dc=org" GroupMapping.uniqueMemberRequest

/-- A server with users and groups, all of which are looked up by anyone. -/
def groupServer : Server := { server with groupMapping := some groupMapping }

def groupServers : Registry := ⟨[groupServer], by decide, by decide⟩

/-- The name of this entry is made of what filters are made of. -/
def carl : Entry := .ofAttributes "cn=Carl \\2a (*),ou=users,dc=example,dc=org"
  [("objectClass", ["top", "inetOrgPerson"]), ("uid", ["carl"])]

def group (name : String) (members : List String) : Entry :=
  .ofAttributes ("cn=" ++ name ++ ",ou=groups,dc=example,dc=org")
    [("objectClass", ["groupOfUniqueNames"]), ("cn", [name]), ("uniqueMember", members)]

def staff : Entry := group "staff" [anna.dn, carl.dn]

def guests : Entry := group "guests" ["cn=Carl * (*),ou=users,dc=example,dc=org"]

def members : MemoryServer where
  entries := [anna, carl, staff, guests]

def groupDirectories : Surroundings MemoryDirectory where
  directories := { servers := .ofList [("ldap://a.example.org:389", members)] }
  names := { answer := .ok [] }

theorem usual_groupServers : ∀ server ∈ groupServers.servers, Usual server :=
  List.forall_mem_singleton.2 (.of_mapping rfl rfl rfl rfl rfl)

end OddNames

open OddNames in
/-- The odd name is a member where it stands, and nowhere else. -/
theorem groups_members_odd :
    let svc := Surroundings.service MemoryDirectory.service
    let run := Operation.performAll svc Surroundings.kerberos [.groups "carl"] (.ofRegistry groupServers)
      ⟨groupDirectories, []⟩
    ∃ names, (run.1.groups svc "carl" run.2).1.1 = .ok names ∧ names.Pairwise (· < ·) ∧
      "staff" ∈ names ∧ "guests" ∉ names := by
  have unreferred : Unreferred groupDirectories.directories.servers := forall_served (by decide +kernel)
  have distinct : MemoryDirectory.Distinct groupDirectories.directories.servers := forall_served (by decide +kernel)
  have carls : members.usersOf mapping.baseDn "carl" = [carl] := by decide +kernel
  have joined : members.groupsOf groupMapping.baseDn carl.dn = [staff] := by decide +kernel
  obtain ⟨names, result, ascending, named⟩ := groups_members groupServers usual_groupServers [.groups "carl"] "carl"
    ⟨groupDirectories, []⟩ unreferred distinct (fun other member => by
      obtain rfl : other = groupServer := List.mem_singleton.1 member
      exact ⟨_, _, members, rfl, rfl, rfl, rfl, rfl, nofun, nofun, by rw [carls]; exact Nat.le_refl 1⟩)
  refine ⟨names, result, ascending, (named "staff").2 ?_, fun member => ?_⟩
  · refine ⟨groupServer, List.mem_singleton_self _, _, _, members, rfl, rfl, rfl, carl, ?_, staff, ?_, ?_⟩
    · rw [carls]
      exact List.mem_singleton_self _
    · rw [joined]
      exact List.mem_singleton_self _
    · decide +kernel
  · obtain ⟨other, registered, users, groups, s, hasUsers, hasGroups, served, user, inUsers, entry, inGroups, cn⟩ :=
      (named "guests").1 member
    obtain rfl : other = groupServer := List.mem_singleton.1 registered
    cases hasUsers
    cases hasGroups
    have here : groupDirectories.directories.servers.get? groupServer.url = some members := rfl
    obtain rfl : s = members := Option.some.inj (served.symm.trans here)
    rw [carls] at inUsers
    obtain rfl : user = carl := List.mem_singleton.1 inUsers
    rw [joined] at inGroups
    obtain rfl : entry = staff := List.mem_singleton.1 inGroups
    revert cn
    decide +kernel

end Resolver

end DirectoryLogin
