import DirectoryLogin.Proofs.Alike
import DirectoryLogin.Proofs.Directory.Abreast
import DirectoryLogin.Proofs.Leaks

namespace DirectoryLogin

variable {σ σ' κ κ' : Type}

namespace Operation

/-- What an operation gives to its caller. -/
abbrev Result : Operation → Type
  | authenticate .. => Bool
  | userDetails _ => Except Error (Option UserDetails)
  | groups _ => Except Error (List String)
  | testConnections => List (String × Except Error Unit)
  | close => Unit

/-- The answer to an operation, and the resolver that is left. -/
def answer (svc : Service σ κ) (kerberos : Kerberos σ) (r : Resolver κ) :
    (operation : Operation) → Act σ (operation.Result × Resolver κ)
  | authenticate login password => r.authenticate svc kerberos login password
  | userDetails login => r.userDetails svc login
  | groups login => r.groups svc login
  | testConnections => r.testConnections svc
  | close => do return ((), ← r.close svc)

/-- An operation that is performed is one whose answer is given away. -/
theorem perform_eq (svc : Service σ κ) (kerberos : Kerberos σ) (r : Resolver κ) (operation : Operation) :
    operation.perform svc kerberos r = (do return (← operation.answer svc kerberos r).2) := by
  cases operation <;> rfl

theorem answer_registry (svc : Service σ κ) (kerberos : Kerberos σ) (r : Resolver κ) (operation : Operation) :
    Act.Meets (fun _ => True) (operation.answer svc kerberos r) fun found _ => found.2.registry = r.registry := by
  cases operation with
  | authenticate login password =>
    simp only [answer, Resolver.authenticate]
    split
    · exact .bind (.note _) fun _ => .pure fun _ _ => rfl
    · refine .bind (.any _) fun found => ?_
      cases found.1 with
      | answer _ => exact .pure fun _ _ => rfl
      | nothing => exact .pure fun _ _ => rfl
      | failure e => exact .bind (.note _) fun _ => .pure fun _ _ => rfl
  | userDetails login =>
    simp only [answer, Resolver.userDetails]
    refine .bind (.note _) fun _ => .bind (.any _) fun found => ?_
    cases found.1 with
    | answer _ => exact .pure fun _ _ => rfl
    | nothing => exact .pure fun _ _ => rfl
    | failure e => exact .pure fun _ _ => rfl
  | groups login =>
    simp only [answer, Resolver.groups]
    split
    · exact .pure fun _ _ => rfl
    · refine .bind (.note _) fun _ => .bind (.any _) ?_
      rintro ⟨⟨answers, last⟩, factories⟩
      cases answers <;> cases last <;> exact .pure fun _ _ => rfl
  | testConnections => exact .bind (.any _) fun _ => .pure fun _ _ => rfl
  | close => exact .bind (.bind (.any _) fun _ => .pure fun _ _ => rfl) fun _ => .pure fun _ => id

variable {svc : Service σ κ} {kerberos : Kerberos σ} {svc' : Service σ' κ'} {kerberos' : Kerberos σ'}
  (alike : Alike svc kerberos svc' kerberos')

theorem answer_abreast (operation : Operation) (r : Resolver κ) (r' : Resolver κ') :
    alike.Abreast (alike.Beside r r') (operation.answer svc kerberos r) (operation.answer svc' kerberos' r')
      fun found found' w w' => found.1 = found'.1 ∧ alike.Beside found.2 found'.2 w w' := by
  cases operation with
  | authenticate login password => exact Resolver.authenticate_abreast alike login password r r'
  | userDetails login => exact Resolver.userDetails_abreast alike login r r'
  | groups login => exact Resolver.groups_abreast alike login r r'
  | testConnections => exact Resolver.testConnections_abreast alike r r'
  | close => exact .bind (Resolver.close_abreast alike r r') fun _ _ => .pure fun _ _ beside => ⟨rfl, beside⟩

theorem performAll_abreast (operations : List Operation) (r : Resolver κ) (r' : Resolver κ') :
    alike.Abreast (alike.Beside r r') (performAll svc kerberos operations r)
      (performAll svc' kerberos' operations r') alike.Beside := by
  induction operations generalizing r r' with
  | nil => exact .pure fun _ _ => id
  | cons operation rest ih =>
    refine .bind ?_ ih
    rw [perform_eq, perform_eq]
    exact .bind (answer_abreast alike operation r r') fun _ _ => .pure fun _ _ => And.right

theorem performAll_registry (svc : Service σ κ) (kerberos : Kerberos σ) (operations : List Operation)
    (r : Resolver κ) (t : Trace σ) : (performAll svc kerberos operations r t).1.registry = r.registry := by
  induction operations generalizing r t with
  | nil => rfl
  | cons operation rest ih =>
    have first : (operation.perform svc kerberos r t).1.registry = r.registry := by
      rw [perform_eq]
      exact answer_registry svc kerberos r operation t trivial
    rw [← first]
    exact ih ..

theorem performAll_servers (svc : Service σ κ) (kerberos : Kerberos σ) (registry : Registry)
    (operations : List Operation) (t : Trace σ) :
    (performAll svc kerberos operations (.ofRegistry registry) t).1.factories.map Factory.server =
      registry.servers := by
  have servers := (performAll_tidy svc kerberos registry operations t).servers
  rw [performAll_plain svc kerberos registry operations t, ← servers]
  simp [Resolver.plain, Factory.plain, Function.comp_def]

end Operation

namespace Surroundings

open MemoryDirectory

variable {kerberos : Kerberos (Surroundings MemoryDirectory)} {centre : KeyCentre → Prop}
  {answer : (principal password : String) → Except Error Bool}
  {constant : Kerberos.Constant kerberos centre answer} {servers : Dictionary MemoryServer}

/-- A resolver is beside a new one if the connections that wait are as good as new. -/
theorem beside_fresh {r : Resolver Nat} {registry : Registry} (same : r.registry = registry)
    (all : r.factories.map Factory.server = registry.servers) {w w' : Surroundings MemoryDirectory}
    (known : ∀ f ∈ r.factories, AllKnown servers f.server f.pool.idle w.directories) :
    (alike constant servers).Beside r (.ofRegistry registry) w w' := by
  refine ⟨same.symm, ?_⟩
  change List.Forall₂ _ r.factories (registry.servers.map Factory.ofServer)
  rw [← all, List.map_map, List.forall₂_map_right_iff, List.forall₂_same]
  exact fun f member => ⟨rfl, known f member, nofun⟩

/-- Whatever a resolver has been asked, the connections that wait are as good as new. -/
theorem performAll_known (constant : Kerberos.Constant kerberos centre answer) (registry : Registry)
    (operations : List Operation) {t : Trace (Surroundings MemoryDirectory)} (fit : Fit servers centre t.world) :
    let run := Operation.performAll (service MemoryDirectory.service) kerberos operations (.ofRegistry registry) t
    Fit servers centre run.2.world ∧
      ∀ f ∈ run.1.factories, AllKnown servers f.server f.pool.idle run.2.world.directories := by
  have fresh : (alike constant servers).Beside (.ofRegistry registry) (.ofRegistry registry) t.world t.world :=
    beside_fresh rfl (by simp [Resolver.ofRegistry, Factory.ofServer, Function.comp_def])
      (by simp [Resolver.ofRegistry, Factory.ofServer, Pool.ofSize, AllKnown])
  obtain ⟨ready, -, -, paired⟩ := Operation.performAll_abreast (alike constant servers) operations
    (.ofRegistry registry) (.ofRegistry registry) t t ⟨fit, fit⟩ fresh
  exact ⟨ready.1, fun f member => (List.forall₂_same.1 paired f member).2.1⟩

end Surroundings

namespace Resolver

/-- The next answer of a resolver does not depend on what it was asked before: it is that of a new resolver, now, or at
any other time on the same servers. All connections that wait were opened with the credentials of their server. -/
theorem answer_afterwards {kerberos : Kerberos (Surroundings MemoryDirectory)} {centre : KeyCentre → Prop}
    {told : (principal password : String) → Except Error Bool} (constant : Kerberos.Constant kerberos centre told)
    (registry : Registry) (history : List Operation) (operation : Operation)
    (t : Trace (Surroundings MemoryDirectory)) (start : centre t.world.keyCentre) :
    let svc := Surroundings.service MemoryDirectory.service
    let run := Operation.performAll svc kerberos history (.ofRegistry registry) t
    let kept := Operation.performAll svc.witnessed kerberos.witnessed history (.ofRegistry registry)
      ⟨⟨t.world, []⟩, t.log⟩
    let result := (operation.answer svc kerberos run.1 run.2).1.1
    (∀ u, u.world.directories.servers = t.world.directories.servers → centre u.world.keyCentre →
      result = (operation.answer svc kerberos (.ofRegistry registry) u).1.1) ∧
    result = (operation.answer svc kerberos (.ofRegistry registry) run.2).1.1 ∧
    run = (kept.1.plain, Act.plain kept.2) ∧
    ∀ f ∈ kept.1.factories, ∀ c ∈ f.pool.idle, c.env = Environment.bind f.server := by
  intro svc run kept result
  obtain ⟨fit, known⟩ := Surroundings.performAll_known constant registry history ⟨rfl, start⟩
  have beside (w : Surroundings MemoryDirectory) :
      (Surroundings.alike constant t.world.directories.servers).Beside run.1 (.ofRegistry registry) run.2.world w :=
    Surroundings.beside_fresh (Operation.performAll_registry svc kerberos history _ t)
      (Operation.performAll_servers svc kerberos registry history t) known
  have equal (u : Trace (Surroundings MemoryDirectory))
      (other : Surroundings.Fit t.world.directories.servers centre u.world) :
      result = (operation.answer svc kerberos (.ofRegistry registry) u).1.1 :=
    (Operation.answer_abreast (Surroundings.alike constant _) operation run.1 (.ofRegistry registry) run.2 u
      ⟨fit, other⟩ (beside u.world)).2.2.1
  obtain ⟨owns, -, each⟩ := (Operation.performAll_tidy svc kerberos registry history t).each
  exact ⟨fun u same other => equal u ⟨same, other⟩, equal run.2 fit,
    Operation.performAll_plain svc kerberos registry history t, Kept.all_bound each⟩

namespace Twins

def server : Server where
  key := "a"
  url := "ldap://a.example.org:389"
  userMapping := some (.ofRequest "ou=users,dc=example,dc=org" "(uid=\x7blogin\x7d)")

def servers : Registry := ⟨[server], by decide, by decide⟩

/-- Two people with one login, and a third one. -/
def directories : Surroundings MemoryDirectory where
  directories := { servers := .ofList [("ldap://a.example.org:389",
    ((MemoryServer.withUser {} "twin" "uid=twin,ou=north,ou=users,dc=example,dc=org" "secret").withUser
      "twin" "uid=twin,ou=south,ou=users,dc=example,dc=org" "secret").withUser
      "anna" "uid=anna,ou=users,dc=example,dc=org" "anna's")] }
  names := { answer := .ok [] }

end Twins

open Twins in
/-- The connection that waits has given an ambiguous search up, and the check of a wrong password has failed. -/
theorem answer_afterwards_twins :
    let svc := Surroundings.service MemoryDirectory.service
    let history := [.userDetails "twin", .authenticate "anna" "wrong", .userDetails "twin"]
    let run := Operation.performAll svc Surroundings.kerberos history (.ofRegistry servers) ⟨directories, []⟩
    run.1.factories.map (·.pool.idle) = [[0]] ∧
      ((Operation.userDetails "anna").answer svc Surroundings.kerberos run.1 run.2).1.1 =
        .ok (some { name := "anna user", email := "anna@example.org" }) := by
  intro svc history run
  have fresh : ((Operation.userDetails "anna").answer svc Surroundings.kerberos (.ofRegistry servers)
      ⟨directories, []⟩).1.1 = .ok (some { name := "anna user", email := "anna@example.org" }) := by
    decide +kernel
  refine ⟨by decide +kernel, Eq.trans ?_ fresh⟩
  -- Nothing is to be computed about what was asked before.
  revert run
  generalize history = earlier
  exact (answer_afterwards (Surroundings.kerberos_constant directories.keyCentre) servers earlier
    (.userDetails "anna") ⟨directories, []⟩ ⟨rfl, rfl⟩).1 ⟨directories, []⟩ rfl ⟨rfl, rfl⟩

end Resolver

end DirectoryLogin
