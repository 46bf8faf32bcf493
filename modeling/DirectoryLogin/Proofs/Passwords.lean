import DirectoryLogin.Kerberos.TicketProgram
import DirectoryLogin.Proofs.Search.InStep
import DirectoryLogin.Proofs.Steady

namespace DirectoryLogin

open Text

variable {σ σ' κ κ' α : Type} {p q : String}

namespace Pool

variable (svc : Service σ κ) (svc' : Service σ' κ')

theorem takeOpen_inStep (server : Server) (idle : List Nat) :
    InStep p q (takeOpen svc.overheard server idle) (takeOpen svc'.overheard server idle) := by
  induction idle with
  | nil => exact .pure _
  | cons n older ih =>
    refine .bind (.isClosed svc svc' n) fun closed => ?_
    cases closed with
    | true => exact .bind (.note _) fun _ => ih
    | false => exact .pure _

theorem bind_inStep (server : Server) (pool : Pool Nat) :
    InStep p q (pool.bind svc.overheard server) (pool.bind svc'.overheard server) := by
  refine .bind (takeOpen_inStep svc svc' server pool.lend.idle) ?_
  rintro ⟨found, idle⟩
  cases found with
  | some n => exact .pure _
  | none =>
    refine .bind (.note _) fun _ => .bind (.connect svc svc' (.bind server)) fun outcome => ?_
    cases outcome with
    | ok n => exact .pure _
    | error e => exact .pure _

theorem release_inStep (n : Nat) (pool : Pool Nat) :
    InStep p q (pool.release svc.overheard n) (pool.release svc'.overheard n) := by
  refine .bind (.isClosed svc svc' n) fun closed => ?_
  cases closed with
  | true => exact .pure _
  | false => exact .pure _

theorem discard_inStep (n : Nat) (pool : Pool Nat) :
    InStep p q (pool.discard svc.overheard n) (pool.discard svc'.overheard n) := by
  refine .bind (.close svc svc' n) fun outcome => ?_
  cases outcome with
  | ok _ => exact .pure _
  | error e => exact .bind (.note _) fun _ => .pure _

end Pool

namespace Factory

variable (svc : Service σ κ) (svc' : Service σ' κ')

theorem lookup_inStep (r : Request) (mode : FindMode) (f : Factory Nat) :
    InStep p q (f.lookup svc.overheard r mode) (f.lookup svc'.overheard r mode) := by
  refine .bind (Pool.bind_inStep svc svc' f.server f.pool) ?_
  rintro ⟨bound, pool⟩
  cases bound with
  | error e => exact .pure _
  | ok n =>
    refine .bind (Search.find_inStep svc svc' f.server n r mode) fun found => ?_
    cases found with
    | ok entries => exact .bind (Pool.release_inStep svc svc' n pool) fun _ => .pure _
    | error e =>
      dsimp only
      split
      · exact .bind (Pool.discard_inStep svc svc' n pool) fun _ => .pure _
      · exact .bind (Pool.release_inStep svc svc' n pool) fun _ => .pure _

/-- The password is hidden in what is logged about the environment. -/
theorem openUser_inStep (server : Server) (principal : String) :
    InStep p q (openUser svc.overheard server principal p) (openUser svc'.overheard server principal q) :=
  .bind (.note _) fun _ => .connect svc svc' (.user server principal)

theorem checkBind_inStep (server : Server) (principal : String) :
    InStep p q (checkBind svc.overheard server principal p) (checkBind svc'.overheard server principal q) := by
  refine .bind (openUser_inStep svc svc' server principal) fun opened => ?_
  cases opened with
  | ok n =>
    refine .bind (.close svc svc' n) fun outcome => ?_
    cases outcome with
    | ok _ => exact .pure _
    | error e => exact .bind (.note _) fun _ => .pure _
  | error e =>
    cases e with
    | bind reason => exact .bind (.note _) fun _ => .pure _
    | _ => exact .pure _

end Factory

namespace Resolver

variable (svc : Service σ κ) (svc' : Service σ' κ') (kerberos : Kerberos σ) (kerberos' : Kerberos σ')

theorem findUser_inStep (mapping : UserMapping) (login : String) (attributes : List String) (f : Factory Nat) :
    InStep p q (findUser svc.overheard mapping login attributes f)
      (findUser svc'.overheard mapping login attributes f) := by
  refine .bind (Factory.lookup_inStep svc svc' _ mapping.findMode f) ?_
  rintro ⟨found, g⟩
  cases found with
  | ok entries => exact .pure _
  | error e =>
    dsimp only
    split
    · exact .bind (.note _) fun _ => .pure _
    · exact .pure _

theorem principalOf_inStep (login : String) (f : Factory Nat) :
    InStep p q (principalOf svc.overheard login f) (principalOf svc'.overheard login f) := by
  unfold principalOf
  split
  · exact .pure _
  · cases f.server.userMapping with
    | none => exact .bind (.note _) fun _ => .pure _
    | some mapping =>
      refine .bind (findUser_inStep svc svc' mapping login [] f) ?_
      rintro ⟨found, g⟩
      rcases found with e | _ | entry
      · exact .bind (.note _) fun _ => .pure _
      · exact .bind (.note _) fun _ => .pure _
      · exact .pure _

theorem checkPassword_inStep (server : Server) (principal : String) :
    InStep p q (checkPassword svc.overheard (kerberos.overheard svc) server principal p)
      (checkPassword svc'.overheard (kerberos'.overheard svc') server principal q) := by
  unfold checkPassword
  split
  · exact .login svc svc' kerberos kerberos' _
  · exact Factory.checkBind_inStep svc svc' server principal

theorem accepts_inStep (login : String) (f : Factory Nat) :
    InStep p q (accepts svc.overheard (kerberos.overheard svc) login p f)
      (accepts svc'.overheard (kerberos'.overheard svc') login q f) := by
  refine .bind (principalOf_inStep svc svc' login f) ?_
  rintro ⟨who, g⟩
  cases who with
  | nothing => exact .pure _
  | failure e => exact .pure _
  | answer principal =>
    refine .bind (checkPassword_inStep svc svc' kerberos kerberos' g.server principal) fun verdict => ?_
    rcases verdict with e | _ | _
    · exact .bind (.note _) fun _ => .pure _
    · exact .bind (.note _) fun _ => .pure _
    · exact .bind (.note _) fun _ => .pure _

theorem askUntil_inStep {ask : Question (Overheard σ κ) Nat α} {ask' : Question (Overheard σ' κ') Nat α}
    (asks : ∀ f, InStep p q (ask f) (ask' f)) (last : Option Error) (fs : List (Factory Nat)) :
    InStep p q (askUntil ask last fs) (askUntil ask' last fs) := by
  induction fs generalizing last with
  | nil => exact .pure _
  | cons f rest ih =>
    refine .bind (asks f) ?_
    rintro ⟨reply, g⟩
    cases reply with
    | answer a => exact .pure _
    | nothing => exact .bind (ih last) fun _ => .pure _
    | failure e => exact .bind (ih (some e)) fun _ => .pure _

theorem authenticate_inStep (login : String) (r : Resolver Nat) (filled : hasContent p = true)
    (filled' : hasContent q = true) :
    InStep p q (authenticate svc.overheard (kerberos.overheard svc) login p r)
      (authenticate svc'.overheard (kerberos'.overheard svc') login q r) := by
  unfold authenticate
  rw [filled, filled']
  split
  · exact .bind (.note _) fun _ => .pure _
  · refine .bind (askUntil_inStep (accepts_inStep svc svc' kerberos kerberos' login) none r.factories) ?_
    rintro ⟨reply, fs⟩
    cases reply with
    | answer _ => exact .pure _
    | nothing => exact .pure _
    | failure e => exact .bind (.note _) fun _ => .pure _

end Resolver

/-- Environments of one connection that are told apart by a user's credential at most: those of the pool and of a
referral are the same, and those of a user are in no pool, and have a principal and a credential that is not blank. -/
inductive Environment.SameButCredential : Environment → Environment → Prop
  | bind (server : Server) : SameButCredential (.bind server) (.bind server)
  | referral (server : Server) (url : String) : SameButCredential (.referral server url) (.referral server url)
  | user (env : Environment) (credential credential' : String) (unpooled : env.pooled = false)
    (named : env.principal.isSome = true) (filled : hasContent credential = true)
    (filled' : hasContent credential' = true) : SameButCredential { env with credential := some credential }
      { env with credential := some credential' }

theorem Environment.Twin.sameButCredential {env env' : Environment} (twin : env.Twin p q env')
    (filled : hasContent p = true) (filled' : hasContent q = true) : env.SameButCredential env' := by
  cases twin with
  | bind server => exact .bind server
  | referral server url => exact .referral server url
  | user server principal =>
    exact .user (.user server principal p) p q rfl rfl filled filled'

namespace Ask

/-- The environment that a connection was asked for with. -/
def attempt : Ask → List Environment
  | connect env => [env]
  | _ => []

def isSearch : Ask → Bool
  | search .. => true
  | _ => false

variable {asks asks' : List Ask}

theorem Twin.filter_isSearch (twins : List.Forall₂ (Twin p q) asks asks') :
    asks'.filter isSearch = asks.filter isSearch := by
  induction twins with
  | nil => rfl
  | cons twin _ ih =>
    cases twin with
    | search n base scope filter attributes => exact congrArg (_ :: ·) ih
    | _ => exact ih

theorem Twin.attempts (twins : List.Forall₂ (Twin p q) asks asks') :
    List.Forall₂ (Environment.Twin p q) (asks.flatMap attempt) (asks'.flatMap attempt) := by
  induction twins with
  | nil => exact .nil
  | cons twin _ ih =>
    cases twin with
    | connect twin => exact .cons twin ih
    | _ => exact ih

end Ask

namespace Overheard

def asks (t : Trace (Overheard σ κ)) : List Ask := t.world.said.map Utterance.asked

/-- The environments with which connections were asked for. -/
def environments (t : Trace (Overheard σ κ)) : List Environment := (asks t).flatMap Ask.attempt

/-- The searches that were asked for. -/
def searches (t : Trace (Overheard σ κ)) : List Ask := (asks t).filter Ask.isSearch

/-- Two runs with the passwords `p` and `q` have everything else in common. -/
structure SameButPassword (p q : String) (heard : α × Trace (Overheard σ κ)) (heard' : α × Trace (Overheard σ' κ')) :
    Prop where
  result : heard'.1 = heard.1
  /-- The resolver itself logs the same. -/
  ownLog : ownLog heard'.2 = ownLog heard.2
  /-- All that is logged is the same, if the Kerberos logins log the same themselves. -/
  log : NotedAlike heard.2 heard'.2 → heard'.2.log = heard.2.log
  asks : List.Forall₂ (Ask.Twin p q) (asks heard.2) (asks heard'.2)
  searches : searches heard'.2 = searches heard.2
  environments : List.Forall₂ (Environment.Twin p q) (environments heard.2) (environments heard'.2)

theorem sameButPassword_of_parallel {a a' : α} {t : Trace (Overheard σ κ)} {t' : Trace (Overheard σ' κ')}
    (same : a' = a) (parallel : Parallel p q t t') : SameButPassword p q (a, t) (a', t') := by
  have twins : List.Forall₂ (Ask.Twin p q) (asks t) (asks t') :=
    List.forall₂_map_left_iff.2 (List.forall₂_map_right_iff.2 (parallel.said.imp fun _ _ => Utterance.Twin.asked))
  exact ⟨same, parallel.logs.own, parallel.logs.whole, twins, Ask.Twin.filter_isSearch twins, Ask.Twin.attempts twins⟩

end Overheard

namespace Resolver

variable (svc : Service σ κ) (kerberos : Kerberos σ) (svc' : Service σ' κ) (kerberos' : Kerberos σ')

/-- A user's password has an influence on nothing but the answers that it gets. If two logins with two passwords are
answered alike, by whatever services and Kerberos logins, they come to the same, log the same and ask the same, but for
the password; and the environments of all connections are the same, but for the credentials of users. What a Kerberos
login logs itself is a part of its answer: where that is not the same, everything else in the log is. -/
theorem authenticate_password (login : String) (r : Resolver κ) (world : σ) (world' : σ') (log : List Event)
    (filled : hasContent p = true) (filled' : hasContent q = true)
    (closed : r.waiting.map (svc'.isClosed · world') = r.waiting.map (svc.isClosed · world)) :
    let run := authenticate svc kerberos login p r ⟨world, log⟩
    let run' := authenticate svc' kerberos' login q r ⟨world', log⟩
    let heard := authenticate svc.overheard (kerberos.overheard svc) login p r.numbered
      ⟨.start svc r.waiting world, log⟩
    let heard' := authenticate svc'.overheard (kerberos'.overheard svc') login q r.numbered
      ⟨.start svc' r.waiting world', log⟩
    AnsweredAlike heard.2.world.said heard'.2.world.said →
      run'.1.1 = run.1.1 ∧ (NotedAlike heard.2 heard'.2 → run'.2.log = run.2.log) ∧
      Overheard.SameButPassword p q heard heard' ∧
      List.Forall₂ Environment.SameButCredential (Overheard.environments heard.2) (Overheard.environments heard'.2) ∧
      Overheard.Faithful svc kerberos run heard ∧ Overheard.Faithful svc' kerberos' run' heard' := by
  intro run run' heard heard' answers
  have faithful := authenticate_overheard svc kerberos login p r world log
  have faithful' := authenticate_overheard svc' kerberos' login q r world' log
  have begin : Parallel p q (⟨.start svc r.waiting world, log⟩ : Trace (Overheard σ κ))
      (⟨.start svc' r.waiting world', log⟩ : Trace (Overheard σ' κ)) :=
    ⟨.nil, closed, rfl, Nat.zero_le _, Nat.zero_le _, fun _ => rfl⟩
  obtain ⟨result, parallel⟩ :=
    (authenticate_inStep svc svc' kerberos kerberos' login r.numbered filled filled').stays _ _ begin answers
  have same : Overheard.SameButPassword p q heard heard' := Overheard.sameButPassword_of_parallel result parallel
  have environments := same.environments.imp fun _ _ twin => twin.sameButCredential filled filled'
  refine ⟨?_, fun noted => ?_, same, environments, faithful, faithful'⟩
  · exact faithful'.result.symm.trans ((congrArg Prod.fst result).trans faithful.result)
  · exact faithful'.log.symm.trans ((same.log noted).trans faithful.log)

end Resolver

namespace Unconvinced

/-- A server with Kerberos, and one with passwords. -/
def servers : List Server := [
  { key := "k", url := "ldap://k.example.org", mechanism := .gssapi, realm := some "example.org" },
  { key := "a", url := "ldap://a.example.org", bindDn := some "cn=reader", bindPassword := some "reads"
    userMapping := some (.ofRequest "dc=example,dc=org" "(uid=\x7blogin\x7d)") }]

/-- Directories in which every search comes to one user, and that do not take the password of any. -/
def service : Service Answer Environment :=
  Answer.service (fun env => if env.pooled then none else some (.bind "invalid credentials"))
    fun _ _ _ _ _ => { items := [.entry Ring.anna] }

/-- A ticket program that takes no password. -/
def kerberos : Kerberos Answer :=
  TicketProgram.login {} fun _ _ _ _ w => (.ended false "kinit: Password incorrect", w)

def resolver : Resolver Environment :=
  .ofRegistry ⟨servers, by decide, by decide⟩

def run (password : String) : (Bool × Resolver Environment) × Trace Answer :=
  Resolver.authenticate service kerberos "anna" password resolver ⟨{}, []⟩

def heard (password : String) : (Bool × Resolver Nat) × Trace (Overheard Answer Environment) :=
  Resolver.authenticate service.overheard (kerberos.overheard service) "anna" password resolver.numbered
    ⟨.start service resolver.waiting {}, []⟩

end Unconvinced

/-- Two wrong passwords, of which nothing is to be seen in the log. -/
theorem Resolver.authenticate_password_unconvinced :
    (Unconvinced.run "guess").1.1 = false ∧ (Unconvinced.run "another guess").1.1 = false ∧
    (Unconvinced.run "another guess").2.log = (Unconvinced.run "guess").2.log ∧
    Overheard.SameButPassword "guess" "another guess" (Unconvinced.heard "guess")
      (Unconvinced.heard "another guess") := by
  have answers : AnsweredAlike (Unconvinced.heard "guess").2.world.said
      (Unconvinced.heard "another guess").2.world.said := .of_eq (by decide +kernel)
  have noted : NotedAlike (Unconvinced.heard "guess").2 (Unconvinced.heard "another guess").2 :=
    ⟨[[.debug "Password is not valid for principal"
      [("principal", "anna@EXAMPLE.ORG"), ("stderr", "kinit: Password incorrect")]]],
      by decide +kernel, by decide +kernel⟩
  obtain ⟨result, log, same, -⟩ := authenticate_password Unconvinced.service Unconvinced.kerberos Unconvinced.service
    Unconvinced.kerberos "anna" Unconvinced.resolver {} {} [] (p := "guess") (q := "another guess") (by decide)
    (by decide) rfl answers
  have refused : (Unconvinced.run "guess").1.1 = false := by decide +kernel
  exact ⟨refused, result.trans refused, log noted, same⟩

end DirectoryLogin
