import DirectoryLogin.Directory.Memory
import DirectoryLogin.Proofs.Sweep
import DirectoryLogin.Proofs.Text.Cutting
import DirectoryLogin.Surroundings
import Mathlib.Data.List.Forall2

namespace DirectoryLogin

open Exchange (Live)

variable {σ κ : Type}

theorem Factory.lookup_server (svc : Service σ κ) (r : Request) (mode : FindMode) (f : Factory κ) :
    Act.Meets (fun _ => True) (f.lookup svc r mode) fun found _ => found.2.server = f.server := by
  refine .bind (.any _) ?_
  rintro ⟨bound, pool⟩
  cases bound with
  | error e => exact .pure fun _ _ => rfl
  | ok c =>
    refine .bind (.any _) fun found => ?_
    have back (pool : Pool κ) : Act.Meets (fun _ : σ => True) (pure (found, { f with pool }))
        fun found _ => found.2.server = f.server := .pure fun _ _ => rfl
    cases found with
    | ok entries => exact .bind (.any _) back
    | error e =>
      dsimp only
      split
      · exact .bind (.any _) back
      · exact .bind (.any _) back

namespace Resolver

/-- What a server has to say about a login and a password. -/
structure Answers where
  /-- The entry of the login. -/
  lookup : Except Error (Option Entry)
  /-- Whether a principal may bind with the password. -/
  bind : String → Except Error Unit
  /-- Whether the password is the principal's, according to Kerberos. -/
  ticket : String → Except Error Bool

/-- When a server with such answers accepts a login. -/
def Answers.Accepts (a : Answers) (server : Server) (login : String) : Prop :=
  match server.mechanism with
  | .simple => server.userMapping.isSome ∧ ∃ entry, a.lookup = .ok (some entry) ∧ a.bind entry.dn = .ok ()
  | .cramMd5 => a.bind login = .ok ()
  | .digestMd5 => a.bind login = .ok ()
  | .gssapi => a.ticket (principalName login server.realm) = .ok true

section Questions

variable (svc : Service σ κ) (kerberos : Kerberos σ) (login password : String)

/-- A server gives these answers, now: it looks the login up, and then checks a password. -/
structure Answers.Given (f : Factory κ) (t : Trace σ) (a : Answers) : Prop where
  lookup : ∀ mapping, f.server.userMapping = some mapping → (findUser svc mapping login [] f t).1.1 = a.lookup
  bind : ∀ principal, (svc.connect (.user f.server principal password)
    (principalOf svc login f t).2.world).1.map (fun _ => ()) = a.bind principal
  ticket : ∀ principal, (kerberos principal password (principalOf svc login f t).2).1 = a.ticket principal

/-- The servers give these answers, each in its turn. -/
inductive InTurn : List (Factory κ) → Trace σ → List Answers → Prop
  | nil {t} : InTurn [] t []
  | cons {f rest t a answers} (given : Answers.Given svc kerberos login password f t a)
    (later : InTurn rest (accepts svc kerberos login password f t).2 answers) :
    InTurn (f :: rest) t (a :: answers)

/-- What has happened when all of some servers were asked, in order. -/
def askEach : List (Factory κ) → Trace σ → Trace σ
  | [], t => t
  | f :: rest, t => askEach rest (accepts svc kerberos login password f t).2

end Questions

/-- The server at some place accepts the login. -/
def Accepting (servers : List Server) (answers : List Answers) (login : String) (i : Nat) : Prop :=
  ∃ server a, servers[i]? = some server ∧ answers[i]? = some a ∧ a.Accepts server login

variable {svc : Service σ κ} {kerberos : Kerberos σ} {login password : String}

theorem Answers.Given.exists (svc : Service σ κ) (kerberos : Kerberos σ) (login password : String)
    (f : Factory κ) (t : Trace σ) : ∃ a, Answers.Given svc kerberos login password f t a := by
  cases users : f.server.userMapping with
  | none => exact ⟨⟨.ok none, _, _⟩, by simp [users], fun _ => rfl, fun _ => rfl⟩
  | some mapping =>
    refine ⟨⟨(findUser svc mapping login [] f t).1.1, _, _⟩, fun other same => ?_, fun _ => rfl, fun _ => rfl⟩
    obtain rfl : mapping = other := Option.some.inj (users.symm.trans same)
    rfl

theorem InTurn.exists (svc : Service σ κ) (kerberos : Kerberos σ) (login password : String)
    (fs : List (Factory κ)) (t : Trace σ) : ∃ answers, InTurn svc kerberos login password fs t answers := by
  induction fs generalizing t with
  | nil => exact ⟨[], .nil⟩
  | cons f rest ih =>
    obtain ⟨a, given⟩ := Answers.Given.exists svc kerberos login password f t
    obtain ⟨answers, later⟩ := ih _
    exact ⟨a :: answers, .cons given later⟩

theorem findUser_server (svc : Service σ κ) (mapping : UserMapping) (login : String)
    (attributes : List String) (f : Factory κ) :
    Act.Meets (fun _ => True) (findUser svc mapping login attributes f)
      fun found _ => found.2.server = f.server := by
  refine .bind (Factory.lookup_server svc _ mapping.findMode f) ?_
  rintro ⟨found, f'⟩
  cases found with
  | ok entries => exact .pure fun _ => id
  | error e =>
    dsimp only
    split
    · exact .bind (.note _) fun _ => .pure fun _ => id
    · exact .pure fun _ => id

theorem principalOf_server (svc : Service σ κ) (login : String) (f : Factory κ) :
    Act.Meets (fun _ => True) (principalOf svc login f) fun found _ => found.2.server = f.server := by
  unfold principalOf
  split
  · exact .pure fun _ _ => rfl
  · cases f.server.userMapping with
    | none => exact .bind (.any _) fun _ => .pure fun _ _ => rfl
    | some mapping =>
      refine .bind (findUser_server svc mapping login [] f) ?_
      rintro ⟨found, f'⟩
      rcases found with e | _ | entry
      · exact .bind (.note _) fun _ => .pure fun _ => id
      · exact .bind (.note _) fun _ => .pure fun _ => id
      · exact .pure fun _ => id

theorem accepts_answer_iff (f : Factory κ) (t : Trace σ) :
    (accepts svc kerberos login password f t).1.1 = .answer () ↔
      ∃ principal, (principalOf svc login f t).1.1 = .answer principal ∧
        (checkPassword svc kerberos f.server principal password (principalOf svc login f t).2).1 = .ok true := by
  have same : (principalOf svc login f t).1.2.server = f.server := principalOf_server svc login f t trivial
  rw [← same]
  unfold accepts
  rw [Act.bind_apply]
  rcases principalOf svc login f t with ⟨⟨who, f'⟩, t'⟩
  cases who with
  | nothing => exact ⟨nofun, nofun⟩
  | failure e => exact ⟨nofun, nofun⟩
  | answer principal =>
    rcases checked : checkPassword svc kerberos f'.server principal password t' with ⟨outcome, t''⟩
    have only : (∃ other, Reply.answer principal = .answer other ∧
        (checkPassword svc kerberos f'.server other password t').1 = .ok true) ↔ outcome = .ok true := by
      constructor
      · rintro ⟨_, ⟨⟩, accepted⟩
        rwa [checked] at accepted
      · intro accepted
        exact ⟨principal, rfl, by rwa [checked]⟩
    dsimp only
    rw [only, Act.bind_apply, checked]
    rcases outcome with e | _ | _
    · exact ⟨nofun, nofun⟩
    · exact ⟨nofun, nofun⟩
    · exact ⟨fun _ => rfl, fun _ => rfl⟩

theorem checkBind_meets (svc : Service σ κ) (server : Server) (principal password : String) (w : σ) :
    Act.Meets (· = w) (Factory.checkBind svc server principal password) fun outcome _ =>
      outcome = .ok true ↔
        (svc.connect (.user server principal password) w).1.map (fun _ => ()) = .ok () := by
  have opens : Act.Meets (· = w) (Factory.openUser svc server principal password)
      fun outcome _ => outcome = (svc.connect (.user server principal password) w).1 :=
    .bind (.note _) fun _ => .perform fun _ same => by rw [same]
  generalize (svc.connect (.user server principal password) w).1 = connected at opens ⊢
  refine .bind opens fun outcome => ?_
  cases outcome with
  | ok c =>
    have closing : Act.Meets (fun _ => .ok c = connected) (Act.perform (svc.close c))
        fun _ _ => .ok c = connected := .perform fun _ => id
    refine .bind closing fun closed => ?_
    have accepted : Act.Meets (fun _ => .ok c = connected) (pure (.ok true) : Act σ (Except Error Bool))
        fun outcome _ => outcome = .ok true ↔ connected.map (fun _ => ()) = .ok () :=
      .pure fun _ same => by simp [← same, Except.map]
    cases closed with
    | ok _ => exact accepted
    | error e => exact .bind (.note _) fun _ => accepted
  | error e =>
    cases e with
    | bind reason => exact .bind (.note _) fun _ => .pure fun _ same => by simp [← same, Except.map]
    | _ => exact .pure fun _ same => by simp [← same, Except.map]

theorem principalOf_sasl {f : Factory κ} (sasl : f.server.mechanism.isSasl) (t : Trace σ) :
    principalOf svc login f t = ((.answer login, f), t) := by
  unfold principalOf
  rw [if_pos sasl]
  rfl

theorem principalOf_simple {f : Factory κ} (simple : f.server.mechanism = .simple) (t : Trace σ)
    (principal : String) : (principalOf svc login f t).1.1 = .answer principal ↔
      ∃ mapping entry, f.server.userMapping = some mapping ∧
        (findUser svc mapping login [] f t).1.1 = .ok (some entry) ∧ entry.dn = principal := by
  unfold principalOf
  rw [if_neg (by simp [simple, Mechanism.isSasl])]
  cases f.server.userMapping with
  | none => exact ⟨nofun, nofun⟩
  | some mapping =>
    dsimp only
    rw [Act.bind_apply]
    rcases found : findUser svc mapping login [] f t with ⟨⟨outcome, f'⟩, t'⟩
    have only : (∃ other entry, some mapping = some other ∧
        (findUser svc other login [] f t).1.1 = .ok (some entry) ∧ entry.dn = principal) ↔
          ∃ entry, outcome = .ok (some entry) ∧ entry.dn = principal := by
      constructor
      · rintro ⟨_, entry, ⟨⟩, same, dn⟩
        rw [found] at same
        exact ⟨entry, same, dn⟩
      · rintro ⟨entry, same, dn⟩
        exact ⟨mapping, entry, rfl, by rw [found]; exact same, dn⟩
    rw [only]
    rcases outcome with e | _ | entry
    · exact ⟨nofun, nofun⟩
    · exact ⟨nofun, nofun⟩
    · constructor
      · rintro ⟨⟩
        exact ⟨entry, rfl, rfl⟩
      · rintro ⟨_, ⟨⟩, rfl⟩
        rfl

/-- A server that is asked accepts the login if and only if its answers say so. -/
theorem Answers.Given.accepts_iff {f : Factory κ} {t : Trace σ} {a : Answers}
    (given : Given svc kerberos login password f t a) :
    (accepts svc kerberos login password f t).1.1 = .answer () ↔ a.Accepts f.server login := by
  have binds (principal : String) : (Factory.checkBind svc f.server principal password
      (principalOf svc login f t).2).1 = .ok true ↔ a.bind principal = .ok () := by
    rw [← given.bind]
    exact checkBind_meets svc f.server principal password _ _ rfl
  have lone (sasl : f.server.mechanism.isSasl) (p : String → Prop) :
      (∃ principal, (principalOf svc login f t).1.1 = .answer principal ∧ p principal) ↔ p login := by
    rw [principalOf_sasl sasl]
    constructor
    · rintro ⟨_, ⟨⟩, holds⟩
      exact holds
    · exact fun holds => ⟨login, rfl, holds⟩
  rw [accepts_answer_iff]
  unfold Answers.Accepts checkPassword
  cases mechanism : f.server.mechanism with
  | simple =>
    simp only [principalOf_simple mechanism, reduceCtorEq, if_false, binds]
    constructor
    · rintro ⟨_, ⟨mapping, entry, users, found, rfl⟩, bound⟩
      exact ⟨by rw [users]; rfl, entry, (given.lookup mapping users).symm.trans found, bound⟩
    · rintro ⟨users, entry, found, bound⟩
      obtain ⟨mapping, users⟩ := Option.isSome_iff_exists.1 users
      exact ⟨entry.dn, ⟨mapping, entry, users, (given.lookup mapping users).trans found, rfl⟩, bound⟩
  | cramMd5 => exact (lone (by rw [mechanism]; rfl) _).trans (binds login)
  | digestMd5 => exact (lone (by rw [mechanism]; rfl) _).trans (binds login)
  | gssapi =>
    refine (lone (by rw [mechanism]; rfl) _).trans ?_
    rw [← given.ticket]
    rfl

theorem accepts_server (svc : Service σ κ) (kerberos : Kerberos σ) (login password : String)
    (f : Factory κ) : Act.Meets (fun _ => True) (accepts svc kerberos login password f)
      fun found _ => found.2.server = f.server := by
  refine .bind (principalOf_server svc login f) ?_
  rintro ⟨who, f'⟩
  cases who with
  | nothing => exact .pure fun _ => id
  | failure e => exact .pure fun _ => id
  | answer principal =>
    have checks : Act.Meets (fun _ => f'.server = f.server)
        (checkPassword svc kerberos f'.server principal password) fun _ _ => f'.server = f.server :=
      fun _ same => same
    refine .bind checks fun outcome => ?_
    rcases outcome with e | _ | _
    · exact .bind (.note _) fun _ => .pure fun _ => id
    · exact .bind (.note _) fun _ => .pure fun _ => id
    · exact .bind (.note _) fun _ => .pure fun _ => id

section Order

variable {server : Server} {servers : List Server} {a : Answers} {answers : List Answers}

theorem not_accepting_nil (i : Nat) : ¬ Accepting [] answers login i := by
  rintro ⟨_, _, none, -⟩
  cases none

theorem accepting_zero : Accepting (server :: servers) (a :: answers) login 0 ↔ a.Accepts server login := by
  constructor
  · rintro ⟨_, _, ⟨⟩, ⟨⟩, accepts⟩
    exact accepts
  · exact fun accepts => ⟨server, a, rfl, rfl, accepts⟩

/-- The first so many servers are those that none accepts before. -/
def Foremost (servers : List Server) (answers : List Answers) (login : String) (n : Nat) : Prop :=
  ∀ i < servers.length, i < n ↔ ∀ j < i, ¬ Accepting servers answers login j

theorem Foremost.accepted (accepts : a.Accepts server login) :
    Foremost (server :: servers) (a :: answers) login 1 := by
  intro i _
  constructor
  · intro first j before
    omega
  · intro none
    by_contra later
    exact none 0 (by omega) (accepting_zero.2 accepts)

theorem Foremost.refused {n : Nat} (refuses : ¬ a.Accepts server login)
    (rest : Foremost servers answers login n) :
    Foremost (server :: servers) (a :: answers) login (n + 1) := by
  intro i bound
  cases i with
  | zero => exact ⟨fun _ j before => absurd before (Nat.not_lt_zero j), fun _ => Nat.succ_pos n⟩
  | succ i =>
    rw [Nat.succ_lt_succ_iff, rest i (Nat.lt_of_succ_lt_succ bound)]
    constructor
    · intro none j before
      cases j with
      | zero => exact fun accepts => refuses (accepting_zero.1 accepts)
      | succ j => exact none j (Nat.lt_of_succ_lt_succ before)
    · exact fun none j before => none (j + 1) (Nat.succ_lt_succ before)

end Order

/-- What comes of asking some servers until one accepts. -/
structure Decided (svc : Service σ κ) (kerberos : Kerberos σ) (login password : String)
    (fs : List (Factory κ)) (t : Trace σ) (answers : List Answers)
    (run : (Reply Unit × List (Factory κ)) × Trace σ) : Prop where
  result : run.1.1 = .answer () ↔ ∃ i, Accepting (fs.map Factory.server) answers login i
  /-- Those are asked that none accepts before, in order, and the others are left as they are. -/
  asked : ∃ asked asked' others, fs = asked ++ others ∧ run.1.2 = asked' ++ others ∧
    asked'.map Factory.server = asked.map Factory.server ∧
    run.2 = askEach svc kerberos login password asked t ∧
    Foremost (fs.map Factory.server) answers login asked.length

theorem askUntil_decided {fs : List (Factory κ)} {t : Trace σ} {answers : List Answers}
    (given : InTurn svc kerberos login password fs t answers) (last : Option Error) :
    Decided svc kerberos login password fs t answers
      (askUntil (accepts svc kerberos login password) last fs t) := by
  induction given generalizing last with
  | nil =>
    refine ⟨⟨fun h => ?_, fun ⟨i, accepting⟩ => absurd accepting (not_accepting_nil i)⟩,
      [], [], [], rfl, rfl, rfl, rfl, nofun⟩
    cases last <;> cases h
  | @cons f rest t a answers given later ih =>
    have same : (accepts svc kerberos login password f t).1.2.server = f.server :=
      accepts_server svc kerberos login password f t trivial
    have accepts_iff := given.accepts_iff
    unfold askUntil
    rw [Act.bind_apply]
    rcases turn : accepts svc kerberos login password f t with ⟨⟨reply, f'⟩, t'⟩
    rw [turn] at same accepts_iff ih
    have each (fs : List (Factory κ)) : askEach svc kerberos login password (f :: fs) t =
        askEach svc kerberos login password fs t' := by rw [askEach, turn]
    have goesOn (refuses : ¬ a.Accepts f.server login) (last : Option Error) :
        let found := askUntil (accepts svc kerberos login password) last rest t'
        Decided svc kerberos login password (f :: rest) t (a :: answers)
          ((found.1.1, f' :: found.1.2), found.2) := by
      obtain ⟨result, asked, asked', others, split, after, servers, trace, foremost⟩ := ih last
      refine ⟨result.trans ?_, f :: asked, f' :: asked', others, ?_, ?_, ?_, ?_, foremost.refused refuses⟩
      · constructor
        · exact fun ⟨i, accepting⟩ => ⟨i + 1, accepting⟩
        · rintro ⟨_ | i, accepting⟩
          · exact absurd (accepting_zero.1 accepting) refuses
          · exact ⟨i, accepting⟩
      · rw [split, List.cons_append]
      · exact congrArg (f' :: ·) after
      · rw [List.map_cons, List.map_cons, servers]
        exact congrArg (· :: _) same
      · rw [each, ← trace]
    cases reply with
    | answer _ =>
      have accepted := accepts_iff.1 rfl
      exact ⟨⟨fun _ => ⟨0, accepting_zero.2 accepted⟩, fun _ => rfl⟩, [f], [f'], rest, rfl, rfl,
        congrArg ([·]) same, (each []).symm, .accepted accepted⟩
    | nothing => exact goesOn (fun accepted => nomatch accepts_iff.2 accepted) last
    | failure e => exact goesOn (fun accepted => nomatch accepts_iff.2 accepted) (some e)

/-- To keep exchanges changes no answers. -/
theorem Answers.Given.witnessed {f : Factory (Line κ)} {t : Trace (Witnessed σ κ)} {a : Answers}
    (given : Given svc kerberos login password f.plain (Act.plain t) a) :
    Given svc.witnessed kerberos.witnessed login password f t a where
  lookup mapping users := by
    rw [← given.lookup mapping users, findUser_mirrors svc mapping login [] f t]
  bind principal := by
    have same (env : Environment) (outcome : Except Error κ) :
        (outcome.map (Line.mk · env)).map (fun _ => ()) = outcome.map fun _ => () := by
      cases outcome with
      | ok c => rfl
      | error e => rfl
    rw [← given.bind principal, principalOf_mirrors svc login f t]
    exact same _ _
  ticket principal := by
    rw [← given.ticket principal, principalOf_mirrors svc login f t]
    rfl

theorem InTurn.witnessed {fs : List (Factory (Line κ))} {t : Trace (Witnessed σ κ)} {answers : List Answers}
    (given : InTurn svc kerberos login password (fs.map Factory.plain) (Act.plain t) answers) :
    InTurn svc.witnessed kerberos.witnessed login password fs t answers := by
  induction fs generalizing t answers with
  | nil =>
    cases given
    exact .nil
  | cons f rest ih =>
    cases given with
    | cons here later =>
      rw [accepts_mirrors svc kerberos login password f t] at later
      exact .cons here.witnessed (ih later)

/-- Exchanges with a server: connections are only opened towards it, or to where it refers to, and only those
are used, or such as waited in its pool. -/
structure Visited (f : Factory (Line κ)) (es : List (Exchange κ)) : Prop where
  toward : ∀ env ∈ es.flatMap Exchange.attempt, env = Environment.bind f.server ∨ env.IsGuest f.server
  live : ∃ left, Live f.pool.idle es left

theorem askEach_adds (svc : Service σ κ) (kerberos : Kerberos σ) (login password : String)
    {fs : List (Factory (Line κ))} (free : ∀ f ∈ fs, f.pool.Free) (t : Trace (Witnessed σ κ)) :
    ∃ owns, (askEach svc.witnessed kerberos.witnessed login password fs t).world.exchanges =
      t.world.exchanges ++ owns.flatten ∧ List.Forall₂ Visited fs owns := by
  induction fs generalizing t with
  | nil => exact ⟨[], (List.append_nil _).symm, .nil⟩
  | cons f rest ih =>
    obtain ⟨here, others⟩ := List.forall_mem_cons.1 free
    obtain ⟨-, own, tended⟩ := accepts_tends svc kerberos f login password here t
    obtain ⟨owns, added, visited⟩ := ih others (accepts svc.witnessed kerberos.witnessed login password f t).2
    obtain ⟨lost, live, -⟩ := tended.settled.live
    rw [Factory.turn_connections] at live
    refine ⟨own :: owns, ?_, .cons ⟨tended.toward, _, live⟩ visited⟩
    rw [askEach, added, List.flatten_cons, ← List.append_assoc]
    exact congrArg (· ++ _) tended.added

theorem authenticate_blank (svc : Service σ κ) (kerberos : Kerberos σ)
    (blank : Text.trimmed login = "" ∨ Text.trimmed password = "") (r : Resolver κ)
    (t : Trace σ) : let run := authenticate svc kerberos login password r t
      run.1 = (false, r) ∧ run.2.world = t.world := by
  have refused : (!Text.hasContent login || !Text.hasContent password) = true := by
    simpa [← Bool.not_eq_true, Text.hasContent_iff] using blank
  unfold authenticate
  rw [if_pos refused]
  exact ⟨rfl, rfl⟩

theorem authenticate_content (svc : Service σ κ) (kerberos : Kerberos σ)
    (loginContent : Text.trimmed login ≠ "")
    (passwordContent : Text.trimmed password ≠ "") (r : Resolver κ) (t : Trace σ) :
    let run := authenticate svc kerberos login password r t
    let asked := askUntil (accepts svc kerberos login password) none r.factories t
    (run.1.1 = true ↔ asked.1.1 = .answer ()) ∧ run.1.2.factories = asked.1.2 ∧
      run.2.world = asked.2.world := by
  have taken : ¬(!Text.hasContent login || !Text.hasContent password) = true := by
    simp [Text.hasContent_iff.2 loginContent, Text.hasContent_iff.2 passwordContent]
  unfold authenticate
  rw [if_neg taken, Act.bind_apply]
  rcases askUntil (accepts svc kerberos login password) none r.factories t with ⟨⟨reply, factories⟩, t'⟩
  cases reply with
  | answer _ => exact ⟨⟨fun _ => rfl, fun _ => rfl⟩, rfl, rfl⟩
  | nothing => exact ⟨⟨nofun, nofun⟩, rfl, rfl⟩
  | failure e => exact ⟨⟨nofun, nofun⟩, rfl, rfl⟩

/-- Authentication is that some server accepts, if neither the login nor the password is blank. A server is asked
if and only if none before it accepts; nothing else is done, and the others are left as they are. -/
theorem authenticate_accepts (svc : Service σ κ) (kerberos : Kerberos σ) (login password : String)
    (r : Resolver (Line κ)) (t : Trace (Witnessed σ κ)) :
    let run := authenticate svc kerberos login password r.plain (Act.plain t)
    let kept := authenticate svc.witnessed kerberos.witnessed login password r t
    let servers := r.factories.map Factory.server
    run = ((kept.1.1, kept.1.2.plain), Act.plain kept.2) ∧
    (∃ answers, InTurn svc kerberos login password r.plain.factories (Act.plain t) answers) ∧
    ∀ answers, InTurn svc kerberos login password r.plain.factories (Act.plain t) answers →
      (run.1.1 = true ↔ Text.trimmed login ≠ "" ∧ Text.trimmed password ≠ "" ∧
        ∃ i, Accepting servers answers login i) ∧
      ∃ asked asked' others, r.factories = asked ++ others ∧ kept.1.2.factories = asked' ++ others ∧
        asked'.map Factory.server = asked.map Factory.server ∧
        (∀ i < servers.length, i < asked.length ↔ Text.trimmed login ≠ "" ∧ Text.trimmed password ≠ "" ∧
          ∀ j < i, ¬ Accepting servers answers login j) ∧
        kept.2.world = (askEach svc.witnessed kerberos.witnessed login password asked t).world ∧
        ((∀ f ∈ asked, f.pool.Free) → ∃ owns, kept.2.world.exchanges = t.world.exchanges ++ owns.flatten ∧
          List.Forall₂ Visited asked owns) := by
  intro run kept servers
  have mirrors : run = ((kept.1.1, kept.1.2.plain), Act.plain kept.2) :=
    authenticate_mirrors svc kerberos login password r t
  refine ⟨mirrors, InTurn.exists .., fun answers given => ?_⟩
  rw [mirrors]
  by_cases blank : Text.trimmed login = "" ∨ Text.trimmed password = ""
  · obtain ⟨refused, world⟩ := authenticate_blank svc.witnessed kerberos.witnessed blank r t
    refine ⟨?_, [], [], r.factories, rfl, congrArg (·.2.factories) refused, rfl, ?_, world, fun _ => ?_⟩
    · rw [refused]
      exact ⟨nofun, fun ⟨login, password, _⟩ => absurd blank (not_or.2 ⟨login, password⟩)⟩
    · exact fun i _ => ⟨nofun, fun ⟨login, password, _⟩ => absurd blank (not_or.2 ⟨login, password⟩)⟩
    · exact ⟨[], by rw [world, List.flatten_nil, List.append_nil], .nil⟩
  · obtain ⟨loginContent, passwordContent⟩ := not_or.1 blank
    obtain ⟨result, factories, world⟩ := authenticate_content svc.witnessed kerberos.witnessed
      loginContent passwordContent r t
    obtain ⟨decided, asked, asked', others, split, after, same, trace, foremost⟩ :=
      askUntil_decided given.witnessed none
    have there := world.trans (congrArg Trace.world trace)
    refine ⟨?_, asked, asked', others, split, factories.trans after, same, fun i bound => ?_, there,
      fun free => ?_⟩
    · exact result.trans (decided.trans ⟨fun some => ⟨loginContent, passwordContent, some⟩, fun h => h.2.2⟩)
    · rw [foremost i bound]
      exact ⟨fun none => ⟨loginContent, passwordContent, none⟩, fun h => h.2.2⟩
    · obtain ⟨owns, added, visited⟩ := askEach_adds svc kerberos login password free t
      exact ⟨owns, (congrArg Witnessed.exchanges there).trans added, visited⟩

namespace Mixed

/-- A Kerberos realm that cannot be reached, a server without users, one that refuses, one that accepts, and
another. -/
def servers : List Server := [
  { key := "k", url := "ldap://k.example.org:389", mechanism := .gssapi, realm := some "example.org" },
  { key := "a", url := "ldap://a.example.org:389" },
  { key := "b", url := "ldap://b.example.org:389", mechanism := .cramMd5 },
  { key := "c", url := "ldap://c.example.org:389",
    userMapping := some (.ofRequest "ou=users,dc=example,dc=org" "(uid=\x7blogin\x7d)") },
  { key := "d", url := "ldap://d.example.org:389", mechanism := .cramMd5 }]

def user (password : String) : MemoryServer :=
  MemoryServer.withUser {} "tester" "uid=tester,ou=users,dc=example,dc=org" password

def directories : Surroundings MemoryDirectory where
  directories := { servers := .ofList [
    ("ldap://b.example.org:389", user "other"),
    ("ldap://c.example.org:389", user "secret"),
    ("ldap://d.example.org:389", user "secret")] }
  names := { answer := .ok [] }
  keyCentre := { failures := .ofList [("tester@EXAMPLE.ORG", .connection "no answer")] }

end Mixed

open Mixed in
example :
    let run := authenticate (Surroundings.service MemoryDirectory.service).witnessed
      Surroundings.kerberos.witnessed "tester" "secret"
      (.ofRegistry ⟨servers, by decide, by decide⟩) ⟨⟨directories, []⟩, []⟩
    run.1.1 = true ∧ (run.2.world.exchanges.flatMap Exchange.attempt).map Environment.url =
      ["ldap://b.example.org:389", "ldap://c.example.org:389", "ldap://c.example.org:389"] := by
  decide +kernel

end Resolver

end DirectoryLogin
