import DirectoryLogin.Proofs.Authentication
import DirectoryLogin.Proofs.NotFound
import DirectoryLogin.Proofs.Replies

namespace DirectoryLogin

variable {σ κ : Type}

/-- The profile that an entry shows through a mapping. -/
def UserMapping.profile (mapping : UserMapping) (entry : Entry) : UserDetails where
  name := (entry.first? mapping.realNameAttribute).getD ""
  email := (entry.first? mapping.emailAttribute).getD ""

/-- The request for what a profile needs. -/
def UserMapping.profileRequest (mapping : UserMapping) (login : String) (scope : Scope) : Request :=
  mapping.requestFor login scope [mapping.realNameAttribute, mapping.emailAttribute]

namespace Resolver

/-- A server, and what the lookup of a user comes to on it. -/
structure LookedUp where
  server : Server
  found : Except Error (Option Entry)

namespace LookedUp

/-- Servers without users yield nothing. -/
def Yields (a : LookedUp) (mapping : UserMapping) (entry : Entry) : Prop :=
  a.server.userMapping = some mapping ∧ a.found = .ok (some entry)

def YieldsSome (a : LookedUp) : Prop := ∃ mapping entry, a.Yields mapping entry

/-- That the user is not found is no failure. -/
def Fails (a : LookedUp) (e : Error) : Prop :=
  a.server.userMapping.isSome ∧ a.found = .error e ∧ ¬ e.isNotFound

/-- What the outcome of a lookup says about the profile. -/
def reply (a : LookedUp) : Reply UserDetails :=
  match a.server.userMapping, a.found with
  | some mapping, .ok (some entry) => .answer (mapping.profile entry)
  | some _, .error e => if e.isNotFound then .nothing else .failure e
  | _, _ => .nothing

variable {a : LookedUp}

theorem answer?_reply {details : UserDetails} : a.reply.answer? = some details ↔
    ∃ mapping entry, a.Yields mapping entry ∧ details = mapping.profile entry := by
  unfold reply Yields
  cases a.server.userMapping with
  | none => exact ⟨nofun, fun ⟨_, _, ⟨users, _⟩, _⟩ => nomatch users⟩
  | some mapping =>
    rcases a.found with e | _ | entry
    · dsimp only
      split
      · exact ⟨nofun, fun ⟨_, _, ⟨_, found⟩, _⟩ => nomatch found⟩
      · exact ⟨nofun, fun ⟨_, _, ⟨_, found⟩, _⟩ => nomatch found⟩
    · exact ⟨nofun, fun ⟨_, _, ⟨_, found⟩, _⟩ => nomatch found⟩
    · constructor
      · rintro ⟨⟩
        exact ⟨mapping, entry, ⟨rfl, rfl⟩, rfl⟩
      · rintro ⟨_, _, ⟨⟨⟩, ⟨⟩⟩, rfl⟩
        rfl

theorem answer?_reply_eq_none : a.reply.answer? = none ↔ ¬ a.YieldsSome := by
  rw [Option.eq_none_iff_forall_ne_some]
  constructor
  · rintro none ⟨mapping, entry, yields⟩
    exact none _ (answer?_reply.2 ⟨mapping, entry, yields, rfl⟩)
  · intro none details some
    obtain ⟨mapping, entry, yields, -⟩ := answer?_reply.1 some
    exact none ⟨mapping, entry, yields⟩

theorem failure?_reply {e : Error} : a.reply.failure? = some e ↔ a.Fails e := by
  unfold reply Fails
  cases a.server.userMapping with
  | none => exact ⟨nofun, fun ⟨users, _⟩ => nomatch users⟩
  | some mapping =>
    rcases a.found with e' | _ | entry
    · dsimp only
      split
      · next notFound =>
        refine ⟨nofun, ?_⟩
        rintro ⟨_, ⟨⟩, told⟩
        exact absurd notFound told
      · next told =>
        constructor
        · rintro ⟨⟩
          exact ⟨rfl, rfl, told⟩
        · rintro ⟨_, ⟨⟩, _⟩
          rfl
    · exact ⟨nofun, fun ⟨_, found, _⟩ => nomatch found⟩
    · exact ⟨nofun, fun ⟨_, found, _⟩ => nomatch found⟩

theorem failure?_reply_eq_none : a.reply.failure? = none ↔ ∀ e, ¬ a.Fails e := by
  simp only [Option.eq_none_iff_forall_ne_some, ne_eq, failure?_reply]

/-- The lookup on the server comes to this, now. -/
structure Given (svc : Service σ κ) (login : String) (f : Factory κ) (t : Trace σ) (a : LookedUp) : Prop where
  server : a.server = f.server
  found : ∀ mapping, f.server.userMapping = some mapping →
    a.found = (f.lookup svc (mapping.profileRequest login f.server.scope) mapping.findMode t).1.1.map List.head?

/-- The lookups on some servers come to this, each in its turn, up to the first that yields an entry. What they
would come to on the servers behind it may be anything. -/
inductive InTurn (svc : Service σ κ) (login : String) : List (Factory κ) → Trace σ → List LookedUp → Prop
  | nil {t} : InTurn svc login [] t []
  | cons {f rest t a others} (given : a.Given svc login f t)
    (behind : others.map LookedUp.server = rest.map Factory.server)
    (later : ¬ a.YieldsSome → InTurn svc login rest (detailsOn svc login f t).2 others) :
    InTurn svc login (f :: rest) t (a :: others)

variable {svc : Service σ κ} {login : String}

theorem Given.exists (svc : Service σ κ) (login : String) (f : Factory κ) (t : Trace σ) :
    ∃ a : LookedUp, a.Given svc login f t := by
  cases users : f.server.userMapping with
  | none => exact ⟨⟨f.server, .ok none⟩, rfl, by simp [users]⟩
  | some mapping =>
    refine ⟨⟨f.server,
      (f.lookup svc (mapping.profileRequest login f.server.scope) mapping.findMode t).1.1.map List.head?⟩,
      rfl, fun other same => ?_⟩
    obtain rfl : mapping = other := Option.some.inj (users.symm.trans same)
    rfl

theorem InTurn.servers {fs : List (Factory κ)} {t : Trace σ} {polled : List LookedUp}
    (given : InTurn svc login fs t polled) : polled.map LookedUp.server = fs.map Factory.server := by
  cases given with
  | nil => rfl
  | cons given behind => rw [List.map_cons, List.map_cons, given.server, behind]

theorem InTurn.exists (svc : Service σ κ) (login : String) (fs : List (Factory κ)) (t : Trace σ) :
    ∃ polled, InTurn svc login fs t polled := by
  induction fs generalizing t with
  | nil => exact ⟨[], .nil⟩
  | cons f rest ih =>
    obtain ⟨a, given⟩ := Given.exists svc login f t
    obtain ⟨others, later⟩ := ih (detailsOn svc login f t).2
    exact ⟨a :: others, .cons given later.servers fun _ => later⟩

/-- A server that is asked says what its lookup comes to. -/
theorem Given.reply {f : Factory κ} {t : Trace σ} (given : a.Given svc login f t) :
    (detailsOn svc login f t).1.1 = a.reply := by
  unfold detailsOn LookedUp.reply
  rw [given.server]
  cases users : f.server.userMapping with
  | none => rfl
  | some mapping =>
    have looked := findUser_userOf svc mapping login [mapping.realNameAttribute, mapping.emailAttribute] f t
    rw [given.found mapping users, UserMapping.profileRequest]
    dsimp only
    rw [Act.bind_apply]
    generalize (f.lookup svc (mapping.requestFor login f.server.scope _) mapping.findMode t).1.1 = outcome at looked ⊢
    rcases run : findUser svc mapping login [mapping.realNameAttribute, mapping.emailAttribute] f t with
      ⟨⟨found, f'⟩, t'⟩
    rw [run] at looked
    obtain rfl : found = userOf outcome := looked
    rcases outcome with e | entries
    · dsimp only [userOf, Except.map]
      split <;> rfl
    · cases entries <;> rfl

theorem InTurn.heard {fs : List (Factory κ)} {t : Trace σ} {polled : List LookedUp}
    (given : InTurn svc login fs t polled) :
    Heard (detailsOn svc login) fs t (polled.map LookedUp.reply) := by
  induction given with
  | nil => exact .nil
  | @cons f rest t a others here behind _ ih =>
    have length : (others.map LookedUp.reply).length = rest.length := by
      simpa using congrArg List.length behind
    rw [List.map_cons, ← here.reply]
    refine .cons length fun unanswered => ih ?_
    rw [here.reply] at unanswered
    exact answer?_reply_eq_none.1 unanswered

end LookedUp

/-- What has been noted by the time that the first server is asked for a profile. -/
def detailsRequested (login : String) (t : Trace σ) : Trace σ :=
  (Act.note (.debug "Requesting details for user" [("login", login)]) t).2

/-- What the reply of all servers together says about a profile. -/
def profileOf : Reply UserDetails → Except Error (Option UserDetails)
  | .answer details => .ok (some details)
  | .nothing => .ok none
  | .failure e => .error e

theorem userDetails_asks (svc : Service σ κ) (login : String) (r : Resolver κ) (t : Trace σ) :
    let run := userDetails svc login r t
    let asked := askUntil (detailsOn svc login) none r.factories (detailsRequested login t)
    run.1.1 = profileOf asked.1.1 ∧ run.1.2.factories = asked.1.2 ∧ run.2 = asked.2 := by
  intro run asked
  have noted : (Act.note (.debug "Requesting details for user" [("login", login)]) t).2 =
      detailsRequested login t := rfl
  dsimp only [run, asked]
  unfold userDetails
  rw [Act.bind_apply, Act.bind_apply, noted]
  rcases askUntil (detailsOn svc login) none r.factories (detailsRequested login t) with ⟨⟨reply, factories⟩, t'⟩
  cases reply <;> exact ⟨rfl, rfl, rfl⟩

theorem detailsOn_server (svc : Service σ κ) (login : String) (f : Factory κ) :
    Act.Meets (fun _ => True) (detailsOn svc login f) fun found _ => found.2.server = f.server := by
  unfold detailsOn
  cases f.server.userMapping with
  | none => exact .pure fun _ _ => rfl
  | some mapping =>
    refine .bind (findUser_server svc mapping login _ f) ?_
    rintro ⟨found, f'⟩
    rcases found with e | _ | entry
    · exact .bind (.note _) fun _ => .pure fun _ => id
    · exact .bind (.note _) fun _ => .pure fun _ => id
    · exact .pure fun _ => id

/-- What is exchanged with a server on behalf of a profile: nothing with a server without users. -/
structure Consulted (f : Factory (Line κ)) (own : List (Exchange κ)) : Prop where
  untouched : f.server.userMapping = none → own = []
  visited : f.pool.Free → Visited f own

theorem detailsOn_consults (svc : Service σ κ) (login : String) (f : Factory (Line κ)) :
    Act.Adds (detailsOn svc.witnessed login f) fun found es => found.2.server = f.server ∧ Consulted f es := by
  intro t
  obtain ⟨es, added, -⟩ := detailsOn_adds svc login f t
  refine ⟨es, added, detailsOn_server svc.witnessed login f t trivial, fun noUsers => ?_, fun free => ?_⟩
  · have nothing : detailsOn svc.witnessed login f t = ((.nothing, f), t) := by
      unfold detailsOn
      rw [noUsers]
      rfl
    rw [nothing] at added
    exact List.self_eq_append_right.1 added
  · obtain ⟨-, own, tended⟩ := detailsOn_tends svc (fun _ _ => pure (.ok false)) f login free t
    obtain rfl : es = own := List.append_cancel_left (added.symm.trans tended.added)
    obtain ⟨lost, live, -⟩ := tended.settled.live
    rw [Factory.turn_connections] at live
    exact ⟨tended.toward, _, live⟩

/-- The result of some lookups: the profile of the first server that yields an entry, or else the last error. -/
structure LookedUp.Decide (polled : List LookedUp) (result : Except Error (Option UserDetails)) : Prop where
  found_iff : (∃ details, result = .ok (some details)) ↔ ∃ a ∈ polled, a.YieldsSome
  found : ∀ details, result = .ok (some details) ↔ ∃ front a back mapping entry,
    polled = front ++ a :: back ∧ (∀ b ∈ front, ¬ b.YieldsSome) ∧
      a.Yields mapping entry ∧ details = mapping.profile entry
  failed_iff : (∃ e, result = .error e) ↔ (∀ a ∈ polled, ¬ a.YieldsSome) ∧ ∃ a ∈ polled, ∃ e, a.Fails e
  failed : ∀ e, result = .error e ↔ (∀ a ∈ polled, ¬ a.YieldsSome) ∧ ∃ front a back,
    polled = front ++ a :: back ∧ a.Fails e ∧ ∀ b ∈ back, ∀ e', ¬ b.Fails e'
  unknown_iff : result = .ok none ↔ (∀ a ∈ polled, ¬ a.YieldsSome) ∧ ∀ a ∈ polled, ∀ e, ¬ a.Fails e

theorem LookedUp.decide_settled (polled : List LookedUp) :
    Decide polled (profileOf (Reply.settled none (polled.map reply))) := by
  have noneYields : (polled.map reply).findSome? Reply.answer? = none ↔ ∀ a ∈ polled, ¬ a.YieldsSome := by
    simp only [Reply.findSome?_answer_eq_none_iff, answer?_reply_eq_none]
  have noneFails : Reply.lastFailure none (polled.map reply) = none ↔ ∀ a ∈ polled, ∀ e, ¬ a.Fails e := by
    simp only [Reply.lastFailure_eq_none_iff, failure?_reply_eq_none]
  have found (details : UserDetails) : profileOf (Reply.settled none (polled.map reply)) = .ok (some details) ↔
      (polled.map reply).findSome? Reply.answer? = some details := by
    rw [← Reply.settled_eq_answer_iff]
    cases Reply.settled none (polled.map reply) <;> simp [profileOf]
  have failed (e : Error) : profileOf (Reply.settled none (polled.map reply)) = .error e ↔
      (∀ a ∈ polled, ¬ a.YieldsSome) ∧ Reply.lastFailure none (polled.map reply) = some e := by
    rw [← noneYields, ← Reply.settled_eq_failure_iff]
    cases Reply.settled none (polled.map reply) <;> simp [profileOf]
  constructor
  · simp only [found, ← Option.isSome_iff_exists]
    rw [← Option.ne_none_iff_isSome, ne_eq, noneYields]
    simp only [not_forall, not_not, exists_prop]
  · intro details
    simp only [found, Reply.findSome?_answer_iff, answer?_reply, answer?_reply_eq_none]
    constructor
    · rintro ⟨front, a, back, split, ⟨mapping, entry, yields, same⟩, none⟩
      exact ⟨front, a, back, mapping, entry, split, none, yields, same⟩
    · rintro ⟨front, a, back, mapping, entry, split, none, yields, same⟩
      exact ⟨front, a, back, split, ⟨mapping, entry, yields, same⟩, none⟩
  · simp only [failed, exists_and_left, ← Option.isSome_iff_exists]
    rw [← Option.ne_none_iff_isSome, ne_eq, noneFails]
    simp only [not_forall, not_not, exists_prop]
  · intro e
    simp only [failed, Reply.lastFailure_eq_some_iff, failure?_reply, failure?_reply_eq_none]
  · rw [← noneYields, ← noneFails, ← Reply.settled_eq_nothing_iff]
    cases Reply.settled none (polled.map reply) <;> simp [profileOf]

/-- A profile is that of the first server that yields an entry; without one, the last error comes out if there is
any, and else nothing. A server is asked if and only if none before it yields an entry, and nothing is exchanged
with a server without users, nor with the others. -/
theorem userDetails_fallback (svc : Service σ κ) (login : String) (r : Resolver (Line κ))
    (t : Trace (Witnessed σ κ)) :
    let run := userDetails svc login r.plain (Act.plain t)
    let kept := userDetails svc.witnessed login r t
    let start := detailsRequested login (Act.plain t)
    run = ((kept.1.1, kept.1.2.plain), Act.plain kept.2) ∧
    (∃ polled, LookedUp.InTurn svc login r.plain.factories start polled) ∧
    ∀ polled, LookedUp.InTurn svc login r.plain.factories start polled →
      LookedUp.Decide polled run.1.1 ∧
      ∃ asked asked' others owns, r.factories = asked ++ others ∧ kept.1.2.factories = asked' ++ others ∧
        asked'.map Factory.server = asked.map Factory.server ∧
        (∀ i < polled.length, i < asked.length ↔ ∀ b ∈ polled.take i, ¬ b.YieldsSome) ∧
        kept.2.world.exchanges = t.world.exchanges ++ owns.flatten ∧ List.Forall₂ Consulted asked owns := by
  intro run kept start
  refine ⟨userDetails_mirrors svc login r t, LookedUp.InTurn.exists .., fun polled given => ⟨?_, ?_⟩⟩
  · have result : run.1.1 = profileOf (Reply.settled none (polled.map LookedUp.reply)) := by
      rw [← given.heard.settled none]
      exact (userDetails_asks svc login r.plain (Act.plain t)).1
    rw [result]
    exact LookedUp.decide_settled polled
  · have plain : Heard (detailsOn svc login) (r.factories.map Factory.plain)
        (Act.plain (detailsRequested login t)) (polled.map LookedUp.reply) := given.heard
    obtain ⟨asked, asked', others, owns, split, after, same, foremost, added, consulted⟩ :=
      (plain.witnessed (detailsOn_mirrors svc login)).contacts (detailsOn_consults svc login) none
    obtain ⟨-, factories, trace⟩ := userDetails_asks svc.witnessed login r t
    refine ⟨asked, asked', others, owns, split, factories.trans after, same, fun i bound => ?_, ?_, consulted⟩
    · rw [foremost i (by simpa using bound), ← List.map_take, List.forall_mem_map]
      simp only [LookedUp.answer?_reply_eq_none]
    · exact (congrArg (·.world.exchanges) trace).trans added

end Resolver

end DirectoryLogin
