import DirectoryLogin.Proofs.Promise
import DirectoryLogin.Proofs.Search.Legs
import DirectoryLogin.Proofs.Search.Mirrored
import DirectoryLogin.Proofs.Search.Web

namespace DirectoryLogin

open Search

/-- How a search for all entries ends that is answered so. -/
def Answer.ended (a : Answer) (f : Findings) : Except Error Ending × Findings :=
  (match a.failure with
    | none => .ok .exhausted
    | some e => .error e,
    { entries := f.entries ++ a.entries, pending := f.pending ++ a.referrals })

variable {σ κ : Type} {svc : Service σ κ}

namespace Steady

variable (d : Steady svc)

/-- The environment of the connection that a referral leads to, or the error that there is none. -/
def entrance (server : Server) (url : String) : Except Error Environment :=
  match Environment.referralUrl url with
  | .error e => .error e
  | .ok target =>
    match d.refusal (Environment.referral server target) with
    | some e => .error (.referral s!"{url}: {e.message}")
    | none => .ok (Environment.referral server target)

/-- What a request is answered at the server of a referral, or the error that keeps it from there. -/
def reply (server : Server) (r : Request) (url : String) : Answer :=
  match referralBase url r.baseDn with
  | .error e => { failure := some e }
  | .ok base =>
    match d.entrance server url with
    | .error e => { failure := some e }
    | .ok env => d.answer env base r.scope r.filter r.wireAttributes

theorem abandonQuietly_ready (c : κ) :
    Act.Meets d.ready (abandonQuietly svc c) fun _ => d.ready := by
  have abandoned : Act.Meets d.ready (Act.perform (svc.abandon c)) fun _ => d.ready :=
    .perform fun _ => d.abandon_ready
  refine .bind abandoned fun outcome => ?_
  cases outcome with
  | ok _ => exact .pure fun _ ready => ready
  | error e => exact .note _

theorem closeQuietly_ready (c : κ) : Act.Meets d.ready (closeQuietly svc c) fun _ => d.ready := by
  have closed : Act.Meets d.ready (Act.perform (svc.close c)) fun _ => d.ready :=
    .perform fun _ => d.close_ready
  refine .bind closed fun outcome => ?_
  cases outcome with
  | ok _ => exact .pure fun _ ready => ready
  | error e => exact .note _

theorem drain_ended (c : κ) (r : Request) (items : List Item) (failure : Option Error)
    (f : Findings) : Act.Meets (d.running c items failure) (drain svc c r .all f) fun ended w =>
      ended = Answer.ended ⟨items, failure⟩ f ∧ d.ready w := by
  induction items generalizing f with
  | nil =>
    intro t running
    cases failure with
    | none =>
      obtain ⟨world, next, ready⟩ := d.next_end running
      rw [drain_eq, next]
      exact ⟨by simp [Answer.ended, Answer.entries, Answer.referrals], ready⟩
    | some e =>
      obtain ⟨world, next, ready⟩ := d.next_failure running
      rw [drain_eq, next]
      exact ⟨by simp [Answer.ended, Answer.entries, Answer.referrals],
        d.abandonQuietly_ready c { t with world } ready⟩
  | cons item items ih =>
    intro t running
    obtain ⟨world, next, left⟩ := d.next_item running
    rw [drain_eq, next]
    cases item with
    | entry e =>
      have later := ih { f with entries := f.entries ++ [e] } { t with world } left
      simpa [Answer.ended, Answer.entries, Answer.referrals] using later
    | referral urls =>
      have later := ih { f with pending := f.pending ++ urls } { t with world } left
      simpa [Answer.ended, Answer.entries, Answer.referrals] using later

theorem enumerate_ended (c : κ) (env : Environment) (r : Request) (base : String) (f : Findings) :
    Act.Meets (d.opened c env) (enumerate svc c r base .all f) fun ended w =>
      ended = (d.answer env base r.scope r.filter r.wireAttributes).ended f ∧ d.ready w := by
  have started : Act.Meets (d.opened c env)
      (Act.perform (svc.search c base r.scope r.filter r.wireAttributes)) fun outcome w =>
        Started d.ready (d.running c) (d.answer env base r.scope r.filter r.wireAttributes) (outcome, w) :=
    .perform fun _ => d.search_started
  refine .bind started fun outcome => ?_
  cases outcome with
  | ok _ =>
    refine .strengthen (d.drain_ended c r _ _ f) ?_
    rintro w (running | _)
    exact running
  | error e =>
    refine .pure ?_
    rintro w (_ | ⟨answer, ready⟩)
    exact ⟨by simp [answer, Answer.ended, Answer.entries, Answer.referrals], ready⟩

/-- The connection that a referral leads to is opened, or the error given. -/
inductive Entered : Except Error Environment → Except Error κ → σ → Prop
  | refused {e w} : d.ready w → Entered (.error e) (.error e) w
  | opened {env c w} : d.opened c env w → Entered (.ok env) (.ok c) w

theorem openReferral_entered (server : Server) (url : String) :
    Act.Meets d.ready (openReferral svc server url) (d.Entered (d.entrance server url)) := by
  unfold openReferral entrance
  cases Environment.referralUrl url with
  | error e => exact .pure fun w ready => .refused ready
  | ok target =>
    have connected : Act.Meets d.ready (Act.perform (svc.connect (Environment.referral server target)))
        fun outcome w => Connected d.ready (d.opened · (Environment.referral server target))
          (d.refusal (Environment.referral server target)) (outcome, w) :=
      .perform fun _ => d.connected
    refine .bind (.note _) fun _ => .bind connected fun outcome => ?_
    dsimp only
    generalize d.refusal (Environment.referral server target) = refusal
    cases outcome with
    | ok c =>
      refine .pure ?_
      rintro w (_ | opened)
      exact .opened opened
    | error e =>
      refine .pure ?_
      rintro w (ready | _)
      exact .refused ready

theorem enumerateReferral_ended (server : Server) (r : Request) (url : String) (f : Findings) :
    Act.Meets d.ready (enumerateReferral svc server r .all url f) fun ended w =>
      ended = (d.reply server r url).ended f ∧ d.ready w := by
  have failed (e : Error) : (.error e, f) = Answer.ended { failure := some e } f := by
    simp [Answer.ended, Answer.entries, Answer.referrals]
  have entered := d.openReferral_entered server url
  unfold enumerateReferral reply
  refine .bind (.note _) fun _ => ?_
  cases referralBase url r.baseDn with
  | error e => exact .pure fun w ready => ⟨failed e, ready⟩
  | ok base =>
    refine .bind entered fun found => ?_
    generalize d.entrance server url = entrance
    cases found with
    | error e =>
      refine .pure ?_
      rintro w (ready | _)
      exact ⟨failed e, ready⟩
    | ok c =>
      cases entrance with
      | error e =>
        intro t entered
        cases entered
      | ok env =>
        have closed (ended : Except Error Ending × Findings) :=
          (d.closeQuietly_ready c).frame
            (ended = (d.answer env base r.scope r.filter r.wireAttributes).ended f)
        have open_ : ∀ w, d.Entered (.ok env) (.ok c) w → d.opened c env w := by
          rintro w (_ | opened)
          exact opened
        refine .bind (.strengthen (d.enumerate_ended c env r base f) open_) fun ended => ?_
        exact .bind (closed ended) fun _ => .pure fun _ held => held

def web (server : Server) (r : Request) (env : Environment) : Web where
  policy := server.referralPolicy
  origin := d.answer env r.baseDn r.scope r.filter r.wireAttributes
  reply := d.reply server r

theorem chase_outcome (server : Server) (r : Request) (env : Environment) (hops : Nat)
    {order visited : List String} {f : Findings}
    (walked : (d.web server r env).Walked order visited f)
    (left : order.length + hops = maxReferralHops) :
    Act.Meets d.ready (chase svc server r .all hops visited (.ok .exhausted, f)) fun result _ =>
      (d.web server r env).Outcome result := by
  generalize ended : (Except.ok Ending.exhausted, f) = e
  induction hops, visited, e using chase_induction svc server r .all generalizing order f with
  | failed => cases ended
  | satisfied => cases ended
  | exhausted hops visited visited' f events next =>
    cases ended
    have done := walked.outcome_done (by rw [web, next]) (by omega)
    exact .bind (.noteAll _) fun _ => .pure fun _ _ => done
  | tooMany visited visited' f leg events next =>
    cases ended
    have many := walked.outcome_tooMany next left
    exact .bind (.noteAll _) fun _ => .pure fun _ _ => many _
  | followed hops visited visited' f url pending events next ih =>
    cases ended
    have reached := (walked.next_reached next).1
    refine .bind (.noteAll _) fun _ => ?_
    refine .bind (d.enumerateReferral_ended server r url _) fun ended => ?_
    cases failure : (d.reply server r url).failure with
    | some e =>
      have failed := Web.outcome_failed reached failure e
      rintro t ⟨rfl, ready⟩
      simp only [Answer.ended, failure, chase]
      exact failed
    | none =>
      have step := walked.step next failure
      rintro t ⟨rfl, ready⟩
      simp only [Answer.ended, failure]
      exact ih _ step (by simp; omega) rfl t ready

/-- A search for all entries succeeds if and only if every server that it is referred to does and there
are not too many of them. Its entries are then those of all these servers, breadth first. -/
theorem find_outcome (server : Server) (c : κ) (r : Request) (env : Environment) :
    Act.Meets (d.opened c env) (find svc server c r .all) fun result _ =>
      (d.web server r env).Outcome result := by
  refine .bind (.note _) fun _ => .bind (d.enumerate_ended c env r r.baseDn {}) fun ended => ?_
  cases failure : (d.web server r env).origin.failure with
  | some e =>
    rintro t ⟨rfl, ready⟩
    have failed : ¬(d.web server r env).Complete := fun complete => by
      have well := complete.origin
      rw [failure] at well
      cases well
    change (d.answer env r.baseDn r.scope r.filter r.wireAttributes).failure = some e at failure
    simp only [Answer.ended, failure, chase]
    exact failed
  | none =>
    rintro t ⟨rfl, ready⟩
    have walked := Web.Walked.start failure
    change (d.answer env r.baseDn r.scope r.filter r.wireAttributes).failure = none at failure
    simp only [Answer.ended, failure, List.nil_append]
    exact d.chase_outcome server r env maxReferralHops walked (Nat.zero_add _) t ready

end Steady

/-- Searches are breadth first. With any directories, a search asks for at most ten connections besides
the one that it is given, one for each of the referrals that it follows; these are all different, the
policy follows them, and each was handed out before. In steady directories, a search for all entries
succeeds if and only if every server that it is referred to answers without an error and they are at most
ten; it then gives the entries of all of them, in the order in which the referrals came up. -/
theorem find_breadthFirst (svc : Service σ κ) (server : Server) (r : Request) :
    (∀ (c : Line κ) (mode : FindMode) (t : Trace (Witnessed σ κ)),
      let run := find svc.witnessed server c r mode t
      find svc server c.name r mode (Act.plain t) = (run.1, Act.plain run.2) ∧
      ∃ first legs,
        run.2.world.exchanges = t.world.exchanges ++ (first ++ legs.flatMap Leg.exchanges) ∧
        Bounded server first legs ∧
        ((first ++ legs.flatMap Leg.exchanges).flatMap Exchange.attempt).length ≤ maxReferralHops) ∧
    ∀ (d : Steady svc) (c : κ) (env : Environment) (t : Trace σ), d.opened c env t.world →
      ((∃ entries, (find svc server c r .all t).1 = .ok entries) ↔
        (d.web server r env).Complete) ∧
      ∀ entries, (find svc server c r .all t).1 = .ok entries →
        ∃ order, (d.web server r env).Gathered entries order := by
  refine ⟨fun c mode t => ?_, fun d c env t opened => ?_⟩
  · obtain ⟨_, added, first, legs, rfl, found⟩ := find_adds svc server c r mode t
    exact ⟨find_mirrors svc server c r mode t, first, legs, added, found.bounded,
      found.bounded.length_attempts⟩
  · have outcome := d.find_outcome server c r env t opened
    cases result : (find svc server c r .all t).1 with
    | error e =>
      rw [result] at outcome
      refine ⟨⟨?_, fun complete => absurd complete outcome⟩, ?_⟩
      · rintro ⟨entries, ⟨⟩⟩
      · rintro entries ⟨⟩
    | ok entries =>
      rw [result] at outcome
      refine ⟨⟨fun _ => outcome.1, fun _ => ⟨entries, rfl⟩⟩, ?_⟩
      rintro _ ⟨⟩
      exact outcome.2

/-- In the ring, the search comes back to where it started, and ends there. -/
theorem find_ring : ∃ order, ((MemoryDirectory.steady Ring.servers).web Ring.server Ring.everyone
    (Environment.bind Ring.server)).Gathered [Ring.anna, Ring.bert, Ring.anna] order := by
  have opened : (MemoryDirectory.steady Ring.servers).opened 0 (Environment.bind Ring.server)
      Ring.directory :=
    ⟨rfl, _, rfl, rfl, rfl⟩
  exact ((find_breadthFirst MemoryDirectory.service Ring.server Ring.everyone).2
    (MemoryDirectory.steady Ring.servers) 0 _ ⟨Ring.directory, []⟩ opened).2 _ (by decide +kernel)

end DirectoryLogin
