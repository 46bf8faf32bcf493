import DirectoryLogin.Directory.Wire
import DirectoryLogin.Factory
import DirectoryLogin.Proofs.Search.Course
import DirectoryLogin.Proofs.Search.Failures
import Mathlib.Control.Monad.Basic

namespace DirectoryLogin

open Text

variable {σ κ α β ε : Type}

deriving instance DecidableEq for Outcome

/-- What a protocol library reports, apart from the messages of searches. -/
inductive Report
  | opened (c : Nat)
  /-- A search could not be started, or its next message not be read. -/
  | broke (c : Nat) (reason : String)
  /-- The result of a search was received. -/
  | ended (c : Nat) (result : Outcome)
  /-- A search could not be given up. -/
  | stuck (c : Nat) (reason : String)
  /-- The connection was to be closed. -/
  | closed (c : Nat)
  deriving DecidableEq

/-- A world with what was reported in it, oldest first. -/
structure Reported (σ : Type) where
  world : σ
  reports : List Report := []

def Reported.report (w : Reported σ) (step : σ → α × σ) (tells : α → List Report) : α × Reported σ :=
  ((step w.world).1, ⟨(step w.world).2, w.reports ++ tells (step w.world).1⟩)

namespace Report

def onSuccess (tells : α → Report) : Except String α → List Report
  | .ok a => [tells a]
  | .error _ => []

def onFailure (tells : String → Report) : Except String α → List Report
  | .ok _ => []
  | .error reason => [tells reason]

end Report

/-- The library with its reports kept. -/
def Wire.reported (w : Wire σ) : Wire (Reported σ) where
  dial url connectTimeout readTimeout s := s.report (w.dial url connectTimeout readTimeout) (Report.onSuccess .opened)
  bind c dn password s := s.report (w.bind c dn password) fun _ => []
  search c base scope filter attributes s :=
    s.report (w.search c base scope filter attributes) (Report.onFailure (.broke c))
  next c number s := s.report (w.next c number) (Report.onFailure (.broke c))
  finish c number s := s.report (w.finish c number) fun result => [.ended c result]
  abandon c number s := s.report (w.abandon c number) (Report.onFailure (.stuck c))
  unbind c s := s.report (w.unbind c) fun _ => [.closed c]
  isClosed c s := w.isClosed c s.world
  remaining c number s := w.remaining c number s.world
  next_lt took := by
    simp only [Reported.report, Prod.mk.injEq] at took
    rw [← took.2]
    exact w.next_lt (Prod.ext took.1 rfl)

namespace Act

/-- The act adds reports that have the property together with its result. -/
def Reports (act : Act (Clients (Reported σ)) α) (after : α → List Report → Prop) : Prop :=
  ∀ t, ∃ more, (act t).2.world.wire.reports = t.world.wire.reports ++ more ∧ after (act t).1 more

namespace Reports

variable {after : β → List Report → Prop}

theorem pure {b : β} (holds : after b []) : Reports (σ := σ) (pure b) after :=
  fun _ => ⟨[], (List.append_nil _).symm, holds⟩

theorem bind {between : α → List Report → Prop} {act : Act (Clients (Reported σ)) α}
    {next : α → Act (Clients (Reported σ)) β} (first : Reports act between)
    (second : ∀ a said, between a said → Reports (next a) fun b more => after b (said ++ more)) :
    Reports (act >>= next) after := by
  intro t
  obtain ⟨said, added, held⟩ := first t
  obtain ⟨more, addedMore, holds⟩ := second _ said held (act t).2
  refine ⟨said ++ more, ?_, holds⟩
  rw [← List.append_assoc, ← added]
  exact addedMore

theorem mono {weaker : β → List Report → Prop} {act : Act (Clients (Reported σ)) β} (reports : Reports act after)
    (weaken : ∀ b said, after b said → weaker b said) : Reports act weaker := by
  intro t
  obtain ⟨said, added, held⟩ := reports t
  exact ⟨said, added, weaken _ said held⟩

theorem quiet {act : Act (Clients (Reported σ)) β} (same : ∀ t, (act t).2.world = t.world)
    (holds : ∀ b, after b []) : Reports act after :=
  fun t => ⟨[], by rw [same, List.append_nil], holds _⟩

/-- After an act that reports nothing. -/
theorem andThen {act : Act (Clients (Reported σ)) α} {next : α → Act (Clients (Reported σ)) β}
    (same : ∀ t, (act t).2.world = t.world) (second : ∀ a, Reports (next a) after) : Reports (act >>= next) after := by
  have nothing : Reports act fun _ said => said = [] := quiet same fun _ => rfl
  exact bind nothing fun a _ none => none ▸ second a

theorem perform {step : Clients (Reported σ) → β × Clients (Reported σ)}
    (holds : ∀ s, ∃ more, (step s).2.wire.reports = s.wire.reports ++ more ∧ after (step s).1 more) :
    Reports (Act.perform step) after :=
  fun t => holds t.world

end Reports

end Act

/-- What is found accounts for the reports: an error of the library and the result of a search are what comes of it in
the end, and an error of the connection has one of two origins. -/
structure Accountable (found : Except Error α) (reports : List Report) : Prop where
  broke {c : Nat} {reason : String} : .broke c reason ∈ reports → found = .error (.search reason)
  ended {c : Nat} {result : Outcome} {e : Error} : .ended c result ∈ reports → result.ending = .error e →
    found = .error e
  /-- Only what was opened meanwhile is closed. -/
  own {c : Nat} : .closed c ∈ reports → .opened c ∈ reports
  origin {e : Error} : found = .error e → e.isConnectionError →
    (∃ c reason, .stuck c reason ∈ reports ∧ e = .client reason) ∨ ∃ reason, e = .referral reason

namespace Accountable

variable {found : Except Error α} {reports more : List Report} {e : Error}

theorem quiet (noConnectionError : ∀ e, found = .error e → e.isConnectionError → ∃ reason, e = .referral reason) :
    Accountable found [] where
  broke := nofun
  ended := nofun
  own := nofun
  origin failed connection := .inr (noConnectionError _ failed connection)

theorem ok (a : α) : Accountable (.ok a) [] := quiet nofun

/-- An error is as accountable for one kind of results as for another. -/
theorem error (accountable : Accountable (.error e : Except Error α) reports) :
    Accountable (.error e : Except Error β) reports where
  broke said := congrArg _ (Except.error.inj (accountable.broke said))
  ended said fails := congrArg _ (Except.error.inj (accountable.ended said fails))
  own := accountable.own
  origin failed := accountable.origin (congrArg _ (Except.error.inj failed))

/-- What went well has left no error behind. -/
theorem andThen {a : β} (first : Accountable (.ok a) reports) (second : Accountable found more) :
    Accountable found (reports ++ more) where
  broke said := by
    obtain early | late := List.mem_append.1 said
    · cases first.broke early
    · exact second.broke late
  ended said fails := by
    obtain early | late := List.mem_append.1 said
    · cases first.ended early fails
    · exact second.ended late fails
  own said := by
    obtain early | late := List.mem_append.1 said
    · exact List.mem_append_left _ (first.own early)
    · exact List.mem_append_right _ (second.own late)
  origin failed connection := by
    obtain ⟨c, reason, stuck, same⟩ | referral := second.origin failed connection
    · exact .inl ⟨c, reason, List.mem_append_right _ stuck, same⟩
    · exact .inr referral

/-- What is tidied up afterwards tells nothing new. -/
theorem append (accountable : Accountable found reports)
    (tidy : ∀ report ∈ more, (∃ c reason, report = .stuck c reason) ∨ ∃ c, report = .closed c ∧ .opened c ∈ reports) :
    Accountable found (reports ++ more) where
  broke said := by
    obtain early | late := List.mem_append.1 said
    · exact accountable.broke early
    · obtain ⟨_, _, same⟩ | ⟨_, same, _⟩ := tidy _ late <;> cases same
  ended said fails := by
    obtain early | late := List.mem_append.1 said
    · exact accountable.ended early fails
    · obtain ⟨_, _, same⟩ | ⟨_, same, _⟩ := tidy _ late <;> cases same
  own said := by
    obtain early | late := List.mem_append.1 said
    · exact List.mem_append_left _ (accountable.own early)
    · obtain ⟨_, _, same⟩ | ⟨_, same, opened⟩ := tidy _ late
      · cases same
      · cases same
        exact List.mem_append_left _ opened
  origin failed connection := by
    obtain ⟨c, reason, stuck, same⟩ | referral := accountable.origin failed connection
    · exact .inl ⟨c, reason, List.mem_append_left _ stuck, same⟩
    · exact .inr referral

end Accountable

/-- The result of a search is never an error of the connection. -/
theorem Outcome.ending_error {result : Outcome} {e : Error} (fails : result.ending = .error e) :
    e.isConnectionError = false := by
  unfold ending at fails
  split at fails
  · cases fails
  · split at fails
    · cases fails
    · split at fails
      · cases fails
        rfl
      · cases fails
        rfl

theorem Accountable.of_broke (c : Nat) (reason : String) :
    Accountable (.error (.search reason) : Except Error α) [.broke c reason] where
  broke said := by
    cases List.mem_singleton.1 said
    rfl
  ended said := by cases List.mem_singleton.1 said
  own said := by cases List.mem_singleton.1 said
  origin failed connection := by
    cases failed
    cases connection

theorem Accountable.of_ended (c : Nat) (result : Outcome) : Accountable result.ending [.ended c result] where
  broke said := by cases List.mem_singleton.1 said
  ended said fails := by
    cases List.mem_singleton.1 said
    exact fails
  own said := by cases List.mem_singleton.1 said
  origin failed connection := by
    rw [Outcome.ending_error failed] at connection
    cases connection

theorem Accountable.of_stuck (c : Nat) (reason : String) :
    Accountable (.error (.client reason) : Except Error α) [.stuck c reason] where
  broke said := by cases List.mem_singleton.1 said
  ended said := by cases List.mem_singleton.1 said
  own said := by cases List.mem_singleton.1 said
  origin failed _ := by
    cases failed
    exact .inl ⟨c, reason, List.mem_singleton_self _, rfl⟩

namespace Clients

variable (w : Wire σ) (c : Nat)

theorem abandon_reports (s : Clients (Reported σ)) : ∃ more,
    (abandon w.reported c s).2.wire.reports = s.wire.reports ++ more ∧ Accountable (abandon w.reported c s).1 more ∧
      ∀ report ∈ more, ∃ reason, report = .stuck c reason := by
  unfold abandon
  split
  · exact ⟨[], (List.append_nil _).symm, .ok _, List.forall_mem_nil _⟩
  · rename_i number runs
    simp only [Wire.reported, Reported.report]
    cases (w.abandon c number s.wire.world).1 with
    | ok _ => exact ⟨[], rfl, .ok (), List.forall_mem_nil _⟩
    | error reason => exact ⟨[.stuck c reason], rfl, .of_stuck c reason, by simp⟩

theorem search_reports (base : String) (scope : Scope) (filter : String) (attributes : List String)
    (s : Clients (Reported σ)) : ∃ more,
    (search w.reported c base scope filter attributes s).2.wire.reports = s.wire.reports ++ more ∧
      Accountable (search w.reported c base scope filter attributes s).1 more := by
  obtain ⟨said, added, accountable, -⟩ := abandon_reports w c s
  unfold search
  rcases gaveUp : abandon w.reported c s with ⟨_ | _, s'⟩
  · rw [gaveUp] at added accountable
    exact ⟨said, added, accountable⟩
  · rw [gaveUp] at added accountable
    have started : (w.reported.search c base scope filter attributes s'.wire).2.reports = s'.wire.reports ++
        Report.onFailure (.broke c) (w.reported.search c base scope filter attributes s'.wire).1 := rfl
    dsimp only at added accountable ⊢
    rcases answer : w.reported.search c base scope filter attributes s'.wire with ⟨reason | _, wire⟩
    · rw [answer, added, List.append_assoc] at started
      exact ⟨_, started, accountable.andThen (.of_broke c reason)⟩
    · rw [answer, added, List.append_assoc] at started
      exact ⟨_, started, accountable.andThen (.ok ())⟩

theorem nextItem_reports (number : Nat) (wire : Reported σ) : ∃ more,
    (nextItem w.reported c number wire).2.reports = wire.reports ++ more ∧
      Accountable (nextItem w.reported c number wire).1.1 more := by
  have said {answer : Except String (Option Message)} {wire left : Reported σ}
      (took : w.reported.next c number wire = (answer, left)) :
      left.reports = wire.reports ++ Report.onFailure (.broke c) answer := by
    obtain ⟨rfl, rfl⟩ := Prod.mk.inj took
    rfl
  fun_induction nextItem w.reported c number wire with
  | case1 wire dn attributes left took => exact ⟨[], said took, .ok _⟩
  | case2 wire urls left took => exact ⟨[], said took, .ok _⟩
  | case3 wire left took _ ih =>
    obtain ⟨more, added, accountable⟩ := ih
    exact ⟨more, by rw [added, said took, Report.onFailure, List.append_nil], accountable⟩
  | case4 wire left took result wire' finished =>
    have ending : wire'.reports = left.reports ++ [.ended c result] := by
      obtain ⟨rfl, rfl⟩ := Prod.mk.inj finished
      rfl
    exact ⟨[.ended c result], by rw [ending, said took, Report.onFailure, List.append_nil], .of_ended c result⟩
  | case5 wire reason left took => exact ⟨[.broke c reason], said took, .of_broke c reason⟩

theorem next_reports (s : Clients (Reported σ)) : ∃ more,
    (next w.reported c s).2.wire.reports = s.wire.reports ++ more ∧ Accountable (next w.reported c s).1 more := by
  unfold next
  split
  · exact ⟨[], (List.append_nil _).symm, .ok none⟩
  · rename_i number runs
    obtain ⟨more, added, accountable⟩ := nextItem_reports w c number s.wire
    rcases took : nextItem w.reported c number s.wire with ⟨⟨outcome, _ | _⟩, wire⟩
    · rw [took] at added accountable
      exact ⟨more, added, accountable⟩
    · rw [took] at added accountable
      exact ⟨more, added, accountable⟩

theorem bind_reports (env : Environment) (s : Clients (Reported σ)) :
    (Clients.bind w.reported env c s).2.wire.reports = s.wire.reports := by
  unfold Clients.bind
  split
  · rfl
  · exact List.append_nil _
  · rfl
  · rfl

/-- A connection that cannot bind is closed at once. -/
theorem connect_reports (env : Environment) (s : Clients (Reported σ)) : ∃ more,
    (connect w.reported env s).2.wire.reports = s.wire.reports ++ more ∧
      (∀ report ∈ more, ∃ c, .opened c ∈ more ∧ (report = .opened c ∨ report = .closed c)) ∧
      ∀ c, (connect w.reported env s).1 = .ok c → .opened c ∈ more := by
  unfold connect
  split
  · exact ⟨[], (List.append_nil _).symm, nofun, nofun⟩
  · have dialed : (w.reported.dial env.url env.connectTimeout env.readTimeout s.wire).2.reports = s.wire.reports ++
        Report.onSuccess .opened (w.reported.dial env.url env.connectTimeout env.readTimeout s.wire).1 := rfl
    rcases answer : w.reported.dial env.url env.connectTimeout env.readTimeout s.wire with ⟨reason | c, wire⟩
    · rw [answer] at dialed
      exact ⟨[], dialed, nofun, nofun⟩
    · rw [answer] at dialed
      have bound : (Clients.bind w.reported env c ({ s with wire }.read c none)).2.wire.reports =
          s.wire.reports ++ [.opened c] := (bind_reports w c env _).trans dialed
      dsimp only
      generalize Clients.bind w.reported env c ({ s with wire }.read c none) = run at bound ⊢
      obtain ⟨outcome, s'⟩ := run
      change s'.wire.reports = _ at bound
      cases outcome with
      | error e =>
        have shut : (w.reported.unbind c s'.wire).2.reports = s'.wire.reports ++ [.closed c] := rfl
        exact ⟨[.opened c, .closed c], by rw [shut, bound, List.append_assoc]; rfl, by simp, nofun⟩
      | ok _ => exact ⟨[.opened c], bound, by simp, by simp⟩

theorem close_reports : Act.Reports (Act.perform (close w.reported c)) fun _ said => said = [.closed c] :=
  .perform fun _ => ⟨_, rfl, rfl⟩

end Clients

namespace Search

open Act (Reports)

variable (w : Wire σ)

theorem abandonQuietly_reports (c : Nat) : Reports (abandonQuietly (Clients.service w.reported) c) fun _ said =>
    ∀ report ∈ said, ∃ reason, report = .stuck c reason := by
  have gaveUp : Reports (Act.perform (Clients.abandon w.reported c)) fun _ said =>
      ∀ report ∈ said, ∃ reason, report = .stuck c reason := by
    refine .perform fun s => ?_
    obtain ⟨more, added, -, stuck⟩ := Clients.abandon_reports w c s
    exact ⟨more, added, stuck⟩
  refine .bind gaveUp fun outcome said stuck => ?_
  cases outcome with
  | ok _ => exact .pure (by rwa [List.append_nil])
  | error e => exact .quiet (fun _ => rfl) fun _ => by rwa [List.append_nil]

theorem closeQuietly_reports (c : Nat) :
    Reports (closeQuietly (Clients.service w.reported) c) fun _ said => said = [.closed c] := by
  refine .bind (Clients.close_reports w c) fun outcome said closed => ?_
  cases outcome with
  | ok _ => exact .pure (by rw [closed, List.append_nil])
  | error e => exact .quiet (fun _ => rfl) fun _ => by rw [closed, List.append_nil]

theorem drain_reports (c : Nat) (r : Request) (mode : FindMode) (f : Findings) :
    Reports (drain (Clients.service w.reported) c r mode f) fun ended said => Accountable ended.1 said := by
  intro t
  have took {outcome : Except Error (Option Item)} {s s' : Clients (Reported σ)}
      (next : (Clients.service w.reported).next c s = (outcome, s')) :
      ∃ more, s'.wire.reports = s.wire.reports ++ more ∧ Accountable outcome more := by
    have reports := Clients.next_reports w c s
    change Clients.next w.reported c s = (outcome, s') at next
    rwa [next] at reports
  -- What comes after an item that was taken.
  have after {item : Option Item} {s s' later : Clients (Reported σ)}
      {ended : Except Error Ending} (next : (Clients.service w.reported).next c s = (.ok item, s'))
      (rest : ∃ more, later.wire.reports = s'.wire.reports ++ more ∧ Accountable ended more) :
      ∃ more, later.wire.reports = s.wire.reports ++ more ∧ Accountable ended more := by
    obtain ⟨said, added, well⟩ := took next
    obtain ⟨more, addedMore, accountable⟩ := rest
    exact ⟨said ++ more, by rw [addedMore, added, List.append_assoc], well.andThen accountable⟩
  have tidied {ended : Except Error Ending} {said : List Report} (t : Trace (Clients (Reported σ)))
      (accountable : Accountable ended said) : ∃ more,
      (abandonQuietly (Clients.service w.reported) c t).2.world.wire.reports = t.world.wire.reports ++ more ∧
        Accountable ended (said ++ more) := by
    obtain ⟨more, added, stuck⟩ := abandonQuietly_reports w c t
    exact ⟨more, added, accountable.append fun report member => .inl ⟨c, stuck report member⟩⟩
  fun_induction drain (Clients.service w.reported) c r mode f t with
  | case1 f t world t' urls next _ _ ih => exact after next ih
  | case2 f t world t' e next second =>
    exact after next (tidied t' (.quiet fun e failed connection => by cases failed; cases connection))
  | case3 f t world t' e next _ f' first => exact after next (tidied t' (.ok _))
  | case4 f t world t' e next notSecond f' notFirst _ _ ih => exact after next ih
  | case5 f t world next =>
    obtain ⟨said, added, well⟩ := took next
    exact ⟨said ++ [], by rw [List.append_nil]; exact added, well.andThen (.ok _)⟩
  | case6 f t e world next =>
    obtain ⟨said, added, failed⟩ := took next
    obtain ⟨more, addedMore, accountable⟩ := tidied { t with world } failed.error
    exact ⟨said ++ more, by rw [addedMore, ← List.append_assoc, ← added], accountable⟩

theorem enumerate_reports (c : Nat) (r : Request) (base : String) (mode : FindMode) (f : Findings) :
    Reports (enumerate (Clients.service w.reported) c r base mode f) fun ended said => Accountable ended.1 said := by
  have asks : Reports (Act.perform (Clients.search w.reported c base r.scope r.filter r.wireAttributes)) Accountable :=
    .perform (Clients.search_reports w c base r.scope r.filter r.wireAttributes)
  refine .bind asks fun outcome said accountable => ?_
  cases outcome with
  | ok _ => exact .mono (drain_reports w c r mode f) fun _ _ later => accountable.andThen later
  | error e => exact .pure (by rw [List.append_nil]; exact accountable.error)

theorem openReferral_reports (server : Server) (url : String) :
    Reports (openReferral (Clients.service w.reported) server url) fun found said =>
      Accountable found said ∧ ∀ c, found = .ok c → .opened c ∈ said := by
  unfold openReferral
  cases leads : Environment.referralUrl url with
  | error e =>
    refine .pure ⟨.quiet fun e' failed connection => ?_, nofun⟩
    obtain ⟨reason, invalid⟩ := referralUrl_error leads
    cases failed
    rw [invalid] at connection
    cases connection
  | ok target =>
    have opens : Reports (Act.perform (Clients.connect w.reported (Environment.referral server target)))
        fun found said => (∀ report ∈ said, ∃ c, .opened c ∈ said ∧ (report = .opened c ∨ report = .closed c)) ∧
          ∀ c, found = .ok c → .opened c ∈ said :=
      .perform (Clients.connect_reports w (Environment.referral server target))
    refine .andThen (fun _ => rfl) fun _ => .bind opens fun found said ⟨only, opened⟩ => ?_
    have accountable {result : Except Error Nat}
        (origin : ∀ e, result = .error e → ∃ reason, e = .referral reason) : Accountable result said := by
      refine ⟨fun broke => ?_, fun ended => ?_, fun closed => ?_, fun failed _ => .inr (origin _ failed)⟩
      · obtain ⟨_, -, same | same⟩ := only _ broke <;> cases same
      · obtain ⟨_, -, same | same⟩ := only _ ended <;> cases same
      · obtain ⟨c, opened, same | same⟩ := only _ closed
        · cases same
        · cases same
          exact opened
    cases found with
    | ok c => exact .pure (by rw [List.append_nil]; exact ⟨accountable nofun, opened⟩)
    | error e =>
      refine .pure ?_
      rw [List.append_nil]
      refine ⟨accountable fun e' failed => ?_, nofun⟩
      exact ⟨_, (Except.error.inj failed).symm⟩

theorem enumerateReferral_reports (server : Server) (r : Request) (mode : FindMode) (url : String) (f : Findings) :
    Reports (enumerateReferral (Clients.service w.reported) server r mode url f) fun ended said =>
      Accountable ended.1 said := by
  refine .andThen (fun _ => rfl) fun _ => ?_
  cases below : referralBase url r.baseDn with
  | error e =>
    refine .pure (.quiet fun e' failed connection => ?_)
    obtain ⟨reason, invalid⟩ := referralBase_error below
    cases failed
    rw [invalid] at connection
    cases connection
  | ok base =>
    refine .bind (openReferral_reports w server url) fun found opening ⟨accountable, opened⟩ => ?_
    cases found with
    | error e => exact .pure (by rw [List.append_nil]; exact accountable.error)
    | ok c =>
      refine .bind (enumerate_reports w c r base mode f) fun ended said searched => ?_
      refine .bind (closeQuietly_reports w c) fun _ closing closed => .pure ?_
      have there : .opened c ∈ opening ++ said := List.mem_append_left _ (opened c rfl)
      rw [closed, List.append_nil, ← List.append_assoc]
      exact (accountable.andThen searched).append fun report member =>
        .inr ⟨c, List.mem_singleton.1 member, there⟩

theorem chase_reports (server : Server) (r : Request) (mode : FindMode) (hops : Nat) (visited : List String)
    (ended : Except Error Ending × Findings) {before : List Report} (accountable : Accountable ended.1 before) :
    Reports (chase (Clients.service w.reported) server r mode hops visited ended) fun found said =>
      Accountable found (before ++ said) := by
  induction hops, visited, ended using chase_induction (Clients.service w.reported) server r mode generalizing before with
  | failed hops visited e f => exact .pure (by rw [List.append_nil]; exact accountable.error)
  | satisfied hops visited f => exact .pure (accountable.andThen (.ok _))
  | exhausted hops visited visited' f events next =>
    exact .andThen (fun _ => rfl) fun _ => .pure (accountable.andThen (.ok _))
  | tooMany visited visited' f leg events next =>
    refine .andThen (fun _ => rfl) fun _ => .pure (accountable.andThen (.quiet fun e failed _ => ?_))
    exact ⟨_, (Except.error.inj failed).symm⟩
  | followed hops visited visited' f url pending events next ih =>
    refine .andThen (fun _ => rfl) fun _ => ?_
    refine .bind (enumerateReferral_reports w server r mode url _) fun ended said followed => ?_
    refine .mono (ih ended (accountable.andThen followed)) fun found more all => ?_
    rwa [List.append_assoc] at all

theorem find_reports (server : Server) (c : Nat) (r : Request) (mode : FindMode) :
    Reports (find (Clients.service w.reported) server c r mode) Accountable := by
  refine .andThen (fun _ => rfl) fun _ => ?_
  refine .bind (enumerate_reports w c r r.baseDn mode {}) fun ended said accountable => ?_
  exact chase_reports w server r mode maxReferralHops [] ended accountable

end Search

namespace Factory

/-- A lookup has not closed its connection, and puts it back into the pool unless that says itself that it is closed. -/
structure Spares (w : Wire σ) (c : Nat) (p after : Pool Nat) (reports : List Report) (s : Clients (Reported σ)) :
    Prop where
  back : after = if w.isClosed c s.wire.world then p.free else { p.free with idle := c :: p.idle }
  untouched : .closed c ∈ reports → .opened c ∈ reports

/-- What a lookup does to the connection `c` that it has from a pool, which was left as `p`. -/
structure Handles (w : Wire σ) (c : Nat) (p : Pool Nat) (found : Except Error (List Entry)) (after : Pool Nat)
    (reports : List Report) (s : Clients (Reported σ)) : Prop where
  /-- When a search cannot be started or its messages not be read, this is what comes of it in the end, and the
  connection is spared. -/
  broke {line : Nat} {reason : String} : .broke line reason ∈ reports →
    found = .error (.search reason) ∧ Spares w c p after reports s
  /-- So it is when the result of a search says that it failed, -/
  ended {line : Nat} {result : Outcome} {e : Error} : .ended line result ∈ reports → result.ending = .error e →
    found = .error e ∧ Spares w c p after reports s
  /-- and after whatever else is no error of the connection. -/
  spared : (∀ e, found = .error e → e.isConnectionError = false) → Spares w c p after reports s
  /-- Such an error is a search that cannot be given up, or a referral that fails. After it the connection is closed. -/
  discarded {e : Error} : found = .error e → e.isConnectionError →
    ((∃ line reason, .stuck line reason ∈ reports ∧ e = .client reason) ∨ ∃ reason, e = .referral reason) ∧
      after = p.free ∧ ∃ before, reports = before ++ [.closed c]

theorem Handles.of_spares {w : Wire σ} {c : Nat} {p after : Pool Nat} {found : Except Error (List Entry)}
    {reports : List Report} {s : Clients (Reported σ)} (accountable : Accountable found reports)
    (well : ∀ e, found = .error e → e.isConnectionError = false) (spares : Spares w c p after reports s) :
    Handles w c p found after reports s where
  broke said := ⟨accountable.broke said, spares⟩
  ended said fails := ⟨accountable.ended said fails, spares⟩
  spared _ := spares
  discarded failed connection := by
    rw [well _ failed] at connection
    cases connection

/-- After an error of the connection, no search can have broken or ended in an error. -/
theorem Handles.of_discarded {w : Wire σ} {c : Nat} {p : Pool Nat} {e : Error} {reports : List Report}
    {s : Clients (Reported σ)} (accountable : Accountable (.error e : Except Error (List Entry)) reports)
    (connection : e.isConnectionError) : Handles w c p (.error e) p.free (reports ++ [.closed c]) s where
  broke said := by
    obtain early | late := List.mem_append.1 said
    · cases accountable.broke early
      cases connection
    · cases List.mem_singleton.1 late
  ended said fails := by
    obtain early | late := List.mem_append.1 said
    · cases accountable.ended early fails
      rw [Outcome.ending_error fails] at connection
      cases connection
    · cases List.mem_singleton.1 late
  spared well := by
    rw [well e rfl] at connection
    cases connection
  discarded failed _ := by
    cases failed
    refine ⟨(accountable.origin rfl connection).imp_left ?_, rfl, reports, rfl⟩
    rintro ⟨line, reason, stuck, same⟩
    exact ⟨line, reason, List.mem_append_left _ stuck, same⟩

theorem release_spares (w : Wire σ) (c : Nat) (p : Pool Nat) (t : Trace (Clients (Reported σ))) :
    (p.release (Clients.service w.reported) c t).2.world = t.world ∧
      (p.release (Clients.service w.reported) c t).1 =
        if w.isClosed c t.world.wire.world then p.free else { p.free with idle := c :: p.idle } := by
  have run : p.release (Clients.service w.reported) c t = (if w.isClosed c t.world.wire.world then pure p.free
      else pure { p.free with idle := c :: p.idle } : Act _ (Pool Nat)) t := rfl
  rw [run]
  split
  · exact ⟨rfl, rfl⟩
  · exact ⟨rfl, rfl⟩

theorem discard_reports (w : Wire σ) (c : Nat) (p : Pool Nat) :
    Act.Reports (p.discard (Clients.service w.reported) c) fun after said => after = p.free ∧ said = [.closed c] := by
  refine .bind (Clients.close_reports w c) fun outcome said closed => ?_
  cases outcome with
  | ok _ => exact .pure ⟨rfl, by rw [closed, List.append_nil]⟩
  | error e => exact .andThen (fun _ => rfl) fun _ => .pure ⟨rfl, by rw [closed, List.append_nil]⟩

/-- Only for a referral that fails, or a search that cannot be given up, does a lookup close its connection: not for one
that cannot be started or read, and not for the result of one. -/
theorem lookup_handles (w : Wire σ) (r : Request) (mode : FindMode) (f : Factory Nat)
    (t : Trace (Clients (Reported σ))) {c : Nat} {p : Pool Nat} {t' : Trace (Clients (Reported σ))}
    (bound : f.pool.bind (Clients.service w.reported) f.server t = ((.ok c, p), t')) :
    let run := f.lookup (Clients.service w.reported) r mode t
    ∃ reports, run.2.world.wire.reports = t'.world.wire.reports ++ reports ∧
      Handles w c p run.1.1 run.1.2.pool reports run.2.world := by
  obtain ⟨said, added, accountable⟩ := Search.find_reports w f.server c r mode t'
  rcases search : Search.find (Clients.service w.reported) f.server c r mode t' with ⟨found, t''⟩
  rw [search] at added accountable
  unfold lookup
  dsimp only
  rw [Act.bind_apply, bound]
  dsimp only
  rw [Act.bind_apply, search]
  have spared (well : ∀ e, found = .error e → e.isConnectionError = false) :
      let run := p.release (Clients.service w.reported) c t''
      ∃ reports, run.2.world.wire.reports = t'.world.wire.reports ++ reports ∧
        Handles w c p found run.1 reports run.2.world := by
    obtain ⟨same, back⟩ := release_spares w c p t''
    refine ⟨said, by rw [same, added], .of_spares accountable well ⟨?_, accountable.own⟩⟩
    rw [same, back]
  cases found with
  | ok entries => exact spared nofun
  | error e =>
    dsimp only
    split
    · rename_i connection
      obtain ⟨more, addedMore, free, closed⟩ := discard_reports w c p t''
      refine ⟨said ++ [.closed c], ?_, ?_⟩
      · rw [← List.append_assoc, ← added, ← closed]
        exact addedMore
      · have handles := Handles.of_discarded (w := w) (c := c) (p := p)
          (s := (p.discard (Clients.service w.reported) c t'').2.world) accountable connection
        rw [← free] at handles
        exact handles
    · rename_i other
      exact spared fun e' failed => by
        cases failed
        exact Bool.eq_false_iff.2 other

namespace Unanswered

/-- A directory that takes requests and never answers them. -/
def wire : Wire Unit where
  dial _ _ _ w := (.ok 0, w)
  bind _ _ _ w := (.ok {}, w)
  search _ _ _ _ _ w := (.ok 0, w)
  next _ _ w := (.error "timeout: deadline has elapsed", w)
  finish _ _ w := ({}, w)
  abandon _ _ w := (.ok (), w)
  unbind _ w := (.ok (), w)
  isClosed _ _ := false
  remaining _ _ _ := 0
  next_lt took := nomatch took

def factory : Factory Nat :=
  .ofServer { key := "a", url := "ldap://a.example.org" }

def request : Request where
  baseDn := "dc=example,dc=org"
  positional := "(uid=\x7b0\x7d)"
  parameters := ["tester"]

def start : Trace (Clients (Reported Unit)) := ⟨{ wire := ⟨(), []⟩ }, []⟩

/-- Its connection is there. -/
def connected : Trace (Clients (Reported Unit)) :=
  (factory.pool.bind (Clients.service wire.reported) factory.server start).2

end Unanswered

open Unanswered in
theorem lookup_handles_unanswered :
    factory.pool.bind (Clients.service wire.reported) factory.server start =
        ((.ok 0, factory.pool.lend), connected) ∧
      let run := factory.lookup (Clients.service wire.reported) request .unique start
      ∃ reports, run.2.world.wire.reports = connected.world.wire.reports ++ reports ∧
        Handles wire 0 factory.pool.lend run.1.1 run.1.2.pool reports run.2.world :=
  ⟨rfl, lookup_handles wire request .unique factory start rfl⟩

open Unanswered in
/-- A connection on which no answer came in time waits for the next lookup, and nothing was done to close it. -/
theorem lookup_keeps_unanswered :
    let run := factory.lookup (Clients.service wire.reported) request .unique start
    run.1.1 = .error (.search "timeout: deadline has elapsed") ∧
      run.2.world.wire.reports = [.opened 0, .broke 0 "timeout: deadline has elapsed"] ∧ run.1.2.pool.idle = [0] := by
  intro run
  exact ⟨by decide +kernel, by decide +kernel, by decide +kernel⟩

end Factory

end DirectoryLogin
