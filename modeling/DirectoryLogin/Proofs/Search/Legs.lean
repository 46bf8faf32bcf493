import DirectoryLogin.Proofs.Search.Course
import DirectoryLogin.Proofs.Search.Queue

namespace DirectoryLogin.Search

variable {κ : Type} {server : Server} {c : Line κ} {r : Request} {mode : FindMode} {base url : String}
  {f : Findings} {ended : Except Error Ending × Findings} {es : List (Exchange κ)}
  {result : Except Error (List Entry)}

namespace Drained

theorem pending (drained : Drained c r mode f ended es) :
    ended.2.pending = f.pending ++ es.flatMap Exchange.referrals := by
  induction drained with
  | referral _ ih => simp [ih, Exchange.referrals]
  | entry _ _ ih => simp [ih, Exchange.referrals]
  | first => simp [Exchange.referrals]
  | second => simp [Exchange.referrals]
  | exhausted => simp [Exchange.referrals]
  | broken => simp [Exchange.referrals]

/-- A search that ended well gives all entries that it was handed. -/
theorem entries (drained : Drained c r mode f ended es) {ending : Ending}
    (well : ended.1 = .ok ending) : ended.2.entries = f.entries ++ es.flatMap Exchange.entry := by
  induction drained with
  | referral _ ih => simp [ih well, Exchange.entry]
  | entry _ _ ih => simp [ih well, Exchange.entry]
  | first => simp [Exchange.entry]
  | second => cases well
  | exhausted => simp [Exchange.entry]
  | broken => cases well

/-- Only items are taken, and the search abandoned. -/
theorem quiet {α : Type} {view : Exchange κ → List α} (next : ∀ outcome, view (.next c outcome) = [])
    (abandon : ∀ outcome, view (.abandon c outcome) = []) (drained : Drained c r mode f ended es) :
    es.flatMap view = [] := by
  induction drained with
  | referral _ ih => rw [List.flatMap_cons, next, ih, List.nil_append]
  | entry _ _ ih => rw [List.flatMap_cons, next, ih, List.nil_append]
  | first => simp [next, abandon]
  | second => simp [next, abandon]
  | exhausted => simp [next]
  | broken => simp [next, abandon]

theorem attempts (drained : Drained c r mode f ended es) : es.flatMap Exchange.attempt = [] :=
  drained.quiet (fun _ => rfl) fun _ => rfl

theorem contexts (drained : Drained c r mode f ended es) : es.flatMap Exchange.context = [] :=
  drained.quiet (fun _ => rfl) fun _ => rfl

end Drained

namespace Enumerated

theorem pending (enumerated : Enumerated c r base mode f ended es) :
    ended.2.pending = f.pending ++ es.flatMap Exchange.referrals := by
  cases enumerated with
  | refused => simp [Exchange.referrals]
  | started drained => simpa [Exchange.referrals] using drained.pending

theorem entries (enumerated : Enumerated c r base mode f ended es) {ending : Ending}
    (well : ended.1 = .ok ending) : ended.2.entries = f.entries ++ es.flatMap Exchange.entry := by
  cases enumerated with
  | refused => cases well
  | started drained => simpa [Exchange.entry] using drained.entries well

theorem attempts (enumerated : Enumerated c r base mode f ended es) :
    es.flatMap Exchange.attempt = [] := by
  cases enumerated with
  | refused => rfl
  | started drained => exact drained.attempts

theorem contexts (enumerated : Enumerated c r base mode f ended es) :
    es.flatMap Exchange.context = [(c.env.url, base)] := by
  cases enumerated with
  | refused => rfl
  | started drained => simp [Exchange.context, drained.contexts]

end Enumerated

/-- Where a search goes on at a referral: the URL that is connected to, and the base. -/
def context? (r : Request) (url : String) : Option (String × String) :=
  match Environment.referralUrl url, referralBase url r.baseDn with
  | .ok target, .ok base => some (target, base)
  | _, _ => none

theorem Opened.quiet {found : Except Error (Line κ)} (opened : Opened server url found es) :
    es.flatMap Exchange.referrals = [] ∧ es.flatMap Exchange.entry = [] ∧
      es.flatMap Exchange.context = [] := by
  cases opened with
  | noTarget => exact ⟨rfl, rfl, rfl⟩
  | refused => exact ⟨rfl, rfl, rfl⟩
  | opened => exact ⟨rfl, rfl, rfl⟩

theorem Opened.attempts {found : Except Error (Line κ)} (opened : Opened server url found es) :
    es.flatMap Exchange.attempt = [] ∨ ∃ target, Environment.referralUrl url = .ok target ∧
      es.flatMap Exchange.attempt = [Environment.referral server target] := by
  cases opened with
  | noTarget => exact .inl rfl
  | refused leads => exact .inr ⟨_, leads, rfl⟩
  | opened leads => exact .inr ⟨_, leads, rfl⟩

namespace Referred

theorem pending (referred : Referred server r mode url f ended es) :
    ended.2.pending = f.pending ++ es.flatMap Exchange.referrals := by
  cases referred with
  | noBase => simp
  | closed _ opened => simp [opened.quiet.1]
  | entered _ opened enumerated =>
    simp [opened.quiet.1, enumerated.pending, Exchange.referrals]

theorem entries (referred : Referred server r mode url f ended es) {ending : Ending}
    (well : ended.1 = .ok ending) : ended.2.entries = f.entries ++ es.flatMap Exchange.entry := by
  cases referred with
  | noBase => cases well
  | closed => cases well
  | entered _ opened enumerated =>
    simp [opened.quiet.2.1, enumerated.entries well, Exchange.entry]

/-- At most one connection is asked for, to where the referral leads. -/
theorem attempts (referred : Referred server r mode url f ended es) :
    es.flatMap Exchange.attempt = [] ∨ ∃ target, Environment.referralUrl url = .ok target ∧
      es.flatMap Exchange.attempt = [Environment.referral server target] := by
  cases referred with
  | noBase => exact .inl rfl
  | closed _ opened => exact opened.attempts
  | entered _ opened enumerated =>
    simpa [enumerated.attempts, Exchange.attempt] using opened.attempts

/-- At most one server is searched, at most once, where the referral leads. -/
theorem contexts (referred : Referred server r mode url f ended es) :
    es.flatMap Exchange.context = [] ∨
      ∃ place, context? r url = some place ∧ es.flatMap Exchange.context = [place] := by
  cases referred with
  | noBase => exact .inl rfl
  | closed _ opened => exact .inl opened.quiet.2.2
  | entered below opened enumerated =>
    have quiet := opened.quiet.2.2
    cases opened with
    | opened leads line =>
      refine .inr ⟨_, by rw [context?, leads, below], ?_⟩
      simp [enumerated.contexts, line, Exchange.context, Environment.referral]

end Referred

namespace Chased

variable {hops : Nat} {visited : List String} {legs : List (Leg κ)}

theorem few (chased : Chased server r mode hops visited ended result legs) : legs.length ≤ hops := by
  induction chased with
  | failed => exact Nat.zero_le _
  | satisfied => exact Nat.zero_le _
  | exhausted => exact Nat.zero_le _
  | tooMany => exact Nat.zero_le _
  | followed _ _ _ ih => exact Nat.succ_le_succ ih

theorem fresh (chased : Chased server r mode hops visited ended result legs) :
    ∀ leg ∈ legs, isFresh server.referralPolicy visited leg.url := by
  induction chased with
  | failed => simp
  | satisfied => simp
  | exhausted => simp
  | tooMany => simp
  | followed next _ _ ih =>
    obtain ⟨fresh, _, _, _, left⟩ := nextReferral_some next
    refine List.forall_mem_cons.2 ⟨fresh, fun leg member => ?_⟩
    have later := ih leg member
    rw [left, Bool.and_eq_true] at later
    exact later.1

theorem distinct (chased : Chased server r mode hops visited ended result legs) :
    (legs.map Leg.url).Nodup := by
  induction chased with
  | failed => exact List.nodup_nil
  | satisfied => exact List.nodup_nil
  | exhausted => exact List.nodup_nil
  | tooMany => exact List.nodup_nil
  | followed next _ chased ih =>
    obtain ⟨_, _, _, _, left⟩ := nextReferral_some next
    refine List.nodup_cons.2 ⟨fun member => ?_, ih⟩
    obtain ⟨leg, inside, same⟩ := List.mem_map.1 member
    have later := chased.fresh leg inside
    simp [left, same] at later

theorem received (chased : Chased server r mode hops visited ended result legs) :
    ∀ before leg after, legs = before ++ leg :: after →
      leg.url ∈ ended.2.pending ++
        (before.flatMap Leg.exchanges).flatMap Exchange.referrals := by
  induction chased with
  | failed => simp
  | satisfied => simp
  | exhausted => simp
  | tooMany => simp
  | followed next referred _ ih =>
    obtain ⟨_, skipped, queue, _, _⟩ := nextReferral_some next
    intro before leg after split
    cases before with
    | nil =>
      cases split
      simp [queue]
    | cons leg' before =>
      cases split
      have known := ih before leg after rfl
      rw [referred.pending] at known
      simp only [List.mem_append, List.flatMap_cons, List.flatMap_append] at known ⊢
      rcases known with (known | known) | known
      · exact .inl (by simp [queue, known])
      · exact .inr (.inl known)
      · exact .inr (.inr known)

theorem referred (chased : Chased server r mode hops visited ended result legs) :
    ∀ leg ∈ legs, ∃ f ended, Referred server r mode leg.url f ended leg.exchanges := by
  induction chased with
  | failed => simp
  | satisfied => simp
  | exhausted => simp
  | tooMany => simp
  | followed _ referred _ ih => exact List.forall_mem_cons.2 ⟨⟨_, _, referred⟩, ih⟩

/-- A search that succeeds gives all entries that it was handed. -/
theorem entries (chased : Chased server r mode hops visited ended result legs)
    {found : List Entry} (well : result = .ok found) :
    (∃ ending, ended.1 = .ok ending) ∧
      found = ended.2.entries ++ (legs.flatMap Leg.exchanges).flatMap Exchange.entry := by
  induction chased with
  | failed => cases well
  | satisfied =>
    cases well
    exact ⟨⟨_, rfl⟩, by simp⟩
  | exhausted =>
    cases well
    exact ⟨⟨_, rfl⟩, by simp⟩
  | tooMany => cases well
  | followed _ referred _ ih =>
    obtain ⟨⟨ending, ended⟩, rfl⟩ := ih well
    exact ⟨⟨_, rfl⟩, by simp [referred.entries ended]⟩

end Chased

/-- What holds of the referrals that a search follows, as `legs` after the exchanges with the server
that it starts at. -/
structure Bounded (server : Server) (first : List (Exchange κ)) (legs : List (Leg κ)) : Prop where
  few : legs.length ≤ maxReferralHops
  distinct : (legs.map Leg.url).Nodup
  follows : ∀ leg ∈ legs, server.referralPolicy.follows leg.url
  /-- A referral that is followed was handed out before. -/
  received : ∀ before leg after, legs = before ++ leg :: after →
    leg.url ∈ (first ++ before.flatMap Leg.exchanges).flatMap Exchange.referrals
  /-- No connection is asked for where the search starts, -/
  atOrigin : first.flatMap Exchange.attempt = []
  /-- and at most one for each referral, to where it leads. -/
  attempts : ∀ leg ∈ legs, leg.exchanges.flatMap Exchange.attempt = [] ∨
    ∃ target, Environment.referralUrl leg.url = .ok target ∧
      leg.exchanges.flatMap Exchange.attempt = [Environment.referral server target]

namespace Found

variable {first : List (Exchange κ)} {legs : List (Leg κ)}

theorem bounded (found : Found server c r mode result first legs) : Bounded server first legs := by
  obtain ⟨ended, origin, chased⟩ := found
  refine ⟨chased.few, chased.distinct, ?_, ?_, origin.attempts, ?_⟩
  · exact fun leg member => (isFresh_iff.1 (chased.fresh leg member)).1
  · intro before leg after split
    have known := chased.received before leg after split
    rwa [origin.pending, List.nil_append, ← List.flatMap_append] at known
  · intro leg member
    obtain ⟨_, _, referred⟩ := chased.referred leg member
    exact referred.attempts

theorem entries (found : Found server c r mode result first legs) {entries : List Entry}
    (well : result = .ok entries) :
    entries = (first ++ legs.flatMap Leg.exchanges).flatMap Exchange.entry := by
  obtain ⟨ended, origin, chased⟩ := found
  obtain ⟨⟨ending, endedWell⟩, rfl⟩ := chased.entries well
  rw [origin.entries endedWell, List.nil_append, ← List.flatMap_append]

end Found

theorem length_attempts_le {legs : List (Leg κ)}
    (each : ∀ leg ∈ legs, (leg.exchanges.flatMap Exchange.attempt).length ≤ 1) :
    ((legs.flatMap Leg.exchanges).flatMap Exchange.attempt).length ≤ legs.length := by
  induction legs with
  | nil => exact Nat.le_refl _
  | cons leg legs ih =>
    obtain ⟨own, others⟩ := List.forall_mem_cons.1 each
    have rest := ih others
    simp only [List.flatMap_cons, List.flatMap_append, List.length_append, List.length_cons]
    omega

theorem Bounded.length_attempts {first : List (Exchange κ)} {legs : List (Leg κ)}
    (bounded : Bounded server first legs) :
    ((first ++ legs.flatMap Leg.exchanges).flatMap Exchange.attempt).length ≤ maxReferralHops := by
  have each : ∀ leg ∈ legs, (leg.exchanges.flatMap Exchange.attempt).length ≤ 1 := by
    intro leg member
    rcases bounded.attempts leg member with none | ⟨_, _, one⟩
    · simp [none]
    · simp [one]
  rw [List.flatMap_append, bounded.atOrigin, List.nil_append]
  exact Nat.le_trans (length_attempts_le each) bounded.few

end DirectoryLogin.Search
