import DirectoryLogin.Find
import DirectoryLogin.Proofs.Witnessed

namespace DirectoryLogin.Search

variable {σ κ : Type}

/-- How the items of a running search are taken, from findings to findings. -/
inductive Drained (c : Line κ) (r : Request) (mode : FindMode) :
    Findings → Except Error Ending × Findings → List (Exchange κ) → Prop
  | referral {f ended urls es} :
    Drained c r mode { f with pending := f.pending ++ urls } ended es →
      Drained c r mode f ended (.next c (.ok (some (.referral urls))) :: es)
  | entry {f ended e es} (goesOn : mode = .all ∨ mode = .unique ∧ f.entries = []) :
    Drained c r mode { f with entries := f.entries ++ [e] } ended es →
      Drained c r mode f ended (.next c (.ok (some (.entry e))) :: es)
  | first {f e outcome} (first : mode = .first) :
    Drained c r mode f (.ok .satisfied, { f with entries := f.entries ++ [e] })
      [.next c (.ok (some (.entry e))), .abandon c outcome]
  | second {f e outcome} (unique : mode = .unique) (another : f.entries ≠ []) :
    Drained c r mode f (.error (.nonUniqueResult r.display), f)
      [.next c (.ok (some (.entry e))), .abandon c outcome]
  | exhausted {f} : Drained c r mode f (.ok .exhausted, f) [.next c (.ok none)]
  | broken {f e outcome} :
    Drained c r mode f (.error e, f) [.next c (.error e), .abandon c outcome]

/-- How one server is searched below a base. -/
inductive Enumerated (c : Line κ) (r : Request) (base : String) (mode : FindMode) (f : Findings) :
    Except Error Ending × Findings → List (Exchange κ) → Prop
  | refused {e} : Enumerated c r base mode f (.error e, f)
      [.search c base r.scope r.filter r.wireAttributes (.error e)]
  | started {ended es} : Drained c r mode f ended es → Enumerated c r base mode f ended
      (.search c base r.scope r.filter r.wireAttributes (.ok ()) :: es)

/-- How a connection to the server of a referral is opened. -/
inductive Opened (server : Server) (url : String) :
    Except Error (Line κ) → List (Exchange κ) → Prop
  | noTarget {e} (noTarget : Environment.referralUrl url = .error e) :
    Opened server url (.error e) []
  | refused {target e} (leads : Environment.referralUrl url = .ok target) :
    Opened server url (.error (.referral s!"{url}: {e.message}"))
      [.connect (Environment.referral server target) (.error e)]
  | opened {target c} (leads : Environment.referralUrl url = .ok target)
    (line : c.env = Environment.referral server target) :
    Opened server url (.ok c) [.connect (Environment.referral server target) (.ok c)]

/-- How the search goes on at the server of a referral. -/
inductive Referred (server : Server) (r : Request) (mode : FindMode) (url : String) (f : Findings) :
    Except Error Ending × Findings → List (Exchange κ) → Prop
  | noBase {e} (noBase : referralBase url r.baseDn = .error e) :
    Referred server r mode url f (.error e, f) []
  | closed {base e es} (below : referralBase url r.baseDn = .ok base) :
    Opened server url (.error e) es → Referred server r mode url f (.error e, f) es
  | entered {base c ended opening es outcome} (below : referralBase url r.baseDn = .ok base) :
    Opened server url (.ok c) opening → Enumerated c r base mode f ended es →
      Referred server r mode url f ended (opening ++ (es ++ [.close c outcome]))

/-- A referral that was followed, with the exchanges at its server. -/
structure Leg (κ : Type) where
  url : String
  exchanges : List (Exchange κ)

/-- How referrals are followed after one server, when `hops` more may be. -/
inductive Chased (server : Server) (r : Request) (mode : FindMode) :
    Nat → List String → Except Error Ending × Findings →
      Except Error (List Entry) → List (Leg κ) → Prop
  | failed {hops visited f e} : Chased server r mode hops visited (.error e, f) (.error e) []
  | satisfied {hops visited f} :
    Chased server r mode hops visited (.ok .satisfied, f) (.ok f.entries) []
  | exhausted {hops visited f} (nothing : (nextReferral server.referralPolicy visited f.pending).1 = none) :
    Chased server r mode hops visited (.ok .exhausted, f) (.ok f.entries) []
  | tooMany {visited f} : Chased server r mode 0 visited (.ok .exhausted, f)
      (.error (.referral s!"more than {maxReferralHops} referrals chased for {r.display}")) []
  | followed {hops visited visited' f url pending events ended es result legs}
    (next : nextReferral server.referralPolicy visited f.pending =
      (some (url, pending), visited', events)) :
    Referred server r mode url { f with pending } ended es →
      Chased server r mode hops visited' ended result legs →
      Chased server r mode (hops + 1) visited (.ok .exhausted, f) result (⟨url, es⟩ :: legs)

/-- The course of a whole search: on the connection given, and then from referral to referral. -/
def Found (server : Server) (c : Line κ) (r : Request) (mode : FindMode)
    (result : Except Error (List Entry)) (first : List (Exchange κ)) (legs : List (Leg κ)) : Prop :=
  ∃ ended, Enumerated c r r.baseDn mode {} ended first ∧
    Chased server r mode maxReferralHops [] ended result legs

theorem abandonQuietly_adds (svc : Service σ κ) (c : Line κ) :
    Act.Adds (abandonQuietly svc.witnessed c) fun _ es => ∃ outcome, es = [.abandon c outcome] := by
  refine .bind (.exchange _ _) ?_
  rintro outcome _ rfl
  cases outcome with
  | ok _ => exact .pure ⟨_, rfl⟩
  | error e => exact .quiet (fun _ => rfl) fun _ => ⟨_, rfl⟩

theorem closeQuietly_adds (svc : Service σ κ) (c : Line κ) :
    Act.Adds (closeQuietly svc.witnessed c) fun _ es => ∃ outcome, es = [.close c outcome] := by
  refine .bind (.exchange _ _) ?_
  rintro outcome _ rfl
  cases outcome with
  | ok _ => exact .pure ⟨_, rfl⟩
  | error e => exact .quiet (fun _ => rfl) fun _ => ⟨_, rfl⟩

/-- One item of a search: what `drain` makes of it, without the proof that searches end. -/
theorem drain_eq (svc : Service σ κ) (c : κ) (r : Request) (mode : FindMode) (f : Findings)
    (t : Trace σ) : drain svc c r mode f t =
      match svc.next c t.world with
      | (.ok (some (.referral urls)), world) =>
        drain svc c r mode { f with pending := f.pending ++ urls } { t with world }
      | (.ok (some (.entry e)), world) =>
        if mode = .unique && !f.entries.isEmpty then
          ((.error (.nonUniqueResult r.display), f), (abandonQuietly svc c { t with world }).2)
        else if mode = .first then
          ((.ok .satisfied, { f with entries := f.entries ++ [e] }),
            (abandonQuietly svc c { t with world }).2)
        else drain svc c r mode { f with entries := f.entries ++ [e] } { t with world }
      | (.ok none, world) => ((.ok .exhausted, f), { t with world })
      | (.error e, world) => ((.error e, f), (abandonQuietly svc c { t with world }).2) := by
  rw [drain]
  split
  · rename_i item world next
    conv => rhs; rw [next]
    cases item <;> rfl
  · rename_i world next
    rw [next]
  · rename_i e world next
    rw [next]

theorem drain_adds (svc : Service σ κ) (c : Line κ) (r : Request) (mode : FindMode) (f : Findings) :
    Act.Adds (drain svc.witnessed c r mode f) (Drained c r mode f) := by
  intro t
  have kept {outcome : Except Error (Option Item)} {w world : Witnessed σ κ}
      (next : svc.witnessed.next c w = (outcome, world)) :
      world.exchanges = w.exchanges ++ [.next c outcome] := by
    rw [← (Prod.mk.inj next).1, ← (Prod.mk.inj next).2]
  have andMore {w world later : Witnessed σ κ} {x : Exchange κ} {es : List (Exchange κ)}
      (one : world.exchanges = w.exchanges ++ [x]) (more : later.exchanges = world.exchanges ++ es) :
      later.exchanges = w.exchanges ++ x :: es := by
    rw [more, one, List.append_assoc, List.singleton_append]
  fun_induction drain svc.witnessed c r mode f t with
  | case1 f t world t' urls next _ _ ih =>
    obtain ⟨es, more, drained⟩ := ih
    exact ⟨_, andMore (kept next) more, .referral drained⟩
  | case2 f t world t' e next second =>
    simp only [Bool.and_eq_true, decide_eq_true_eq, Bool.not_eq_true', List.isEmpty_eq_false_iff]
      at second
    obtain ⟨_, more, outcome, rfl⟩ := abandonQuietly_adds svc c t'
    exact ⟨_, andMore (kept next) more, .second second.1 second.2⟩
  | case3 f t world t' e next _ f' first =>
    obtain ⟨_, more, outcome, rfl⟩ := abandonQuietly_adds svc c t'
    exact ⟨_, andMore (kept next) more, .first first⟩
  | case4 f t world t' e next notSecond f' notFirst _ _ ih =>
    obtain ⟨es, more, drained⟩ := ih
    have goesOn : mode = .all ∨ mode = .unique ∧ f.entries = [] := by
      cases mode with
      | all => exact .inl rfl
      | first => exact absurd rfl notFirst
      | unique => exact .inr ⟨rfl, by simpa using notSecond⟩
    exact ⟨_, andMore (kept next) more, .entry goesOn drained⟩
  | case5 f t world next => exact ⟨_, kept next, .exhausted⟩
  | case6 f t e world next =>
    obtain ⟨_, more, outcome, rfl⟩ := abandonQuietly_adds svc c { t with world }
    exact ⟨_, andMore (kept next) more, .broken⟩

theorem enumerate_adds (svc : Service σ κ) (c : Line κ) (r : Request) (base : String)
    (mode : FindMode) (f : Findings) :
    Act.Adds (enumerate svc.witnessed c r base mode f) (Enumerated c r base mode f) := by
  refine .bind (.exchange _ _) ?_
  rintro outcome _ rfl
  cases outcome with
  | ok _ => exact .mono (drain_adds svc c r mode f) fun _ _ drained => .started drained
  | error e => exact .pure .refused

theorem openReferral_adds (svc : Service σ κ) (server : Server) (url : String) :
    Act.Adds (openReferral svc.witnessed server url) (Opened server url) := by
  unfold openReferral
  cases leads : Environment.referralUrl url with
  | error e => exact .pure (.noTarget leads)
  | ok target =>
    refine .andThen (fun _ => rfl) fun _ => ?_
    refine .bind (Act.Adds.connect svc _) ?_
    rintro outcome _ ⟨rfl, line⟩
    cases outcome with
    | ok c => exact .pure (.opened leads (line c rfl))
    | error e => exact .pure (.refused leads)

theorem enumerateReferral_adds (svc : Service σ κ) (server : Server) (r : Request) (mode : FindMode)
    (url : String) (f : Findings) : Act.Adds (enumerateReferral svc.witnessed server r mode url f)
      (Referred server r mode url f) := by
  refine .andThen (fun _ => rfl) fun _ => ?_
  cases below : referralBase url r.baseDn with
  | error e => exact .pure (.noBase below)
  | ok base =>
    refine .bind (openReferral_adds svc server url) fun found opening opened => ?_
    cases found with
    | error e => exact .pure (by simpa using Referred.closed below opened)
    | ok c =>
      refine .bind (enumerate_adds svc c r base mode f) fun ended es enumerated => ?_
      refine .bind (closeQuietly_adds svc c) ?_
      rintro _ _ ⟨outcome, rfl⟩
      exact .pure (by simpa using Referred.entered below opened enumerated)

/-- Induction over the referrals that are followed. The cases are the ways to end, and a referral with
whatever comes after it. -/
theorem chase_induction (svc : Service σ κ) (server : Server) (r : Request) (mode : FindMode)
    {motive : Nat → List String → Except Error Ending × Findings →
      Act σ (Except Error (List Entry)) → Prop}
    (failed : ∀ hops visited e f, motive hops visited (.error e, f) (pure (.error e)))
    (satisfied : ∀ hops visited f, motive hops visited (.ok .satisfied, f) (pure (.ok f.entries)))
    (exhausted : ∀ hops visited visited' f events,
      nextReferral server.referralPolicy visited f.pending = (none, visited', events) →
      motive hops visited (.ok .exhausted, f) (do Act.noteAll events; return .ok f.entries))
    (tooMany : ∀ visited visited' f leg events,
      nextReferral server.referralPolicy visited f.pending = (some leg, visited', events) →
      motive 0 visited (.ok .exhausted, f) do
        Act.noteAll events
        return .error (.referral s!"more than {maxReferralHops} referrals chased for {r.display}"))
    (followed : ∀ hops visited visited' f url pending events,
      nextReferral server.referralPolicy visited f.pending = (some (url, pending), visited', events) →
      (∀ ended, motive hops visited' ended (chase svc server r mode hops visited' ended)) →
      motive (hops + 1) visited (.ok .exhausted, f) do
        Act.noteAll events
        let ended ← enumerateReferral svc server r mode url { f with pending }
        chase svc server r mode hops visited' ended)
    (hops : Nat) (visited : List String) (ended : Except Error Ending × Findings) :
    motive hops visited ended (chase svc server r mode hops visited ended) := by
  induction hops generalizing visited ended with
  | zero =>
    obtain ⟨_ | _ | _, f⟩ := ended
    · exact failed ..
    · unfold chase
      rcases next : nextReferral server.referralPolicy visited f.pending with
        ⟨_ | leg, visited', events⟩
      · exact exhausted _ _ _ _ _ next
      · exact tooMany _ _ _ _ _ next
    · exact satisfied ..
  | succ hops ih =>
    obtain ⟨_ | _ | _, f⟩ := ended
    · exact failed ..
    · unfold chase
      rcases next : nextReferral server.referralPolicy visited f.pending with
        ⟨_ | leg, visited', events⟩
      · exact exhausted _ _ _ _ _ next
      · exact followed _ _ _ _ _ _ _ next (ih visited')
    · exact satisfied ..

theorem chase_adds (svc : Service σ κ) (server : Server) (r : Request) (mode : FindMode)
    (hops : Nat) (visited : List String) (ended : Except Error Ending × Findings) :
    Act.Adds (chase svc.witnessed server r mode hops visited ended) fun result es => ∃ legs,
      es = legs.flatMap Leg.exchanges ∧ Chased server r mode hops visited ended result legs := by
  induction hops, visited, ended using chase_induction svc.witnessed server r mode with
  | failed hops visited e f => exact .pure ⟨[], rfl, .failed⟩
  | satisfied hops visited f => exact .pure ⟨[], rfl, .satisfied⟩
  | exhausted hops visited visited' f events next =>
    exact .andThen (fun _ => rfl) fun _ => .pure ⟨[], rfl, .exhausted (by rw [next])⟩
  | tooMany visited visited' f leg events next =>
    exact .andThen (fun _ => rfl) fun _ => .pure ⟨[], rfl, .tooMany⟩
  | followed hops visited visited' f url pending events next ih =>
    refine .andThen (fun _ => rfl) fun _ => ?_
    refine .bind (enumerateReferral_adds svc server r mode url _) fun ended es referred => ?_
    refine .mono (ih ended) ?_
    rintro result _ ⟨legs, rfl, chased⟩
    exact ⟨⟨url, es⟩ :: legs, by rw [List.flatMap_cons], .followed next referred chased⟩

/-- Every search takes such a course. -/
theorem find_adds (svc : Service σ κ) (server : Server) (c : Line κ) (r : Request)
    (mode : FindMode) : Act.Adds (find svc.witnessed server c r mode) fun result es =>
      ∃ first legs, es = first ++ legs.flatMap Leg.exchanges ∧
        Found server c r mode result first legs := by
  refine .andThen (fun _ => rfl) fun _ => ?_
  refine .bind (enumerate_adds svc c r r.baseDn mode {}) fun ended first origin => ?_
  refine .mono (chase_adds svc server r mode maxReferralHops [] ended) ?_
  rintro result _ ⟨legs, rfl, chased⟩
  exact ⟨first, legs, rfl, ended, origin, chased⟩

end DirectoryLogin.Search
