import DirectoryLogin.Proofs.Search.Legs

namespace DirectoryLogin

variable {κ : Type}

theorem readUrl_error {url : String} {e : Error} (failed : readUrl url = .error e) :
    ∃ reason, e = .invalidUrl url reason := by
  unfold readUrl at failed
  split at failed
  · cases failed
  · cases failed
    exact ⟨_, rfl⟩

theorem referralUrl_error {url : String} {e : Error}
    (failed : Environment.referralUrl url = .error e) : ∃ reason, e = .invalidUrl url reason := by
  unfold Environment.referralUrl at failed
  cases read : readUrl url with
  | error e' =>
    rw [read] at failed
    cases failed
    exact readUrl_error read
  | ok parsed =>
    simp only [read, bind, Except.bind] at failed
    split at failed
    · cases failed
      exact ⟨_, rfl⟩
    · split at failed <;> cases failed

theorem referralBase_error {url fallback : String} {e : Error}
    (failed : referralBase url fallback = .error e) : ∃ reason, e = .invalidUrl url reason := by
  unfold referralBase at failed
  cases read : readUrl url with
  | error e' =>
    rw [read] at failed
    cases failed
    exact readUrl_error read
  | ok parsed =>
    simp only [read, bind, Except.bind] at failed
    split at failed <;> cases failed

/-- The exchanges come to an error of a server, after which no entry is handed out. -/
def Exchange.Broken (e : Error) (es : List (Exchange κ)) : Prop :=
  ∃ before x after, es = before ++ x :: after ∧ x.failure = [e] ∧
    after.flatMap Exchange.entry = []

namespace Exchange.Broken

variable {e : Error} {es : List (Exchange κ)}

theorem prepend (broken : Broken e es) (earlier : List (Exchange κ)) : Broken e (earlier ++ es) := by
  obtain ⟨before, x, after, rfl, failure, quiet⟩ := broken
  exact ⟨earlier ++ before, x, after, by rw [List.append_assoc], failure, quiet⟩

theorem append (broken : Broken e es) {later : List (Exchange κ)}
    (quiet : later.flatMap Exchange.entry = []) : Broken e (es ++ later) := by
  obtain ⟨before, x, after, rfl, failure, quietAfter⟩ := broken
  refine ⟨before, x, after ++ later, by rw [List.append_assoc, List.cons_append], failure, ?_⟩
  rw [List.flatMap_append, quietAfter, quiet, List.append_nil]

end Exchange.Broken

namespace Search

open Exchange (Broken)

variable {server : Server} {c : Line κ} {r : Request} {mode : FindMode} {base url : String}
  {f : Findings} {ended : Except Error Ending × Findings} {es : List (Exchange κ)}
  {result : Except Error (List Entry)} {e : Error}

/-- An error that is not about a second entry is one of the server. -/
theorem Drained.broken_of_error (drained : Drained c r mode f ended es) (failed : ended.1 = .error e)
    (different : e ≠ .nonUniqueResult r.display) : Broken e es := by
  induction drained with
  | referral _ ih => exact (ih failed).prepend [_]
  | entry _ _ ih => exact (ih failed).prepend [_]
  | first => cases failed
  | second =>
    cases failed
    exact absurd rfl different
  | exhausted => cases failed
  | broken =>
    cases failed
    exact ⟨[], _, _, rfl, rfl, rfl⟩

theorem Enumerated.broken_of_error (enumerated : Enumerated c r base mode f ended es)
    (failed : ended.1 = .error e) (different : e ≠ .nonUniqueResult r.display) : Broken e es := by
  cases enumerated with
  | refused =>
    cases failed
    exact ⟨[], _, _, rfl, rfl, rfl⟩
  | started drained => exact (drained.broken_of_error failed different).prepend [_]

/-- A referral that cannot be followed is said to be the reason. -/
theorem Opened.error {found : Except Error (Line κ)} (opened : Opened server url found es)
    (failed : found = .error e) :
    (∃ reason, e = .invalidUrl url reason) ∨ ∃ reason, e = .referral reason := by
  cases opened with
  | noTarget noTarget =>
    cases failed
    exact .inl (referralUrl_error noTarget)
  | refused =>
    cases failed
    exact .inr ⟨_, rfl⟩
  | opened => cases failed

/-- That a subject is not found is always the word of a server that was asked. -/
theorem Referred.broken_of_notFound (referred : Referred server r mode url f ended es)
    (failed : ended.1 = .error e) (notFound : e.isNotFound) : Broken e es := by
  cases referred with
  | noBase noBase =>
    cases failed
    obtain ⟨reason, rfl⟩ := referralBase_error noBase
    cases notFound
  | closed _ opened =>
    cases failed
    obtain ⟨reason, rfl⟩ | ⟨reason, rfl⟩ := opened.error rfl
    · cases notFound
    · cases notFound
  | entered _ _ enumerated =>
    have different : e ≠ .nonUniqueResult r.display := by
      rintro rfl
      cases notFound
    exact ((enumerated.broken_of_error failed different).append rfl).prepend _

theorem Chased.broken_of_notFound {hops : Nat} {visited : List String} {legs : List (Leg κ)}
    (chased : Chased server r mode hops visited ended result legs) (failed : result = .error e)
    (notFound : e.isNotFound) :
    ended.1 = .error e ∧ legs = [] ∨ Broken e (legs.flatMap Leg.exchanges) := by
  induction chased with
  | failed =>
    cases failed
    exact .inl ⟨rfl, rfl⟩
  | satisfied => cases failed
  | exhausted => cases failed
  | tooMany =>
    cases failed
    cases notFound
  | followed _ referred _ ih =>
    rw [List.flatMap_cons]
    obtain ⟨ended, rfl⟩ | broken := ih failed
    · exact .inr ((referred.broken_of_notFound ended notFound).append rfl)
    · exact .inr (broken.prepend _)

/-- A search in which a subject is not found ends in the word of a server that says so. -/
theorem Found.broken_of_notFound {first : List (Exchange κ)} {legs : List (Leg κ)}
    (found : Found server c r mode result first legs) (failed : result = .error e)
    (notFound : e.isNotFound) : Broken e (first ++ legs.flatMap Leg.exchanges) := by
  obtain ⟨ended, origin, chased⟩ := found
  obtain ⟨ended, rfl⟩ | broken := chased.broken_of_notFound failed notFound
  · have different : e ≠ .nonUniqueResult r.display := by
      rintro rfl
      cases notFound
    exact (origin.broken_of_error ended different).append rfl
  · exact broken.prepend _

/-- How a search for one entry goes on from findings: it has at most one when it ends well, and fails over
a second one only if there is one, unless a server itself says so. -/
structure AtMostOne (r : Request) (f : Findings) (ended : Except Error Ending × Findings)
    (es : List (Exchange κ)) : Prop where
  few : ∀ ending, ended.1 = .ok ending → ended.2.entries.length ≤ 1
  second : ended.1 = .error (.nonUniqueResult r.display) →
    (f.entries ++ es.flatMap Exchange.entry).length = 2 ∨
      .nonUniqueResult r.display ∈ es.flatMap Exchange.failure

theorem AtMostOne.of_error (failed : ended.1 = .error e)
    (second : e = .nonUniqueResult r.display → (f.entries ++ es.flatMap Exchange.entry).length = 2 ∨
      .nonUniqueResult r.display ∈ es.flatMap Exchange.failure) : AtMostOne r f ended es where
  few ending well := by
    rw [failed] at well
    cases well
  second told := second (Except.error.inj (failed.symm.trans told))

theorem Drained.atMostOne (drained : Drained c r .unique f ended es) (few : f.entries.length ≤ 1) :
    AtMostOne r f ended es := by
  induction drained with
  | referral _ ih =>
    have later := ih few
    exact ⟨later.few, by simpa [Exchange.entry, Exchange.failure] using later.second⟩
  | @entry f _ e es goesOn _ ih =>
    have none : f.entries = [] := by
      rcases goesOn with all | ⟨_, none⟩
      · cases all
      · exact none
    have later := ih (by simp [none])
    exact ⟨later.few, by simpa [Exchange.entry, Exchange.failure] using later.second⟩
  | first first => cases first
  | @second f e outcome _ another =>
    have positive := List.length_pos_iff.2 another
    have one : f.entries.length = 1 := by omega
    exact .of_error rfl fun _ => .inl (by simp [Exchange.entry, one])
  | exhausted =>
    refine ⟨fun _ _ => few, fun failed => ?_⟩
    cases failed
  | broken => exact .of_error rfl fun told => .inr (by simp [told, Exchange.failure])

theorem Enumerated.atMostOne (enumerated : Enumerated c r base .unique f ended es)
    (few : f.entries.length ≤ 1) : AtMostOne r f ended es := by
  cases enumerated with
  | refused => exact .of_error rfl fun told => .inr (by simp [told, Exchange.failure])
  | started drained =>
    have later := drained.atMostOne few
    exact ⟨later.few, by simpa [Exchange.entry, Exchange.failure] using later.second⟩

theorem Referred.atMostOne (referred : Referred server r .unique url f ended es)
    (few : f.entries.length ≤ 1) : AtMostOne r f ended es := by
  cases referred with
  | noBase noBase =>
    refine .of_error rfl fun told => ?_
    obtain ⟨reason, rfl⟩ := referralBase_error noBase
    cases told
  | closed _ opened =>
    refine .of_error rfl fun told => ?_
    obtain ⟨reason, rfl⟩ | ⟨reason, rfl⟩ := opened.error rfl
    · cases told
    · cases told
  | entered _ opened enumerated =>
    have inside := enumerated.atMostOne few
    refine ⟨inside.few, fun failed => ?_⟩
    rcases inside.second failed with two | told
    · exact .inl (by simpa [opened.quiet.2.1, Exchange.entry] using two)
    · exact .inr (by simp [told])

theorem Chased.second {hops : Nat} {visited : List String} {legs : List (Leg κ)}
    (chased : Chased server r .unique hops visited ended result legs)
    (few : ∀ ending, ended.1 = .ok ending → ended.2.entries.length ≤ 1)
    (failed : result = .error (.nonUniqueResult r.display)) :
    ended.1 = .error (.nonUniqueResult r.display) ∧ legs = [] ∨ (∃ ending, ended.1 = .ok ending) ∧
      ((ended.2.entries ++ (legs.flatMap Leg.exchanges).flatMap Exchange.entry).length = 2 ∨
        .nonUniqueResult r.display ∈ (legs.flatMap Leg.exchanges).flatMap Exchange.failure) := by
  induction chased with
  | failed =>
    cases failed
    exact .inl ⟨rfl, rfl⟩
  | satisfied => cases failed
  | exhausted => cases failed
  | tooMany => cases failed
  | followed _ referred _ ih =>
    have here := referred.atMostOne (few _ rfl)
    refine .inr ⟨⟨_, rfl⟩, ?_⟩
    obtain ⟨ended, rfl⟩ | ⟨⟨ending, ended⟩, two | told⟩ := ih here.few failed
    · simpa using here.second ended
    · have entries := referred.entries ended
      exact .inl (by simpa [entries] using two)
    · exact .inr (by simp [told])

/-- A search for one entry that fails over a second one was handed two, unless a server itself says so. -/
theorem Found.second {first : List (Exchange κ)} {legs : List (Leg κ)}
    (found : Found server c r .unique result first legs)
    (failed : result = .error (.nonUniqueResult r.display)) :
    ((first ++ legs.flatMap Leg.exchanges).flatMap Exchange.entry).length = 2 ∨
      .nonUniqueResult r.display ∈ (first ++ legs.flatMap Leg.exchanges).flatMap Exchange.failure := by
  obtain ⟨ended, origin, chased⟩ := found
  have here := origin.atMostOne (Nat.zero_le _)
  obtain ⟨ended, rfl⟩ | ⟨⟨ending, ended⟩, two | told⟩ := chased.second here.few failed
  · simpa using here.second ended
  · have entries := origin.entries ended
    exact .inl (by simpa [entries] using two)
  · exact .inr (by simp [told])

end Search

end DirectoryLogin
