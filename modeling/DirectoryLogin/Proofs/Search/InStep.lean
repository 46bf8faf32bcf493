import DirectoryLogin.Proofs.InStep
import DirectoryLogin.Proofs.Search.Course

namespace DirectoryLogin.Search

variable {σ σ' κ κ' : Type} {p q : String}

/-- How the enumeration goes on once the next item has been asked for. -/
def drainOn (svc : Service σ κ) (c : κ) (r : Request) (mode : FindMode) (f : Findings) :
    Except Error (Option Item) → Act σ (Except Error Ending × Findings)
  | .ok (some (.referral urls)) => drain svc c r mode { f with pending := f.pending ++ urls }
  | .ok (some (.entry e)) =>
    if mode = .unique && !f.entries.isEmpty then do
      abandonQuietly svc c
      return (.error (.nonUniqueResult r.display), f)
    else if mode = .first then do
      abandonQuietly svc c
      return (.ok .satisfied, { f with entries := f.entries ++ [e] })
    else drain svc c r mode { f with entries := f.entries ++ [e] }
  | .ok none => return (.ok .exhausted, f)
  | .error e => do
    abandonQuietly svc c
    return (.error e, f)

theorem drain_eq_bind (svc : Service σ κ) (c : κ) (r : Request) (mode : FindMode) (f : Findings) :
    drain svc c r mode f = Act.perform (svc.next c) >>= drainOn svc c r mode f := by
  funext t
  rw [drain_eq, Act.bind_apply, Act.perform]
  rcases svc.next c t.world with ⟨e | _ | e | urls, world⟩
  · rfl
  · rfl
  · dsimp only [drainOn]
    split
    · rfl
    · split <;> rfl
  · rfl

variable (svc : Service σ κ) (svc' : Service σ' κ')

theorem abandonQuietly_inStep (n : Nat) :
    InStep p q (abandonQuietly svc.overheard n) (abandonQuietly svc'.overheard n) := by
  refine .bind (.abandon svc svc' n) fun outcome => ?_
  cases outcome with
  | ok _ => exact .pure _
  | error e => exact .note _

theorem closeQuietly_inStep (n : Nat) :
    InStep p q (closeQuietly svc.overheard n) (closeQuietly svc'.overheard n) := by
  refine .bind (.close svc svc' n) fun outcome => ?_
  cases outcome with
  | ok _ => exact .pure _
  | error e => exact .note _

/-- Two enumerations go on in the same way: they are over, they are given up, or they go on after an item. -/
theorem drainOn_related (c : κ) (c' : κ') {r : Request} {mode : FindMode} {outcome : Except Error (Option Item)}
    {motive : Act σ (Except Error Ending × Findings) → Act σ' (Except Error Ending × Findings) → Prop}
    (ended : ∀ result, motive (pure result) (pure result))
    (givenUp : ∀ ended, motive (do abandonQuietly svc c; return ended) (do abandonQuietly svc' c'; return ended))
    (goesOn : ∀ item g, outcome = .ok (some item) → motive (drain svc c r mode g) (drain svc' c' r mode g))
    (f : Findings) : motive (drainOn svc c r mode f outcome) (drainOn svc' c' r mode f outcome) := by
  rcases outcome with e | _ | e | urls
  · exact givenUp _
  · exact ended _
  · dsimp only [drainOn]
    split
    · exact givenUp _
    · split
      · exact givenUp _
      · exact goesOn _ _ rfl
  · exact goesOn _ _ rfl

theorem drain_grows (n : Nat) (r : Request) (mode : FindMode) (f : Findings) :
    Act.Grows (drain svc.overheard n r mode f) := by
  intro t
  have abandon := (abandonQuietly_inStep (p := "") (q := "") svc svc n).grows
  -- by the number of items that the search still has
  induction left : svc.overheard.remaining n t.world using Nat.strong_induction_on generalizing f t with
  | _ _ ih =>
    rw [drain_eq_bind]
    let later : Trace (Overheard σ κ) := ⟨(svc.overheard.next n t.world).2, t.log⟩
    refine (List.prefix_append _ _).trans (drainOn_related svc.overheard svc.overheard n n
      (motive := fun act _ => later.world.said <+: (act later).2.world.said) ?_ ?_ ?_ f)
    · exact fun _ => List.prefix_rfl
    · exact fun _ => abandon later
    · exact fun item g took => ih _ (left ▸ svc.overheard.next_lt (Prod.ext took rfl)) g later rfl

theorem drain_inStep (n : Nat) (r : Request) (mode : FindMode) (f : Findings) :
    InStep p q (drain svc.overheard n r mode f) (drain svc'.overheard n r mode f) := by
  refine ⟨drain_grows svc n r mode f, drain_grows svc' n r mode f, fun t t' => ?_⟩
  have abandon := abandonQuietly_inStep (p := p) (q := q) svc svc' n
  have grows (f : Findings) (outcome : Except Error (Option Item)) :
      Act.Grows (drainOn svc.overheard n r mode f outcome) ∧ Act.Grows (drainOn svc'.overheard n r mode f outcome) := by
    refine drainOn_related svc.overheard svc'.overheard n n (motive := fun act act' => Act.Grows act ∧ Act.Grows act')
      ?_ ?_ ?_ f
    · exact fun _ => ⟨.quiet fun _ => rfl, .quiet fun _ => rfl⟩
    · exact fun ended => ⟨(abandon.bind fun _ => .pure ended).grows, (abandon.bind fun _ => .pure ended).grows'⟩
    · exact fun _ g _ => ⟨drain_grows svc n r mode g, drain_grows svc' n r mode g⟩
  -- by the number of items that the first search still has
  induction left : svc.overheard.remaining n t.world using Nat.strong_induction_on generalizing f t t' with
  | _ _ ih =>
    rw [drain_eq_bind, drain_eq_bind]
    refine ((InStep.next svc svc' n).stays t t').bind (fun outcome => (grows f outcome).1)
      (fun outcome => (grows f outcome).2) ?_
    refine drainOn_related svc.overheard svc'.overheard n n (motive := fun act act' => StaysInStep p q act act' _ _)
      ?_ ?_ ?_ f
    · exact fun ended => (InStep.pure ended).stays _ _
    · exact fun ended => (abandon.bind fun _ => .pure ended).stays _ _
    · exact fun item g took => ih _ (left ▸ svc.overheard.next_lt (Prod.ext took rfl)) g _ _ rfl

theorem enumerate_inStep (n : Nat) (r : Request) (base : String) (mode : FindMode) (f : Findings) :
    InStep p q (enumerate svc.overheard n r base mode f) (enumerate svc'.overheard n r base mode f) := by
  refine .bind (.search svc svc' n base r.scope r.filter r.wireAttributes) fun outcome => ?_
  cases outcome with
  | ok _ => exact drain_inStep svc svc' n r mode f
  | error e => exact .pure _

theorem openReferral_inStep (server : Server) (url : String) :
    InStep p q (openReferral svc.overheard server url) (openReferral svc'.overheard server url) := by
  unfold openReferral
  cases Environment.referralUrl url with
  | error e => exact .pure _
  | ok target =>
    refine .bind (.note _) fun _ => .bind (.connect svc svc' (.referral server target)) fun outcome => ?_
    cases outcome with
    | ok n => exact .pure _
    | error e => exact .pure _

theorem enumerateReferral_inStep (server : Server) (r : Request) (mode : FindMode) (url : String) (f : Findings) :
    InStep p q (enumerateReferral svc.overheard server r mode url f)
      (enumerateReferral svc'.overheard server r mode url f) := by
  refine .bind (.note _) fun _ => ?_
  cases referralBase url r.baseDn with
  | error e => exact .pure _
  | ok base =>
    refine .bind (openReferral_inStep svc svc' server url) fun opened => ?_
    cases opened with
    | error e => exact .pure _
    | ok n =>
      exact .bind (enumerate_inStep svc svc' n r base mode f) fun _ =>
        .bind (closeQuietly_inStep svc svc' n) fun _ => .pure _

theorem chase_inStep (server : Server) (r : Request) (mode : FindMode) (hops : Nat) (visited : List String)
    (ended : Except Error Ending × Findings) : InStep p q (chase svc.overheard server r mode hops visited ended)
      (chase svc'.overheard server r mode hops visited ended) := by
  induction hops, visited, ended using chase_induction svc.overheard server r mode with
  | failed hops visited e f =>
    rw [chase]
    exact .pure _
  | satisfied hops visited f =>
    rw [chase]
    exact .pure _
  | exhausted hops visited visited' f events next =>
    rw [chase, next]
    exact .bind (.noteAll _) fun _ => .pure _
  | tooMany visited visited' f leg events next =>
    rw [chase, next]
    exact .bind (.noteAll _) fun _ => .pure _
  | followed hops visited visited' f url pending events next ih =>
    rw [chase, next]
    exact .bind (.noteAll _) fun _ =>
      .bind (enumerateReferral_inStep svc svc' server r mode url { f with pending }) ih

/-- Two runs of a search that are answered alike find the same, and ask the same on their way. -/
theorem find_inStep (server : Server) (n : Nat) (r : Request) (mode : FindMode) :
    InStep p q (find svc.overheard server n r mode) (find svc'.overheard server n r mode) :=
  .bind (.note _) fun _ => .bind (enumerate_inStep svc svc' n r r.baseDn mode {}) fun ended =>
    chase_inStep svc svc' server r mode maxReferralHops [] ended

end DirectoryLogin.Search
