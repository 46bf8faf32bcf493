import DirectoryLogin.Proofs.Search.Course

namespace DirectoryLogin.Search

variable {σ κ : Type}

theorem abandonQuietly_mirrors (svc : Service σ κ) (c : Line κ) :
    Act.Mirrors id (abandonQuietly svc.witnessed c) (abandonQuietly svc c.name) := by
  refine .bind (.exchange _ _) fun outcome => ?_
  cases outcome with
  | ok _ => exact .pure rfl
  | error e => exact .note _

theorem closeQuietly_mirrors (svc : Service σ κ) (c : Line κ) :
    Act.Mirrors id (closeQuietly svc.witnessed c) (closeQuietly svc c.name) := by
  refine .bind (.exchange _ _) fun outcome => ?_
  cases outcome with
  | ok _ => exact .pure rfl
  | error e => exact .note _

theorem drain_mirrors (svc : Service σ κ) (c : Line κ) (r : Request) (mode : FindMode)
    (f : Findings) :
    Act.Mirrors id (drain svc.witnessed c r mode f) (drain svc c.name r mode f) := by
  intro t
  have same {outcome : Except Error (Option Item)} {w world : Witnessed σ κ}
      (next : svc.witnessed.next c w = (outcome, world)) :
      svc.next c.name w.world = (outcome, world.world) := by
    rw [← (Prod.mk.inj next).1, ← (Prod.mk.inj next).2]
  have abandoned (t : Trace (Witnessed σ κ)) : (abandonQuietly svc c.name (Act.plain t)).2 =
      Act.plain (abandonQuietly svc.witnessed c t).2 :=
    congrArg Prod.snd (abandonQuietly_mirrors svc c t)
  fun_induction drain svc.witnessed c r mode f t with
  | case1 f t world t' urls next _ _ ih =>
    rw [drain_eq, Act.plain, same next]
    exact ih
  | case2 f t world t' e next second =>
    rw [drain_eq, Act.plain, same next, ← abandoned]
    exact if_pos second
  | case3 f t world t' e next notSecond f' first =>
    rw [drain_eq, Act.plain, same next, ← abandoned]
    exact (if_neg notSecond).trans (if_pos first)
  | case4 f t world t' e next notSecond f' notFirst _ _ ih =>
    rw [drain_eq, Act.plain, same next]
    exact (if_neg notSecond).trans ((if_neg notFirst).trans ih)
  | case5 f t world next =>
    rw [drain_eq, Act.plain, same next]
    rfl
  | case6 f t e world next =>
    rw [drain_eq, Act.plain, same next, ← abandoned]
    rfl

theorem enumerate_mirrors (svc : Service σ κ) (c : Line κ) (r : Request) (base : String)
    (mode : FindMode) (f : Findings) : Act.Mirrors id (enumerate svc.witnessed c r base mode f)
      (enumerate svc c.name r base mode f) := by
  refine .bind (.exchange _ _) fun outcome => ?_
  cases outcome with
  | ok _ => exact drain_mirrors svc c r mode f
  | error e => exact .pure rfl

theorem openReferral_mirrors (svc : Service σ κ) (server : Server) (url : String) :
    Act.Mirrors (Except.map Line.name) (openReferral svc.witnessed server url)
      (openReferral svc server url) := by
  unfold openReferral
  cases Environment.referralUrl url with
  | error e => exact .pure rfl
  | ok target =>
    refine .bind (.note _) fun _ => .bind (.connect svc _) fun outcome => ?_
    cases outcome with
    | ok c => exact .pure rfl
    | error e => exact .pure rfl

theorem enumerateReferral_mirrors (svc : Service σ κ) (server : Server) (r : Request)
    (mode : FindMode) (url : String) (f : Findings) :
    Act.Mirrors id (enumerateReferral svc.witnessed server r mode url f)
      (enumerateReferral svc server r mode url f) := by
  refine .bind (.note _) fun _ => ?_
  cases referralBase url r.baseDn with
  | error e => exact .pure rfl
  | ok base =>
    refine .bind (openReferral_mirrors svc server url) fun opened => ?_
    cases opened with
    | error e => exact .pure rfl
    | ok c =>
      exact .bind (enumerate_mirrors svc c r base mode f) fun ended =>
        .bind (closeQuietly_mirrors svc c) fun _ => .pure rfl

theorem chase_mirrors (svc : Service σ κ) (server : Server) (r : Request) (mode : FindMode)
    (hops : Nat) (visited : List String) (ended : Except Error Ending × Findings) :
    Act.Mirrors id (chase svc.witnessed server r mode hops visited ended)
      (chase svc server r mode hops visited ended) := by
  induction hops, visited, ended using chase_induction svc.witnessed server r mode with
  | failed hops visited e f =>
    rw [chase]
    exact .pure rfl
  | satisfied hops visited f =>
    rw [chase]
    exact .pure rfl
  | exhausted hops visited visited' f events next =>
    rw [chase, next]
    exact .bind (.noteAll _) fun _ => .pure rfl
  | tooMany visited visited' f leg events next =>
    rw [chase, next]
    exact .bind (.noteAll _) fun _ => .pure rfl
  | followed hops visited visited' f url pending events next ih =>
    rw [chase, next]
    exact .bind (.noteAll _) fun _ => .bind (enumerateReferral_mirrors svc server r mode url _) ih

/-- A search whose exchanges are kept is the search without them. -/
theorem find_mirrors (svc : Service σ κ) (server : Server) (c : Line κ) (r : Request)
    (mode : FindMode) :
    Act.Mirrors id (find svc.witnessed server c r mode) (find svc server c.name r mode) :=
  .bind (.note _) fun _ => .bind (enumerate_mirrors svc c r r.baseDn mode {}) fun ended =>
    chase_mirrors svc server r mode maxReferralHops [] ended

end DirectoryLogin.Search
