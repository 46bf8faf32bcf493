import DirectoryLogin.Proofs.Search.Course
import Mathlib.Data.List.Basic

namespace DirectoryLogin

/-- An answer that a search goes by. Which connection was opened is not part of it. -/
inductive News
  | opened (outcome : Except Error Unit)
  | started (outcome : Except Error Unit)
  | taken (outcome : Except Error (Option Item))
  deriving DecidableEq

variable {σ κ : Type}

/-- The answer, unless it is one to giving up or closing. -/
def Exchange.news : Exchange κ → List News
  | connect _ outcome => [.opened (outcome.map fun _ => ())]
  | search _ _ _ _ _ outcome => [.started outcome]
  | next _ outcome => [.taken outcome]
  | abandon .. => []
  | close .. => []

namespace News

def opening : List News → Except Error Unit × List News
  | .opened outcome :: rest => (outcome, rest)
  | rest => (.error .timeout, rest)

def starting : List News → Except Error Unit × List News
  | .started outcome :: rest => (outcome, rest)
  | rest => (.error .timeout, rest)

def taking : List News → Except Error (Option Item) × List News
  | .taken outcome :: rest => (outcome, rest)
  | rest => (.error .timeout, rest)

theorem length_taking {news rest : List News} {item : Item} (took : taking news = (.ok (some item), rest)) :
    rest.length < news.length := by
  unfold taking at took
  split at took
  · cases took
    exact Nat.lt_succ_self _
  · cases took

/-- A directory that answers with the news, one after the other. Giving up and closing always succeed. -/
def service : Service (List News) Unit where
  supports _ := true
  connect _ := opening
  search _ _ _ _ _ := starting
  next _ := taking
  abandon _ w := (.ok (), w)
  close _ w := (.ok (), w)
  isClosed _ _ := false
  remaining _ w := w.length
  next_lt := length_taking

end News

namespace Act

variable {α α' β β' : Type}

/-- The other act comes to the same, in its own terms, if it hears the news that the act hears. -/
def Retold (view : α → α') (act : Act (Witnessed σ κ) α) (other : Act (List News) α') : Prop :=
  ∀ t, ∃ es, (act t).2.world.exchanges = t.world.exchanges ++ es ∧
    ∀ more log, ∃ log', other ⟨es.flatMap Exchange.news ++ more, log⟩ = (view (act t).1, ⟨more, log'⟩)

namespace Retold

variable {view : α → α'} {viewNext : β → β'}

theorem pure {a : α} {a' : α'} (same : a' = view a) : Retold (σ := σ) (κ := κ) view (pure a) (pure a') :=
  fun _ => ⟨[], (List.append_nil _).symm, fun _ log => ⟨log, same ▸ rfl⟩⟩

theorem bind {act : Act (Witnessed σ κ) α} {other : Act (List News) α'} {next : α → Act (Witnessed σ κ) β}
    {otherNext : α' → Act (List News) β'} (first : Retold view act other)
    (second : ∀ a, Retold viewNext (next a) (otherNext (view a))) :
    Retold viewNext (act >>= next) (other >>= otherNext) := by
  intro t
  obtain ⟨es, added, told⟩ := first t
  obtain ⟨es', added', told'⟩ := second (act t).1 (act t).2
  refine ⟨es ++ es', ?_, fun more log => ?_⟩
  · rw [← List.append_assoc, ← added]
    exact added'
  · obtain ⟨between, here⟩ := told (es'.flatMap Exchange.news ++ more) log
    obtain ⟨log', later⟩ := told' more between
    refine ⟨log', ?_⟩
    rw [List.flatMap_append, List.append_assoc, bind_apply, here]
    exact later

theorem note (e : Event) : Retold (σ := σ) (κ := κ) id (note e) (note e) :=
  fun _ => ⟨[], (List.append_nil _).symm, fun _ _ => ⟨_, rfl⟩⟩

theorem noteAll (es : List Event) : Retold (σ := σ) (κ := κ) id (noteAll es) (noteAll es) :=
  fun _ => ⟨[], (List.append_nil _).symm, fun _ _ => ⟨_, rfl⟩⟩

/-- A call whose answer is news. -/
theorem exchange (step : σ → α × σ) (witness : α → Exchange κ) (tell : List News → α' × List News)
    (told : ∀ a more, tell ((witness a).news ++ more) = (view a, more)) :
    Retold view (Act.perform fun w => w.exchange step witness) (Act.perform tell) := by
  refine fun t => ⟨[witness (step t.world.world).1], rfl, fun more log => ⟨log, ?_⟩⟩
  have heard := told (step t.world.world).1 more
  rw [List.flatMap_cons, List.flatMap_nil, List.append_nil]
  simp only [perform, heard]
  rfl

theorem connect (svc : Service σ κ) (env : Environment) :
    Retold (Except.map fun _ => ()) (Act.perform (svc.witnessed.connect env))
      (Act.perform (News.service.connect env)) :=
  fun _ => ⟨[.connect env _], rfl, fun _ log => ⟨log, rfl⟩⟩

end Retold

end Act

namespace Search

/-- That a connection cannot be closed is not even noticed. -/
theorem closeQuietly_retold (svc : Service σ κ) (c : Line κ) :
    Act.Retold id (closeQuietly svc.witnessed c) (closeQuietly News.service ()) := by
  intro t
  obtain ⟨es, added, outcome, rfl⟩ := closeQuietly_adds svc c t
  exact ⟨_, added, fun more log => ⟨log, rfl⟩⟩

/-- What the news make of the items of a search. -/
theorem drain_of_drained {c : Line κ} {r : Request} {mode : FindMode} {f : Findings}
    {ended : Except Error Ending × Findings} {es : List (Exchange κ)} (drained : Drained c r mode f ended es)
    (more : List News) (log : List Event) :
    drain News.service () r mode f ⟨es.flatMap Exchange.news ++ more, log⟩ = (ended, ⟨more, log⟩) := by
  induction drained with
  | referral _ ih =>
    rw [drain_eq]
    exact ih
  | entry goesOn _ ih =>
    rw [drain_eq]
    refine (if_neg ?_).trans ((if_neg ?_).trans ih)
    · rcases goesOn with rfl | ⟨-, none⟩
      · simp
      · simp [none]
    · rcases goesOn with rfl | ⟨rfl, -⟩ <;> simp
  | first first =>
    rw [drain_eq]
    exact (if_neg (by simp [first])).trans (if_pos first)
  | second unique another =>
    rw [drain_eq]
    exact if_pos (by simp [unique, another])
  | exhausted =>
    rw [drain_eq]
    rfl
  | broken =>
    rw [drain_eq]
    rfl

theorem drain_retold (svc : Service σ κ) (c : Line κ) (r : Request) (mode : FindMode) (f : Findings) :
    Act.Retold id (drain svc.witnessed c r mode f) (drain News.service () r mode f) := by
  intro t
  obtain ⟨es, added, drained⟩ := drain_adds svc c r mode f t
  exact ⟨es, added, fun more log => ⟨log, drain_of_drained drained more log⟩⟩

theorem enumerate_retold (svc : Service σ κ) (c : Line κ) (r : Request) (base : String) (mode : FindMode)
    (f : Findings) :
    Act.Retold id (enumerate svc.witnessed c r base mode f) (enumerate News.service () r base mode f) := by
  have started : Act.Retold id (Act.perform (svc.witnessed.search c base r.scope r.filter r.wireAttributes))
      (Act.perform (News.service.search () base r.scope r.filter r.wireAttributes)) := .exchange _ _ _ fun _ _ => rfl
  refine started.bind fun outcome => ?_
  cases outcome with
  | ok _ => exact drain_retold svc c r mode f
  | error e => exact .pure rfl

theorem openReferral_retold (svc : Service σ κ) (server : Server) (url : String) :
    Act.Retold (Except.map fun _ => ()) (openReferral svc.witnessed server url)
      (openReferral News.service server url) := by
  unfold openReferral
  cases Environment.referralUrl url with
  | error e => exact .pure rfl
  | ok target =>
    refine .bind (.note _) fun _ => .bind (.connect svc _) fun outcome => ?_
    cases outcome with
    | ok c => exact .pure rfl
    | error e => exact .pure rfl

theorem enumerateReferral_retold (svc : Service σ κ) (server : Server) (r : Request) (mode : FindMode) (url : String)
    (f : Findings) : Act.Retold id (enumerateReferral svc.witnessed server r mode url f)
      (enumerateReferral News.service server r mode url f) := by
  refine .bind (.note _) fun _ => ?_
  cases referralBase url r.baseDn with
  | error e => exact .pure rfl
  | ok base =>
    refine .bind (openReferral_retold svc server url) fun opened => ?_
    cases opened with
    | error e => exact .pure rfl
    | ok c =>
      exact .bind (enumerate_retold svc c r base mode f) fun ended =>
        .bind (closeQuietly_retold svc c) fun _ => .pure rfl

theorem chase_retold (svc : Service σ κ) (server : Server) (r : Request) (mode : FindMode) (hops : Nat)
    (visited : List String) (ended : Except Error Ending × Findings) :
    Act.Retold id (chase svc.witnessed server r mode hops visited ended)
      (chase News.service server r mode hops visited ended) := by
  induction hops, visited, ended using chase_induction svc.witnessed server r mode with
  | failed hops visited e f =>
    rw [chase]
    exact .pure rfl
  | satisfied hops visited f =>
    rw [chase]
    exact .pure rfl
  | exhausted hops visited visited' f events next =>
    rw [chase, next]
    exact .bind (.noteAll _) fun _ => .pure rfl
  | tooMany visited visited' f leg events next =>
    rw [chase, next]
    exact .bind (.noteAll _) fun _ => .pure rfl
  | followed hops visited visited' f url pending events next ih =>
    rw [chase, next]
    exact .bind (.noteAll _) fun _ => .bind (enumerateReferral_retold svc server r mode url _) ih

/-- A search comes to what the news alone make of it. -/
theorem find_retold (svc : Service σ κ) (server : Server) (c : Line κ) (r : Request) (mode : FindMode) :
    Act.Retold id (find svc.witnessed server c r mode) (find News.service server () r mode) :=
  .bind (.note _) fun _ => .bind (enumerate_retold svc c r r.baseDn mode {}) fun ended =>
    chase_retold svc server r mode maxReferralHops [] ended

/-- The result of a search, as it follows from the news. -/
def outcome (server : Server) (r : Request) (mode : FindMode) (news : List News) : Except Error (List Entry) :=
  (find News.service server () r mode ⟨news, []⟩).1

theorem find_outcome_of_news (svc : Service σ κ) (server : Server) (c : Line κ) (r : Request) (mode : FindMode)
    (t : Trace (Witnessed σ κ)) {es : List (Exchange κ)}
    (added : (find svc.witnessed server c r mode t).2.world.exchanges = t.world.exchanges ++ es) :
    (find svc.witnessed server c r mode t).1 = outcome server r mode (es.flatMap Exchange.news) := by
  obtain ⟨own, same, told⟩ := find_retold svc server c r mode t
  cases List.append_cancel_left (added.symm.trans same)
  obtain ⟨log, heard⟩ := told [] []
  rw [List.append_nil] at heard
  rw [outcome, heard]
  rfl

end Search

end DirectoryLogin
