import DirectoryLogin.Proofs.Overheard

namespace DirectoryLogin

/-- The environments with which two runs open one connection, when the user's password is `p` in the one run and `q` in
the other. -/
inductive Environment.Twin (p q : String) : Environment → Environment → Prop
  | bind (server : Server) : Twin p q (.bind server) (.bind server)
  | referral (server : Server) (url : String) : Twin p q (.referral server url) (.referral server url)
  | user (server : Server) (principal : String) : Twin p q (.user server principal p) (.user server principal q)

/-- What two runs ask at one time. -/
inductive Ask.Twin (p q : String) : Ask → Ask → Prop
  | connect {env env'} (twin : env.Twin p q env') : Twin p q (.connect env) (.connect env')
  | search (n : Nat) (base : String) (scope : Scope) (filter : String) (attributes : List String) :
    Twin p q (.search n base scope filter attributes) (.search n base scope filter attributes)
  | next (n : Nat) : Twin p q (.next n) (.next n)
  | abandon (n : Nat) : Twin p q (.abandon n) (.abandon n)
  | close (n : Nat) : Twin p q (.close n) (.close n)
  | login (principal : String) : Twin p q (.login principal p) (.login principal q)

/-- The runs ask what goes together, and are answered alike. -/
structure Utterance.Twin (p q : String) (u u' : Utterance) : Prop where
  asked : u.asked.Twin p q u'.asked
  response : u'.response = u.response
  closed : u'.closed = u.closed

/-- As far as both conversations go, the answers in them are the same. -/
def AnsweredAlike (us us' : List Utterance) : Prop :=
  ∀ (i : Nat) (u u' : Utterance), us[i]? = some u → us'[i]? = some u' → u'.response = u.response ∧ u'.closed = u.closed

theorem AnsweredAlike.of_prefix {us us' vs vs' : List Utterance} (alike : AnsweredAlike vs vs') (before : us <+: vs)
    (before' : us' <+: vs') : AnsweredAlike us us' := by
  intro i u u' here here'
  obtain ⟨more, rfl⟩ := before
  obtain ⟨more', rfl⟩ := before'
  have inside := (List.getElem?_eq_some_iff.1 here).1
  have inside' := (List.getElem?_eq_some_iff.1 here').1
  exact alike i u u' (List.getElem?_append_left inside ▸ here) (List.getElem?_append_left inside' ▸ here')

theorem AnsweredAlike.of_eq {us us' : List Utterance}
    (same : us'.map (fun u => (u.response, u.closed)) = us.map fun u => (u.response, u.closed)) :
    AnsweredAlike us us' := by
  intro i u u' here here'
  have both := congrArg (·[i]?) same
  simp only [List.getElem?_map, here, here', Option.map_some, Option.some.injEq, Prod.mk.injEq] at both
  exact both

variable {σ σ' κ κ' α β : Type} {p q : String}

/-- The Kerberos logins of two runs have added the same to the log, and done nothing else to it. -/
def NotedAlike (t : Trace (Overheard σ κ)) (t' : Trace (Overheard σ' κ')) : Prop :=
  ∃ noted : List (List Event), t.world.journal.notes = noted.map some ∧ t'.world.journal.notes = noted.map some

/-- The resolver itself has logged the same in two runs, and so the whole logs are the same if the Kerberos logins have
logged the same. -/
structure LoggedAlike (t : Trace (Overheard σ κ)) (t' : Trace (Overheard σ' κ')) : Prop where
  own : Overheard.ownLog t' = Overheard.ownLog t
  within : t.world.journal.upTo ≤ t.log.length
  within' : t'.world.journal.upTo ≤ t'.log.length
  whole : NotedAlike t t' → t'.log = t.log

theorem LoggedAlike.append {t : Trace (Overheard σ κ)} {t' : Trace (Overheard σ' κ')} (alike : LoggedAlike t t')
    (es : List Event) : LoggedAlike { t with log := t.log ++ es } { t' with log := t'.log ++ es } where
  own := by
    have own := alike.own
    rw [Overheard.ownLog, Overheard.ownLog] at own ⊢
    rw [List.drop_append_of_le_length alike.within, List.drop_append_of_le_length alike.within', ← List.append_assoc,
      own, List.append_assoc]
  within := alike.within.trans (List.length_append ▸ Nat.le_add_right _ _)
  within' := alike.within'.trans (List.length_append ▸ Nat.le_add_right _ _)
  whole noted := congrArg (· ++ es) (alike.whole noted)

/-- Two runs have asked the same so far, been answered alike, and logged alike. -/
structure Parallel (p q : String) (t : Trace (Overheard σ κ)) (t' : Trace (Overheard σ' κ')) : Prop where
  said : List.Forall₂ (Utterance.Twin p q) t.world.said t'.world.said
  closed : t'.world.closed = t.world.closed
  logs : LoggedAlike t t'

/-- Nothing that was said is taken back. -/
def Act.Grows (act : Act (Overheard σ κ) α) : Prop :=
  ∀ t, t.world.said <+: (act t).2.world.said

namespace Act.Grows

theorem quiet {act : Act (Overheard σ κ) α} (same : ∀ t, (act t).2.world = t.world) : Act.Grows act :=
  fun t => same t ▸ List.prefix_rfl

theorem bind {act : Act (Overheard σ κ) α} {next : α → Act (Overheard σ κ) β} (first : Act.Grows act)
    (second : ∀ a, Act.Grows (next a)) : Act.Grows (act >>= next) :=
  fun t => (first t).trans (second (act t).1 (act t).2)

end Act.Grows

/-- From these traces on the acts come to the same, if they are answered alike. -/
def StaysInStep (p q : String) (act : Act (Overheard σ κ) α) (act' : Act (Overheard σ' κ') α)
    (t : Trace (Overheard σ κ)) (t' : Trace (Overheard σ' κ')) : Prop :=
  Parallel p q t t' → AnsweredAlike (act t).2.world.said (act' t').2.world.said →
    (act' t').1 = (act t).1 ∧ Parallel p q (act t).2 (act' t').2

theorem StaysInStep.bind {act : Act (Overheard σ κ) α} {act' : Act (Overheard σ' κ') α}
    {next : α → Act (Overheard σ κ) β} {next' : α → Act (Overheard σ' κ') β} {t : Trace (Overheard σ κ)}
    {t' : Trace (Overheard σ' κ')} (first : StaysInStep p q act act' t t') (grows : ∀ a, Act.Grows (next a))
    (grows' : ∀ a, Act.Grows (next' a))
    (second : StaysInStep p q (next (act t).1) (next' (act t).1) (act t).2 (act' t').2) :
    StaysInStep p q (act >>= next) (act' >>= next') t t' := by
  intro parallel alike
  obtain ⟨same, later⟩ := first parallel (alike.of_prefix (grows _ _) (grows' _ _))
  have goesOn : (act' >>= next') t' = next' (act t).1 (act' t').2 := congrArg (next' · (act' t').2) same
  rw [goesOn] at alike ⊢
  exact second later alike

/-- The acts of two runs: as long as they are answered alike, they come to the same, and the runs stay parallel. -/
structure InStep (p q : String) (act : Act (Overheard σ κ) α) (act' : Act (Overheard σ' κ') α) : Prop where
  grows : Act.Grows act
  grows' : Act.Grows act'
  stays : ∀ t t', StaysInStep p q act act' t t'

namespace InStep

theorem pure (a : α) : InStep p q (pure a : Act (Overheard σ κ) α) (pure a : Act (Overheard σ' κ') α) where
  grows := .quiet fun _ => rfl
  grows' := .quiet fun _ => rfl
  stays _ _ parallel _ := ⟨rfl, parallel⟩

theorem bind {act : Act (Overheard σ κ) α} {act' : Act (Overheard σ' κ') α} {next : α → Act (Overheard σ κ) β}
    {next' : α → Act (Overheard σ' κ') β} (first : InStep p q act act') (second : ∀ a, InStep p q (next a) (next' a)) :
    InStep p q (act >>= next) (act' >>= next') where
  grows := first.grows.bind fun a => (second a).grows
  grows' := first.grows'.bind fun a => (second a).grows'
  stays t t' := (first.stays t t').bind (fun a => (second a).grows) (fun a => (second a).grows') ((second _).stays _ _)

theorem noteAll (es : List Event) : InStep p q (Act.noteAll es : Act (Overheard σ κ) Unit)
    (Act.noteAll es : Act (Overheard σ' κ') Unit) where
  grows := .quiet fun _ => rfl
  grows' := .quiet fun _ => rfl
  stays _ _ parallel _ := ⟨rfl, parallel.said, parallel.closed, parallel.logs.append es⟩

theorem note (e : Event) : InStep p q (Act.note e : Act (Overheard σ κ) Unit)
    (Act.note e : Act (Overheard σ' κ') Unit) := noteAll [e]

theorem isClosed (svc : Service σ κ) (svc' : Service σ' κ') (n : Nat) :
    InStep p q (Act.observe (svc.overheard.isClosed n)) (Act.observe (svc'.overheard.isClosed n)) where
  grows := .quiet fun _ => rfl
  grows' := .quiet fun _ => rfl
  stays _ _ parallel _ := ⟨congrArg (fun closed => closed[n]?.getD true) parallel.closed, parallel⟩

end InStep

/-- The act asks something once. What it comes to is told by the answer, and by the number of connections. -/
def Act.Asks (act : Act (Overheard σ κ) α) (asked : Ask) (tell : β → Response) (give : Nat → β → α) : Prop :=
  ∀ t, ∃ b closed, (act t).1 = give t.world.closed.length b ∧ (act t).2.world.closed = closed ∧
    (act t).2.world.said = t.world.said ++ [⟨asked, tell b, closed⟩]

theorem Act.Asks.grows {act : Act (Overheard σ κ) α} {asked : Ask} {tell : β → Response} {give : Nat → β → α}
    (asks : Act.Asks act asked tell give) : Act.Grows act := by
  intro t
  obtain ⟨b, closed, -, -, said⟩ := asks t
  exact said ▸ List.prefix_append _ _

theorem InStep.asks {act : Act (Overheard σ κ) α} {act' : Act (Overheard σ' κ') α} {asked asked' : Ask}
    {tell : β → Response} {give : Nat → β → α} (twin : asked.Twin p q asked') (injective : tell.Injective)
    (asks : Act.Asks act asked tell give) (asks' : Act.Asks act' asked' tell give)
    (logs : ∀ t t', LoggedAlike t t' → LoggedAlike (act t).2 (act' t').2) : InStep p q act act' where
  grows := asks.grows
  grows' := asks'.grows
  stays t t' parallel alike := by
    obtain ⟨b, closed, result, closedThen, said⟩ := asks t
    obtain ⟨b', closed', result', closedThen', said'⟩ := asks' t'
    rw [said, said'] at alike
    have last : (t.world.said ++ [⟨asked, tell b, closed⟩])[t.world.said.length]? = some ⟨asked, tell b, closed⟩ :=
      List.getElem?_concat_length
    have last' : (t'.world.said ++ [⟨asked', tell b', closed'⟩])[t.world.said.length]? =
        some ⟨asked', tell b', closed'⟩ := parallel.said.length_eq ▸ List.getElem?_concat_length
    obtain ⟨response, closedAlike⟩ := alike _ _ _ last last'
    dsimp only at response closedAlike
    obtain rfl : b' = b := injective response
    subst closedAlike
    refine ⟨?_, ?_, ?_, logs t t' parallel.logs⟩
    · rw [result, result', parallel.closed]
    · rw [said, said']
      exact List.rel_append parallel.said (.cons ⟨twin, rfl, rfl⟩ .nil)
    · rw [closedThen, closedThen']

namespace Act.Asks

variable (svc : Service σ κ)

theorem connect (env : Environment) : Act.Asks (Act.perform (svc.overheard.connect env)) (.connect env) .done
    fun n outcome => outcome.map fun _ => n := by
  refine fun t => ⟨_, _, ?_, rfl, rfl⟩
  change Except.map _ (svc.connect env t.world.world).1 = Except.map _ (Except.map _ (svc.connect env t.world.world).1)
  cases (svc.connect env t.world.world).1 <;> rfl

theorem on (n : Nat) (asked : Ask) (tell : Except Error α → Response) (step : κ → σ → Except Error α × σ) :
    Act.Asks (Act.perform (Overheard.on svc n asked tell step)) asked tell fun _ outcome => outcome :=
  fun _ => ⟨_, _, rfl, rfl, rfl⟩

theorem login (kerberos : Kerberos σ) (principal password : String) :
    Act.Asks (kerberos.overheard svc principal password) (.login principal password) .verdict
      fun _ outcome => outcome :=
  fun _ => ⟨_, _, rfl, rfl, rfl⟩

end Act.Asks

namespace InStep

variable (svc : Service σ κ) (svc' : Service σ' κ')

theorem connect {env env' : Environment} (twin : env.Twin p q env') :
    InStep p q (Act.perform (svc.overheard.connect env)) (Act.perform (svc'.overheard.connect env')) :=
  asks (.connect twin) (fun _ _ => Response.done.inj) (.connect svc env) (.connect svc' env')
    fun _ _ alike => ⟨alike.own, alike.within, alike.within', alike.whole⟩

/-- The same is asked on the connections of one number. -/
theorem on {n : Nat} {asked : Ask} {tell : Except Error α → Response} {step : κ → σ → Except Error α × σ}
    {step' : κ' → σ' → Except Error α × σ'} (twin : asked.Twin p q asked) (injective : tell.Injective) :
    InStep p q (Act.perform (Overheard.on svc n asked tell step))
      (Act.perform (Overheard.on svc' n asked tell step')) :=
  asks twin injective (.on svc n asked tell step) (.on svc' n asked tell step')
    fun _ _ alike => ⟨alike.own, alike.within, alike.within', alike.whole⟩

theorem search (n : Nat) (base : String) (scope : Scope) (filter : String) (attributes : List String) :
    InStep p q (Act.perform (svc.overheard.search n base scope filter attributes))
      (Act.perform (svc'.overheard.search n base scope filter attributes)) :=
  on svc svc' (.search n base scope filter attributes) fun _ _ => Response.done.inj

theorem next (n : Nat) :
    InStep p q (Act.perform (svc.overheard.next n)) (Act.perform (svc'.overheard.next n)) :=
  on svc svc' (.next n) fun _ _ => Response.item.inj

theorem abandon (n : Nat) :
    InStep p q (Act.perform (svc.overheard.abandon n)) (Act.perform (svc'.overheard.abandon n)) :=
  on svc svc' (.abandon n) fun _ _ => Response.done.inj

theorem close (n : Nat) :
    InStep p q (Act.perform (svc.overheard.close n)) (Act.perform (svc'.overheard.close n)) :=
  on svc svc' (.close n) fun _ _ => Response.done.inj

/-- Two logins need not log the same themselves. -/
theorem login (kerberos : Kerberos σ) (kerberos' : Kerberos σ') (principal : String) :
    InStep p q (kerberos.overheard svc principal p) (kerberos'.overheard svc' principal q) := by
  refine asks (.login principal) (fun _ _ => Response.verdict.inj) (.login svc kerberos principal p)
    (.login svc' kerberos' principal q) fun t t' alike => ⟨?_, Nat.le_refl _, Nat.le_refl _, ?_⟩
  · rw [kerberos.ownLog_overheard, kerberos'.ownLog_overheard, alike.own]
  · rintro ⟨noted, notes, notes'⟩
    obtain ⟨before, last, rfl, earlier, note⟩ := List.map_eq_append_iff.1 notes.symm
    obtain ⟨added, rfl, added_eq⟩ := List.map_eq_singleton_iff.1 note
    rw [List.map_append] at notes'
    obtain ⟨earlier', note'⟩ := List.append_inj' notes' rfl
    have log := List.isPrefixOf?_eq_some_iff_append_eq.1 added_eq.symm
    have log' := List.isPrefixOf?_eq_some_iff_append_eq.1 (List.cons.inj note').1
    have logBefore : t'.log = t.log := alike.whole ⟨before, earlier.symm, earlier'⟩
    exact log'.symm.trans ((congrArg (· ++ added) logBefore).trans log)

end InStep

end DirectoryLogin
