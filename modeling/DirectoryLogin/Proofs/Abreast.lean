import DirectoryLogin.Factory
import DirectoryLogin.Proofs.Promise

namespace DirectoryLogin

variable {σ σ' κ κ' α α' β β' : Type}

/-- Which two runs go together, and what may become of their worlds. -/
structure Bond (σ σ' : Type) where
  ready : Trace σ → Trace σ' → Prop
  later : σ → σ' → σ → σ' → Prop
  noted : ∀ {t t'} es, ready t t' → ready { t with log := t.log ++ es } { t' with log := t'.log ++ es }
  refl : ∀ w w', later w w' w w'
  trans : ∀ {w w' v v' u u'}, later w w' v v' → later v v' u u' → later w w' u u'

namespace Bond

/-- Two acts on runs that go together lead to such runs again. -/
def Abreast (bond : Bond σ σ') (before : σ → σ' → Prop) (act : Act σ α) (act' : Act σ' α')
    (after : α → α' → σ → σ' → Prop) : Prop :=
  ∀ t t', bond.ready t t' → before t.world t'.world →
    bond.ready (act t).2 (act' t').2 ∧ bond.later t.world t'.world (act t).2.world (act' t').2.world ∧
      after (act t).1 (act' t').1 (act t).2.world (act' t').2.world

/-- What holds of two worlds goes on to hold. -/
def Lasts (bond : Bond σ σ') (p : σ → σ' → Prop) : Prop :=
  ∀ {w w' v v'}, bond.later w w' v v' → p w w' → p v v'

namespace Abreast

variable {bond : Bond σ σ'} {before : σ → σ' → Prop} {after : β → β' → σ → σ' → Prop}

theorem pure {b : β} {b' : β'} (holds : ∀ w w', before w w' → after b b' w w') :
    bond.Abreast before (pure b) (pure b') after :=
  fun _ _ ready start => ⟨ready, bond.refl _ _, holds _ _ start⟩

theorem bind {between : α → α' → σ → σ' → Prop} {act : Act σ α} {act' : Act σ' α'} {next : α → Act σ β}
    {next' : α' → Act σ' β'} (first : bond.Abreast before act act' between)
    (second : ∀ a a', bond.Abreast (between a a') (next a) (next' a') after) :
    bond.Abreast before (act >>= next) (act' >>= next') after := by
  intro t t' ready start
  obtain ⟨readyThen, laterThen, holds⟩ := first t t' ready start
  obtain ⟨readyLast, laterLast, holdsLast⟩ := second _ _ _ _ readyThen holds
  exact ⟨readyLast, bond.trans laterThen laterLast, holdsLast⟩

theorem note (e : Event) : bond.Abreast before (Act.note e) (Act.note e) fun _ _ => before :=
  fun _ _ ready start => ⟨bond.noted [e] ready, bond.refl _ _, start⟩

theorem noteAll (es : List Event) : bond.Abreast before (Act.noteAll es) (Act.noteAll es) fun _ _ => before :=
  fun _ _ ready start => ⟨bond.noted es ready, bond.refl _ _, start⟩

theorem mono {stronger : σ → σ' → Prop} {weaker : β → β' → σ → σ' → Prop} {act : Act σ β} {act' : Act σ' β'}
    (abreast : bond.Abreast before act act' after) (enough : ∀ w w', stronger w w' → before w w')
    (weaken : ∀ b b' w w', after b b' w w' → weaker b b' w w') : bond.Abreast stronger act act' weaker := by
  intro t t' ready start
  obtain ⟨readyThen, laterThen, holds⟩ := abreast t t' ready (enough _ _ start)
  exact ⟨readyThen, laterThen, weaken _ _ _ _ holds⟩

/-- What lasts is there still. -/
theorem frame {p : σ → σ' → Prop} (lasts : bond.Lasts p) {act : Act σ β} {act' : Act σ' β'}
    (abreast : bond.Abreast before act act' after) :
    bond.Abreast (fun w w' => before w w' ∧ p w w') act act' fun b b' w w' => after b b' w w' ∧ p w w' := by
  intro t t' ready start
  obtain ⟨readyThen, laterThen, holds⟩ := abreast t t' ready start.1
  exact ⟨readyThen, laterThen, holds, lasts laterThen start.2⟩

/-- A fact that is not about the worlds. -/
theorem fact {p : Prop} {act : Act σ β} {act' : Act σ' β'} (abreast : p → bond.Abreast before act act' after) :
    bond.Abreast (fun w w' => p ∧ before w w') act act' after :=
  fun t t' ready start => abreast start.1 t t' ready start.2

/-- A fact that the worlds show. -/
theorem knowing {p : Prop} (shown : ∀ w w', before w w' → p) {act : Act σ β} {act' : Act σ' β'}
    (abreast : p → bond.Abreast before act act' after) : bond.Abreast before act act' after :=
  fun t t' ready start => abreast (shown _ _ start) t t' ready start

theorem ofExists {γ : Type} {given : γ → σ → σ' → Prop} {act : Act σ β} {act' : Act σ' β'}
    (abreast : ∀ c, bond.Abreast (given c) act act' after) :
    bond.Abreast (fun w w' => ∃ c, given c w w') act act' after :=
  fun t t' ready ⟨c, start⟩ => abreast c t t' ready start

/-- Nothing else than a fact. -/
theorem only {p : Prop} {act : Act σ β} {act' : Act σ' β'}
    (abreast : p → bond.Abreast (fun _ _ => True) act act' after) :
    bond.Abreast (fun _ _ => p) act act' after :=
  fun t t' ready start => abreast start t t' ready trivial

end Abreast

end Bond

/-- Two outcomes are the same error, or results that go together. -/
inductive Same (together : α → α' → Prop) : Except Error α → Except Error α' → Prop
  | failed {e} : Same together (.error e) (.error e)
  | done {a a'} : together a a' → Same together (.ok a) (.ok a')

theorem Same.of_eq {together : α → α → Prop} (same : ∀ a, together a a) {outcome outcome' : Except Error α}
    (equal : outcome = outcome') : Same together outcome outcome' := by
  subst equal
  cases outcome with
  | error e => exact .failed
  | ok a => exact .done (same a)

theorem Same.imp {together weaker : α → α' → Prop} {outcome : Except Error α} {outcome' : Except Error α'}
    (same : Same together outcome outcome') (weaken : ∀ a a', together a a' → weaker a a') :
    Same weaker outcome outcome' := by
  cases same with
  | failed => exact .failed
  | done here => exact .done (weaken _ _ here)

section

variable {bond : Bond σ σ'} {together : α → α' → σ → σ' → Prop} {outcome : Except Error α}
  {outcome' : Except Error α'} {act : Act σ β} {act' : Act σ' β'} {after : β → β' → σ → σ' → Prop}

/-- After two outcomes that are the same, both runs go on in the same way. -/
theorem Bond.Abreast.same
    (failed : ∀ e, outcome = .error e → outcome' = .error e → bond.Abreast (fun _ _ => True) act act' after)
    (done : ∀ a a', outcome = .ok a → outcome' = .ok a' → bond.Abreast (together a a') act act' after) :
    bond.Abreast (fun w w' => Same (together · · w w') outcome outcome') act act' after := by
  intro t t' ready same
  cases outcome with
  | error e =>
    cases same
    exact failed e rfl rfl t t' ready trivial
  | ok a =>
    cases same with
    | done here => exact done a _ rfl rfl t t' ready here

theorem Bond.Abreast.sameWith {rest : σ → σ' → Prop}
    (failed : ∀ e, outcome = .error e → outcome' = .error e → bond.Abreast rest act act' after)
    (done : ∀ a a', outcome = .ok a → outcome' = .ok a' →
      bond.Abreast (fun w w' => together a a' w w' ∧ rest w w') act act' after) :
    bond.Abreast (fun w w' => Same (together · · w w') outcome outcome' ∧ rest w w') act act' after := by
  intro t t' ready start
  obtain ⟨same, others⟩ := start
  cases outcome with
  | error e =>
    cases same
    exact failed e rfl rfl t t' ready others
  | ok a =>
    cases same with
    | done here => exact done a _ rfl rfl t t' ready ⟨here, others⟩

end

/-- An item with its entry seen in some way. -/
def Item.through (view : Entry → Entry) : Item → Item
  | .entry e => .entry (view e)
  | .referral urls => .referral urls

theorem Item.through_self : Item.through (fun e => e) = id := by
  funext item
  cases item <;> rfl

/-- Two services that behave alike to their callers, but that the second may show only a part of every entry. What is
asked for is always shown. -/
structure Alike (svc : Service σ κ) (kerberos : Kerberos σ) (svc' : Service σ' κ') (kerberos' : Kerberos σ')
    extends Bond σ σ' where
  /-- What the second service shows of an entry when these attributes are asked for. -/
  view : List String → Entry → Entry
  view_dn : ∀ names e, (view names e).dn = e.dn
  view_values? : ∀ {names name} e, name ∈ names → (view names e).values? name = e.values? name
  /-- The connections are open, and no search runs on them. -/
  opened : κ → κ' → σ → σ' → Prop
  /-- Searches for these attributes run on the connections. -/
  running : List String → κ → κ' → σ → σ' → Prop
  /-- The connections were opened alike. -/
  held : Environment → κ → κ' → σ → σ' → Prop
  pooled : Server → Pool κ → Pool κ' → σ → σ' → Prop
  held_lasts : ∀ env c c', toBond.Lasts (held env c c')
  pooled_lasts : ∀ server p p', toBond.Lasts (pooled server p p')
  connect : ∀ env, toBond.Abreast (fun _ _ => True) (Act.perform (svc.connect env))
    (Act.perform (svc'.connect env)) fun outcome outcome' w w' =>
      Same (fun c c' => opened c c' w w' ∧ held env c c' w w') outcome outcome'
  search : ∀ {c c'} base scope filter attributes, toBond.Abreast (opened c c')
    (Act.perform (svc.search c base scope filter attributes))
    (Act.perform (svc'.search c' base scope filter attributes)) fun outcome outcome' w w' =>
      outcome = outcome' ∧ (outcome = .ok () → running attributes c c' w w')
  next : ∀ {attributes c c'}, toBond.Abreast (running attributes c c') (Act.perform (svc.next c))
    (Act.perform (svc'.next c')) fun outcome outcome' w w' =>
      outcome' = outcome.map (Option.map (Item.through (view attributes))) ∧ running attributes c c' w w'
  abandon : ∀ {attributes c c'}, toBond.Abreast (running attributes c c') (Act.perform (svc.abandon c))
    (Act.perform (svc'.abandon c')) fun outcome outcome' _ _ => outcome = outcome'
  close : ∀ {env c c'}, toBond.Abreast (held env c c') (Act.perform (svc.close c)) (Act.perform (svc'.close c'))
    fun outcome outcome' _ _ => outcome = outcome'
  login : ∀ principal password, toBond.Abreast (fun _ _ => True) (kerberos principal password)
    (kerberos' principal password) fun outcome outcome' _ _ => outcome = outcome'
  bind : ∀ {server p p'}, toBond.Abreast (pooled server p p') (p.bind svc server) (p'.bind svc' server)
    fun bound bound' w w' => Same (fun c c' => opened c c' w w' ∧ held (Environment.bind server) c c' w w')
      bound.1 bound'.1 ∧ pooled server bound.2 bound'.2 w w'
  release : ∀ {server c c' p p'},
    toBond.Abreast (fun w w' => held (Environment.bind server) c c' w w' ∧ pooled server p p' w w')
      (p.release svc c) (p'.release svc' c') (pooled server)
  discard : ∀ {server c c' p p'},
    toBond.Abreast (fun w w' => held (Environment.bind server) c c' w w' ∧ pooled server p p' w w')
      (p.discard svc c) (p'.discard svc' c') (pooled server)
  closeIdle : ∀ {server p p'}, toBond.Abreast (pooled server p p') (p.closeIdle svc server)
    (p'.closeIdle svc' server) (pooled server)

/-- The second service's next item is that of the first one. -/
theorem Alike.next_eq {svc : Service σ κ} {kerberos : Kerberos σ} {svc' : Service σ' κ'}
    {kerberos' : Kerberos σ'} (alike : Alike svc kerberos svc' kerberos') {c : κ} {c' : κ'}
    {attributes : List String} {t : Trace σ} {t' : Trace σ'} (ready : alike.ready t t')
    (runs : alike.running attributes c c' t.world t'.world) {outcome : Except Error (Option Item)} {world : σ}
    (next : svc.next c t.world = (outcome, world)) : ∃ world',
      svc'.next c' t'.world = (outcome.map (Option.map (Item.through (alike.view attributes))), world') ∧
      alike.ready { t with world } { t' with world := world' } ∧
      alike.later t.world t'.world world world' ∧ alike.running attributes c c' world world' := by
  obtain ⟨readyThen, laterThen, same, goesOn⟩ := alike.next t t' ready runs
  simp only [Act.perform, next] at readyThen laterThen same goesOn
  exact ⟨_, Prod.ext same rfl, readyThen, laterThen, goesOn⟩

end DirectoryLogin
