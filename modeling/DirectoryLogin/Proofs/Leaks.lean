import DirectoryLogin.Proofs.Directory.Tallies
import DirectoryLogin.Proofs.Kept
import Mathlib.Algebra.GroupWithZero.Nat

namespace DirectoryLogin

variable {σ κ : Type}

/-- A lookup that ends in an error of the connection: there was none, or it is closed. -/
inductive Factory.BrokeDown (f : Factory (Line κ)) (r : Request) (mode : FindMode) (e : Error) :
    Factory (Line κ) → List (Exchange κ) → Prop
  | refused {pool es} (refused : f.pool.Bound f.server (.error e) pool es) :
    BrokeDown f r mode e { f with pool } es
  | discarded {c pool opening first legs outcome} (bound : f.pool.Bound f.server (.ok c) pool opening)
    (found : Search.Found f.server c r mode (.error e) first legs) :
    BrokeDown f r mode e { f with pool := pool.free }
      (opening ++ (first ++ legs.flatMap Search.Leg.exchanges ++ [.close c outcome]))

theorem Factory.lookup_brokeDown (svc : Service σ κ) (f : Factory (Line κ)) (r : Request) (mode : FindMode) :
    Act.Adds (f.lookup svc.witnessed r mode) fun found es =>
      ∀ e, found.1 = .error e → e.isConnectionError → f.BrokeDown r mode e found.2 es := by
  refine .bind (Pool.bind_bound svc f.server f.pool) ?_
  rintro ⟨bound, pool⟩ opening course
  cases bound with
  | error e =>
    refine .pure fun e' failed _ => ?_
    cases failed
    rw [List.append_nil]
    exact .refused course
  | ok c =>
    refine .bind (Search.find_adds svc f.server c r mode) ?_
    rintro found _ ⟨first, legs, rfl, searched⟩
    cases found with
    | ok entries =>
      exact .bind (Pool.release_adds svc c pool) fun _ _ _ => .pure fun e failed _ => nomatch failed
    | error e =>
      dsimp only
      split
      · refine .bind (Pool.discard_closes svc c pool) ?_
        rintro _ _ ⟨rfl, outcome, rfl⟩
        refine .pure fun e' failed _ => ?_
        cases failed
        rw [List.append_nil]
        exact .discarded course searched
      · rename_i other
        refine .bind (Pool.release_adds svc c pool) fun _ _ _ => .pure fun e' failed connection => ?_
        cases failed
        exact absurd connection other

/-- A lookup holds one permit of its pool from the binding of its connection until it gives it back, and none after. -/
structure Factory.HoldsOne (svc : Service σ κ) (f : Factory κ) (r : Request) (mode : FindMode) (t : Trace σ) : Prop where
  bound : ∀ c p t', f.pool.bind svc f.server t = ((.ok c, p), t') → p.inUse = 1 ∧
    let searched := Search.find svc f.server c r mode t'
    ∃ back, (back = p.release svc c ∨ back = p.discard svc c) ∧
      f.lookup svc r mode t = ((searched.1, { f with pool := (back searched.2).1 }), (back searched.2).2)
  refused : ∀ e p t', f.pool.bind svc f.server t = ((.error e, p), t') → p.inUse = 0 ∧
    f.lookup svc r mode t = ((.error e, { f with pool := p }), t')
  after : (f.lookup svc r mode t).1.2.pool.Free

/-- What is bound goes back into the pool or is closed. -/
theorem Factory.lookup_of_bound {svc : Service σ κ} {f : Factory κ} {t t' : Trace σ} {c : κ} {p : Pool κ}
    (bound : f.pool.bind svc f.server t = ((.ok c, p), t')) (r : Request) (mode : FindMode) :
    let searched := Search.find svc f.server c r mode t'
    ∃ back, (back = p.release svc c ∨ back = p.discard svc c) ∧
      f.lookup svc r mode t = ((searched.1, { f with pool := (back searched.2).1 }), (back searched.2).2) := by
  intro searched
  rcases search : Search.find svc f.server c r mode t' with ⟨found, t''⟩
  have same : searched = (found, t'') := search
  unfold lookup
  dsimp only
  rw [same, Act.bind_apply, bound]
  dsimp only
  rw [Act.bind_apply, search]
  cases found with
  | ok entries => exact ⟨_, .inl rfl, rfl⟩
  | error e =>
    dsimp only
    split
    · exact ⟨_, .inr rfl, rfl⟩
    · exact ⟨_, .inl rfl, rfl⟩

theorem Factory.lookup_holdsOne (svc : Service σ κ) {f : Factory κ} (free : f.pool.Free) (r : Request)
    (mode : FindMode) (t : Trace σ) : f.HoldsOne svc r mode t := by
  have permit : f.pool.hasPermit := decide_eq_true (free.1 ▸ free.2)
  obtain ⟨held, size⟩ := (Pool.bind_moves svc f.server permit t).permits free.1
  rcases bound : f.pool.bind svc f.server t with ⟨⟨e | c, p⟩, t'⟩
  · rw [bound] at held size
    have run : f.lookup svc r mode t = ((.error e, { f with pool := p }), t') := by
      unfold lookup
      dsimp only
      rw [Act.bind_apply, bound]
      rfl
    refine ⟨fun c p' t'' same => ?_, fun e' p' t'' same => ?_, ?_⟩
    · cases bound.symm.trans same
    · cases bound.symm.trans same
      exact ⟨held, run⟩
    · rw [run]
      exact ⟨held, size ▸ free.2⟩
  · rw [bound] at held size
    refine ⟨fun c' p' t'' same => ?_, fun e p' t'' same => ?_, ?_⟩
    · cases bound.symm.trans same
      exact ⟨held, lookup_of_bound bound r mode⟩
    · cases bound.symm.trans same
    · have settled {p' : Pool κ} (after : p'.inUse = 0 ∧ p'.size = p.size) : p'.Free :=
        ⟨after.1, after.2.trans size ▸ free.2⟩
      obtain ⟨back, rfl | rfl, run⟩ := lookup_of_bound bound r mode
      · rw [run]
        exact settled ((Pool.release_moves svc f.server c p _).permits held)
      · rw [run]
        exact settled ((Pool.discard_moves svc f.server c p _).permits held)

/-- What holds of a resolver since the world `start`. -/
structure Resolver.Tidy (svc : Service σ κ) (kerberos : Kerberos σ) (registry : Registry)
    (start : Witnessed σ κ) (r : Resolver (Line κ)) (w : Witnessed σ κ) : Prop where
  servers : r.factories.map Factory.server = registry.servers
  /-- What was exchanged falls to one server each. -/
  each : ∃ owns, owns.flatten.Perm w.exchanges ∧
    List.Forall₂ (fun f own => Kept svc kerberos start f own w) r.factories owns
  settled : Settled svc kerberos [] start w.exchanges (waiting r.factories) w

namespace Resolver.Tidy

variable {svc : Service σ κ} {kerberos : Kerberos σ} {registry : Registry} {start w : Witnessed σ κ}
  {r : Resolver (Line κ)}

/-- Every connection that was opened waits in a pool, or said that it was closed, or was closed by one call. -/
theorem accounts (tidy : Tidy svc kerberos registry start r w) :
    ∃ lost, (w.exchanges.flatMap Exchange.opened).Perm
        (waiting r.factories ++ lost ++ w.exchanges.flatMap Exchange.closed) ∧
      ∀ c ∈ lost, Lost svc kerberos [] start w c := by
  obtain ⟨lost, live, gone⟩ := tidy.settled.live
  exact ⟨lost, live.accounts, gone⟩

/-- A connection that was closed is not used any more, nor does it wait. -/
theorem gone (tidy : Tidy svc kerberos registry start r w)
    (distinct : (w.exchanges.flatMap Exchange.opened).Nodup) {before later : List (Exchange κ)}
    {x : Exchange κ} {c : Line κ} (split : w.exchanges = before ++ x :: later) (closed : c ∈ x.closed) :
    c ∉ waiting r.factories ∧ ∀ y ∈ later, c ∉ y.line := by
  obtain ⟨lost, live, -⟩ := tidy.settled.live
  rw [split] at live distinct
  obtain ⟨notLeft, unused⟩ := live.gone distinct closed
  exact ⟨fun waits => notLeft (List.mem_append_left lost waits), unused⟩

end Resolver.Tidy

theorem Kept.ofServers (svc : Service σ κ) (kerberos : Kerberos σ) (servers : List Server)
    (start : Witnessed σ κ) : List.Forall₂ (fun f own => Kept svc kerberos start f own start)
      (servers.map Factory.ofServer) (servers.map fun _ => []) := by
  induction servers with
  | nil => exact .nil
  | cons server rest ih => exact .cons (.ofServer server start) ih

namespace Operation

theorem performAll_tidy (svc : Service σ κ) (kerberos : Kerberos σ) (registry : Registry)
    (operations : List Operation) (t : Trace σ) :
    let run := performAll svc.witnessed kerberos.witnessed operations (.ofRegistry registry)
      ⟨⟨t.world, []⟩, t.log⟩
    Resolver.Tidy svc kerberos registry ⟨t.world, []⟩ run.1 run.2.world := by
  intro run
  obtain ⟨owns, mores, kept, servers, added, perm, settled⟩ := performAll_kept svc kerberos operations
    ⟨t.world, []⟩ (.ofRegistry registry) ⟨⟨t.world, []⟩, t.log⟩
    (Kept.ofServers svc kerberos registry.servers _)
  have none : (registry.servers.map fun _ => ([] : List (Exchange κ))).flatten = [] := by simp
  have all : run.2.world.exchanges = mores := added
  have empty : waiting (Resolver.ofRegistry (κ := Line κ) registry).factories = [] := by
    simp [waiting, Resolver.ofRegistry, Factory.ofServer, Pool.ofSize]
  refine ⟨?_, ⟨owns, ?_, kept⟩, ?_⟩
  · rw [servers]
    simp [Resolver.ofRegistry, Factory.ofServer, Function.comp_def]
  · rw [all]
    rwa [none] at perm
  · rw [all]
    rwa [empty] at settled

theorem performAll_plain (svc : Service σ κ) (kerberos : Kerberos σ) (registry : Registry)
    (operations : List Operation) (t : Trace σ) :
    let run := performAll svc.witnessed kerberos.witnessed operations (.ofRegistry registry)
      ⟨⟨t.world, []⟩, t.log⟩
    performAll svc kerberos operations (.ofRegistry registry) t = (run.1.plain, Act.plain run.2) := by
  have same : Resolver.plain (κ := κ) (.ofRegistry registry) = .ofRegistry registry := by
    simp [Resolver.plain, Resolver.ofRegistry, Factory.plain, Pool.plain, Factory.ofServer, Pool.ofSize]
  have mirrors := performAll_mirrors svc kerberos operations (.ofRegistry registry) ⟨⟨t.world, []⟩, t.log⟩
  rwa [same] at mirrors

theorem performAll_append (svc : Service σ κ) (kerberos : Kerberos σ)
    (operations more : List Operation) (r : Resolver κ) (t : Trace σ) :
    performAll svc kerberos (operations ++ more) r t =
      performAll svc kerberos more (performAll svc kerberos operations r t).1
        (performAll svc kerberos operations r t).2 := by
  induction operations generalizing r t with
  | nil => rfl
  | cons operation rest ih => exact ih ..

end Operation

namespace Resolver

/-- The connections that wait at a URL. -/
def idleAt (r : Resolver κ) (url : String) : Nat :=
  ((r.factories.filter (·.server.url == url)).map (·.pool.idle.length)).sum

theorem plain_idleAt (r : Resolver (Line κ)) (url : String) : r.plain.idleAt url = r.idleAt url := by
  simp [idleAt, plain, Factory.plain, Pool.plain, List.filter_map, Function.comp_def]

theorem idleAt_of_waiting {r : Resolver κ} (none : waiting r.factories = []) (url : String) :
    r.idleAt url = 0 := by
  have each : ∀ f ∈ r.factories, f.pool.idle = [] := List.flatMap_eq_nil_iff.1 none
  refine List.sum_eq_zero_iff_forall_eq_nat.2 fun n member => ?_
  obtain ⟨f, there, rfl⟩ := List.mem_map.1 member
  rw [each f (List.mem_of_mem_filter there), List.length_nil]

/-- Nothing waits in a pool that was closed. -/
theorem close_waiting (svc : Service σ κ) (r : Resolver κ) (t : Trace σ) :
    waiting (r.close svc t).1.factories = [] := by
  have each (fs : List (Factory κ)) (t : Trace σ) : waiting (fs.mapM (Factory.closeIdle svc) t).1 = [] := by
    induction fs generalizing t with
    | nil => rfl
    | cons f rest ih =>
      rw [List.mapM_cons]
      exact ih _
  exact each r.factories t

theorem count_waiting {fs : List (Factory (Line Nat))}
    (bound : ∀ f ∈ fs, ∀ c ∈ f.pool.idle, c.env = Environment.bind f.server) (registry : Registry)
    (url : String) :
    (MemoryDirectory.urls (waiting fs)).count url = (Resolver.mk registry fs).idleAt url := by
  induction fs with
  | nil => rfl
  | cons f rest ih =>
    obtain ⟨here, others⟩ := List.forall_mem_cons.1 bound
    have own : (MemoryDirectory.urls f.pool.idle).count url =
        if f.server.url = url then f.pool.idle.length else 0 := by
      have same : MemoryDirectory.urls f.pool.idle = List.replicate f.pool.idle.length f.server.url := by
        refine List.eq_replicate_iff.2 ⟨List.length_map _, fun other member => ?_⟩
        obtain ⟨c, waits, rfl⟩ := List.mem_map.1 member
        rw [here c waits]
        rfl
      rw [same, List.count_replicate]
      simp
    have split : MemoryDirectory.urls (waiting (f :: rest)) =
        MemoryDirectory.urls f.pool.idle ++ MemoryDirectory.urls (waiting rest) := by
      simp [MemoryDirectory.urls, waiting]
    rw [split, List.count_append, own, ih others]
    by_cases at_url : f.server.url = url
    · simp [idleAt, at_url]
    · simp [idleAt, at_url]

end Resolver

namespace MemoryDirectory

/-- After any operations on directories in memory, those connections are open that wait. -/
theorem performAll_idleAt (servers : Dictionary MemoryServer) (names : NameTable) (keyCentre : KeyCentre)
    (registry : Registry) (operations : List Operation) (log : List Event) (url : String) :
    let run := Operation.performAll (Surroundings.service service) Surroundings.kerberos operations
      (.ofRegistry registry) ⟨⟨{ servers }, names, keyCentre⟩, log⟩
    tally run.2.world.directories.opened url =
      tally run.2.world.directories.closed url + run.1.idleAt url := by
  let start : Trace (Surroundings MemoryDirectory) := ⟨⟨{ servers }, names, keyCentre⟩, log⟩
  have tidy := Operation.performAll_tidy (Surroundings.service service) Surroundings.kerberos registry
    operations start
  have plain := Operation.performAll_plain (Surroundings.service service) Surroundings.kerberos registry
    operations start
  obtain ⟨owns, -, kept⟩ := tidy.each
  intro run
  have balance := (Recorded.fresh servers).balance tidy.settled url
  rw [Resolver.count_waiting (Kept.all_bound kept) registry] at balance
  rw [show run = _ from plain, Resolver.plain_idleAt]
  exact balance

/-- Once a resolver is closed, so are all connections. -/
theorem performAll_close (servers : Dictionary MemoryServer) (names : NameTable) (keyCentre : KeyCentre)
    (registry : Registry) (operations : List Operation) (log : List Event) (url : String) :
    let run := Operation.performAll (Surroundings.service service) Surroundings.kerberos
      (operations ++ [.close]) (.ofRegistry registry) ⟨⟨{ servers }, names, keyCentre⟩, log⟩
    tally run.2.world.directories.opened url = tally run.2.world.directories.closed url := by
  have balance := performAll_idleAt servers names keyCentre registry (operations ++ [.close]) log url
  intro run
  have none : waiting run.1.factories = [] := by
    dsimp only [run]
    rw [Operation.performAll_append]
    exact Resolver.close_waiting ..
  change tally run.2.world.directories.opened url =
    tally run.2.world.directories.closed url + run.1.idleAt url at balance
  rwa [Resolver.idleAt_of_waiting none, Nat.add_zero] at balance

end MemoryDirectory

/-- After any operations, every connection that was opened waits in the pool of its server, or was closed by one
call, or was dropped when it said that it was closed; all permits are there again, and never was more than
one of a pool in use: a lookup holds one while its connection is bound. A connection is closed whose lookup ends in an
error of the connection, and what is closed is never used again. Directories in memory so count as open what waits, and
nothing in the end. -/
theorem Resolver.tidy (svc : Service σ κ) (kerberos : Kerberos σ) (registry : Registry)
    (operations : List Operation) :
    (∀ t : Trace σ,
      let run := Operation.performAll svc.witnessed kerberos.witnessed operations (.ofRegistry registry)
        ⟨⟨t.world, []⟩, t.log⟩
      Operation.performAll svc kerberos operations (.ofRegistry registry) t = (run.1.plain, Act.plain run.2) ∧
      Tidy svc kerberos registry ⟨t.world, []⟩ run.1 run.2.world ∧
      (∀ f ∈ run.1.factories, ∀ r mode u, f.HoldsOne svc.witnessed r mode u) ∧
      (∃ lost, (run.2.world.exchanges.flatMap Exchange.opened).Perm
          (waiting run.1.factories ++ lost ++ run.2.world.exchanges.flatMap Exchange.closed) ∧
        ∀ c ∈ lost, Lost svc kerberos [] ⟨t.world, []⟩ run.2.world c) ∧
      ((run.2.world.exchanges.flatMap Exchange.opened).Nodup → ∀ before x later c,
        run.2.world.exchanges = before ++ x :: later → c ∈ x.closed →
          c ∉ waiting run.1.factories ∧ ∀ y ∈ later, c ∉ y.line)) ∧
    (∀ (f : Factory (Line κ)) (r : Request) (mode : FindMode),
      (f.pool.Free → ∀ t, f.HoldsOne svc.witnessed r mode t) ∧
      Act.Adds (f.lookup svc.witnessed r mode) fun found es =>
        ∀ e, found.1 = .error e → e.isConnectionError → f.BrokeDown r mode e found.2 es) ∧
    ∀ (servers : Dictionary MemoryServer) (names : NameTable) (keyCentre : KeyCentre) (log : List Event)
      (url : String),
      let after := fun operations => Operation.performAll (Surroundings.service MemoryDirectory.service)
        Surroundings.kerberos operations (.ofRegistry registry) ⟨⟨{ servers }, names, keyCentre⟩, log⟩
      let counted := (after operations).2.world.directories
      let countedLast := (after (operations ++ [.close])).2.world.directories
      MemoryDirectory.tally counted.opened url =
          MemoryDirectory.tally counted.closed url + (after operations).1.idleAt url ∧
        MemoryDirectory.tally countedLast.opened url = MemoryDirectory.tally countedLast.closed url := by
  refine ⟨fun t => ?_, fun f r mode => ⟨fun free => Factory.lookup_holdsOne svc.witnessed free r mode,
    Factory.lookup_brokeDown svc f r mode⟩, ?_⟩
  · have tidy := Operation.performAll_tidy svc kerberos registry operations t
    obtain ⟨owns, -, kept⟩ := tidy.each
    have free := Kept.all_free kept
    exact ⟨Operation.performAll_plain svc kerberos registry operations t, tidy,
      fun f member r mode => Factory.lookup_holdsOne svc.witnessed (free f member) r mode, tidy.accounts,
      fun distinct _ _ _ _ split closed => tidy.gone distinct split closed⟩
  · intro servers names keyCentre log url after counted countedLast
    exact ⟨MemoryDirectory.performAll_idleAt servers names keyCentre registry operations log url,
      MemoryDirectory.performAll_close servers names keyCentre registry operations log url⟩

end DirectoryLogin
