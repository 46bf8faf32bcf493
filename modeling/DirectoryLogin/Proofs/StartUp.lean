import DirectoryLogin.Proofs.Leaks
import DirectoryLogin.Proofs.Registered
import DirectoryLogin.Realm

namespace DirectoryLogin

open Exchange (Live)

variable {σ κ : Type}

theorem error_of_map {α β : Type} {view : α → β} {x : Except Error α} {e : Error} (failed : x.map view = .error e) :
    x = .error e := by
  cases x with
  | error e' => exact congrArg Except.error (Except.error.inj failed)
  | ok a => cases failed

/-- Service records are no exchange with a directory. -/
def Dns.witnessed (dns : Dns σ) : Dns (Witnessed σ κ) := fun name w =>
  ((dns name w.world).1, ⟨(dns name w.world).2, w.exchanges⟩)

theorem discover_mirrors (dns : Dns σ) (domain : String) :
    Act.Mirrors (κ := κ) id (discover dns.witnessed domain) (discover dns domain) := by
  have asked : Act.Mirrors (κ := κ) id (Act.perform (dns.witnessed (serviceName domain)))
      (Act.perform (dns (serviceName domain))) := fun _ => rfl
  refine .bind asked fun outcome => ?_
  cases outcome with
  | error e => exact .pure rfl
  | ok records => exact .bind (.note _) fun _ => .pure rfl

namespace Registry

theorem sources_mirrors (s : Settings) (dns : Dns σ) :
    Act.Mirrors (κ := κ) id (sources s dns.witnessed) (sources s dns) := by
  unfold sources
  cases Shape.of s with
  | listed keys =>
    dsimp only
    cases rejectUnlinked s keys <;> exact .pure rfl
  | single url => exact .pure rfl
  | none => exact .pure rfl
  | discovered realm =>
    refine .bind (.note _) fun _ => .bind (discover_mirrors dns realm) fun outcome => ?_
    rcases outcome with e | _ | ⟨record, rest⟩ <;> exact .pure rfl

theorem resolve_mirrors (s : Settings) (dns : Dns σ) :
    Act.Mirrors (κ := κ) id (resolve s dns.witnessed) (resolve s dns) := by
  refine .bind (sources_mirrors s dns) fun outcome => ?_
  cases outcome with
  | error e => exact .pure rfl
  | ok found =>
    refine .bind (.noteAll _) fun _ => ?_
    cases ofSources s found with
    | error e => exact .pure rfl
    | ok registry => exact .bind (.noteAll _) fun _ => .pure rfl

/-- No directory is asked while settings are read. -/
theorem resolve_exchanges (s : Settings) (dns : Dns σ) (t : Trace (Witnessed σ κ)) :
    (resolve s dns.witnessed t).2.world.exchanges = t.world.exchanges := by
  rw [resolve_world, sources_world]
  cases Shape.of s <;> rfl

end Registry

/-- A server that was tested, with the result and the exchanges. -/
structure Test (κ : Type) where
  server : Server
  result : Except Error Unit
  exchanges : List (Exchange κ)

namespace Test

/-- How a server is tested that no connection waits for. It passes if a connection could be opened, which stays so. -/
inductive Sound : Test κ → Prop
  | nameless {server reason} (sasl : server.mechanism.isSasl) (nobody : server.bindDn = none) :
    Sound ⟨server, .error (.configuration reason), []⟩
  | refused {server e} (named : server.mechanism.isSasl → server.bindDn ≠ none) :
    Sound ⟨server, .error e, [.connect (Environment.bind server) (.error e)]⟩
  | passed {server c} (named : server.mechanism.isSasl → server.bindDn ≠ none)
    (line : c.env = Environment.bind server) :
    Sound ⟨server, .ok (), [.connect (Environment.bind server) (.ok c)]⟩

theorem Sound.opened {test : Test κ} (sound : test.Sound) :
    (test.exchanges.flatMap Exchange.opened).map Line.env =
      if test.result.isOk then [Environment.bind test.server] else [] := by
  cases sound with
  | nameless => rfl
  | refused => rfl
  | passed named line => simp [Exchange.opened, line, Except.isOk, Except.toBool]

theorem Sound.unused {test : Test κ} (sound : test.Sound) : ∀ x ∈ test.exchanges, x.line = [] := by
  cases sound with
  | nameless => simp
  | refused => simp [Exchange.line]
  | passed => simp [Exchange.line]

theorem unused_of_sound {tests : List (Test κ)} (sound : ∀ test ∈ tests, test.Sound) :
    ∀ x ∈ tests.flatMap Test.exchanges, x.line = [] := by
  intro x member
  obtain ⟨test, inside, own⟩ := List.mem_flatMap.1 member
  exact (sound test inside).unused x own

/-- The servers that have passed. -/
def passing (tests : List (Test κ)) : List Server :=
  (tests.filter (·.result.isOk)).map Test.server

theorem opened_of_sound {tests : List (Test κ)} (sound : ∀ test ∈ tests, test.Sound) :
    ((tests.flatMap Test.exchanges).flatMap Exchange.opened).map Line.env =
      (passing tests).map Environment.bind := by
  induction tests with
  | nil => rfl
  | cons test rest ih =>
    obtain ⟨here, others⟩ := List.forall_mem_cons.1 sound
    rw [List.flatMap_cons, List.flatMap_append, List.map_append, here.opened, ih others, passing, passing,
      List.filter_cons]
    split <;> rfl

end Test

theorem Exchange.closed_of_unused {x : Exchange κ} (unused : x.line = []) : x.closed = [] := by
  cases x with
  | close => cases unused
  | _ => rfl

theorem Exchange.allClosed_of_unused {es : List (Exchange κ)} (unused : ∀ x ∈ es, x.line = []) :
    es.flatMap Exchange.closed = [] :=
  List.flatMap_eq_nil_iff.2 fun x member => closed_of_unused (unused x member)

/-- Connections that are opened and not used. -/
theorem Exchange.Live.of_unused {had : List (Line κ)} {es : List (Exchange κ)} (unused : ∀ x ∈ es, x.line = []) :
    Live had es (had ++ es.flatMap Exchange.opened) := by
  induction es generalizing had with
  | nil => exact .nil (by simp)
  | cons x es ih =>
    obtain ⟨here, others⟩ := List.forall_mem_cons.1 unused
    have becomes : (had ++ x.opened).Perm (had ++ x.opened ++ x.closed) := by
      rw [closed_of_unused here, List.append_nil]
    rw [List.flatMap_cons, ← List.append_assoc]
    exact .cons (by simp [here]) becomes (ih others)

/-- A server whose pool is empty is tested on a connection of its own. -/
theorem Factory.testConnection_sound (svc : Service σ κ) (server : Server) :
    Act.Adds ((Factory.ofServer server).testConnection svc.witnessed) fun found es =>
      Test.Sound ⟨server, found.1, es⟩ ∧ found.2.server = server := by
  unfold testConnection
  split
  · next wrong =>
    obtain ⟨sasl, nobody⟩ := (Bool.and_eq_true _ _).mp wrong
    exact .pure ⟨.nameless sasl (Option.isNone_iff_eq_none.1 nobody), rfl⟩
  · next right =>
    have named : server.mechanism.isSasl → server.bindDn ≠ none := by
      intro sasl nobody
      refine right ?_
      have same : (ofServer (κ := Line κ) server).server = server := rfl
      rw [same, sasl, nobody]
      rfl
    have nobodyWaits : Act.Adds (Pool.takeOpen svc.witnessed server []) fun found es => found = (none, []) ∧ es = [] :=
      .pure ⟨rfl, rfl⟩
    have bound : Act.Adds ((ofServer server).pool.bind svc.witnessed server) fun bound es =>
        es = [.connect (Environment.bind server) bound.1] ∧ ∀ c, bound.1 = .ok c → c.env = Environment.bind server := by
      refine .bind nobodyWaits ?_
      rintro _ _ ⟨rfl, rfl⟩
      refine .andThen (fun _ => rfl) fun _ => .bind (.connect svc _) ?_
      rintro outcome _ ⟨rfl, line⟩
      cases outcome with
      | ok c => exact .pure ⟨rfl, line⟩
      | error e => exact .pure ⟨rfl, nofun⟩
    refine .bind bound ?_
    rintro ⟨outcome, pool⟩ _ ⟨rfl, line⟩
    cases outcome with
    | error e => exact .andThen (fun _ => rfl) fun _ => .pure ⟨.refused named, rfl⟩
    | ok c =>
      have back : Act.Adds (pool.release svc.witnessed c) fun _ es => es = [] :=
        .andThen (fun _ => rfl) fun closed => by split <;> exact .pure rfl
      refine .bind back ?_
      rintro pool _ rfl
      exact .andThen (fun _ => rfl) fun _ => .pure ⟨.passed named (line c rfl), rfl⟩

namespace Resolver

/-- Every server is tested, one after the other, whatever comes of it. -/
theorem testEach_sound (svc : Service σ κ) (servers : List Server) :
    Act.Adds (testEach svc.witnessed (servers.map Factory.ofServer)) fun found es => ∃ tests : List (Test κ),
      tests.map Test.server = servers ∧ (∀ test ∈ tests, test.Sound) ∧
      found.1 = tests.map (fun test => (test.server.key, test.result)) ∧ es = tests.flatMap Test.exchanges := by
  induction servers with
  | nil => exact .pure ⟨[], rfl, by simp, rfl, rfl⟩
  | cons server rest ih =>
    refine .bind (Factory.testConnection_sound svc server) ?_
    rintro ⟨result, f⟩ own ⟨sound, same⟩
    refine .bind ih ?_
    rintro ⟨results, fs⟩ others ⟨tests, servers, each, found, added⟩
    dsimp only at same found
    refine .pure ⟨⟨server, result, own⟩ :: tests, ?_, ?_, ?_, ?_⟩
    · rw [List.map_cons, servers]
    · exact List.forall_mem_cons.2 ⟨sound, each⟩
    · rw [same, found, List.map_cons]
    · rw [added, List.append_nil, List.flatMap_cons]

theorem testConnections_sound (svc : Service σ κ) (registry : Registry) :
    Act.Adds ((ofRegistry registry).testConnections svc.witnessed) fun found es => ∃ tests : List (Test κ),
      tests.map Test.server = registry.servers ∧ (∀ test ∈ tests, test.Sound) ∧
      found.1 = tests.map (fun test => (test.server.key, test.result)) ∧ es = tests.flatMap Test.exchanges := by
  refine .bind (testEach_sound svc registry.servers) ?_
  rintro ⟨results, factories⟩ es tested
  exact .pure (by simpa using tested)

end Resolver

namespace Realm

/-- The first wrong setting among results. -/
def firstWrong (results : List (String × Except Error Unit)) : Option Error :=
  results.findSome? fun (_, result) =>
    match result with
    | .ok _ => none
    | .error e => if e.isConfigurationError then some e else none

/-- Results are judged by the first wrong setting among them; nobody is asked. -/
theorem judge_eq (results : List (String × Except Error Unit)) (t : Trace σ) :
    (judge results t).1 = (match firstWrong results with
      | none => .ok ()
      | some e => .error e) ∧ (judge results t).2.world = t.world := by
  induction results generalizing t with
  | nil => exact ⟨rfl, rfl⟩
  | cons first rest ih =>
    obtain ⟨server, e | _⟩ := first
    · by_cases wrong : e.isConfigurationError
      · have ends : judge ((server, .error e) :: rest) t = (.error e, t) := by
          rw [judge, if_pos wrong]
          rfl
        rw [ends, firstWrong, List.findSome?_cons_of_isSome (by simp [wrong])]
        simp [wrong]
      · have goesOn : judge ((server, .error e) :: rest) t = judge rest
            (Act.note (.warn "Unable to open LDAP connection" [("server", server), ("error", e.message)]) t).2 := by
          rw [judge, if_neg wrong]
          rfl
        have skipped : firstWrong ((server, .error e) :: rest) = firstWrong rest := by simp [firstWrong, wrong]
        rw [goesOn, skipped]
        exact ih _
    · exact ih t

theorem judge_mirrors (results : List (String × Except Error Unit)) :
    Act.Mirrors (σ := σ) (κ := κ) id (judge results) (judge results) := by
  induction results with
  | nil => exact .pure rfl
  | cons first rest ih =>
    obtain ⟨server, e | _⟩ := first
    · unfold judge
      split
      · exact .pure rfl
      · exact .bind (.note _) fun _ => ih
    · exact ih

theorem start_mirrors (svc : Service σ κ) (dns : Dns σ) (s : Settings) :
    Act.Mirrors (Except.map Resolver.plain) (start svc.witnessed dns.witnessed s) (start svc dns s) := by
  refine .bind (Registry.resolve_mirrors s dns) fun outcome => ?_
  cases outcome with
  | error e => exact .pure rfl
  | ok registry =>
    have same : Resolver.ofRegistry registry = (Resolver.ofRegistry (κ := Line κ) registry).plain := by
      simp [Resolver.plain, Resolver.ofRegistry, Factory.plain, Pool.plain, Factory.ofServer, Pool.ofSize]
    refine .bind (.noteAll _) fun _ => ?_
    dsimp only [id]
    rw [same]
    refine .bind (Resolver.testConnections_mirrors svc _) ?_
    rintro ⟨results, resolver⟩
    refine .bind (judge_mirrors results) fun outcome => ?_
    cases outcome <;> exact .pure rfl

/-- How a start goes on with the servers that settings describe: all are tested, and then the results are judged. -/
theorem start_of_resolved (svc : Service σ κ) {dns : Dns σ} {s : Settings} {t : Trace σ} {registry : Registry}
    (resolved : (Registry.resolve s dns t).1 = .ok registry) :
    let tested := (Resolver.ofRegistry registry).testConnections svc
      (Act.noteAll (unsupported svc registry.servers) (Registry.resolve s dns t).2).2
    (start svc dns s t).2.world = tested.2.world ∧
    (start svc dns s t).1 = match firstWrong tested.1.1 with
      | none => .ok tested.1.2
      | some e => .error e := by
  intro tested
  obtain ⟨judged, world⟩ := judge_eq tested.1.1 tested.2
  have run : start svc dns s t = (match (judge tested.1.1 tested.2).1 with
      | .ok _ => .ok tested.1.2
      | .error e => .error e, (judge tested.1.1 tested.2).2) := by
    rw [start, Act.bind_apply, resolved]
    dsimp only
    rw [Act.bind_apply, Act.bind_apply]
    change (judge tested.1.1 >>= _) tested.2 = _
    rw [Act.bind_apply]
    cases (judge tested.1.1 tested.2).1 <;> rfl
  rw [run, judged]
  refine ⟨world, ?_⟩
  cases firstWrong tested.1.1 <;> rfl

theorem start_of_unresolved (svc : Service σ κ) {dns : Dns σ} {s : Settings} {t : Trace σ} {e : Error}
    (unresolved : (Registry.resolve s dns t).1 = .error e) :
    start svc dns s t = (.error e, (Registry.resolve s dns t).2) := by
  rw [start, Act.bind_apply, unresolved]
  rfl

/-- How a start fails: no registry comes of the settings, and no server is tested; or all servers are tested, and the
first wrong setting that a test has come to fails the start. -/
inductive Failed (s : Settings) (dns : Dns σ) (t : Trace σ) (e : Error) : List (Test κ) → Prop
  | unresolved (unresolved : (Registry.resolve s dns t).1 = .error e) : Failed s dns t e []
  | wrong {registry before test after} (resolved : (Registry.resolve s dns t).1 = .ok registry)
    (servers : (before ++ test :: after).map Test.server = registry.servers)
    (sound : ∀ one ∈ before ++ test :: after, one.Sound) (result : test.result = .error e)
    (setting : e.isConfigurationError)
    (first : ∀ other ∈ before, ∀ e', other.result = .error e' → ¬ e'.isConfigurationError) :
    Failed s dns t e (before ++ test :: after)

theorem Failed.sound {s : Settings} {dns : Dns σ} {t : Trace σ} {e : Error} {tests : List (Test κ)}
    (failed : Failed s dns t e tests) : ∀ test ∈ tests, test.Sound := by
  cases failed with
  | unresolved => simp
  | wrong _ _ sound => exact sound

theorem firstWrong_eq_some {tests : List (Test κ)} {e : Error}
    (found : firstWrong (tests.map fun test => (test.server.key, test.result)) = some e) :
    ∃ before test after, tests = before ++ test :: after ∧ test.result = .error e ∧ e.isConfigurationError ∧
      ∀ other ∈ before, ∀ e', other.result = .error e' → ¬ e'.isConfigurationError := by
  rw [firstWrong, List.findSome?_map] at found
  obtain ⟨before, test, after, split, here, earlier⟩ := List.findSome?_eq_some_iff.1 found
  refine ⟨before, test, after, split, ?_⟩
  dsimp only [Function.comp] at here
  split at here
  · cases here
  · next e' result =>
    split at here
    · next setting =>
      cases here
      refine ⟨result, setting, fun other member e' failed wrong => ?_⟩
      have passed := earlier other member
      simp [failed, wrong] at passed
    · cases here

section

variable {svc : Service σ κ} {dns : Dns σ} {s : Settings} {t : Trace (Witnessed σ κ)} {e : Error}

theorem start_tests (failed : (start svc.witnessed dns.witnessed s t).1 = .error e) :
    ∃ tests, Failed s dns (Act.plain t) e tests ∧
      (start svc.witnessed dns.witnessed s t).2.world.exchanges =
        t.world.exchanges ++ tests.flatMap Test.exchanges := by
  have plain := congrArg Prod.fst (Registry.resolve_mirrors (κ := κ) s dns t)
  have quiet := Registry.resolve_exchanges (κ := κ) s dns t
  cases outcome : (Registry.resolve s dns.witnessed t).1 with
  | error e' =>
    rw [start_of_unresolved _ outcome] at failed ⊢
    cases failed
    exact ⟨[], .unresolved (plain.trans outcome), by simpa using quiet⟩
  | ok registry =>
    obtain ⟨world, result⟩ := start_of_resolved svc.witnessed outcome
    obtain ⟨es, added, tests, servers, sound, results, rfl⟩ := Resolver.testConnections_sound svc registry
      (Act.noteAll (unsupported svc.witnessed registry.servers) (Registry.resolve s dns.witnessed t).2).2
    rw [results] at result
    rw [failed] at result
    refine ⟨tests, ?_, ?_⟩
    · cases found : firstWrong (tests.map fun test => (test.server.key, test.result)) with
      | none =>
        rw [found] at result
        cases result
      | some e' =>
        rw [found] at result
        cases result
        obtain ⟨before, test, after, rfl, here, setting, first⟩ := firstWrong_eq_some found
        exact .wrong (plain.trans outcome) servers sound here setting first
    · rw [world, added]
      exact congrArg (· ++ tests.flatMap Test.exchanges) quiet

end

end Realm

namespace MemoryDirectory

open Realm (start Failed)

theorem resolve_recorded {s : Settings} {t : Trace (Witnessed (Surroundings MemoryDirectory) Nat)}
    (recorded : Recorded t.world.exchanges t.world.world.directories) :
    let t' := (Registry.resolve s Surroundings.dns.witnessed t).2
    Recorded t'.world.exchanges t'.world.world.directories := by
  intro t'
  rw [Registry.resolve_world, Registry.sources_world]
  cases Registry.Shape.of s <;> exact recorded

/-- A directory counts what a start has exchanged with it. -/
theorem start_recorded (servers : Dictionary MemoryServer) (names : NameTable) (keyCentre : KeyCentre) (s : Settings)
    (log : List Event) :
    let run := start (Surroundings.service service).witnessed Surroundings.dns.witnessed s
      ⟨⟨⟨{ servers }, names, keyCentre⟩, []⟩, log⟩
    Recorded run.2.world.exchanges run.2.world.world.directories := by
  intro run
  let first : Trace (Witnessed (Surroundings MemoryDirectory) Nat) := ⟨⟨⟨{ servers }, names, keyCentre⟩, []⟩, log⟩
  have read := resolve_recorded (s := s) (t := first) (.fresh servers)
  have none := Registry.resolve_exchanges s Surroundings.dns first
  cases outcome : (Registry.resolve s Surroundings.dns.witnessed first).1 with
  | error e =>
    have ended : run = _ := Realm.start_of_unresolved (Surroundings.service service).witnessed outcome
    rw [ended]
    exact read
  | ok registry =>
    obtain ⟨world, -⟩ := Realm.start_of_resolved (Surroundings.service service).witnessed outcome
    have after : run.2.world = _ := world
    rw [after]
    generalize (Registry.resolve s Surroundings.dns.witnessed first).2 = t at read none
    obtain ⟨⟨w, exchanges⟩, logged⟩ := t
    obtain rfl : exchanges = [] := none
    have tidy := Operation.performAll_tidy (Surroundings.service service) Surroundings.kerberos registry
      [.testConnections] ⟨w, logged ++ Realm.unsupported (Surroundings.service service) registry.servers⟩
    exact read.calls tidy.settled.calls

/-- Where connections are open whose opening alone was exchanged. -/
theorem tally_of_tests {d : MemoryDirectory} {tests : List (Test Nat)} (sound : ∀ test ∈ tests, test.Sound)
    (recorded : Recorded (tests.flatMap Test.exchanges) d) (url : String) :
    tally d.opened url = ((Test.passing tests).map Server.url).count url ∧ tally d.closed url = 0 := by
  have unused := Test.unused_of_sound sound
  constructor
  · have places : urls ((tests.flatMap Test.exchanges).flatMap Exchange.opened) =
        (Test.passing tests).map Server.url := by
      have envs := congrArg (List.map Environment.url) (Test.opened_of_sound sound)
      rw [List.map_map, List.map_map] at envs
      exact envs
    rw [recorded.opened, places]
  · rw [recorded.closed _ (.of_unused unused), Exchange.allClosed_of_unused unused]
    rfl

/-- After a start that has failed, those connections are open that tests have opened, and none has been closed. -/
theorem start_counts {servers : Dictionary MemoryServer} {names : NameTable} {keyCentre : KeyCentre} {s : Settings}
    {log : List Event} {t : Trace (Surroundings MemoryDirectory)} (here : t = ⟨⟨{ servers }, names, keyCentre⟩, log⟩)
    {e : Error} (failed : (start (Surroundings.service service) Surroundings.dns s t).1 = .error e) :
    let counted := (start (Surroundings.service service) Surroundings.dns s t).2.world.directories
    ∃ tests : List (Test Nat), Failed s Surroundings.dns t e tests ∧ ∀ url,
      tally counted.opened url = ((Test.passing tests).map Server.url).count url ∧ tally counted.closed url = 0 := by
  subst here
  let first : Trace (Witnessed (Surroundings MemoryDirectory) Nat) := ⟨⟨⟨{ servers }, names, keyCentre⟩, []⟩, log⟩
  let whole := start (Surroundings.service service).witnessed Surroundings.dns.witnessed s first
  have plain : start (Surroundings.service service) Surroundings.dns s ⟨⟨{ servers }, names, keyCentre⟩, log⟩ =
      (whole.1.map Resolver.plain, Act.plain whole.2) :=
    Realm.start_mirrors (Surroundings.service service) Surroundings.dns s first
  have recorded : Recorded whole.2.world.exchanges whole.2.world.world.directories := start_recorded ..
  rw [plain] at failed ⊢
  obtain ⟨tests, how, added⟩ := Realm.start_tests (error_of_map failed)
  have all : whole.2.world.exchanges = tests.flatMap Test.exchanges := added
  rw [all] at recorded
  exact ⟨tests, how, tally_of_tests how.sound recorded⟩

end MemoryDirectory

namespace Realm

open MemoryDirectory (tally)

/-- What a start leaves behind that fails. Where the settings describe no registry, no directory has been asked for
anything. Otherwise all servers have been tested, the error is the first wrong setting that a test has come to, and
each server that has passed is left with its connection open, for none is closed. Directories in memory so count more
connections opened than closed exactly where servers have passed. -/
theorem start_failed (s : Settings) :
    (∀ (σ κ : Type) (svc : Service σ κ) (dns : Dns σ) (t : Trace (Witnessed σ κ)) (e : Error),
      let run := start svc.witnessed dns.witnessed s t
      run.1 = .error e →
        start svc dns s (Act.plain t) = (.error e, Act.plain run.2) ∧
        ∃ tests, Failed s dns (Act.plain t) e tests ∧
        let es := tests.flatMap Test.exchanges
        run.2.world.exchanges = t.world.exchanges ++ es ∧
        (es.flatMap Exchange.opened).map Line.env = (Test.passing tests).map Environment.bind ∧
        es.flatMap Exchange.closed = []) ∧
    ∀ (servers : Dictionary MemoryServer) (names : NameTable) (keyCentre : KeyCentre) (log : List Event) (e : Error),
      let t : Trace (Surroundings MemoryDirectory) := ⟨⟨{ servers }, names, keyCentre⟩, log⟩
      let run := start (Surroundings.service MemoryDirectory.service) Surroundings.dns s t
      let counted := run.2.world.directories
      run.1 = .error e →
        ∃ tests : List (Test Nat), Failed s Surroundings.dns t e tests ∧
        (∀ url, tally counted.opened url = tally counted.closed url + ((Test.passing tests).map Server.url).count url) ∧
        ((∀ url, tally counted.opened url = tally counted.closed url) ↔ Test.passing tests = []) := by
  constructor
  · intro σ κ svc dns t e run failed
    have plain := start_mirrors svc dns s t
    obtain ⟨tests, how, added⟩ := start_tests failed
    have closed := Exchange.allClosed_of_unused (Test.unused_of_sound how.sound)
    refine ⟨?_, tests, how, added, Test.opened_of_sound how.sound, closed⟩
    rw [plain, show (start svc.witnessed dns.witnessed s t).1 = .error e from failed]
    rfl
  · intro servers names keyCentre log e t run counted failed
    obtain ⟨tests, how, counts⟩ := MemoryDirectory.start_counts rfl failed
    refine ⟨tests, how, fun url => ?_, ?_⟩
    · rw [(counts url).1, (counts url).2, Nat.zero_add]
    · rw [List.eq_nil_iff_forall_not_mem]
      constructor
      · intro balanced server member
        have open_ := balanced server.url
        rw [(counts _).1, (counts _).2, List.count_eq_zero] at open_
        exact open_ (List.mem_map_of_mem member)
      · intro nobody url
        rw [(counts url).1, (counts url).2, List.count_eq_zero]
        intro member
        obtain ⟨server, inside, -⟩ := List.mem_map.1 member
        exact nobody server inside

namespace Halfway

/-- Two servers, of which the second one needs a name to bind with and has none. -/
def settings : Settings := .ofList [
  ("ldap.servers", "a,b"),
  ("ldap.a.url", "ldap://a.example.org"),
  ("ldap.b.url", "ldap://b.example.org"),
  ("ldap.b.authentication", "DIGEST-MD5"),
  ("ldap.b.realm", "example.org")]

def servers : Dictionary MemoryServer :=
  .ofList [("ldap://a.example.org", {}), ("ldap://b.example.org", {})]

abbrev start : Trace (Surroundings MemoryDirectory) := ⟨⟨{ servers }, { answer := .ok [] }, {}⟩, []⟩

def run : Except Error (Resolver Nat) × Trace (Surroundings MemoryDirectory) :=
  Realm.start (Surroundings.service MemoryDirectory.service) Surroundings.dns settings start

def reason : Error :=
  .configuration "When using SASL - property bindDn is required (server 'b')"

theorem fails : run.1 = .error reason := by
  have told : (match run.1 with
      | .error e => some e
      | .ok _ => none) = some reason := by decide +kernel
  cases outcome : run.1 with
  | error e =>
    rw [outcome] at told
    rw [Option.some.inj told]
  | ok resolver =>
    rw [outcome] at told
    cases told

end Halfway

/-- What the general account makes of two servers, of which only the second one has a wrong setting. -/
theorem start_failed_halfway : Halfway.run.1 = .error Halfway.reason ∧ ∃ tests : List (Test Nat),
    Failed Halfway.settings Surroundings.dns Halfway.start Halfway.reason tests ∧ Test.passing tests ≠ [] := by
  have general := (start_failed Halfway.settings).2 Halfway.servers { answer := .ok [] } {} [] Halfway.reason
  obtain ⟨tests, how, -, balanced⟩ := general Halfway.fails
  refine ⟨Halfway.fails, tests, how, fun nobody => ?_⟩
  have open_ : tally Halfway.run.2.world.directories.opened "ldap://a.example.org" ≠
      tally Halfway.run.2.world.directories.closed "ldap://a.example.org" := by decide +kernel
  dsimp only [Halfway.run, Halfway.start] at open_
  exact open_ (balanced.2 nobody "ldap://a.example.org")

/-- The first server passes its test, the setting of the second one fails the start, and the connection to the first
one stays open. -/
theorem start_leaks : Halfway.run.1 = .error Halfway.reason ∧
    tally Halfway.run.2.world.directories.opened "ldap://a.example.org" = 1 ∧
    tally Halfway.run.2.world.directories.closed "ldap://a.example.org" = 0 :=
  ⟨Halfway.fails, by decide +kernel, by decide +kernel⟩

end Realm

end DirectoryLogin
