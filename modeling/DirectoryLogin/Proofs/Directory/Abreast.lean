import DirectoryLogin.Proofs.Abreast
import DirectoryLogin.Proofs.Pool.Moves
import DirectoryLogin.Proofs.Steady
import DirectoryLogin.Surroundings

namespace DirectoryLogin

variable {α : Type}

/-- A Kerberos login that gives the same answers at all times, as long as the key centre is one of these. -/
structure Kerberos.Constant (kerberos : Kerberos (Surroundings MemoryDirectory)) (centre : KeyCentre → Prop)
    (answer : (principal password : String) → Except Error Bool) : Prop where
  told : ∀ principal password t, centre t.world.keyCentre →
    (kerberos principal password t).1 = answer principal password
  kept : ∀ principal password t, centre t.world.keyCentre →
    centre (kerberos principal password t).2.world.keyCentre
  apart : ∀ principal password t,
    (kerberos principal password t).2.world.directories = t.world.directories

/-- A key centre gives the same answers as long as its principals are the same. -/
theorem Surroundings.kerberos_constant (k : KeyCentre) :
    Kerberos.Constant kerberos (fun k' => k'.passwords = k.passwords ∧ k'.failures = k.failures) k.answer where
  told principal password t same := by
    change t.world.keyCentre.answer principal password = _
    rw [KeyCentre.answer, KeyCentre.answer, same.1, same.2]
  kept _ _ _ := id
  apart _ _ _ := rfl

/-- Two calls with the same thing against them, or with nothing against them. -/
theorem Connected.same {σ σ' κ κ' : Type} {ready : σ → Prop} {ready' : σ' → Prop} {opened : κ → σ → Prop}
    {opened' : κ' → σ' → Prop} {refusal : Option Error} {outcome : Except Error κ} {outcome' : Except Error κ'} {w : σ}
    {w' : σ'} (here : Connected ready opened refusal (outcome, w))
    (there : Connected ready' opened' refusal (outcome', w')) :
    Same (fun c c' => opened c w ∧ opened' c' w') outcome outcome' := by
  cases here with
  | refused => cases there with
    | refused => exact .failed
  | opened here => cases there with
    | opened there => exact .done ⟨here, there⟩

namespace MemoryDirectory

/-- All connections are there still, each to its server. -/
def Keeps (d e : MemoryDirectory) : Prop :=
  ∀ (c : Nat) (conn : MemoryConnection), d.connections[c]? = some conn →
    ∃ conn', e.connections[c]? = some conn' ∧ conn'.server = conn.server

theorem Keeps.refl (d : MemoryDirectory) : Keeps d d := fun _ conn found => ⟨conn, found, rfl⟩

theorem Keeps.trans {d e f : MemoryDirectory} (first : Keeps d e) (second : Keeps e f) : Keeps d f := by
  intro c conn found
  obtain ⟨conn', found', same⟩ := first c conn found
  obtain ⟨conn'', found'', same'⟩ := second c conn' found'
  exact ⟨conn'', found'', same'.trans same⟩

theorem update_keeps {d : MemoryDirectory} {c : Nat} {conn other : MemoryConnection}
    (found : d.connections[c]? = some conn) (same : other.server = conn.server) : Keeps d (d.update c other) := by
  intro i old there
  by_cases here : i = c
  · subst here
    rw [found] at there
    obtain rfl : conn = old := Option.some.inj there
    exact ⟨other, getElem?_update found other, same⟩
  · refine ⟨old, ?_, rfl⟩
    rw [← there]
    exact List.getElem?_set_ne (Ne.symm here)

/-- The connection leads to the server of this environment, and nothing is against opening it. -/
def Known (servers : Dictionary MemoryServer) (env : Environment) (c : Nat) (d : MemoryDirectory) : Prop :=
  refusal servers env = none ∧ ∃ conn, d.connections[c]? = some conn ∧ servers.get? env.url = some conn.server

theorem Known.keeps {servers : Dictionary MemoryServer} {env : Environment} {c : Nat} {d e : MemoryDirectory}
    (known : Known servers env c d) (keeps : Keeps d e) : Known servers env c e := by
  obtain ⟨free, conn, found, server⟩ := known
  obtain ⟨conn', found', same⟩ := keeps c conn found
  exact ⟨free, conn', found', server.trans (congrArg some same.symm)⟩

section Calls

variable (servers : Dictionary MemoryServer)

/-- Only the connections change, and all of them are kept. -/
def Stays (step : MemoryDirectory → α × MemoryDirectory) : Prop :=
  ∀ d, (step d).2.servers = d.servers ∧ Keeps d (step d).2

theorem connect_stays (env : Environment) : Stays (connect env) := by
  intro d
  unfold connect
  dsimp only
  split
  · exact ⟨rfl, .refl d⟩
  · split
    · exact ⟨rfl, .refl d⟩
    · split
      · exact ⟨rfl, .refl d⟩
      · refine ⟨rfl, fun c conn found => ⟨conn, ?_, rfl⟩⟩
        rw [List.getElem?_append_left (List.getElem?_eq_some_iff.1 found).1]
        exact found

theorem search_stays (c : Nat) (base filter : String) : Stays (search c base filter) := by
  intro d
  unfold search
  cases found : d.connections[c]? with
  | none => exact ⟨rfl, .refl d⟩
  | some conn =>
    dsimp only
    split
    · exact ⟨rfl, .refl d⟩
    · split
      · exact ⟨rfl, .refl d⟩
      · split
        · exact ⟨rfl, .refl d⟩
        · exact ⟨rfl, update_keeps found rfl⟩

theorem next_stays (c : Nat) : Stays (next c) := by
  intro d
  unfold next
  cases found : d.connections[c]? with
  | none => exact ⟨rfl, .refl d⟩
  | some conn =>
    dsimp only
    split
    · exact ⟨rfl, .refl d⟩
    · exact ⟨rfl, update_keeps found rfl⟩

theorem abandon_stays (c : Nat) : Stays (abandon c) := by
  intro d
  unfold abandon
  cases found : d.connections[c]? with
  | none => exact ⟨rfl, .refl d⟩
  | some conn => exact ⟨rfl, update_keeps found rfl⟩

theorem close_stays (c : Nat) : Stays (close c) := by
  intro d
  unfold close
  cases found : d.connections[c]? with
  | none => exact ⟨rfl, .refl d⟩
  | some conn =>
    dsimp only
    split
    · exact ⟨rfl, .refl d⟩
    · exact ⟨rfl, update_keeps found rfl⟩

theorem abandon_ok (c : Nat) (d : MemoryDirectory) : (abandon c d).1 = .ok () := by
  unfold abandon
  split <;> rfl

theorem close_ok (c : Nat) (d : MemoryDirectory) : (close c d).1 = .ok () := by
  unfold close
  split
  · rfl
  · split <;> rfl

/-- A connection that is new is known. -/
theorem connect_known (env : Environment) {d : MemoryDirectory} (same : d.servers = servers) :
    Connected (fun _ => True) (fun c e => (steady servers).opened c env e ∧ Known servers env c e)
      (refusal servers env) (connect env d) := by
  have connected : Connected _ _ (refusal servers env) (service.connect env d) := (steady servers).connected same
  change Connected _ _ _ (connect env d) at connected
  generalize connect env d = outcome at connected
  generalize free : refusal servers env = against at connected
  cases connected with
  | refused _ => exact .refused trivial
  | opened opened =>
    obtain ⟨same, conn, found, live, server⟩ := opened
    exact .opened ⟨⟨same, conn, found, live, server⟩, free, conn, found, server⟩

/-- A connection that is known and open is as good as new. -/
theorem Known.opened {servers : Dictionary MemoryServer} {env : Environment} {c : Nat} {d : MemoryDirectory}
    (known : Known servers env c d) (same : d.servers = servers) (live : isClosed c d = false) :
    (steady servers).opened c env d := by
  obtain ⟨-, conn, found, server⟩ := known
  refine ⟨same, conn, found, ?_, server⟩
  rwa [isClosed, found] at live

/-- How a search starts, and what then runs, is in the answer. -/
theorem search_answer {c : Nat} {env : Environment} {d : MemoryDirectory} (opened : (steady servers).opened c env d)
    (base filter : String) :
    let answer := answer servers env base filter
    let started := search c base filter d
    started.1 = answer.failure.elim (.ok ()) .error ∧
      (started.1 = .ok () → (steady servers).running c answer.items none started.2) := by
  have started : Started _ _ (answer servers env base filter) (service.search c base .subtree filter [] d) :=
    (steady servers).search_started opened
  change Started _ _ _ (search c base filter d) at started
  generalize search c base filter d = outcome at started
  cases started with
  | answered runs =>
    obtain ⟨same, none, there⟩ := runs
    exact ⟨by rw [none]; rfl, fun _ => ⟨same, rfl, there⟩⟩
  | refused fails _ =>
    rw [fails]
    exact ⟨rfl, nofun⟩

/-- The items are handed out in their order, and then their end. -/
theorem next_head {c : Nat} {items : List Item} {d : MemoryDirectory} (runs : (steady servers).running c items none d) :
    (next c d).1 = .ok items.head? ∧ (steady servers).running c items.tail none (next c d).2 := by
  cases items with
  | nil =>
    obtain ⟨same, whole, conn, found, pending⟩ := runs
    have ended : next c d = (.ok none, d) := by simp only [next, found, pending]
    rw [ended]
    exact ⟨rfl, same, whole, conn, found, pending⟩
  | cons item items =>
    obtain ⟨e, here, later⟩ := (steady servers).next_item runs
    have handed : next c d = (.ok (some item), e) := here
    rw [handed]
    exact ⟨rfl, later⟩

end Calls

end MemoryDirectory

namespace Surroundings

open MemoryDirectory

variable {β : Type} (servers : Dictionary MemoryServer) (centre : KeyCentre → Prop)

/-- The servers are these, and the key centre is one of these. -/
def Fit (w : Surroundings MemoryDirectory) : Prop := w.directories.servers = servers ∧ centre w.keyCentre

/-- Two runs on the same servers. -/
def bond : Bond (Surroundings MemoryDirectory) (Surroundings MemoryDirectory) where
  ready t t' := Fit servers centre t.world ∧ Fit servers centre t'.world
  later w w' v v' := Keeps w.directories v.directories ∧ Keeps w'.directories v'.directories
  noted _ := id
  refl _ _ := ⟨.refl _, .refl _⟩
  trans first second := ⟨first.1.trans second.1, first.2.trans second.2⟩

/-- An act that leaves the servers as they are and keeps all connections, whatever they were before. -/
def Passes (before : MemoryDirectory → Prop) (act : Act (Surroundings MemoryDirectory) α)
    (after : α → MemoryDirectory → Prop) : Prop :=
  ∀ d, Act.Meets (fun w => (Fit servers centre w ∧ Keeps d w.directories) ∧ before w.directories) act
    fun a w => (Fit servers centre w ∧ Keeps d w.directories) ∧ after a w.directories

variable {servers centre}

/-- What two acts do by themselves they do abreast. -/
theorem Passes.beside {before before' : MemoryDirectory → Prop} {act : Act (Surroundings MemoryDirectory) α}
    {act' : Act (Surroundings MemoryDirectory) β} {after : α → MemoryDirectory → Prop}
    {after' : β → MemoryDirectory → Prop} (here : Passes servers centre before act after)
    (there : Passes servers centre before' act' after') :
    (bond servers centre).Abreast (fun w w' => before w.directories ∧ before' w'.directories) act act'
      fun a a' w w' => after a w.directories ∧ after' a' w'.directories := by
  intro t t' ready start
  obtain ⟨⟨fit, keeps⟩, holds⟩ := here t.world.directories t ⟨⟨ready.1, .refl _⟩, start.1⟩
  obtain ⟨⟨fit', keeps'⟩, holds'⟩ := there t'.world.directories t' ⟨⟨ready.2, .refl _⟩, start.2⟩
  exact ⟨⟨fit, fit'⟩, ⟨keeps, keeps'⟩, holds, holds'⟩

theorem Passes.perform {before : MemoryDirectory → Prop} {step : MemoryDirectory → α × MemoryDirectory}
    {after : α → MemoryDirectory → Prop} (stays : Stays step)
    (holds : ∀ d, d.servers = servers → before d → after (step d).1 (step d).2) :
    Passes servers centre before (Act.perform (inDirectories step)) after := by
  refine fun d => .perform fun w ⟨⟨⟨same, known⟩, keeps⟩, start⟩ => ?_
  obtain ⟨sameThen, keepsThen⟩ := stays w.directories
  exact ⟨⟨⟨sameThen.trans same, known⟩, keeps.trans keepsThen⟩, holds w.directories same start⟩

theorem connect_passes (env : Environment) : Passes servers centre (fun _ => True)
    (Act.perform ((service MemoryDirectory.service).connect env)) fun outcome d =>
      Connected (fun _ => True) (fun c d => (steady servers).opened c env d ∧ Known servers env c d)
        (refusal servers env) (outcome, d) :=
  .perform (connect_stays env) fun _ same _ => connect_known servers env same

theorem search_passes (env : Environment) (base : String) (scope : Scope) (filter : String) (attributes : List String)
    (c : Nat) : Passes servers centre ((steady servers).opened c env)
      (Act.perform ((service MemoryDirectory.service).search c base scope filter attributes)) fun outcome d =>
        outcome = (answer servers env base filter).failure.elim (.ok ()) .error ∧
          (outcome = .ok () → (steady servers).running c (answer servers env base filter).items none d) :=
  .perform (search_stays c base filter) fun _ _ opened => search_answer servers opened base filter

theorem next_passes (items : List Item) (c : Nat) : Passes servers centre ((steady servers).running c items none)
    (Act.perform ((service MemoryDirectory.service).next c)) fun outcome d =>
      outcome = .ok items.head? ∧ (steady servers).running c items.tail none d :=
  .perform (next_stays c) fun _ _ runs => next_head servers runs

theorem abandon_passes (c : Nat) : Passes servers centre (fun _ => True)
    (Act.perform ((service MemoryDirectory.service).abandon c)) fun outcome _ => outcome = .ok () :=
  .perform (abandon_stays c) fun d _ _ => abandon_ok c d

theorem close_passes (c : Nat) : Passes servers centre (fun _ => True)
    (Act.perform ((service MemoryDirectory.service).close c)) fun outcome _ => outcome = .ok () :=
  .perform (close_stays c) fun d _ _ => close_ok c d

theorem login_passes {kerberos : Kerberos (Surroundings MemoryDirectory)}
    {answer : (principal password : String) → Except Error Bool}
    (constant : Kerberos.Constant kerberos centre answer) (principal password : String) :
    Passes servers centre (fun _ => True) (kerberos principal password) fun outcome _ =>
      outcome = answer principal password := by
  rintro d t ⟨⟨⟨same, known⟩, keeps⟩, -⟩
  have apart := constant.apart principal password t
  refine ⟨⟨⟨?_, constant.kept principal password t known⟩, ?_⟩, constant.told principal password t known⟩
  · rw [apart, same]
  · rwa [apart]

section Pools

variable (servers) (server : Server)

/-- Every connection that waits is as good as a new one. -/
def AllKnown (idle : List Nat) (d : MemoryDirectory) : Prop :=
  ∀ c ∈ idle, Known servers (Environment.bind server) c d

variable {servers server}

theorem AllKnown.keeps {idle : List Nat} {d e : MemoryDirectory} (known : AllKnown servers server idle d)
    (keeps : Keeps d e) : AllKnown servers server idle e :=
  fun c waits => (known c waits).keeps keeps

/-- What waits in a pool stays known, whatever is done meanwhile. -/
theorem Passes.meanwhile {before : MemoryDirectory → Prop} {act : Act (Surroundings MemoryDirectory) α}
    {after : α → MemoryDirectory → Prop} (passes : Passes servers centre before act after) (idle : List Nat) :
    Passes servers centre (fun d => before d ∧ AllKnown servers server idle d) act
      fun a d => after a d ∧ AllKnown servers server idle d := by
  intro d t ⟨⟨fit, keeps⟩, start, known⟩
  obtain ⟨⟨fitThen, keepsThen⟩, holds⟩ := passes t.world.directories t ⟨⟨fit, .refl _⟩, start⟩
  exact ⟨⟨fitThen, keeps.trans keepsThen⟩, holds, known.keeps keepsThen⟩

theorem takeOpen_passes (idle : List Nat) : Passes servers centre (AllKnown servers server idle)
    (Pool.takeOpen (service MemoryDirectory.service) server idle) fun found d =>
      (∀ c ∈ found.1, (steady servers).opened c (Environment.bind server) d ∧
        Known servers (Environment.bind server) c d) ∧ AllKnown servers server found.2 d := by
  rintro d t ⟨⟨fit, keeps⟩, known⟩
  have world := (Pool.takeOpen_eq (service MemoryDirectory.service) server idle t).2
  rcases took : (Pool.takeOpen (service MemoryDirectory.service) server idle t).1 with ⟨found, rest⟩
  obtain ⟨dropped, split, -, live, -⟩ := Pool.takeOpen_cases took
  rw [world]
  subst split
  refine ⟨⟨fit, keeps⟩, fun c taken => ?_, fun c waits => known c (List.mem_append_right _ waits)⟩
  have here := known c (List.mem_append_left _ (List.mem_append_right _ (Option.mem_toList.2 taken)))
  exact ⟨here.opened fit.1 (live c taken), here⟩

/-- A pool lends a connection if and only if nothing is against opening one. -/
theorem bind_passes (p : Pool Nat) : Passes servers centre (AllKnown servers server p.idle)
    (p.bind (service MemoryDirectory.service) server) fun bound d =>
      Connected (fun _ => True) (fun c d => (steady servers).opened c (Environment.bind server) d ∧
        Known servers (Environment.bind server) c d) (refusal servers (Environment.bind server)) (bound.1, d) ∧
      AllKnown servers server bound.2.idle d := by
  intro d
  refine .bind (takeOpen_passes p.lend.idle d) ?_
  rintro ⟨found, idle⟩
  cases found with
  | some c =>
    refine .pure fun w ⟨since, taken, known⟩ => ⟨since, ?_, known⟩
    have here := taken c rfl
    rw [here.2.1]
    exact .opened here
  | none =>
    have connects : Passes servers centre (fun d => True ∧ AllKnown servers server idle d) _ _ :=
      (connect_passes (Environment.bind server)).meanwhile idle
    refine .bind (.note _) fun _ => .bind (.strengthen (connects d) ?_) fun outcome => ?_
    · exact fun w ⟨since, _, known⟩ => ⟨since, trivial, known⟩
    · cases outcome with
      | ok c => exact .pure fun w => id
      | error e => exact .pure fun w => id

theorem release_passes (c : Nat) (p : Pool Nat) : Passes servers centre
    (fun d => Known servers (Environment.bind server) c d ∧ AllKnown servers server p.idle d)
    (p.release (service MemoryDirectory.service) c) fun p d => AllKnown servers server p.idle d := by
  rintro d t ⟨since, here, known⟩
  have run : p.release (service MemoryDirectory.service) c t = (if isClosed c t.world.directories then pure p.free
      else pure { p.free with idle := c :: p.idle } : Act (Surroundings MemoryDirectory) (Pool Nat)) t := rfl
  rw [run]
  split
  · exact ⟨since, known⟩
  · exact ⟨since, List.forall_mem_cons.2 ⟨here, known⟩⟩

theorem discard_passes (c : Nat) (p : Pool Nat) : Passes servers centre
    (fun d => Known servers (Environment.bind server) c d ∧ AllKnown servers server p.idle d)
    (p.discard (service MemoryDirectory.service) c) fun p d => AllKnown servers server p.idle d := by
  intro d
  refine .bind (((close_passes c).meanwhile p.idle d).strengthen fun w start => ⟨start.1, trivial, start.2.2⟩)
    fun outcome => ?_
  cases outcome with
  | ok _ => exact .pure fun w start => ⟨start.1, start.2.2⟩
  | error e => exact .bind (.note _) fun _ => .pure fun w start => ⟨start.1, start.2.2⟩

theorem closeAll_passes (idle : List Nat) : Passes servers centre (fun _ => True)
    (Pool.closeAll (service MemoryDirectory.service) server idle) fun _ _ => True := by
  intro d
  induction idle with
  | nil => exact .pure fun w => id
  | cons c rest ih =>
    refine .bind (close_passes c d) fun outcome => ?_
    cases outcome with
    | ok _ => exact .strengthen ih fun _ start => ⟨start.1, trivial⟩
    | error e => exact .bind (.note _) fun _ => .strengthen ih fun _ start => ⟨start.1, trivial⟩

theorem closeIdle_passes (p : Pool Nat) : Passes servers centre (AllKnown servers server p.idle)
    (p.closeIdle (service MemoryDirectory.service) server) fun p d => AllKnown servers server p.idle d :=
  fun d => .bind ((closeAll_passes p.idle.reverse d).strengthen fun _ start => ⟨start.1, trivial⟩) fun _ =>
    .pure fun _ start => ⟨start.1, nofun⟩

end Pools

/-- To a resolver, the directories are at all times like they are at all other times. -/
def alike {kerberos : Kerberos (Surroundings MemoryDirectory)}
    {answer : (principal password : String) → Except Error Bool}
    (constant : Kerberos.Constant kerberos centre answer) (servers : Dictionary MemoryServer) :
    Alike (service MemoryDirectory.service) kerberos (service MemoryDirectory.service) kerberos where
  toBond := bond servers centre
  view _ e := e
  view_dn _ _ := rfl
  view_values? _ _ := rfl
  opened c c' w w' := ∃ env, (steady servers).opened c env w.directories ∧ (steady servers).opened c' env w'.directories
  running _ c c' w w' := ∃ items, (steady servers).running c items none w.directories ∧
    (steady servers).running c' items none w'.directories
  held env c c' w w' := Known servers env c w.directories ∧ Known servers env c' w'.directories
  pooled server p p' w w' :=
    AllKnown servers server p.idle w.directories ∧ AllKnown servers server p'.idle w'.directories
  held_lasts _ _ _ := fun later known => ⟨known.1.keeps later.1, known.2.keeps later.2⟩
  pooled_lasts _ _ _ := fun later known => ⟨known.1.keeps later.1, known.2.keeps later.2⟩
  connect env := ((connect_passes env).beside (connect_passes env)).mono (fun _ _ _ => ⟨trivial, trivial⟩)
    fun _ _ _ _ connected => (connected.1.same connected.2).imp fun _ _ here =>
      ⟨⟨env, here.1.1, here.2.1⟩, here.1.2, here.2.2⟩
  search base scope filter attributes := .ofExists fun env =>
    ((search_passes env base scope filter attributes _).beside (search_passes env base scope filter attributes _)).mono
      (fun _ _ => id) fun _ _ _ _ started => ⟨started.1.1.trans started.2.1.symm, fun here =>
        ⟨_, started.1.2 here, started.2.2 (started.2.1.trans (started.1.1.symm.trans here))⟩⟩
  next := .ofExists fun items => ((next_passes items _).beside (next_passes items _)).mono (fun _ _ => id)
    fun outcome outcome' _ _ handed => by
      have whole (item : Option Item) : item.map (Item.through fun e => e) = item := by
        rw [Item.through_self, Option.map_id_fun, id]
      obtain ⟨⟨rfl, runs⟩, rfl, runs'⟩ := handed
      exact ⟨congrArg Except.ok (whole _).symm, _, runs, runs'⟩
  abandon := ((abandon_passes _).beside (abandon_passes _)).mono (fun _ _ _ => ⟨trivial, trivial⟩)
    fun _ _ _ _ abandoned => abandoned.1.trans abandoned.2.symm
  close := ((close_passes _).beside (close_passes _)).mono (fun _ _ _ => ⟨trivial, trivial⟩)
    fun _ _ _ _ closed => closed.1.trans closed.2.symm
  login principal password := ((login_passes constant principal password).beside
    (login_passes constant principal password)).mono (fun _ _ _ => ⟨trivial, trivial⟩)
    fun _ _ _ _ told => told.1.trans told.2.symm
  bind := ((bind_passes _).beside (bind_passes _)).mono (fun _ _ => id) fun _ _ _ _ bound =>
    ⟨(bound.1.1.same bound.2.1).imp fun _ _ here => ⟨⟨_, here.1.1, here.2.1⟩, here.1.2, here.2.2⟩,
      bound.1.2, bound.2.2⟩
  release := ((release_passes _ _).beside (release_passes _ _)).mono
    (fun _ _ ⟨here, waiting⟩ => ⟨⟨here.1, waiting.1⟩, here.2, waiting.2⟩) fun _ _ _ _ => id
  discard := ((discard_passes _ _).beside (discard_passes _ _)).mono
    (fun _ _ ⟨here, waiting⟩ => ⟨⟨here.1, waiting.1⟩, here.2, waiting.2⟩) fun _ _ _ _ => id
  closeIdle := (closeIdle_passes _).beside (closeIdle_passes _)

end Surroundings

end DirectoryLogin
