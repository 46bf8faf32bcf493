import DirectoryLogin.Proofs.Pool.Moves
import DirectoryLogin.Proofs.Steady
import Mathlib.Algebra.GroupWithZero.Nat
import Mathlib.Data.List.Nodup

namespace DirectoryLogin

open List (Perm)
open Relation (ReflTransGen)

variable {σ κ : Type} {svc : Service σ κ} {server : Server}

/-- How many connections wait or are lent, with the ones that are being opened. -/
def Turn.load (a : Turn σ κ) : Nat :=
  a.pool.idle.length + (a.caller.lent.length + a.caller.connects)

namespace Move

variable {a b : Turn σ κ}

/-- A permit is taken only where one is left. -/
theorem inUse_le (move : Move svc server a b) (few : a.pool.inUse ≤ a.pool.size) :
    b.pool.inUse ≤ b.pool.size := by
  cases move with
  | acquire permit => exact of_decide_eq_true permit
  | leave => exact Nat.le_trans (Nat.sub_le _ _) few
  | _ => exact few

/-- A connection is opened only where none waits. -/
theorem load (move : Move svc server a b) : b.load ≤ a.load ∨ b.pool.idle = [] := by
  cases move with
  | @take _ _ _ found _ _ took =>
    obtain ⟨dropped, split, -, -, none⟩ := Pool.takeOpen_cases took
    cases found with
    | some c => left; simp [Turn.load, split]
    | none => exact .inr (none rfl)
  | drain => exact .inr rfl
  | _ => left; simp [Turn.load]

/-- Connections are dropped, or there is a new one, opened for the pool. -/
theorem connections (move : Move svc server a b) :
    (∃ dropped, a.connections.Perm (b.connections ++ dropped)) ∨
      ∃ c, svc.connect (Environment.bind server) a.world = (.ok c, b.world) ∧
        b.connections.Perm (c :: a.connections) := by
  cases move.effect with
  | quiet dropped _ _ perm => exact .inl ⟨dropped, perm⟩
  | opening c opened perm => exact .inr ⟨c, opened, perm⟩
  | refused e _ same => exact .inl ⟨[], by rw [same, List.append_nil]⟩
  | closing c _ perm => exact .inl ⟨[c], perm⟩

/-- Whoever comes to hold a connection has taken one that waits and is open, or has opened it just now. -/
theorem handed (move : Move svc server a b) {c : κ} (got : b.caller = .holding c) :
    c ∈ a.pool.idle ∧ svc.isClosed c a.world = false ∨
      svc.connect (Environment.bind server) a.world = (.ok c, b.world) := by
  cases move with
  | @take _ _ _ found _ here took =>
    obtain ⟨dropped, split, -, usable, -⟩ := Pool.takeOpen_cases took
    cases found with
    | some c' =>
      obtain rfl : c' = c := Caller.holding.inj got
      exact .inl ⟨by simp [split], here ▸ usable c' rfl⟩
    | none => cases got
  | connected opened =>
    cases got
    exact .inr opened
  | _ => cases got

end Move

/-- What a caller may do: a step, or it gives up whatever it is about, and drops what it has but the permit. -/
inductive Turn.Next (svc : Service σ κ) (server : Server) : Turn σ κ → Turn σ κ → Prop
  | move {a b} (move : Move svc server a b) : Turn.Next svc server a b
  | drop {caller p w} (inside : caller.permits = 1) :
    Turn.Next svc server ⟨caller, p, w⟩ ⟨.leaving, p, w⟩
  | stop {cs p w} : Turn.Next svc server ⟨.closing cs, p, w⟩ ⟨.away, p, w⟩

namespace Turn.Next

variable {a b : Turn σ κ}

theorem permits (next : Turn.Next svc server a b) (own : a.caller.permits ≤ a.pool.inUse) :
    b.pool.inUse + a.caller.permits = a.pool.inUse + b.caller.permits := by
  cases next with
  | move move => exact move.permits own
  | drop inside => rw [inside]; rfl
  | stop => rfl

theorem size (next : Turn.Next svc server a b) : b.pool.size = a.pool.size := by
  cases next with
  | move move => exact move.size
  | drop inside => rfl
  | stop => rfl

theorem inUse_le (next : Turn.Next svc server a b) (few : a.pool.inUse ≤ a.pool.size) :
    b.pool.inUse ≤ b.pool.size := by
  cases next with
  | move move => exact move.inUse_le few
  | drop inside => exact few
  | stop => exact few

theorem load (next : Turn.Next svc server a b) : b.load ≤ a.load ∨ b.pool.idle = [] := by
  cases next with
  | move move => exact move.load
  | drop inside => left; simp [Turn.load]
  | stop => left; simp [Turn.load]

theorem connections (next : Turn.Next svc server a b) :
    (∃ dropped, a.connections.Perm (b.connections ++ dropped)) ∨
      ∃ c, svc.connect (Environment.bind server) a.world = (.ok c, b.world) ∧
        b.connections.Perm (c :: a.connections) := by
  cases next with
  | move move => exact move.connections
  | @drop caller => exact .inl ⟨caller.connections, by simp [Turn.connections, Caller.connections]⟩
  | @stop cs => exact .inl ⟨cs, by simp [Turn.connections, Caller.connections]⟩

theorem handed (next : Turn.Next svc server a b) {c : κ} (got : b.caller = .holding c) :
    c ∈ a.pool.idle ∧ svc.isClosed c a.world = false ∨
      svc.connect (Environment.bind server) a.world = (.ok c, b.world) := by
  cases next with
  | move move => exact move.handed got
  | drop inside => cases got
  | stop => cases got

end Turn.Next

/-- A pool with all its callers, in a world. -/
structure Traffic (σ κ : Type) where
  callers : List (Caller κ)
  pool : Pool κ
  world : σ

namespace Traffic

/-- A step of any of the callers, or a change of the world that comes from elsewhere. -/
inductive Step (svc : Service σ κ) (server : Server) (outside : σ → σ → Prop) :
    Traffic σ κ → Traffic σ κ → Prop
  | caller {before caller after p w caller' p' w'}
    (next : Turn.Next svc server ⟨caller, p, w⟩ ⟨caller', p', w'⟩) :
    Step svc server outside ⟨before ++ caller :: after, p, w⟩ ⟨before ++ caller' :: after, p', w'⟩
  | elsewhere {callers p w w'} (change : outside w w') :
    Step svc server outside ⟨callers, p, w⟩ ⟨callers, p, w'⟩

abbrev Steps (svc : Service σ κ) (server : Server) (outside : σ → σ → Prop) :
    Traffic σ κ → Traffic σ κ → Prop :=
  ReflTransGen (Step svc server outside)

/-- Callers who have not come yet, and an empty pool. -/
def start (callers poolSize : Nat) (world : σ) : Traffic σ κ :=
  ⟨List.replicate callers .away, Pool.ofSize poolSize, world⟩

/-- The permits that the callers have. -/
def held (s : Traffic σ κ) : Nat := (s.callers.map Caller.permits).sum

/-- The permits that are left. -/
def available (s : Traffic σ κ) : Nat := s.pool.size - s.pool.inUse

/-- The connections that are checked out. -/
def lent (s : Traffic σ κ) : List κ := s.callers.flatMap Caller.lent

/-- The number of connections that are being opened. -/
def connects (s : Traffic σ κ) : Nat := (s.callers.map Caller.connects).sum

/-- All connections: those that wait, and those that callers have, be it to close them. -/
def connections (s : Traffic σ κ) : List κ :=
  s.pool.idle ++ s.callers.flatMap Caller.connections

variable {outside : σ → σ → Prop} {s s' : Traffic σ κ}

/-- How many connections wait, are checked out or are being opened. -/
def load (s : Traffic σ κ) : Nat := s.pool.idle.length + s.lent.length + s.connects

theorem lent_connects_le_held (s : Traffic σ κ) : s.lent.length + s.connects ≤ s.held := by
  unfold lent connects held
  induction s.callers with
  | nil => exact Nat.le_refl _
  | cons caller rest ih =>
    have own := caller.load_le
    simp only [List.flatMap_cons, List.length_append, List.map_cons, List.sum_cons]
    omega

section Split

variable (before after : List (Caller κ)) (caller : Caller κ) (p : Pool κ) (w : σ)

theorem held_split : (mk (before ++ caller :: after) p w).held =
    caller.permits + (mk (before ++ after) p w).held := by
  simp [held]
  omega

theorem load_split : (mk (before ++ caller :: after) p w).load =
    (Turn.mk caller p w).load + ((mk (before ++ after) p w).lent.length +
      (mk (before ++ after) p w).connects) := by
  simp [load, Turn.load, lent, connects]
  omega

theorem connections_split : (mk (before ++ caller :: after) p w).connections.Perm
    ((Turn.mk caller p w).connections ++
      (before ++ after).flatMap Caller.connections) := by
  simp only [connections, Turn.connections, List.flatMap_append, List.flatMap_cons]
  rw [List.append_assoc]
  exact (List.perm_append_comm_assoc ..).append_left p.idle

end Split

/-- How the permits stand. -/
structure Counted (s : Traffic σ κ) : Prop where
  held : s.pool.inUse = s.held
  few : s.pool.inUse ≤ s.pool.size
  load : s.load ≤ s.pool.size

theorem Counted.start (callers poolSize : Nat) (w : σ) :
    (start callers poolSize w : Traffic σ κ).Counted where
  held := by simp [Traffic.start, Traffic.held, Pool.ofSize]
  few := Nat.zero_le _
  load := by simp [Traffic.start, Traffic.load, Traffic.lent, Traffic.connects, Pool.ofSize]

theorem Step.counted (step : Step svc server outside s s') (counted : s.Counted) :
    s'.Counted ∧ s'.pool.size = s.pool.size := by
  obtain ⟨held, few, load⟩ := counted
  cases step with
  | @caller before caller after p w caller' p' w' next =>
    rw [held_split] at held
    rw [load_split] at load
    have permits := next.permits (Nat.le_trans (Nat.le_add_right _ _) held.ge)
    have size := next.size
    have few' := next.inUse_le few
    have held' : p'.inUse = (Traffic.mk (before ++ caller' :: after) p' w').held := by
      rw [held_split]
      simp only [Traffic.held] at permits held ⊢
      omega
    refine ⟨⟨held', few', ?_⟩, size⟩
    obtain less | none := next.load
    · rw [load_split]
      simp only [Traffic.lent, Traffic.connects] at size load ⊢
      omega
    · have within := lent_connects_le_held ⟨before ++ caller' :: after, p', w'⟩
      simp only [Traffic.load] at none few' held' ⊢
      rw [none, List.length_nil]
      omega
  | elsewhere change => exact ⟨⟨held, few, load⟩, rfl⟩

/-- Connections are dropped, or there is a new one, opened for the pool. -/
theorem Step.connections (step : Step svc server outside s s') :
    (∃ dropped, s.connections.Perm (s'.connections ++ dropped)) ∨
      ∃ c, svc.connect (Environment.bind server) s.world = (.ok c, s'.world) ∧
        s'.connections.Perm (c :: s.connections) := by
  cases step with
  | @caller before caller after p w caller' p' w' next =>
    have here := connections_split before after caller p w
    have there := connections_split before after caller' p' w'
    obtain ⟨dropped, perm⟩ | ⟨c, opened, perm⟩ := next.connections
    · have last := here.trans (perm.append_right _)
      rw [List.append_assoc] at last
      refine .inl ⟨dropped, last.trans (.trans ?_ (there.symm.append_right dropped))⟩
      rw [List.append_assoc]
      exact List.perm_append_comm.append_left _
    · exact .inr ⟨c, opened, there.trans ((perm.append_right _).trans (here.symm.cons c))⟩
  | elsewhere change => exact .inl ⟨[], by rw [List.append_nil]; exact .refl _⟩

/-- Whoever comes to hold a connection has taken one that waits and is open, or has opened it just now. -/
theorem Step.handed (step : Step svc server outside s s') {i : Nat} {c : κ}
    (got : s'.callers[i]? = some (.holding c)) : s.callers[i]? = some (.holding c) ∨
      c ∈ s.pool.idle ∧ svc.isClosed c s.world = false ∨
      svc.connect (Environment.bind server) s.world = (.ok c, s'.world) := by
  cases step with
  | @caller before caller after p w caller' p' w' next =>
    obtain rfl | other := eq_or_ne i before.length
    · right
      have got' : caller' = .holding c := by simpa using got
      exact next.handed got'
    · left
      rw [← got, List.getElem?_append, List.getElem?_append]
      split
      · rfl
      · obtain ⟨j, behind⟩ : ∃ j, i - before.length = j + 1 := ⟨i - before.length - 1, by omega⟩
        simp only [behind, List.getElem?_cons_succ]
  | elsewhere change => exact .inl got

end Traffic

/-- A connection with the number of its opening, and what it was opened with. -/
structure Ticket (κ : Type) where
  number : Nat
  env : Environment
  name : κ

/-- A world with the number of connections that were opened in it. -/
structure Numbered (σ : Type) where
  world : σ
  opened : Nat := 0

def Numbered.within {α : Type} (w : Numbered σ) (step : σ → α × σ) : α × Numbered σ :=
  ((step w.world).1, { w with world := (step w.world).2 })

/-- The service with its connections numbered in the order of their opening, so that no two of them are the
same, whatever names the service gives them. -/
def Service.numbered (svc : Service σ κ) : Service (Numbered σ) (Ticket κ) where
  supports := svc.supports
  connect env w :=
    match svc.connect env w.world with
    | (.ok name, world) => (.ok ⟨w.opened, env, name⟩, ⟨world, w.opened + 1⟩)
    | (.error e, world) => (.error e, { w with world })
  search c base scope filter attributes w := w.within (svc.search c.name base scope filter attributes)
  next c w := w.within (svc.next c.name)
  abandon c w := w.within (svc.abandon c.name)
  close c w := w.within (svc.close c.name)
  isClosed c w := svc.isClosed c.name w.world
  remaining c w := svc.remaining c.name w.world
  next_lt took := by
    simp only [Numbered.within, Prod.mk.injEq] at took
    rw [← took.2]
    exact svc.next_lt (Prod.ext took.1 rfl)

namespace Numbered

/-- Elsewhere, too, connections are numbered. -/
def Beside (outside : σ → σ → Prop) (w w' : Numbered σ) : Prop :=
  outside w.world w'.world ∧ w.opened ≤ w'.opened

theorem connect_cases (svc : Service σ κ) (env : Environment) (w : Numbered σ) :
    (∃ e world, svc.connect env w.world = (.error e, world) ∧
        svc.numbered.connect env w = (.error e, { w with world })) ∨
      ∃ name world, svc.connect env w.world = (.ok name, world) ∧
        svc.numbered.connect env w = (.ok ⟨w.opened, env, name⟩, ⟨world, w.opened + 1⟩) := by
  have run : svc.numbered.connect env w = match svc.connect env w.world with
    | (.ok name, world) => (.ok ⟨w.opened, env, name⟩, ⟨world, w.opened + 1⟩)
    | (.error e, world) => (.error e, { w with world }) := rfl
  rcases outcome : svc.connect env w.world with ⟨e | name, world⟩
  · exact .inl ⟨e, world, rfl, by rw [run, outcome]⟩
  · exact .inr ⟨name, world, rfl, by rw [run, outcome]⟩

theorem connect_ok {env : Environment} {w w' : Numbered σ} {c : Ticket κ}
    (opened : svc.numbered.connect env w = (.ok c, w')) :
    c.number = w.opened ∧ c.env = env ∧ w'.opened = w.opened + 1 := by
  obtain ⟨e, world, -, refused⟩ | ⟨name, world, -, connected⟩ := connect_cases svc env w
  · cases opened.symm.trans refused
  · cases opened.symm.trans connected
    exact ⟨rfl, rfl, rfl⟩

theorem connect_error {env : Environment} {w w' : Numbered σ} {e : Error}
    (refused : svc.numbered.connect env w = (.error e, w')) : w'.opened = w.opened := by
  obtain ⟨e', world, -, refused'⟩ | ⟨name, world, -, connected⟩ := connect_cases svc env w
  · cases refused.symm.trans refused'
    rfl
  · cases refused.symm.trans connected

end Numbered

theorem Move.opened_le {a b : Turn (Numbered σ) (Ticket κ)} (move : Move svc.numbered server a b) :
    a.world.opened ≤ b.world.opened := by
  cases move with
  | connected opened => exact (Numbered.connect_ok opened).2.2 ▸ Nat.le_succ _
  | refused refused => exact (Numbered.connect_error refused).ge
  | _ => exact Nat.le_refl _

theorem Turn.Next.opened_le {a b : Turn (Numbered σ) (Ticket κ)}
    (next : Turn.Next svc.numbered server a b) : a.world.opened ≤ b.world.opened := by
  cases next with
  | move move => exact move.opened_le
  | drop inside => exact Nat.le_refl _
  | stop => exact Nat.le_refl _

namespace Traffic

variable {outside : σ → σ → Prop}

/-- Connections are told apart by their numbers, and were opened for the pool. -/
structure Tracked (server : Server) (s : Traffic (Numbered σ) (Ticket κ)) : Prop where
  distinct : (s.connections.map Ticket.number).Nodup
  opened : ∀ c ∈ s.connections, c.number < s.world.opened
  bind : ∀ c ∈ s.connections, c.env = Environment.bind server

theorem Step.tracked {s s' : Traffic (Numbered σ) (Ticket κ)}
    (step : Step svc.numbered server (Numbered.Beside outside) s s') (tracked : Tracked server s) :
    Tracked server s' := by
  have later : s.world.opened ≤ s'.world.opened := by
    cases step with
    | caller next => exact next.opened_le
    | elsewhere change => exact change.2
  obtain ⟨dropped, perm⟩ | ⟨c, opened, perm⟩ := step.connections
  · have kept : ∀ c ∈ s'.connections, c ∈ s.connections := fun c member =>
      perm.symm.subset (List.mem_append_left _ member)
    have distinct := (perm.map Ticket.number).nodup_iff.1 tracked.distinct
    rw [List.map_append] at distinct
    exact ⟨List.Nodup.of_append_left distinct,
      fun c member => Nat.lt_of_lt_of_le (tracked.opened c (kept c member)) later,
      fun c member => tracked.bind c (kept c member)⟩
  · obtain ⟨number, env, count⟩ := Numbered.connect_ok opened
    have fresh : c.number ∉ s.connections.map Ticket.number := by
      intro member
      obtain ⟨other, inside, same⟩ := List.mem_map.1 member
      have before := tracked.opened other inside
      omega
    refine ⟨(perm.map Ticket.number).nodup_iff.2 (List.nodup_cons.2 ⟨fresh, tracked.distinct⟩), ?_, ?_⟩
    · intro other member
      obtain rfl | inside := List.mem_cons.1 (perm.subset member)
      · omega
      · exact Nat.lt_of_lt_of_le (tracked.opened other inside) later
    · intro other member
      obtain rfl | inside := List.mem_cons.1 (perm.subset member)
      · exact env
      · exact tracked.bind other inside

end Traffic

def Caller.plain : Caller (Ticket κ) → Caller κ
  | away => away
  | admitted => admitted
  | connecting => connecting
  | holding c => holding c.name
  | leaving => leaving
  | closing cs => closing (cs.map Ticket.name)

def Pool.unnumbered (p : Pool (Ticket κ)) : Pool κ :=
  { size := p.size, inUse := p.inUse, idle := p.idle.map Ticket.name }

def Turn.plain (a : Turn (Numbered σ) (Ticket κ)) : Turn σ κ :=
  ⟨a.caller.plain, a.pool.unnumbered, a.world.world⟩

def Traffic.plain (s : Traffic (Numbered σ) (Ticket κ)) : Traffic σ κ :=
  ⟨s.callers.map Caller.plain, s.pool.unnumbered, s.world.world⟩

theorem Pool.takeOpen_numbered (svc : Service σ κ) (server : Server) (cs : List (Ticket κ)) {t : Trace σ}
    {found : Option κ} {idle : List κ} {w : Numbered σ} (here : t.world = w.world)
    (took : (takeOpen svc server (cs.map Ticket.name) t).1 = (found, idle)) :
    ∃ found' idle', (takeOpen svc.numbered server cs ⟨w, t.log⟩).1 = (found', idle') ∧
      found'.map Ticket.name = found ∧ idle'.map Ticket.name = idle := by
  rw [(takeOpen_eq svc server _ t).1, List.dropWhile_map, here] at took
  rw [(takeOpen_eq svc.numbered server cs ⟨w, t.log⟩).1]
  have alike : (svc.isClosed · w.world) ∘ Ticket.name = (svc.numbered.isClosed · w) := rfl
  rw [alike] at took
  cases rest : cs.dropWhile (svc.numbered.isClosed · w) with
  | nil =>
    rw [rest] at took
    cases took
    exact ⟨none, [], rfl, rfl, rfl⟩
  | cons c older =>
    rw [rest] at took
    cases took
    exact ⟨some c, older, rfl, rfl, rfl⟩

theorem Move.numbered {a : Turn (Numbered σ) (Ticket κ)} {b : Turn σ κ} (move : Move svc server a.plain b) :
    ∃ b', Move svc.numbered server a b' ∧ b'.plain = b := by
  obtain ⟨caller, p, w⟩ := a
  have connect := Numbered.connect_cases svc (Environment.bind server) w
  cases caller with
  | away =>
    cases move with
    | acquire permit => exact ⟨_, .acquire permit, rfl⟩
    | drain => exact ⟨_, .drain, by simp [Turn.plain, Caller.plain, Pool.unnumbered]⟩
  | admitted =>
    cases move with
    | take here took =>
      obtain ⟨found, idle, took', rfl, rfl⟩ := Pool.takeOpen_numbered svc server p.idle here took
      refine ⟨_, .take rfl took', ?_⟩
      cases found with
      | none => rfl
      | some c => rfl
  | connecting =>
    cases move with
    | connected opened =>
      obtain ⟨e, world, refused, -⟩ | ⟨name, world, connected, run⟩ := connect
      · cases opened.symm.trans refused
      · cases opened.symm.trans connected
        exact ⟨_, .connected run, rfl⟩
    | refused refused =>
      obtain ⟨e, world, refused', run⟩ | ⟨name, world, connected, -⟩ := connect
      · cases refused.symm.trans refused'
        exact ⟨_, .refused run, rfl⟩
      · cases refused.symm.trans connected
  | holding c =>
    cases move with
    | giveBack usable => exact ⟨_, .giveBack usable, rfl⟩
    | lose closed => exact ⟨_, .lose closed, rfl⟩
    | close => exact ⟨_, .close, rfl⟩
  | leaving =>
    cases move with
    | leave => exact ⟨_, .leave, rfl⟩
  | closing cs =>
    cases cs with
    | nil =>
      cases move with
        | closed => exact ⟨_, .closed, rfl⟩
    | cons c cs =>
      cases move with
        | closeNext => exact ⟨_, .closeNext, rfl⟩

theorem Turn.Next.numbered {a : Turn (Numbered σ) (Ticket κ)} {b : Turn σ κ}
    (next : Turn.Next svc server a.plain b) : ∃ b', Turn.Next svc.numbered server a b' ∧ b'.plain = b := by
  obtain ⟨caller, p, w⟩ := a
  generalize same : Turn.plain ⟨caller, p, w⟩ = a at next
  cases next with
  | move move =>
    subst same
    obtain ⟨b', move', there⟩ := move.numbered
    exact ⟨b', .move move', there⟩
  | drop inside =>
    cases same
    refine ⟨_, .drop ?_, rfl⟩
    cases caller <;> exact inside
  | stop =>
    cases caller with
    | closing cs =>
      cases same
      exact ⟨_, .stop, rfl⟩
    | _ => cases same

namespace Traffic

variable {outside : σ → σ → Prop}

theorem Step.numbered {s : Traffic (Numbered σ) (Ticket κ)} {next : Traffic σ κ}
    (step : Step svc server outside s.plain next) :
    ∃ s', Step svc.numbered server (Numbered.Beside outside) s s' ∧ s'.plain = next := by
  obtain ⟨callers, p, w⟩ := s
  generalize same : plain ⟨callers, p, w⟩ = s at step
  cases step with
  | @caller before caller after q world caller' p' w' next =>
    obtain ⟨all, rfl, rfl⟩ := Traffic.mk.inj same
    obtain ⟨before, behind, rfl, rfl, rest⟩ := List.map_eq_append_iff.1 all
    obtain ⟨caller, after, rfl, rfl, rfl⟩ := List.map_eq_cons_iff.1 rest
    obtain ⟨⟨caller', p', w'⟩, next', there⟩ := Turn.Next.numbered (a := ⟨caller, p, w⟩) next
    obtain ⟨rfl, rfl, rfl⟩ := Turn.mk.inj there
    exact ⟨_, .caller next', by simp [plain]⟩
  | elsewhere change =>
    cases same
    exact ⟨⟨callers, p, ⟨_, w.opened⟩⟩, .elsewhere ⟨change, Nat.le_refl _⟩, rfl⟩

theorem Steps.numbered {s : Traffic (Numbered σ) (Ticket κ)} {next : Traffic σ κ}
    (steps : Steps svc server outside s.plain next) :
    ∃ s', Steps svc.numbered server (Numbered.Beside outside) s s' ∧ s'.plain = next := by
  induction steps with
  | refl => exact ⟨s, .refl, rfl⟩
  | tail _ step ih =>
    obtain ⟨between, steps, rfl⟩ := ih
    obtain ⟨s', step', there⟩ := step.numbered
    exact ⟨s', .tail steps step', there⟩

/-- What one caller does, the others being where they are. -/
theorem steps_of_moves {a b : Turn σ κ} (moves : Moves svc server a b) (before after : List (Caller κ)) :
    Steps svc server outside ⟨before ++ a.caller :: after, a.pool, a.world⟩
      ⟨before ++ b.caller :: after, b.pool, b.world⟩ := by
  induction moves with
  | refl => exact .refl
  | tail _ move ih => exact ih.tail (.caller (.move move))

theorem Steps.counted {s s' : Traffic σ κ} (steps : Steps svc server outside s s') (counted : s.Counted) :
    s'.Counted ∧ s'.pool.size = s.pool.size := by
  induction steps with
  | refl => exact ⟨counted, rfl⟩
  | tail _ step ih =>
    obtain ⟨counted, size⟩ := step.counted ih.1
    exact ⟨counted, size.trans ih.2⟩

theorem Steps.tracked {s s' : Traffic (Numbered σ) (Ticket κ)}
    (steps : Steps svc.numbered server (Numbered.Beside outside) s s') (tracked : Tracked server s) :
    Tracked server s' := by
  induction steps with
  | refl => exact tracked
  | tail _ step ih => exact step.tracked ih

theorem Tracked.start (server : Server) (callers poolSize : Nat) (w : Numbered σ) :
    Tracked (κ := κ) server (start callers poolSize w) := by
  have none : (Traffic.start (κ := Ticket κ) callers poolSize w).connections = [] := by
    simp [Traffic.start, Traffic.connections, Pool.ofSize, Caller.connections]
  refine ⟨?_, ?_, ?_⟩
  · simp [none]
  · simp [none]
  · simp [none]

/-- What holds of a pool, whoever uses it. -/
structure Safe (svc : Service σ κ) (server : Server) (outside : σ → σ → Prop) (callers poolSize : Nat) (w : σ)
    (s : Traffic σ κ) : Prop where
  /-- There are never too many connections, -/
  bounded : s.pool.idle.length + s.lent.length + s.connects ≤ max poolSize 1
  /-- and no permit gets lost. -/
  permits : s.held + s.available = max poolSize 1
  /-- Numbered by their openings, the connections that wait and that callers have are different from each other, and
  were opened as bind connections of the server. -/
  distinct : ∃ numbered : Traffic (Numbered σ) (Ticket κ),
    Steps svc.numbered server (Numbered.Beside outside) (start callers poolSize ⟨w, 0⟩) numbered ∧
      numbered.plain = s ∧ (numbered.connections.map Ticket.number).Nodup ∧
      ∀ c ∈ numbered.connections, c.env = Environment.bind server
  /-- Whoever comes to hold a connection in the next step takes one that waits and does not say that it is closed,
  or has opened it. -/
  handed : ∀ next, Step svc server outside s next →
    ∀ (i : Nat) (c : κ), next.callers[i]? = some (.holding c) →
      s.callers[i]? = some (.holding c) ∨ c ∈ s.pool.idle ∧ svc.isClosed c s.world = false ∨
        svc.connect (Environment.bind server) s.world = (.ok c, next.world)

theorem safe (svc : Service σ κ) (server : Server) (outside : σ → σ → Prop) (callers poolSize : Nat)
    (w : σ) {s : Traffic σ κ} (reached : Steps svc server outside (start callers poolSize w) s) :
    Safe svc server outside callers poolSize w s := by
  have unnumbered : (start callers poolSize ⟨w, 0⟩ : Traffic (Numbered σ) (Ticket κ)).plain =
      start callers poolSize w := by
    simp [start, plain, Caller.plain, Pool.unnumbered, Pool.ofSize]
  obtain ⟨⟨held, few, load⟩, size⟩ := reached.counted (.start callers poolSize w)
  obtain ⟨numbered, steps, same⟩ := Steps.numbered (unnumbered ▸ reached)
  have tracked := steps.tracked (.start server callers poolSize ⟨w, 0⟩)
  have size' : s.pool.size = max poolSize 1 := size
  refine ⟨size' ▸ load, ?_, ⟨numbered, steps, same, tracked.distinct, tracked.bind⟩, ?_⟩
  · unfold available
    omega
  · intro next step i c got
    exact step.handed got

/-- One caller of two has a connection out of a pool for one. -/
def busy : Traffic MemoryDirectory Nat :=
  let bound := (Pool.ofSize 0).bind MemoryDirectory.service Ring.server ⟨{ servers := Ring.servers }, []⟩
  ⟨[.ofBound bound.1.1, .away], bound.1.2, bound.2.world⟩

theorem safe_busy : busy.lent = [0] ∧
    Safe MemoryDirectory.service Ring.server (fun _ _ => True) 2 0 { servers := Ring.servers } busy :=
  ⟨by decide, safe _ _ _ _ _ _ (steps_of_moves (Pool.bind_moves _ _ (by decide) ⟨_, []⟩) [] [.away])⟩

end Traffic

end DirectoryLogin
