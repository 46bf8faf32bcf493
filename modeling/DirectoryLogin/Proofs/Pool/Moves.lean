import DirectoryLogin.Pool
import DirectoryLogin.Proofs.Promise
import Mathlib.Data.List.TakeWhile
import Mathlib.Logic.Relation

namespace DirectoryLogin

open Relation (ReflTransGen)

variable {σ κ : Type}

/-- How far a caller of a pool is. -/
inductive Caller (κ : Type)
  /-- Wants nothing from the pool. -/
  | away
  /-- Has a permit, and is going to look at the connections that wait. -/
  | admitted
  /-- Has seen that none waits, and opens one. -/
  | connecting
  | holding (c : κ)
  /-- Has no connection any more, but still the permit. -/
  | leaving
  /-- Closes the connections that were waiting. -/
  | closing (cs : List κ)

namespace Caller

/-- The permits that a caller has. -/
@[simp] def permits : Caller κ → Nat
  | away | closing _ => 0
  | admitted | connecting | holding _ | leaving => 1

/-- The connections that are checked out to a caller. -/
@[simp] def lent : Caller κ → List κ
  | holding c => [c]
  | _ => []

/-- The connections that a caller is going to close. -/
@[simp] def drained : Caller κ → List κ
  | closing cs => cs
  | _ => []

/-- The connections that a caller has. -/
def connections (caller : Caller κ) : List κ := caller.lent ++ caller.drained

/-- The number of connections that a caller is opening. -/
@[simp] def connects : Caller κ → Nat
  | connecting => 1
  | _ => 0

@[simp] def ofFound : Option κ → Caller κ
  | some c => holding c
  | none => connecting

@[simp] def ofBound : Except Error κ → Caller κ
  | .ok c => holding c
  | .error _ => away

theorem load_le (caller : Caller κ) : caller.lent.length + caller.connects ≤ caller.permits := by
  cases caller <;> simp

end Caller

/-- One caller before the pool, in a world. -/
structure Turn (σ κ : Type) where
  caller : Caller κ
  pool : Pool κ
  world : σ

/-- The connections that the pool and the caller have. -/
def Turn.connections (a : Turn σ κ) : List κ :=
  a.pool.idle ++ a.caller.connections

/-- The steps of a caller. -/
inductive Move (svc : Service σ κ) (server : Server) : Turn σ κ → Turn σ κ → Prop
  | acquire {p w} (permit : p.hasPermit) : Move svc server ⟨.away, p, w⟩ ⟨.admitted, p.lend, w⟩
  /-- Takes a connection out of the waiting ones. No one else comes near them meanwhile. -/
  | take {p w t found idle} (here : t.world = w)
    (took : (Pool.takeOpen svc server p.idle t).1 = (found, idle)) :
    Move svc server ⟨.admitted, p, w⟩ ⟨.ofFound found, { p with idle }, w⟩
  | connected {p w c w'} (opened : svc.connect (Environment.bind server) w = (.ok c, w')) :
    Move svc server ⟨.connecting, p, w⟩ ⟨.holding c, p, w'⟩
  | refused {p w e w'} (refused : svc.connect (Environment.bind server) w = (.error e, w')) :
    Move svc server ⟨.connecting, p, w⟩ ⟨.leaving, p, w'⟩
  /-- Gives a connection back that is still open. The permit goes back later. -/
  | giveBack {c p w} (usable : svc.isClosed c w = false) :
    Move svc server ⟨.holding c, p, w⟩ ⟨.leaving, { p with idle := c :: p.idle }, w⟩
  /-- Drops a connection that says that it is closed. -/
  | lose {c p w} (closed : svc.isClosed c w) : Move svc server ⟨.holding c, p, w⟩ ⟨.leaving, p, w⟩
  | close {c p w} : Move svc server ⟨.holding c, p, w⟩ ⟨.leaving, p, (svc.close c w).2⟩
  | leave {p w} : Move svc server ⟨.leaving, p, w⟩ ⟨.away, p.free, w⟩
  /-- Takes all waiting connections, to close them. -/
  | drain {p w} : Move svc server ⟨.away, p, w⟩ ⟨.closing p.idle.reverse, { p with idle := [] }, w⟩
  | closeNext {c cs p w} :
    Move svc server ⟨.closing (c :: cs), p, w⟩ ⟨.closing cs, p, (svc.close c w).2⟩
  | closed {p w} : Move svc server ⟨.closing [], p, w⟩ ⟨.away, p, w⟩

abbrev Moves (svc : Service σ κ) (server : Server) : Turn σ κ → Turn σ κ → Prop :=
  ReflTransGen (Move svc server)

namespace Pool

@[simp] theorem lend_idle (p : Pool κ) : p.lend.idle = p.idle := rfl

@[simp] theorem free_idle (p : Pool κ) : p.free.idle = p.idle := rfl

variable {svc : Service σ κ} {server : Server}

/-- The first connection that is open, with those behind it. -/
theorem takeOpen_eq (svc : Service σ κ) (server : Server) (cs : List κ) (t : Trace σ) :
    (takeOpen svc server cs t).1 = (match cs.dropWhile (svc.isClosed · t.world) with
      | [] => (none, [])
      | c :: older => (some c, older)) ∧ (takeOpen svc server cs t).2.world = t.world := by
  induction cs generalizing t with
  | nil => exact ⟨rfl, rfl⟩
  | cons c older ih =>
    have step : takeOpen svc server (c :: older) t = (if svc.isClosed c t.world then do
        Act.note (.debug "Dropping closed pooled connection" [("server", server.key)])
        takeOpen svc server older
      else pure (some c, older) : Act σ (Option κ × List κ)) t := rfl
    rw [step, List.dropWhile_cons]
    cases svc.isClosed c t.world with
    | true => exact ih _
    | false => exact ⟨rfl, rfl⟩

/-- Those before the one that is taken are closed, and dropped. -/
theorem takeOpen_cases {cs idle : List κ} {t : Trace σ} {found : Option κ}
    (took : (takeOpen svc server cs t).1 = (found, idle)) :
    ∃ dropped, cs = dropped ++ found.toList ++ idle ∧ (∀ c ∈ dropped, svc.isClosed c t.world) ∧
      (∀ c ∈ found, svc.isClosed c t.world = false) ∧ (found = none → idle = []) := by
  have split := List.takeWhile_append_dropWhile (p := (svc.isClosed · t.world)) (l := cs)
  have closed : ∀ c ∈ cs.takeWhile (svc.isClosed · t.world), svc.isClosed c t.world :=
    fun c member => List.mem_takeWhile_imp (p := (svc.isClosed · t.world)) member
  have usable := List.head?_dropWhile_not (svc.isClosed · t.world) cs
  rw [(takeOpen_eq svc server cs t).1] at took
  cases rest : cs.dropWhile (svc.isClosed · t.world) with
  | nil =>
    rw [rest] at took split
    cases took
    exact ⟨_, by simpa using split.symm, closed, nofun, fun _ => rfl⟩
  | cons c older =>
    rw [rest] at took split usable
    cases took
    refine ⟨_, by simpa using split.symm, closed, fun c' same => ?_, nofun⟩
    obtain rfl : c = c' := Option.some.inj same
    simpa using usable

theorem bind_moves (svc : Service σ κ) (server : Server) {p : Pool κ} (permit : p.hasPermit)
    (t : Trace σ) : Moves svc server ⟨.away, p, t.world⟩
      ⟨.ofBound (p.bind svc server t).1.1, (p.bind svc server t).1.2, (p.bind svc server t).2.world⟩ := by
  rcases took : takeOpen svc server p.lend.idle t with ⟨⟨found, idle⟩, t'⟩
  have same : t'.world = t.world := by
    rw [← (takeOpen_eq svc server p.lend.idle t).2, took]
  have taken : Moves svc server ⟨.away, p, t.world⟩ ⟨.ofFound found, { p.lend with idle }, t'.world⟩ := by
    rw [same]
    exact .tail (.single (.acquire permit)) (.take rfl (by rw [took]))
  unfold bind
  dsimp only
  rw [Act.bind_apply, took]
  cases found with
  | some c => exact taken
  | none =>
    rcases opened : svc.connect (Environment.bind server) t'.world with ⟨outcome, world⟩
    have asked (e : Event) : Act.perform (svc.connect (Environment.bind server)) (Act.note e t').2 =
        (outcome, ⟨world, t'.log ++ [e]⟩) := by
      rw [← (Prod.mk.inj opened).1, ← (Prod.mk.inj opened).2]
      rfl
    dsimp only
    rw [Act.bind_apply, Act.bind_apply, asked]
    cases outcome with
    | ok c => exact .tail taken (.connected opened)
    | error e => exact .tail (.tail taken (.refused opened)) .leave

theorem release_moves (svc : Service σ κ) (server : Server) (c : κ) (p : Pool κ) (t : Trace σ) :
    Moves svc server ⟨.holding c, p, t.world⟩
      ⟨.away, (p.release svc c t).1, (p.release svc c t).2.world⟩ := by
  have run : p.release svc c t = (if svc.isClosed c t.world then pure p.free
      else pure { p.free with idle := c :: p.idle } : Act σ (Pool κ)) t := rfl
  rw [run]
  cases closed : svc.isClosed c t.world with
  | true => exact .tail (.single (.lose closed)) .leave
  | false => exact .tail (.single (.giveBack closed)) .leave

theorem discard_moves (svc : Service σ κ) (server : Server) (c : κ) (p : Pool κ) (t : Trace σ) :
    Moves svc server ⟨.holding c, p, t.world⟩
      ⟨.away, (p.discard svc c t).1, (p.discard svc c t).2.world⟩ := by
  have closed : Moves svc server ⟨.holding c, p, t.world⟩ ⟨.away, p.free, (svc.close c t.world).2⟩ :=
    .tail (.single .close) .leave
  have run : Act.perform (svc.close c) t =
      ((svc.close c t.world).1, { t with world := (svc.close c t.world).2 }) := rfl
  unfold discard
  rw [Act.bind_apply, run]
  cases (svc.close c t.world).1 with
  | ok _ => exact closed
  | error e => exact closed

theorem closeAll_moves (svc : Service σ κ) (server : Server) (cs : List κ) (p : Pool κ) (t : Trace σ) :
    Moves svc server ⟨.closing cs, p, t.world⟩
      ⟨.closing [], p, (closeAll svc server cs t).2.world⟩ := by
  induction cs generalizing t with
  | nil => exact .refl
  | cons c rest ih =>
    let t' : Trace σ := { t with world := (svc.close c t.world).2 }
    let failed (e : Error) : Event :=
      .debug "Unable to close pooled connection" [("server", server.key), ("error", e.message)]
    have run : Act.perform (svc.close c) t = ((svc.close c t.world).1, t') := rfl
    refine .head .closeNext ?_
    rw [closeAll, Act.bind_apply, run]
    cases (svc.close c t.world).1 with
    | ok _ => exact ih t'
    | error e => exact ih (Act.note (failed e) t').2

theorem closeIdle_moves (svc : Service σ κ) (server : Server) (p : Pool κ) (t : Trace σ) :
    Moves svc server ⟨.away, p, t.world⟩
      ⟨.away, (p.closeIdle svc server t).1, (p.closeIdle svc server t).2.world⟩ :=
  .head .drain (.tail (closeAll_moves svc server p.idle.reverse { p with idle := [] } t) .closed)

end Pool

namespace Move

variable {svc : Service σ κ} {server : Server} {a b : Turn σ κ}

/-- A caller takes permits and gives them back, and nothing else is done to them. -/
theorem permits (move : Move svc server a b) (own : a.caller.permits ≤ a.pool.inUse) :
    b.pool.inUse + a.caller.permits = a.pool.inUse + b.caller.permits := by
  cases move with
  | @take _ _ _ found => cases found <;> rfl
  | leave => exact Nat.sub_add_cancel own
  | _ => rfl

theorem size (move : Move svc server a b) : b.pool.size = a.pool.size := by
  cases move <;> rfl

end Move

/-- A caller who holds all permits in use still does after some steps. -/
theorem Moves.permits {svc : Service σ κ} {server : Server} {a b : Turn σ κ} (moves : Moves svc server a b)
    (own : a.pool.inUse = a.caller.permits) : b.pool.inUse = b.caller.permits ∧ b.pool.size = a.pool.size := by
  induction moves with
  | refl => exact ⟨own, rfl⟩
  | tail _ move ih =>
    obtain ⟨held, size⟩ := ih
    have balance := move.permits held.ge
    exact ⟨by omega, move.size.trans size⟩

/-- What a step does to the connections. -/
inductive Turn.Effect (svc : Service σ κ) (server : Server) (a b : Turn σ κ) : Prop
  | quiet (dropped : List κ) (same : b.world = a.world) (closed : ∀ c ∈ dropped, svc.isClosed c a.world)
    (perm : a.connections.Perm (b.connections ++ dropped))
  | opening (c : κ) (opened : svc.connect (Environment.bind server) a.world = (.ok c, b.world))
    (perm : b.connections.Perm (c :: a.connections))
  | refused (e : Error) (refused : svc.connect (Environment.bind server) a.world = (.error e, b.world))
    (same : b.connections = a.connections)
  | closing (c : κ) (closed : b.world = (svc.close c a.world).2)
    (perm : a.connections.Perm (b.connections ++ [c]))

/-- Connections are dropped only if they say that they are closed. -/
theorem Move.effect {svc : Service σ κ} {server : Server} {a b : Turn σ κ} (move : Move svc server a b) :
    Turn.Effect svc server a b := by
  cases move with
  | @take p _ _ found idle here took =>
    obtain ⟨dropped, split, closed, -, -⟩ := Pool.takeOpen_cases took
    have moved : p.idle.Perm (idle ++ found.toList ++ dropped) := by
      rw [split, List.append_assoc]
      exact List.perm_append_comm.trans (List.perm_append_comm.append_right dropped)
    refine .quiet dropped rfl (here ▸ closed) ?_
    cases found with
    | some c => simpa [Turn.connections, Caller.connections] using moved
    | none => simpa [Turn.connections, Caller.connections] using moved
  | @connected p _ c _ opened =>
    exact .opening c opened (by simp [Turn.connections, Caller.connections])
  | refused refused => exact .refused _ refused rfl
  | @lose c _ _ closed =>
    exact .quiet [c] rfl (by simpa using closed) (by simp [Turn.connections, Caller.connections])
  | @close c => exact .closing c rfl (by simp [Turn.connections, Caller.connections])
  | @drain p =>
    refine .quiet [] rfl nofun ?_
    simp only [Turn.connections, Caller.connections, Caller.lent, Caller.drained, List.append_nil,
      List.nil_append]
    exact (List.reverse_perm p.idle).symm
  | @closeNext c cs p =>
    have last := (List.perm_append_singleton c cs).symm.append_left p.idle
    exact .closing c rfl (by simpa [Turn.connections, Caller.connections] using last)
  | _ => exact .quiet [] rfl nofun (by simp [Turn.connections, Caller.connections])

end DirectoryLogin
