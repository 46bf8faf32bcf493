import DirectoryLogin.Proofs.Calls
import DirectoryLogin.Proofs.Mirrored
import DirectoryLogin.Proofs.Pool.Moves
import DirectoryLogin.Proofs.Search.Guests

namespace DirectoryLogin

open Exchange (Live)
open Relation (ReflTransGen)

variable {σ κ : Type}

theorem Service.witnessed_connect {svc : Service σ κ} {env : Environment} {w w' : Witnessed σ κ}
    {outcome : Except Error (Line κ)} (run : svc.witnessed.connect env w = (outcome, w')) :
    w'.exchanges = w.exchanges ++ [.connect env outcome] ∧ ∀ c, outcome = .ok c → c.env = env := by
  obtain ⟨_, added, rfl, line⟩ := Act.Adds.connect svc env ⟨w, []⟩
  change (svc.witnessed.connect env w).2.exchanges = _ at added
  change ∀ c, (svc.witnessed.connect env w).1 = .ok c → _ at line
  rw [run] at added line
  refine ⟨added.trans ?_, line⟩
  change w.exchanges ++ [.connect env (svc.witnessed.connect env w).1] = _
  rw [run]

/-- Exchanges are only ever added. -/
theorem Service.Calls.exchanges {svc : Service σ κ} {kerberos : Kerberos σ} {w w' : Witnessed σ κ}
    (calls : svc.witnessed.Calls kerberos.witnessed w w') : w.exchanges <+: w'.exchanges := by
  induction calls with
  | refl => exact List.prefix_rfl
  | tail _ call ih =>
    refine ih.trans ?_
    cases call with
    | login => exact List.prefix_rfl
    | _ => exact List.prefix_append ..

/-- A caller who is alone with a pool takes its steps, or makes other calls meanwhile. -/
inductive Turn.Alone (svc : Service σ κ) (kerberos : Kerberos σ) (server : Server) :
    Turn σ κ → Turn σ κ → Prop
  | move {a b} (move : Move svc server a b) : Turn.Alone svc kerberos server a b
  | meanwhile {caller p w w'} (call : svc.Call kerberos w w') :
    Turn.Alone svc kerberos server ⟨caller, p, w⟩ ⟨caller, p, w'⟩

variable {svc : Service σ κ} {kerberos : Kerberos σ} {server : Server}

theorem Move.calls {a b : Turn σ κ} (move : Move svc server a b) : svc.Calls kerberos a.world b.world := by
  cases move with
  | @connected _ w _ _ opened =>
    have call : svc.Call kerberos w (svc.connect (Environment.bind server) w).2 := .connect
    rw [opened] at call
    exact .single call
  | @refused _ w _ _ refused =>
    have call : svc.Call kerberos w (svc.connect (Environment.bind server) w).2 := .connect
    rw [refused] at call
    exact .single call
  | close => exact .single .close
  | closeNext => exact .single .close
  | _ => exact .refl

namespace Turn.Alone

variable {a b : Turn σ κ}

/-- No permits are in use but the caller's own. -/
theorem permits (alone : ReflTransGen (Turn.Alone svc kerberos server) a b)
    (own : a.pool.inUse = a.caller.permits) :
    b.pool.inUse = b.caller.permits ∧ b.pool.size = a.pool.size := by
  induction alone with
  | refl => exact ⟨own, rfl⟩
  | tail _ step ih =>
    obtain ⟨held, size⟩ := ih
    cases step with
    | move move =>
      have permits := move.permits held.ge
      exact ⟨by omega, move.size.trans size⟩
    | meanwhile call => exact ⟨held, size⟩

theorem of_calls (caller : Caller κ) (p : Pool κ) {w w' : σ} (calls : svc.Calls kerberos w w') :
    ReflTransGen (Turn.Alone svc kerberos server) ⟨caller, p, w⟩ ⟨caller, p, w'⟩ := by
  induction calls with
  | refl => exact .refl
  | tail _ call ih => exact ih.tail (.meanwhile call)

end Turn.Alone

/-- The connection was opened, or there before, when it said that it was closed. -/
def Lost (svc : Service σ κ) (kerberos : Kerberos σ) (had : List (Line κ)) (w w' : Witnessed σ κ)
    (c : Line κ) : Prop :=
  ∃ now, svc.witnessed.Calls kerberos.witnessed w now ∧ svc.witnessed.Calls kerberos.witnessed now w' ∧
    c ∈ had ++ now.exchanges.flatMap Exchange.opened ∧ svc.isClosed c.name now.world

/-- Between two worlds, some exchanges `own` were made with connections that were open then. Of the
connections that were open in the end, all are left but the lost ones. -/
structure Settled (svc : Service σ κ) (kerberos : Kerberos σ) (had : List (Line κ)) (w : Witnessed σ κ)
    (own : List (Exchange κ)) (left : List (Line κ)) (w' : Witnessed σ κ) : Prop where
  calls : svc.witnessed.Calls kerberos.witnessed w w'
  kept : own ⊆ w'.exchanges
  live : ∃ lost, Live had own (left ++ lost) ∧ ∀ c ∈ lost, Lost svc kerberos had w w' c

namespace Settled

variable {had between left : List (Line κ)} {w w' w'' : Witnessed σ κ} {own more : List (Exchange κ)}

theorem refl (had : List (Line κ)) (w : Witnessed σ κ) : Settled svc kerberos had w [] had w where
  calls := .refl
  kept := List.nil_subset _
  live := ⟨[], (List.append_nil had).symm ▸ .refl had, nofun⟩

theorem kept_opened (settled : Settled svc kerberos had w own between w')
    (calls : svc.witnessed.Calls kerberos.witnessed w' w'') {c : Line κ}
    (member : c ∈ own.flatMap Exchange.opened) : c ∈ w''.exchanges.flatMap Exchange.opened := by
  obtain ⟨x, own, opened⟩ := List.mem_flatMap.1 member
  exact List.mem_flatMap.2 ⟨x, calls.exchanges.subset (settled.kept own), opened⟩

theorem trans (first : Settled svc kerberos had w own between w')
    (second : Settled svc kerberos between w' more left w'') :
    Settled svc kerberos had w (own ++ more) left w'' where
  calls := first.calls.trans second.calls
  kept := List.append_subset.2 ⟨fun _ member => second.calls.exchanges.subset (first.kept member), second.kept⟩
  live := by
    obtain ⟨lost, live, gone⟩ := first.live
    obtain ⟨lost', live', gone'⟩ := second.live
    refine ⟨lost' ++ lost, ?_, ?_⟩
    · rw [← List.append_assoc]
      exact live.append (live'.frame lost)
    · intro c member
      obtain member | member := List.mem_append.1 member
      · obtain ⟨now, before, after, known, closed⟩ := gone' c member
        refine ⟨now, first.calls.trans before, after, ?_, closed⟩
        -- What was there in between was there before, or was opened since.
        obtain there | opened := List.mem_append.1 known
        · have left : c ∈ (between ++ lost) ++ own.flatMap Exchange.closed := by simp [there]
          obtain there | opened := List.mem_append.1 (live.accounts.symm.subset left)
          · exact List.mem_append_left _ there
          · exact List.mem_append_right _ (first.kept_opened before opened)
        · exact List.mem_append_right _ opened
      · obtain ⟨now, before, after, rest⟩ := gone c member
        exact ⟨now, before, after.trans second.calls, rest⟩

theorem frame (settled : Settled svc kerberos had w own left w') (others : List (Line κ)) :
    Settled svc kerberos (had ++ others) w own (left ++ others) w' where
  calls := settled.calls
  kept := settled.kept
  live := by
    obtain ⟨lost, live, gone⟩ := settled.live
    refine ⟨lost, (live.frame others).perm (.refl _) (perm_append_right_comm ..), fun c member => ?_⟩
    obtain ⟨now, before, after, known, closed⟩ := gone c member
    refine ⟨now, before, after, ?_, closed⟩
    exact (perm_append_right_comm ..).subset (List.mem_append_left others known)

theorem perm {had' left' : List (Line κ)} (settled : Settled svc kerberos had w own left w')
    (before : had'.Perm had) (after : left.Perm left') : Settled svc kerberos had' w own left' w' where
  calls := settled.calls
  kept := settled.kept
  live := by
    obtain ⟨lost, live, gone⟩ := settled.live
    refine ⟨lost, live.perm before (after.append_right lost), fun c member => ?_⟩
    obtain ⟨now, toNow, fromNow, known, closed⟩ := gone c member
    exact ⟨now, toNow, fromNow, (before.append_right _).symm.subset known, closed⟩

theorem meanwhile (settled : Settled svc kerberos had w own left w')
    (calls : svc.witnessed.Calls kerberos.witnessed w' w'') : Settled svc kerberos had w own left w'' where
  calls := settled.calls.trans calls
  kept := fun _ member => calls.exchanges.subset (settled.kept member)
  live := by
    obtain ⟨lost, live, gone⟩ := settled.live
    refine ⟨lost, live, fun c member => ?_⟩
    obtain ⟨now, before, after, rest⟩ := gone c member
    exact ⟨now, before, after.trans calls, rest⟩

end Settled

/-- From `a` to `b`, a caller does what a caller alone can do, and its exchanges are `own`. -/
structure Tended (svc : Service σ κ) (kerberos : Kerberos σ) (server : Server)
    (a : Turn (Witnessed σ κ) (Line κ)) (own : List (Exchange κ)) (b : Turn (Witnessed σ κ) (Line κ)) :
    Prop where
  added : b.world.exchanges = a.world.exchanges ++ own
  path : ReflTransGen (Turn.Alone svc.witnessed kerberos.witnessed server) a b
  settled : Settled svc kerberos a.connections a.world own b.connections b.world
  toward : ∀ env ∈ own.flatMap Exchange.attempt, env = Environment.bind server ∨ env.IsGuest server

namespace Tended

variable {a b c : Turn (Witnessed σ κ) (Line κ)} {own more : List (Exchange κ)}

theorem refl (a : Turn (Witnessed σ κ) (Line κ)) : Tended svc kerberos server a [] a where
  added := (List.append_nil _).symm
  path := .refl
  settled := .refl a.connections a.world
  toward := nofun

theorem trans (first : Tended svc kerberos server a own b) (second : Tended svc kerberos server b more c) :
    Tended svc kerberos server a (own ++ more) c where
  added := by rw [second.added, first.added, List.append_assoc]
  path := first.path.trans second.path
  settled := first.settled.trans second.settled
  toward env member := by
    rw [List.flatMap_append] at member
    exact (List.mem_append.1 member).elim (first.toward env) (second.toward env)

/-- A step is to be accounted for by its exchanges, which the connections are open for. -/
theorem ofStep (dropped : List (Line κ)) (move : Move svc.witnessed server a b)
    (added : b.world.exchanges = a.world.exchanges ++ own)
    (live : Live a.connections own (b.connections ++ dropped))
    (closed : ∀ c ∈ dropped, c ∈ a.connections ∧ svc.isClosed c.name a.world.world)
    (toward : ∀ env ∈ own.flatMap Exchange.attempt, env = Environment.bind server) :
    Tended svc kerberos server a own b where
  added := added
  path := .single (.move move)
  settled := by
    refine ⟨move.calls, added ▸ List.subset_append_right .., dropped, live, fun c member => ?_⟩
    obtain ⟨there, closed⟩ := closed c member
    exact ⟨a.world, .refl, move.calls, List.mem_append_left _ there, closed⟩
  toward env member := .inl (toward env member)

theorem of_move (move : Move svc.witnessed server a b) : ∃ own, Tended svc kerberos server a own b := by
  cases move.effect with
  | quiet dropped same closed perm =>
    refine ⟨[], ofStep dropped move (by rw [same, List.append_nil]) (.nil perm) (fun c member => ?_) nofun⟩
    exact ⟨perm.symm.subset (List.mem_append_right _ member), closed c member⟩
  | opening c opened perm =>
    obtain ⟨added, -⟩ := Service.witnessed_connect opened
    have live : Live a.connections [.connect (Environment.bind server) (.ok c)] b.connections :=
      .single nofun ((List.perm_append_singleton c _).trans (by simpa [Exchange.closed] using perm.symm))
    refine ⟨_, ofStep [] move added (by simpa using live) nofun fun env member => ?_⟩
    exact List.mem_singleton.1 member
  | refused e refused same =>
    obtain ⟨added, -⟩ := Service.witnessed_connect refused
    have live : Live a.connections [.connect (Environment.bind server) (.error e)] b.connections :=
      .single nofun (same ▸ .refl _)
    refine ⟨_, ofStep [] move added (by simpa using live) nofun fun env member => ?_⟩
    exact List.mem_singleton.1 member
  | closing c closed perm =>
    have added : b.world.exchanges = a.world.exchanges ++ [.close c (svc.witnessed.close c a.world).1] := by
      rw [closed]
      rfl
    have live : Live a.connections [.close c (svc.witnessed.close c a.world).1] b.connections :=
      .single (fun x member => perm.symm.subset (List.mem_append_right _ member))
        (by simpa only [Exchange.opened, Exchange.closed, List.append_nil] using perm)
    refine ⟨_, ofStep [] move added ((List.append_nil _).symm ▸ live) nofun fun env member => ?_⟩
    exact nomatch member

theorem of_moves (moves : Moves svc.witnessed server a b) : ∃ own, Tended svc kerberos server a own b := by
  induction moves with
  | refl => exact ⟨[], .refl a⟩
  | @tail b c _ move ih =>
    obtain ⟨own, tended⟩ := ih
    obtain ⟨more, next⟩ : ∃ more, Tended svc kerberos server b more c := of_move move
    exact ⟨own ++ more, tended.trans next⟩

/-- Guests come and go, and the caller may have a connection of its own meanwhile. -/
theorem of_guests (caller : Caller (Line κ)) (p : Pool (Line κ)) {w w' : Witnessed σ κ}
    (calls : svc.witnessed.Calls kerberos.witnessed w w') (added : w'.exchanges = w.exchanges ++ own)
    (guests : Guests server caller.connections own) :
    Tended svc kerberos server ⟨caller, p, w⟩ own ⟨caller, p, w'⟩ where
  added := added
  path := Turn.Alone.of_calls caller p calls
  settled := by
    have live : Live (p.idle ++ caller.connections) own (p.idle ++ caller.connections) :=
      (guests.live.frame p.idle).perm List.perm_append_comm List.perm_append_comm
    exact ⟨calls, added ▸ List.subset_append_right .., [], (List.append_nil _).symm ▸ live, nofun⟩
  toward env member := .inr (guests.guests env member)

end Tended

/-- A caller of a factory's pool, in a world. -/
def Factory.turn (f : Factory κ) (caller : Caller κ) (w : σ) : Turn σ κ := ⟨caller, f.pool, w⟩

/-- A caller who is away has no connections. -/
theorem Factory.turn_connections (f : Factory κ) (w : σ) : (f.turn .away w).connections = f.pool.idle :=
  List.append_nil _

/-- All permits are there. -/
def Pool.Free (p : Pool κ) : Prop := p.inUse = 0 ∧ 0 < p.size

theorem Tended.free {f f' : Factory (Line κ)} {own : List (Exchange κ)} {w w' : Witnessed σ κ}
    (tended : Tended svc kerberos server (f.turn .away w) own (f'.turn .away w')) (free : f.pool.Free) :
    f'.pool.Free := by
  obtain ⟨inUse, size⟩ := Turn.Alone.permits tended.path free.1
  exact ⟨inUse, size ▸ free.2⟩

namespace Act

variable {α β : Type}

/-- All is tended to while a caller and a factory get from `before` to `after`. -/
def Tends (svc : Service σ κ) (kerberos : Kerberos σ) (before : Caller (Line κ) × Factory (Line κ))
    (act : Act (Witnessed σ κ) α) (after : α → Caller (Line κ) × Factory (Line κ)) : Prop :=
  ∀ t, (after (act t).1).2.server = before.2.server ∧
    ∃ own, Tended svc kerberos before.2.server (before.2.turn before.1 t.world) own
      ((after (act t).1).2.turn (after (act t).1).1 (act t).2.world)

namespace Tends

variable {before : Caller (Line κ) × Factory (Line κ)} {after : β → Caller (Line κ) × Factory (Line κ)}

theorem pure {b : β} (same : after b = before) : Tends svc kerberos before (pure b) after := by
  intro t
  change (after b).2.server = _ ∧ ∃ own, Tended _ _ _ _ own ((after b).2.turn (after b).1 t.world)
  rw [same]
  exact ⟨rfl, [], .refl _⟩

theorem bind {act : Act (Witnessed σ κ) α} {between : α → Caller (Line κ) × Factory (Line κ)}
    {next : α → Act (Witnessed σ κ) β} (first : Tends svc kerberos before act between)
    (second : ∀ a, Tends svc kerberos (between a) (next a) after) :
    Tends svc kerberos before (act >>= next) after := by
  intro t
  obtain ⟨same, own, tended⟩ := first t
  obtain ⟨same', more, later⟩ := second (act t).1 (act t).2
  exact ⟨same'.trans same, own ++ more, tended.trans (same ▸ later)⟩

theorem andThen {act : Act (Witnessed σ κ) α} {next : α → Act (Witnessed σ κ) β}
    (same : ∀ t, (act t).2.world = t.world)
    (second : ∀ a, Tends svc kerberos before (next a) after) :
    Tends svc kerberos before (act >>= next) after := by
  intro t
  obtain ⟨server, own, tended⟩ := second (act t).1 (act t).2
  rw [same t] at tended
  exact ⟨server, own, tended⟩

theorem guests {act : Act (Witnessed σ κ) α} (leads : act.Leads (svc.witnessed.Call kerberos.witnessed))
    (guests : act.Adds fun _ es => Guests before.2.server before.1.connections es) :
    Tends svc kerberos before act fun _ => before := by
  intro t
  obtain ⟨own, added, guests⟩ := guests t
  exact ⟨rfl, own, .of_guests before.1 before.2.pool (leads t) added guests⟩

end Tends

end Act

namespace Pool

variable (svc : Service σ κ) (kerberos : Kerberos σ) (f : Factory (Line κ))

theorem bind_tends (permit : f.pool.hasPermit) :
    Act.Tends svc kerberos (.away, f) (f.pool.bind svc.witnessed f.server)
      fun bound => (.ofBound bound.1, { f with pool := bound.2 }) :=
  fun t => ⟨rfl, Tended.of_moves (bind_moves svc.witnessed f.server permit t)⟩

theorem release_tends (c : Line κ) : Act.Tends svc kerberos (.holding c, f) (f.pool.release svc.witnessed c)
    fun pool => (.away, { f with pool }) :=
  fun t => ⟨rfl, Tended.of_moves (release_moves svc.witnessed f.server c f.pool t)⟩

theorem discard_tends (c : Line κ) : Act.Tends svc kerberos (.holding c, f) (f.pool.discard svc.witnessed c)
    fun pool => (.away, { f with pool }) :=
  fun t => ⟨rfl, Tended.of_moves (discard_moves svc.witnessed f.server c f.pool t)⟩

theorem closeIdle_tends : Act.Tends svc kerberos (.away, f) (f.pool.closeIdle svc.witnessed f.server)
    fun pool => (.away, { f with pool }) :=
  fun t => ⟨rfl, Tended.of_moves (closeIdle_moves svc.witnessed f.server f.pool t)⟩

end Pool

namespace Factory

variable (svc : Service σ κ) (kerberos : Kerberos σ) (f : Factory (Line κ))

/-- From a free pool to a free pool, with all tended to on the way. -/
def Tends {α : Type} (act : Act (Witnessed σ κ) (α × Factory (Line κ))) : Prop :=
  f.pool.Free → Act.Tends svc kerberos (.away, f) act fun found => (.away, found.2)

variable {svc kerberos f}

theorem Tends.bind {α β : Type} {act : Act (Witnessed σ κ) (α × Factory (Line κ))}
    {next : α × Factory (Line κ) → Act (Witnessed σ κ) (β × Factory (Line κ))}
    (first : f.Tends svc kerberos act)
    (second : ∀ (a : α) (f' : Factory (Line κ)), f'.Tends svc kerberos (next (a, f'))) :
    f.Tends svc kerberos (act >>= next) := by
  intro free t
  obtain ⟨same, own, tended⟩ := first free t
  obtain ⟨same', more, later⟩ := second (act t).1.1 (act t).1.2 (tended.free free) (act t).2
  exact ⟨same'.trans same, own ++ more, tended.trans (same ▸ later)⟩

variable (svc kerberos f)

theorem lookup_tends (r : Request) (mode : FindMode) : f.Tends svc kerberos (f.lookup svc.witnessed r mode) := by
  intro free
  have permit : f.pool.hasPermit := decide_eq_true (free.1 ▸ free.2)
  refine .bind (Pool.bind_tends svc kerberos f permit) ?_
  rintro ⟨bound, pool⟩
  cases bound with
  | error e => exact .pure rfl
  | ok c =>
    have search : Act.Tends svc kerberos (.holding c, { f with pool })
        (Search.find svc.witnessed f.server c r mode) fun _ => (.holding c, { f with pool }) :=
      .guests (Search.find_leads _ _ f.server c r mode)
        ((Search.find_adds svc f.server c r mode).mono fun _ _ ⟨_, _, es, found⟩ => es ▸ found.guests)
    have back := Pool.release_tends svc kerberos { f with pool } c
    refine .bind search fun found => ?_
    cases found with
    | ok entries => exact .bind back fun pool => .pure rfl
    | error e =>
      dsimp only
      split
      · exact .bind (Pool.discard_tends svc kerberos { f with pool } c) fun pool => .pure rfl
      · exact .bind back fun pool => .pure rfl

theorem testConnection_tends : f.Tends svc kerberos (f.testConnection svc.witnessed) := by
  intro free
  have permit : f.pool.hasPermit := decide_eq_true (free.1 ▸ free.2)
  unfold testConnection
  split
  · exact .pure rfl
  · refine .bind (Pool.bind_tends svc kerberos f permit) ?_
    rintro ⟨bound, pool⟩
    cases bound with
    | error e => exact .andThen (fun _ => rfl) fun _ => .pure rfl
    | ok c =>
      exact .bind (Pool.release_tends svc kerberos { f with pool } c) fun pool =>
        .andThen (fun _ => rfl) fun _ => .pure rfl

end Factory

end DirectoryLogin
