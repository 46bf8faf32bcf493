import DirectoryLogin.Proofs.Sweep
import Mathlib.Data.List.Forall2

namespace DirectoryLogin

open Relation (ReflTransGen)

variable {σ κ : Type} {svc : Service σ κ} {kerberos : Kerberos σ}

theorem Environment.not_isGuest_bind (server : Server) : ¬ (Environment.bind server).IsGuest server := by
  rintro (⟨principal, credential, same⟩ | ⟨url, same⟩)
  · exact Bool.noConfusion (congrArg Environment.pooled same)
  · exact Bool.noConfusion (congrArg Environment.pooled same)

/-- At most one permit is in use, and no guest is with the pool or with its caller. -/
structure Turn.Proper (server : Server) (a : Turn σ (Line κ)) : Prop where
  few : a.pool.inUse ≤ 1
  bound : ∀ c ∈ a.connections, c.env = Environment.bind server ∧ ¬ c.env.IsGuest server

theorem Turn.Proper.ofServer (server : Server) (w : σ) :
    Turn.Proper server ⟨.away, (Factory.ofServer (κ := Line κ) server).pool, w⟩ where
  few := Nat.zero_le 1
  bound := nofun

theorem Move.bound {server : Server} {a b : Turn (Witnessed σ κ) (Line κ)} (move : Move svc.witnessed server a b)
    (bound : ∀ c ∈ a.connections, c.env = Environment.bind server ∧ ¬ c.env.IsGuest server) :
    ∀ c ∈ b.connections, c.env = Environment.bind server ∧ ¬ c.env.IsGuest server := by
  intro c member
  cases move.effect with
  | quiet dropped _ _ perm => exact bound c (perm.symm.subset (List.mem_append_left _ member))
  | opening c' opened perm =>
    obtain rfl | there := List.mem_cons.1 (perm.subset member)
    · have env : c.env = Environment.bind server := (Service.witnessed_connect opened).2 c rfl
      exact ⟨env, env ▸ Environment.not_isGuest_bind server⟩
    · exact bound c there
  | refused e _ same => exact bound c (same ▸ member)
  | closing c' _ perm => exact bound c (perm.symm.subset (List.mem_append_left _ member))

/-- What a caller alone does to a pool with all permits, step by step. -/
abbrev Turn.Path (svc : Service σ κ) (kerberos : Kerberos σ) (server : Server) :
    Turn (Witnessed σ κ) (Line κ) → Turn (Witnessed σ κ) (Line κ) → Prop :=
  ReflTransGen fun a b => Turn.Alone svc.witnessed kerberos.witnessed server a b ∧ b.Proper server

theorem Turn.Alone.proper {server : Server} {a b : Turn (Witnessed σ κ) (Line κ)}
    (path : ReflTransGen (Turn.Alone svc.witnessed kerberos.witnessed server) a b)
    (own : a.pool.inUse = a.caller.permits) (proper : a.Proper server) :
    Turn.Path svc kerberos server a b ∧ b.Proper server := by
  have few (caller : Caller (Line κ)) : caller.permits ≤ 1 := by cases caller <;> simp
  induction path with
  | refl => exact ⟨.refl, proper⟩
  | @tail b c before step ih =>
    obtain ⟨path, here⟩ := ih
    have held := (Turn.Alone.permits (before.tail step) own).1
    have proper : c.Proper server := by
      refine ⟨held ▸ few c.caller, ?_⟩
      cases step with
      | move move => exact move.bound here.bound
      | meanwhile => exact here.bound
    exact ⟨path.tail ⟨step, proper⟩, proper⟩

/-- What holds of a server since the world `start`, all exchanges with it being `own`. -/
structure Kept (svc : Service σ κ) (kerberos : Kerberos σ) (start : Witnessed σ κ) (f : Factory (Line κ))
    (own : List (Exchange κ)) (w : Witnessed σ κ) : Prop where
  /-- All connections that are open wait in the pool, but those that said that they were closed. -/
  settled : Settled svc kerberos [] start own f.pool.idle w
  toward : ∀ env ∈ own.flatMap Exchange.attempt,
    env = Environment.bind f.server ∨ env.IsGuest f.server
  free : f.pool.Free
  proper : (f.turn .away w).Proper f.server
  /-- At all times it was so. -/
  path : Turn.Path svc kerberos f.server (Factory.turn (.ofServer f.server) .away start) (f.turn .away w)

namespace Kept

variable {start w w' : Witnessed σ κ} {f f' : Factory (Line κ)} {own more : List (Exchange κ)}

theorem ofServer (server : Server) (start : Witnessed σ κ) :
    Kept svc kerberos start (.ofServer server) [] start where
  settled := .refl [] start
  toward := nofun
  free := ⟨rfl, Nat.lt_of_lt_of_le Nat.one_pos (Nat.le_max_right _ 1)⟩
  proper := .ofServer server start
  path := .refl

/-- Whatever waits is a bind connection. -/
theorem bound (kept : Kept svc kerberos start f own w) :
    ∀ c ∈ f.pool.idle, c.env = Environment.bind f.server ∧ ¬ c.env.IsGuest f.server :=
  f.turn_connections w ▸ kept.proper.bound

/-- While others are tended to. -/
theorem meanwhile (kept : Kept svc kerberos start f own w)
    (calls : svc.witnessed.Calls kerberos.witnessed w w') : Kept svc kerberos start f own w' where
  settled := kept.settled.meanwhile calls
  toward := kept.toward
  free := kept.free
  proper := ⟨kept.proper.few, kept.proper.bound⟩
  path := kept.path.trans
    (Turn.Alone.proper (Turn.Alone.of_calls .away f.pool calls) kept.free.1 kept.proper).1

theorem step (kept : Kept svc kerberos start f own w) (same : f'.server = f.server)
    (tended : Tended svc kerberos f.server (f.turn .away w) more (f'.turn .away w')) :
    Kept svc kerberos start f' (own ++ more) w' := by
  have settled := tended.settled
  rw [Factory.turn_connections, Factory.turn_connections] at settled
  obtain ⟨path, proper⟩ := Turn.Alone.proper tended.path kept.free.1 kept.proper
  refine ⟨kept.settled.trans settled, fun env member => ?_, tended.free kept.free, ?_, ?_⟩
  · rw [same]
    rw [List.flatMap_append] at member
    exact (List.mem_append.1 member).elim (kept.toward env) (tended.toward env)
  · rw [same]
    exact proper
  · rw [same]
    exact kept.path.trans path

end Kept

section Sweeps

variable {fs fs' : List (Factory (Line κ))} {owns mores : List (List (Exchange κ))} {w w' : Witnessed σ κ}

/-- All connections that wait in some pools. -/
def waiting (fs : List (Factory κ)) : List κ := fs.flatMap fun f => f.pool.idle

theorem Swept.added (swept : Swept svc kerberos fs w owns fs' w') :
    w'.exchanges = w.exchanges ++ owns.flatten := by
  induction swept with
  | nil => exact (List.append_nil _).symm
  | @cons f w own f' between rest owns rest' w' same tended _ ih =>
    have here : between.exchanges = w.exchanges ++ own := tended.added
    rw [ih, here, List.append_assoc, List.flatten_cons]

theorem Swept.servers (swept : Swept svc kerberos fs w owns fs' w') :
    fs'.map Factory.server = fs.map Factory.server := by
  induction swept with
  | nil => rfl
  | cons same _ _ ih => rw [List.map_cons, List.map_cons, same, ih]

theorem Swept.settled (swept : Swept svc kerberos fs w owns fs' w') :
    Settled svc kerberos (waiting fs) w owns.flatten (waiting fs') w' := by
  induction swept with
  | nil => exact .refl [] _
  | @cons f w own f' between rest owns rest' w' same tended later ih =>
    have here := tended.settled
    rw [Factory.turn_connections, Factory.turn_connections] at here
    have others : Settled svc kerberos (f'.pool.idle ++ waiting rest) between owns.flatten
        (f'.pool.idle ++ waiting rest') w' :=
      (ih.frame f'.pool.idle).perm List.perm_append_comm List.perm_append_comm
    exact (here.frame (waiting rest)).trans others

/-- A sweep keeps all servers. What it does falls to one of them each. -/
theorem Swept.kept {start : Witnessed σ κ} (swept : Swept svc kerberos fs w mores fs' w')
    (kept : List.Forall₂ (fun f own => Kept svc kerberos start f own w) fs owns) :
    ∃ owns', List.Forall₂ (fun f own => Kept svc kerberos start f own w') fs' owns' ∧
      owns'.flatten.Perm (owns.flatten ++ mores.flatten) := by
  induction swept generalizing owns with
  | nil =>
    cases kept
    exact ⟨[], .nil, .refl _⟩
  | @cons f w more f' between rest mores rest' w' same tended later ih =>
    cases kept with
    | @cons _ own _ owns here others =>
      obtain ⟨owns', kept, perm⟩ := ih (others.imp fun _ _ kept => kept.meanwhile tended.settled.calls)
      refine ⟨(own ++ more) :: owns', .cons ((here.step same tended).meanwhile later.settled.calls) kept, ?_⟩
      calc (own ++ more) ++ owns'.flatten
        _ = own ++ (more ++ owns'.flatten) := List.append_assoc ..
        _ |>.Perm (own ++ (more ++ (owns.flatten ++ mores.flatten))) :=
          (perm.append_left more).append_left own
        _ |>.Perm (own ++ (owns.flatten ++ (more ++ mores.flatten))) :=
          (List.perm_append_comm_assoc ..).append_left own
        _ = (own ++ owns.flatten) ++ (more ++ mores.flatten) := (List.append_assoc ..).symm

theorem Kept.all_free {start : Witnessed σ κ}
    (kept : List.Forall₂ (fun f own => Kept svc kerberos start f own w) fs owns) :
    ∀ f ∈ fs, f.pool.Free :=
  ((List.forall₂_and_left _ _).1 (kept.imp fun _ _ here => ⟨here.free, here⟩)).1

theorem Kept.all_bound {start : Witnessed σ κ}
    (kept : List.Forall₂ (fun f own => Kept svc kerberos start f own w) fs owns) :
    ∀ f ∈ fs, ∀ c ∈ f.pool.idle, c.env = Environment.bind f.server :=
  ((List.forall₂_and_left _ _).1
    (kept.imp fun _ _ here => ⟨fun c member => (here.bound c member).1, here⟩)).1

end Sweeps

namespace Operation

/-- Any operations one after the other keep all servers. -/
theorem performAll_kept (svc : Service σ κ) (kerberos : Kerberos σ) (operations : List Operation)
    (start : Witnessed σ κ) (r : Resolver (Line κ)) (t : Trace (Witnessed σ κ))
    {owns : List (List (Exchange κ))}
    (kept : List.Forall₂ (fun f own => Kept svc kerberos start f own t.world) r.factories owns) :
    let run := performAll svc.witnessed kerberos.witnessed operations r t
    ∃ owns' mores, List.Forall₂ (fun f own => Kept svc kerberos start f own run.2.world)
        run.1.factories owns' ∧
      run.1.factories.map Factory.server = r.factories.map Factory.server ∧
      run.2.world.exchanges = t.world.exchanges ++ mores ∧ owns'.flatten.Perm (owns.flatten ++ mores) ∧
      Settled svc kerberos (waiting r.factories) t.world mores (waiting run.1.factories) run.2.world := by
  induction operations generalizing r t owns with
  | nil => exact ⟨owns, [], kept, rfl, (List.append_nil _).symm, by rw [List.append_nil], .refl _ _⟩
  | cons operation rest ih =>
    obtain ⟨mores, swept⟩ := perform_sweeps svc kerberos r operation (Kept.all_free kept) t
    obtain ⟨owns', kept', perm⟩ := swept.kept kept
    obtain ⟨owns'', later, kept'', same, added, perm', settled⟩ := ih _ _ kept'
    refine ⟨owns'', mores.flatten ++ later, kept'', same.trans swept.servers, ?_, ?_, swept.settled.trans settled⟩
    · rw [← List.append_assoc, ← swept.added]
      exact added
    · rw [← List.append_assoc]
      exact perm'.trans (perm.append_right later)

end Operation

end DirectoryLogin
