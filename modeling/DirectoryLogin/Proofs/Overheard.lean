import DirectoryLogin.Proofs.Alike
import Mathlib.Data.List.Basic

namespace DirectoryLogin

/-- What directories and Kerberos are asked, each connection being a number. -/
inductive Ask
  | connect (env : Environment)
  | search (n : Nat) (base : String) (scope : Scope) (filter : String) (attributes : List String)
  | next (n : Nat)
  | abandon (n : Nat)
  | close (n : Nat)
  | login (principal password : String)
  deriving DecidableEq

/-- What they answer. -/
inductive Response
  | done (outcome : Except Error Unit)
  | item (outcome : Except Error (Option Item))
  | verdict (outcome : Except Error Bool)
  deriving DecidableEq

/-- A question with its answer, and which of the connections are closed after it. -/
structure Utterance where
  asked : Ask
  response : Response
  closed : List Bool

/-- Who has logged what: the resolver itself, or a Kerberos login. -/
structure Journal where
  /-- What the resolver itself had logged when the last Kerberos login began. -/
  own : List Event := []
  /-- How long the log was when the last Kerberos login was over. -/
  upTo : Nat := 0
  /-- What each Kerberos login added to the log, unless it did anything else to it. -/
  notes : List (Option (List Event)) := []

/-- A world with what has been said in it, oldest first. -/
structure Overheard (σ κ : Type) where
  world : σ
  /-- The connections, each at its number. -/
  names : List κ
  /-- Which of the connections are closed. -/
  closed : List Bool
  said : List Utterance := []
  journal : Journal := {}

variable {σ κ α : Type}

namespace Overheard

/-- Nothing has been said yet. -/
def start (svc : Service σ κ) (names : List κ) (world : σ) : Overheard σ κ :=
  { world, names, closed := names.map (svc.isClosed · world) }

def hear (svc : Service σ κ) (w : Overheard σ κ) (asked : Ask) (response : Response) (opened : List κ) (world : σ) :
    Overheard σ κ :=
  let names := w.names ++ opened
  let closed := names.map (svc.isClosed · world)
  { w with world, names, closed, said := w.said ++ [{ asked, response, closed }] }

/-- Something is asked on the connection of a number. -/
def on (svc : Service σ κ) (n : Nat) (asked : Ask) (tell : Except Error α → Response)
    (step : κ → σ → Except Error α × σ) (w : Overheard σ κ) : Except Error α × Overheard σ κ :=
  let (outcome, world) := match w.names[n]? with
    | some c => step c w.world
    | none => (.error .timeout, w.world)
  (outcome, w.hear svc asked (tell outcome) [] world)

/-- What the resolver itself has logged. -/
def ownLog (t : Trace (Overheard σ κ)) : List Event :=
  t.world.journal.own ++ t.log.drop t.world.journal.upTo

/-- The number is that of the connection. -/
def Named (w : Overheard σ κ) (c : κ) (n : Nat) : Prop := w.names[n]? = some c

/-- Connections keep their numbers. -/
theorem Named.of_prefix {w v : Overheard σ κ} {c : κ} {n : Nat} (named : w.Named c n) (later : w.names <+: v.names) :
    v.Named c n := by
  obtain ⟨more, names⟩ := later
  rw [Named, ← names]
  exact List.getElem?_append_left (List.getElem?_eq_some_iff.1 named).1 ▸ named

theorem Named.on_eq {w : Overheard σ κ} {c : κ} {n : Nat} (named : w.Named c n) (svc : Service σ κ) (asked : Ask)
    (tell : Except Error α → Response) (step : κ → σ → Except Error α × σ) : w.on svc n asked tell step =
      ((step c w.world).1, w.hear svc asked (tell (step c w.world).1) [] (step c w.world).2) := by
  rw [Named] at named
  rw [on, named]

end Overheard

/-- The service with everything overheard that is said to it. -/
def Service.overheard (svc : Service σ κ) : Service (Overheard σ κ) Nat where
  supports := svc.supports
  connect env w :=
    let (outcome, world) := svc.connect env w.world
    (outcome.map fun _ => w.closed.length,
      w.hear svc (.connect env) (.done (outcome.map fun _ => ())) outcome.toOption.toList world)
  search n base scope filter attributes :=
    Overheard.on svc n (.search n base scope filter attributes) .done (svc.search · base scope filter attributes)
  next n := Overheard.on svc n (.next n) .item svc.next
  abandon n := Overheard.on svc n (.abandon n) .done svc.abandon
  close n := Overheard.on svc n (.close n) .done svc.close
  isClosed n w := w.closed[n]?.getD true
  remaining n w := w.names[n]?.elim 0 (svc.remaining · w.world)
  next_lt {n w item w'} took := by
    cases known : w.names[n]? with
    | none =>
      simp only [Overheard.on, known] at took
      cases took
    | some c =>
      rw [Overheard.Named.on_eq known, Prod.mk.injEq] at took
      obtain ⟨outcome, rfl⟩ := took
      let later := w.hear svc (.next n) (.item (svc.next c w.world).1) [] (svc.next c w.world).2
      have known' : later.names[n]? = some c := Overheard.Named.of_prefix known (List.prefix_append _ _)
      rw [known']
      exact svc.next_lt (Prod.ext outcome rfl)

/-- The Kerberos login beside the service, with everything overheard that is said to it. -/
def Kerberos.overheard (svc : Service σ κ) (kerberos : Kerberos σ) : Kerberos (Overheard σ κ) :=
  fun principal password t =>
    let (outcome, later) := kerberos principal password ⟨t.world.world, t.log⟩
    let journal : Journal :=
      { own := Overheard.ownLog t
        upTo := later.log.length
        notes := t.world.journal.notes ++ [t.log.isPrefixOf? later.log] }
    let world := t.world.hear svc (.login principal password) (.verdict outcome) [] later.world
    (outcome, { world := { world with journal }, log := later.log })

/-- What a Kerberos login logs is not logged by the resolver itself. -/
theorem Kerberos.ownLog_overheard (svc : Service σ κ) (kerberos : Kerberos σ) (principal password : String)
    (t : Trace (Overheard σ κ)) :
    Overheard.ownLog (kerberos.overheard svc principal password t).2 = Overheard.ownLog t := by
  let later := (kerberos principal password ⟨t.world.world, t.log⟩).2
  change Overheard.ownLog t ++ later.log.drop later.log.length = _
  rw [List.drop_length, List.append_nil]

namespace Overheard

/-- The one run is the other one, overheard. -/
def bond (svc : Service σ κ) : Bond σ (Overheard σ κ) where
  ready t t' := t'.world.world = t.world ∧ t'.log = t.log ∧
    t'.world.closed = t'.world.names.map (svc.isClosed · t'.world.world)
  later _ w' _ v' := w'.names <+: v'.names
  noted es ready := ⟨ready.1, congrArg (· ++ es) ready.2.1, ready.2.2⟩
  refl _ _ := List.prefix_rfl
  trans := List.IsPrefix.trans

theorem named_lasts (svc : Service σ κ) (c : κ) (n : Nat) : (bond svc).Lasts fun _ w' => w'.Named c n :=
  fun later named => named.of_prefix later

theorem all_named_lasts (svc : Service σ κ) (cs : List κ) (ns : List Nat) :
    (bond svc).Lasts fun _ w' => List.Forall₂ w'.Named cs ns :=
  fun later named => named.imp fun c n => named_lasts svc c n later

/-- The pools are the same but for the numbers. -/
structure Numbered (w : Overheard σ κ) (p : Pool κ) (p' : Pool Nat) : Prop where
  size : p'.size = p.size
  inUse : p'.inUse = p.inUse
  idle : List.Forall₂ w.Named p.idle p'.idle

theorem Numbered.free {w : Overheard σ κ} {p : Pool κ} {p' : Pool Nat} (numbered : w.Numbered p p') :
    w.Numbered p.free p'.free :=
  ⟨numbered.size, congrArg (· - 1) numbered.inUse, numbered.idle⟩

variable (svc : Service σ κ)

theorem numbered_lasts (p : Pool κ) (p' : Pool Nat) : (bond svc).Lasts fun _ w' => w'.Numbered p p' :=
  fun later numbered => ⟨numbered.size, numbered.inUse, all_named_lasts svc _ _ later numbered.idle⟩

/-- A step that is overheard. -/
theorem hear_abreast {β γ : Type} {before : σ → Overheard σ κ → Prop} {after : β → γ → σ → Overheard σ κ → Prop}
    (step : σ → β × σ) (step' : Overheard σ κ → γ × Overheard σ κ) (asked : Ask) (tell : β → Response)
    (opened : β → List κ) (heard : ∀ w w', before w w' → w'.world = w →
      (step' w').2 = w'.hear svc asked (tell (step w).1) (opened (step w).1) (step w).2)
    (holds : ∀ w w', before w w' → w'.world = w → w'.closed.length = w'.names.length →
      after (step w).1 (step' w').1 (step w).2 (step' w').2) :
    (bond svc).Abreast before (Act.perform step) (Act.perform step') after := by
  intro t t' ready start
  obtain ⟨world, log, closed⟩ := ready
  have next := heard _ _ start world
  refine ⟨⟨?_, log, ?_⟩, ?_, holds _ _ start world (by rw [closed, List.length_map])⟩
  · exact congrArg Overheard.world next
  · simp only [Act.perform, next]
    rfl
  · simp only [bond, Act.perform, next]
    exact List.prefix_append _ _

theorem on_abreast (c : κ) (n : Nat) (asked : Ask) (tell : Except Error α → Response)
    (step : κ → σ → Except Error α × σ) : (bond svc).Abreast (fun _ w' => w'.Named c n) (Act.perform (step c))
      (Act.perform (on svc n asked tell step)) fun outcome outcome' _ w' => outcome' = outcome ∧ w'.Named c n := by
  refine hear_abreast svc _ _ asked tell (fun _ => []) (fun w w' named same => ?_) fun w w' named same _ => ?_
  · rw [named.on_eq, same]
  · rw [named.on_eq, same]
    exact ⟨rfl, named.of_prefix (List.prefix_append _ _)⟩

theorem connect_abreast (env : Environment) : (bond svc).Abreast (fun _ _ => True) (Act.perform (svc.connect env))
    (Act.perform (svc.overheard.connect env)) fun outcome outcome' _ w' => Same w'.Named outcome outcome' := by
  refine hear_abreast svc _ _ (.connect env) (fun outcome => .done (outcome.map fun _ => ()))
    (fun outcome => outcome.toOption.toList) (fun w w' _ same => ?_) fun w w' _ same length => ?_
  · rw [← same]
    rfl
  · simp only [Service.overheard, same, length]
    cases (svc.connect env w).1 with
    | error e => exact .failed
    | ok c =>
      refine .done ?_
      simp [Named, hear, Except.toOption]

theorem login_abreast (kerberos : Kerberos σ) (principal password : String) : (bond svc).Abreast (fun _ _ => True)
    (kerberos principal password) (kerberos.overheard svc principal password)
    fun outcome outcome' _ _ => outcome = outcome' := by
  intro t t' ready _
  obtain ⟨world, log, -⟩ := ready
  have same : (⟨t'.world.world, t'.log⟩ : Trace σ) = t := by rw [world, log]
  simp only [Kerberos.overheard, same]
  exact ⟨⟨rfl, rfl, rfl⟩, List.prefix_append _ _, rfl⟩

theorem observe_abreast (c : κ) (n : Nat) : (bond svc).Abreast (fun _ w' => w'.Named c n)
    (Act.observe (svc.isClosed c)) (Act.observe (svc.overheard.isClosed n)) fun closed closed' _ _ =>
      closed = closed' := by
  intro t t' ready named
  refine ⟨ready, (bond svc).refl _ _, ?_⟩
  obtain ⟨world, -, closed⟩ := ready
  have known : t'.world.closed[n]? = some (svc.isClosed c t'.world.world) := by
    rw [closed, List.getElem?_map, named, Option.map_some]
  rw [world] at known
  exact (congrArg (Option.getD · true) known).symm

/-- What is found among waiting connections, and what is left of them. -/
structure Found (found : Option κ × List κ) (found' : Option Nat × List Nat) (w : Overheard σ κ) : Prop where
  alike : found'.1.isSome = found.1.isSome
  taken : ∀ c n, found.1 = some c → found'.1 = some n → w.Named c n
  left : List.Forall₂ w.Named found.2 found'.2

theorem takeOpen_abreast (server : Server) (idle : List κ) (idle' : List Nat) :
    (bond svc).Abreast (fun _ w' => List.Forall₂ w'.Named idle idle') (Pool.takeOpen svc server idle)
      (Pool.takeOpen svc.overheard server idle') fun found found' _ w' => w'.Found found found' := by
  induction idle generalizing idle' with
  | nil =>
    refine .knowing (fun _ _ => List.forall₂_nil_left_iff.1) ?_
    rintro rfl
    exact .pure fun _ _ none => ⟨rfl, nofun, none⟩
  | cons c older ih =>
    refine .knowing (fun _ _ named => named.length_eq.symm) fun length => ?_
    obtain ⟨n, older', rfl⟩ := List.exists_cons_of_length_eq_add_one length
    have both : (bond svc).Lasts fun _ w' => List.Forall₂ w'.Named older older' ∧ w'.Named c n :=
      fun later named => ⟨all_named_lasts svc _ _ later named.1, named_lasts svc c n later named.2⟩
    refine .bind (((observe_abreast svc c n).frame both).mono
      (fun _ _ named => ⟨(List.forall₂_cons.1 named).1, (List.forall₂_cons.1 named).symm⟩) fun _ _ _ _ => id)
      fun closed closed' => .fact ?_
    rintro rfl
    cases closed with
    | true => exact .bind (.note _) fun _ _ => (ih older').mono (fun _ _ => And.left) fun _ _ _ _ => id
    | false =>
      refine .pure fun _ _ named => ⟨rfl, ?_, named.1⟩
      rintro _ _ ⟨⟩ ⟨⟩
      exact named.2

theorem bind_abreast (server : Server) (p : Pool κ) (p' : Pool Nat) :
    (bond svc).Abreast (fun _ w' => w'.Numbered p p') (p.bind svc server) (p'.bind svc.overheard server)
      fun bound bound' _ w' => Same w'.Named bound.1 bound'.1 ∧ w'.Numbered bound.2 bound'.2 := by
  obtain ⟨size, inUse, idle⟩ := p
  obtain ⟨size', inUse', idle'⟩ := p'
  refine .knowing (fun _ _ numbered => And.intro numbered.size numbered.inUse) ?_
  dsimp only
  rintro ⟨rfl, rfl⟩
  refine .bind ((takeOpen_abreast svc server idle idle').mono (fun _ _ => Numbered.idle) fun _ _ _ _ => id) ?_
  rintro ⟨found, left⟩ ⟨found', left'⟩
  refine .knowing (fun _ _ => Found.alike) fun alike => ?_
  cases found with
  | some c =>
    obtain ⟨n, rfl⟩ := Option.isSome_iff_exists.1 alike
    exact .pure fun _ _ found => ⟨.done (found.taken c n rfl rfl), rfl, rfl, found.left⟩
  | none =>
    obtain rfl : found' = none := by simpa using alike
    refine .bind (.note _) fun _ _ => .bind (((connect_abreast svc _).frame (all_named_lasts svc left left')).mono
      (fun _ _ found => ⟨trivial, found.left⟩) fun _ _ _ _ => id) fun outcome outcome' => .sameWith ?_ ?_
    · rintro e rfl rfl
      exact .pure fun _ _ named => ⟨.failed, rfl, rfl, named⟩
    · rintro c n rfl rfl
      exact .pure fun _ _ named => ⟨.done named.1, rfl, rfl, named.2⟩

theorem release_abreast (c : κ) (n : Nat) (p : Pool κ) (p' : Pool Nat) :
    (bond svc).Abreast (fun _ w' => w'.Named c n ∧ w'.Numbered p p') (p.release svc c) (p'.release svc.overheard n)
      fun p p' _ w' => w'.Numbered p p' := by
  have lasts : (bond svc).Lasts fun _ w' => w'.Named c n ∧ w'.Numbered p p' :=
    fun later both => ⟨named_lasts svc c n later both.1, numbered_lasts svc p p' later both.2⟩
  refine .bind (((observe_abreast svc c n).frame lasts).mono (fun _ _ both => ⟨both.1, both⟩) fun _ _ _ _ => id)
    fun closed closed' => .fact ?_
  rintro rfl
  cases closed with
  | true => exact .pure fun _ _ both => both.2.free
  | false => exact .pure fun _ _ both => ⟨both.2.size, both.2.free.inUse, .cons both.1 both.2.idle⟩

theorem close_abreast (c : κ) (n : Nat) : (bond svc).Abreast (fun _ w' => w'.Named c n) (Act.perform (svc.close c))
    (Act.perform (svc.overheard.close n)) fun outcome outcome' _ _ => outcome = outcome' :=
  (on_abreast svc c n (.close n) .done svc.close).mono (fun _ _ => id) fun _ _ _ _ same => same.1.symm

theorem discard_abreast (c : κ) (n : Nat) (p : Pool κ) (p' : Pool Nat) :
    (bond svc).Abreast (fun _ w' => w'.Named c n ∧ w'.Numbered p p') (p.discard svc c) (p'.discard svc.overheard n)
      fun p p' _ w' => w'.Numbered p p' := by
  refine .bind ((close_abreast svc c n).frame (numbered_lasts svc p p')) fun outcome outcome' => .fact ?_
  rintro rfl
  cases outcome with
  | ok _ => exact .pure fun _ _ => Numbered.free
  | error e => exact .bind (.note _) fun _ _ => .pure fun _ _ => Numbered.free

theorem closeAll_abreast (server : Server) (cs : List κ) (ns : List Nat) :
    (bond svc).Abreast (fun _ w' => List.Forall₂ w'.Named cs ns) (Pool.closeAll svc server cs)
      (Pool.closeAll svc.overheard server ns) fun _ _ _ _ => True := by
  induction cs generalizing ns with
  | nil =>
    refine .knowing (fun _ _ => List.forall₂_nil_left_iff.1) ?_
    rintro rfl
    exact .pure fun _ _ _ => trivial
  | cons c rest ih =>
    refine .knowing (fun _ _ named => named.length_eq.symm) fun length => ?_
    obtain ⟨n, rest', rfl⟩ := List.exists_cons_of_length_eq_add_one length
    refine .bind (((close_abreast svc c n).frame (all_named_lasts svc rest rest')).mono
      (fun _ _ => List.forall₂_cons.1) fun _ _ _ _ => id) fun outcome outcome' => .fact ?_
    rintro rfl
    cases outcome with
    | ok _ => exact ih rest'
    | error e => exact .bind (.note _) fun _ _ => ih rest'

theorem closeIdle_abreast (server : Server) (p : Pool κ) (p' : Pool Nat) :
    (bond svc).Abreast (fun _ w' => w'.Numbered p p') (p.closeIdle svc server) (p'.closeIdle svc.overheard server)
      fun p p' _ w' => w'.Numbered p p' := by
  refine .bind (((closeAll_abreast svc server p.idle.reverse p'.idle.reverse).frame (numbered_lasts svc p p')).mono
    (fun _ _ numbered => ⟨List.rel_reverse numbered.idle, numbered⟩) fun _ _ _ _ => id) fun _ _ => ?_
  exact .pure fun _ _ both => ⟨both.2.size, both.2.inUse, .nil⟩

/-- To the resolver, the service that is overheard is like the service itself. -/
def alike (kerberos : Kerberos σ) : Alike svc kerberos svc.overheard (kerberos.overheard svc) where
  toBond := bond svc
  view _ := id
  view_dn _ _ := rfl
  view_values? _ _ := rfl
  opened c n _ w' := w'.Named c n
  running _ c n _ w' := w'.Named c n
  held _ c n _ w' := w'.Named c n
  pooled _ p p' _ w' := w'.Numbered p p'
  held_lasts _ := named_lasts svc
  pooled_lasts _ := numbered_lasts svc
  connect env := (connect_abreast svc env).mono (fun _ _ => id) fun _ _ _ _ same =>
    same.imp fun _ _ named => ⟨named, named⟩
  search {c n} base scope filter attributes :=
    (on_abreast svc c n _ .done (svc.search · base scope filter attributes)).mono (fun _ _ => id)
      fun _ _ _ _ both => ⟨both.1.symm, fun _ => both.2⟩
  next {_ c n} := (on_abreast svc c n (.next n) .item svc.next).mono (fun _ _ => id) fun outcome _ _ _ both => by
    have through : Item.through id = id := Item.through_self
    refine ⟨both.1.trans ?_, both.2⟩
    rw [through, Option.map_id_fun]
    cases outcome <;> rfl
  abandon {_ c n} := (on_abreast svc c n (.abandon n) .done svc.abandon).mono (fun _ _ => id)
    fun _ _ _ _ both => both.1.symm
  close := close_abreast svc _ _
  login := login_abreast svc kerberos
  bind {server p p'} := (bind_abreast svc server p p').mono (fun _ _ => id) fun _ _ _ _ both =>
    ⟨both.1.imp fun _ _ named => ⟨named, named⟩, both.2⟩
  release := release_abreast svc _ _ _ _
  discard := discard_abreast svc _ _ _ _
  closeIdle {server p p'} := closeIdle_abreast svc server p p'

end Overheard

/-- The factory, its connections being numbered from `n` on. -/
def Factory.numbered (n : Nat) (f : Factory κ) : Factory Nat where
  server := f.server
  pool := { size := f.pool.size, inUse := f.pool.inUse, idle := List.range' n f.pool.idle.length }

/-- The connections that wait in the pools. -/
def Factory.waiting (fs : List (Factory κ)) : List κ :=
  fs.flatMap (·.pool.idle)

def Factory.allNumbered (n : Nat) : List (Factory κ) → List (Factory Nat)
  | [] => []
  | f :: rest => f.numbered n :: allNumbered (n + f.pool.idle.length) rest

namespace Resolver

/-- The resolver, its connections being numbered. -/
def numbered (r : Resolver κ) : Resolver Nat :=
  ⟨r.registry, Factory.allNumbered 0 r.factories⟩

def waiting (r : Resolver κ) : List κ :=
  Factory.waiting r.factories

end Resolver

namespace Overheard

theorem named_range' {w : Overheard σ κ} (cs before after : List κ) (names : w.names = before ++ cs ++ after) :
    List.Forall₂ w.Named cs (List.range' before.length cs.length) := by
  induction cs generalizing before with
  | nil => exact .nil
  | cons c rest ih =>
    refine .cons ?_ ?_
    · rw [Named, names, List.append_assoc, List.getElem?_append_right (Nat.le_refl _), Nat.sub_self]
      rfl
    · have later := ih (before ++ [c]) (by rw [names, List.append_assoc before [c], List.singleton_append])
      rwa [List.length_append] at later

theorem paired_numbered (svc : Service σ κ) (kerberos : Kerberos σ) {v : σ} {w : Overheard σ κ} (fs : List (Factory κ))
    (before : List κ) (names : w.names = before ++ Factory.waiting fs) :
    (alike svc kerberos).PairedAll fs (Factory.allNumbered before.length fs) v w := by
  induction fs generalizing before with
  | nil => exact .nil
  | cons f rest ih =>
    rw [Factory.waiting, List.flatMap_cons, ← List.append_assoc] at names
    refine .cons ⟨rfl, rfl, rfl, named_range' f.pool.idle before _ names⟩ ?_
    have later := ih _ names
    rwa [List.length_append] at later

theorem beside_numbered (svc : Service σ κ) (kerberos : Kerberos σ) (r : Resolver κ) (world : σ) :
    (alike svc kerberos).Beside r r.numbered world (start svc r.waiting world) :=
  ⟨rfl, paired_numbered svc kerberos r.factories [] rfl⟩

end Overheard

/-- One run is the other one, overheard. -/
structure Overheard.Faithful (svc : Service σ κ) (kerberos : Kerberos σ) (run : (α × Resolver κ) × Trace σ)
    (heard : (α × Resolver Nat) × Trace (Overheard σ κ)) : Prop where
  result : heard.1.1 = run.1.1
  resolver : (alike svc kerberos).Beside run.1.2 heard.1.2 run.2.world heard.2.world
  world : heard.2.world.world = run.2.world
  log : heard.2.log = run.2.log

/-- To overhear a login changes nothing in it. -/
theorem Resolver.authenticate_overheard (svc : Service σ κ) (kerberos : Kerberos σ) (login password : String)
    (r : Resolver κ) (world : σ) (log : List Event) :
    Overheard.Faithful svc kerberos (authenticate svc kerberos login password r ⟨world, log⟩)
      (authenticate svc.overheard (kerberos.overheard svc) login password r.numbered
        ⟨.start svc r.waiting world, log⟩) := by
  obtain ⟨⟨world, log, -⟩, -, result, beside⟩ := authenticate_abreast (Overheard.alike svc kerberos) login password
    r r.numbered ⟨world, log⟩ ⟨.start svc r.waiting world, log⟩ ⟨rfl, rfl, rfl⟩
    (Overheard.beside_numbered svc kerberos r world)
  exact ⟨result.symm, beside, world, log⟩

end DirectoryLogin
