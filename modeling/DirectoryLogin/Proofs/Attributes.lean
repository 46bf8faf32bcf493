import DirectoryLogin.Proofs.Alike
import DirectoryLogin.Proofs.Distinct
import Mathlib.Logic.Function.Basic

namespace DirectoryLogin

open Text

variable {σ κ α β : Type}

namespace Entry

/-- The entry with no other attributes than these. Its name always stays. -/
def only (names : List String) (e : Entry) : Entry :=
  { e with attributes := e.attributes.filter fun p => names.any (sameLetters p.1 ·) }

theorem find?_only {names : List String} {test : String × List String → Bool} (e : Entry)
    (kept : ∀ p, test p = true → names.any (sameLetters p.1 ·) = true) :
    (e.only names).attributes.find? test = e.attributes.find? test := by
  rw [only, List.find?_filter]
  refine congrArg (List.find? · e.attributes) (funext fun p => ?_)
  cases tested : test p with
  | true => simp [kept p tested]
  | false => simp

theorem values?_only {names : List String} {name : String} (asked : name ∈ names) (e : Entry) :
    (e.only names).values? name = e.values? name := by
  unfold values?
  rw [find?_only e, find?_only e]
  · intro p same
    exact List.any_eq_true.2 ⟨name, asked, same⟩
  · intro p same
    have here : p.1 = name := eq_of_beq same
    exact List.any_eq_true.2 ⟨name, asked, by simp [here, sameLetters]⟩

/-- What is left of an entry that is cut down to the attributes of these names. If no two of its names are the same up to
the case of letters, its attributes may come in any order. -/
inductive IsCut (names : List String) (e : Entry) : Entry → Prop
  | ordered : IsCut names e (e.only names)
  | reordered {f : Entry} (distinct : e.Distinct) (dn : f.dn = e.dn)
    (attributes : f.attributes.Perm (e.only names).attributes) : IsCut names e f

theorem Distinct.only {e : Entry} (distinct : e.Distinct) (names : List String) : (e.only names).Distinct :=
  List.Pairwise.filter _ distinct

theorem IsCut.dn {names : List String} {e f : Entry} (isCut : IsCut names e f) : f.dn = e.dn := by
  cases isCut with
  | ordered => rfl
  | reordered _ dn => exact dn

theorem IsCut.values? {names : List String} {e f : Entry} (isCut : IsCut names e f) {name : String}
    (asked : name ∈ names) : f.values? name = e.values? name := by
  cases isCut with
  | ordered => exact e.values?_only asked
  | reordered distinct _ attributes =>
    rw [(distinct.only names).values?_perm attributes, e.values?_only asked]

/-- A way to cut entries down. -/
structure Cut where
  apply : List String → Entry → Entry
  isCut : ∀ names e, IsCut names e (apply names e)

instance : Inhabited Cut :=
  ⟨⟨fun names e => e.only names, fun _ _ => .ordered⟩⟩

end Entry

/-- A world, and the attributes that the last search on each connection asked for. -/
structure Trimmed (σ κ : Type) where
  world : σ
  asked : κ → List String

/-- The service that hands out entries cut down to the attributes asked for. -/
def Service.trimmed [DecidableEq κ] (cut : Entry.Cut) (svc : Service σ κ) : Service (Trimmed σ κ) κ where
  supports := svc.supports
  connect env w := ((svc.connect env w.world).1, { w with world := (svc.connect env w.world).2 })
  search c base scope filter attributes w :=
    ((svc.search c base scope filter attributes w.world).1,
      ⟨(svc.search c base scope filter attributes w.world).2, Function.update w.asked c attributes⟩)
  next c w :=
    ((svc.next c w.world).1.map (Option.map (Item.through (cut.apply (w.asked c)))),
      { w with world := (svc.next c w.world).2 })
  abandon c w := ((svc.abandon c w.world).1, { w with world := (svc.abandon c w.world).2 })
  close c w := ((svc.close c w.world).1, { w with world := (svc.close c w.world).2 })
  isClosed c w := svc.isClosed c w.world
  remaining c w := svc.remaining c w.world
  next_lt {c w item w'} took := by
    simp only [Prod.mk.injEq] at took
    obtain ⟨some, rfl⟩ := took
    rcases took : svc.next c w.world with ⟨_ | _ | item, world⟩
    · simp [took, Except.map] at some
    · simp [took, Except.map] at some
    · exact svc.next_lt took

/-- A Kerberos login is no search. -/
def Kerberos.trimmed (kerberos : Kerberos σ) : Kerberos (Trimmed σ κ) := fun principal password t =>
  let (outcome, later) := kerberos principal password ⟨t.world.world, t.log⟩
  (outcome, ⟨{ t.world with world := later.world }, later.log⟩)

/-- What a caller asks a service to do. -/
inductive Demand (κ : Type)
  | connect (env : Environment)
  | search (line : Line κ) (base : String) (scope : Scope) (filter : String) (attributes : List String)
  | next (line : Line κ)
  | abandon (line : Line κ)
  | close (line : Line κ)

/-- The caller's part of an exchange. -/
def Exchange.demand : Exchange κ → Demand κ
  | connect env _ => .connect env
  | search line base scope filter attributes _ => .search line base scope filter attributes
  | next line _ => .next line
  | abandon line _ => .abandon line
  | close line _ => .close line

namespace Trimmed

/-- The same has been said and done so far, whatever was asked for. -/
def bond (σ κ : Type) : Bond (Witnessed σ κ) (Witnessed (Trimmed σ κ) κ) where
  ready t t' := t'.world.world.world = t.world.world ∧
    t'.world.exchanges.map Exchange.demand = t.world.exchanges.map Exchange.demand ∧ t'.log = t.log
  later _ _ _ _ := True
  noted es ready := ⟨ready.1, ready.2.1, congrArg (· ++ es) ready.2.2⟩
  refl _ _ := trivial
  trans _ _ := trivial

/-- Steps that do the same to the world and say the same to the service. -/
theorem exchange_abreast {before : Witnessed σ κ → Witnessed (Trimmed σ κ) κ → Prop}
    {after : α → β → Witnessed σ κ → Witnessed (Trimmed σ κ) κ → Prop} (step : σ → α × σ)
    (step' : Trimmed σ κ → β × Trimmed σ κ) (witness : α → Exchange κ) (witness' : β → Exchange κ)
    (same : ∀ w, (step' w).2.world = (step w.world).2) (demand : ∀ a b, (witness' b).demand = (witness a).demand)
    (holds : ∀ w w', before w w' → w'.world.world = w.world →
      after (step w.world).1 (step' w'.world).1 (w.exchange step witness).2 (w'.exchange step' witness').2) :
    (bond σ κ).Abreast before (Act.perform fun w => w.exchange step witness)
      (Act.perform fun w => w.exchange step' witness') after := by
  intro t t' ready start
  obtain ⟨world, demands, log⟩ := ready
  refine ⟨⟨?_, ?_, log⟩, trivial, holds _ _ start world⟩
  · exact (same t'.world.world).trans (congrArg (fun w => (step w).2) world)
  · change (_ ++ [_]).map Exchange.demand = (_ ++ [_]).map Exchange.demand
    rw [List.map_append, List.map_append, demands]
    exact congrArg (_ ++ [·]) (demand _ _)

theorem observe_abreast (look : σ → α) : (bond σ κ).Abreast (fun _ _ => True)
    (Act.observe fun w => look w.world) (Act.observe fun w => look w.world.world) fun a a' _ _ => a = a' :=
  fun _ _ ready _ => ⟨ready, trivial, congrArg look ready.1.symm⟩

theorem login_abreast (kerberos : Kerberos σ) (principal password : String) :
    (bond σ κ).Abreast (fun _ _ => True) (kerberos.witnessed principal password)
      (kerberos.trimmed.witnessed principal password) fun outcome outcome' _ _ => outcome = outcome' := by
  intro t t' ready _
  obtain ⟨world, demands, log⟩ := ready
  have same : (⟨t'.world.world.world, t'.log⟩ : Trace σ) = Act.plain t := by rw [world, log]; rfl
  have run : kerberos.trimmed.witnessed principal password t' = ((kerberos principal password (Act.plain t)).1,
      ⟨⟨{ t'.world.world with world := (kerberos principal password (Act.plain t)).2.world },
        t'.world.exchanges⟩, (kerberos principal password (Act.plain t)).2.log⟩) := by
    rw [← same]
    rfl
  rw [run]
  exact ⟨⟨rfl, demands, rfl⟩, trivial, rfl⟩

/-- The trace as it is before a service that hands out only what is asked for. -/
def trace (asked : κ → List String) (t : Trace (Witnessed σ κ)) : Trace (Witnessed (Trimmed σ κ) κ) :=
  ⟨⟨⟨t.world.world, asked⟩, t.world.exchanges⟩, t.log⟩

/-- Two runs of a resolver come to the same, and say the same on their way. -/
structure Agree (run : (α × Resolver (Line κ)) × Trace (Witnessed σ κ))
    (run' : (α × Resolver (Line κ)) × Trace (Witnessed (Trimmed σ κ) κ)) : Prop where
  result : run'.1.1 = run.1.1
  resolver : run'.1.2 = run.1.2
  world : run'.2.world.world.world = run.2.world.world
  said : run'.2.world.exchanges.map Exchange.demand = run.2.world.exchanges.map Exchange.demand
  log : run'.2.log = run.2.log

/-- Runs of which nothing is kept then agree as well. -/
theorem Agree.plain {act : Act (Witnessed σ κ) (α × Resolver (Line κ))}
    {act' : Act (Witnessed (Trimmed σ κ) κ) (α × Resolver (Line κ))} {asked : κ → List String}
    {t : Trace (Witnessed σ κ)} (agree : Agree (act t) (act' (trace asked t))) {other : Act σ (α × Resolver κ)}
    {other' : Act (Trimmed σ κ) (α × Resolver κ)}
    (mirrors : Act.Mirrors (fun found => (found.1, found.2.plain)) act other)
    (mirrors' : Act.Mirrors (fun found => (found.1, found.2.plain)) act' other') :
    (other' (Act.plain (trace asked t))).1 = (other (Act.plain t)).1 := by
  have same : (act' (trace asked t)).1 = (act t).1 := Prod.ext agree.result agree.resolver
  rw [mirrors' (trace asked t), mirrors t, same]

variable [DecidableEq κ] (cut : Entry.Cut) (svc : Service σ κ)

theorem takeOpen_abreast (server : Server) (idle : List (Line κ)) : (bond σ κ).Abreast (fun _ _ => True)
    (Pool.takeOpen svc.witnessed server idle) (Pool.takeOpen (svc.trimmed cut).witnessed server idle)
    fun found found' _ _ => found = found' := by
  induction idle with
  | nil => exact .pure fun _ _ _ => rfl
  | cons c older ih =>
    refine .bind (observe_abreast (svc.isClosed c.name)) fun closed closed' => .only ?_
    rintro rfl
    cases closed with
    | true => exact .bind (.note _) fun _ _ => ih
    | false => exact .pure fun _ _ _ => rfl

theorem connect_abreast (env : Environment) : (bond σ κ).Abreast (fun _ _ => True)
    (Act.perform (svc.witnessed.connect env)) (Act.perform ((svc.trimmed cut).witnessed.connect env))
    fun outcome outcome' _ _ => outcome = outcome' :=
  exchange_abreast (fun world => ((svc.connect env world).1.map (Line.mk · env), (svc.connect env world).2))
    (fun w => (((svc.trimmed cut).connect env w).1.map (Line.mk · env), ((svc.trimmed cut).connect env w).2))
    (.connect env) (.connect env) (fun _ => rfl) (fun _ _ => rfl) fun _ w' _ same => by
      change _ = (svc.connect env w'.world.world).1.map (Line.mk · env)
      rw [same]

theorem close_abreast (c : Line κ) : (bond σ κ).Abreast (fun _ _ => True)
    (Act.perform (svc.witnessed.close c)) (Act.perform ((svc.trimmed cut).witnessed.close c))
    fun outcome outcome' _ _ => outcome = outcome' :=
  exchange_abreast (svc.close c.name) ((svc.trimmed cut).close c.name) (.close c) (.close c) (fun _ => rfl)
    (fun _ _ => rfl) fun _ w' _ same => by
      change _ = (svc.close c.name w'.world.world).1
      rw [same]

theorem bind_abreast (server : Server) (p : Pool (Line κ)) : (bond σ κ).Abreast (fun _ _ => True)
    (p.bind svc.witnessed server) (p.bind (svc.trimmed cut).witnessed server)
    fun bound bound' _ _ => bound = bound' := by
  refine .bind (takeOpen_abreast cut svc server p.lend.idle) ?_
  rintro ⟨found, idle⟩ found'
  refine .only ?_
  rintro rfl
  cases found with
  | some c => exact .pure fun _ _ _ => rfl
  | none =>
    refine .bind (.note _) fun _ _ => .bind (connect_abreast cut svc _) fun outcome outcome' => .only ?_
    rintro rfl
    cases outcome with
    | ok c => exact .pure fun _ _ _ => rfl
    | error e => exact .pure fun _ _ _ => rfl

theorem release_abreast (c : Line κ) (p : Pool (Line κ)) : (bond σ κ).Abreast (fun _ _ => True)
    (p.release svc.witnessed c) (p.release (svc.trimmed cut).witnessed c) fun p p' _ _ => p = p' := by
  refine .bind (observe_abreast (svc.isClosed c.name)) fun closed closed' => .only ?_
  rintro rfl
  cases closed with
  | true => exact .pure fun _ _ _ => rfl
  | false => exact .pure fun _ _ _ => rfl

theorem discard_abreast (c : Line κ) (p : Pool (Line κ)) : (bond σ κ).Abreast (fun _ _ => True)
    (p.discard svc.witnessed c) (p.discard (svc.trimmed cut).witnessed c) fun p p' _ _ => p = p' := by
  refine .bind (close_abreast cut svc c) fun outcome outcome' => .only ?_
  rintro rfl
  cases outcome with
  | ok _ => exact .pure fun _ _ _ => rfl
  | error e => exact .bind (.note _) fun _ _ => .pure fun _ _ _ => rfl

theorem closeAll_abreast (server : Server) (cs : List (Line κ)) : (bond σ κ).Abreast (fun _ _ => True)
    (Pool.closeAll svc.witnessed server cs) (Pool.closeAll (svc.trimmed cut).witnessed server cs)
    fun _ _ _ _ => True := by
  induction cs with
  | nil => exact .pure fun _ _ => id
  | cons c rest ih =>
    refine .bind (close_abreast cut svc c) fun outcome outcome' => .only ?_
    rintro rfl
    cases outcome with
    | ok _ => exact ih
    | error e => exact .bind (.note _) fun _ _ => ih

/-- To the resolver, the service that keeps to what was asked for is like the service itself. -/
def alike (kerberos : Kerberos σ) :
    Alike svc.witnessed kerberos.witnessed (svc.trimmed cut).witnessed kerberos.trimmed.witnessed where
  toBond := bond σ κ
  view := cut.apply
  view_dn names e := (cut.isCut names e).dn
  view_values? e asked := (cut.isCut _ e).values? asked
  opened c c' _ _ := c' = c
  running attributes c c' _ w' := c' = c ∧ w'.world.asked c.name = attributes
  held _ c c' _ _ := c' = c
  pooled _ p p' _ _ := p' = p
  held_lasts _ _ _ := fun _ => id
  pooled_lasts _ _ _ := fun _ => id
  connect env := (connect_abreast cut svc env).mono (fun _ _ => id) fun _ _ _ _ => Same.of_eq fun _ => ⟨rfl, rfl⟩
  search {c c'} base scope filter attributes := .only fun same => by
    obtain rfl : c' = c := same
    refine exchange_abreast (svc.search c'.name base scope filter attributes)
      ((svc.trimmed cut).search c'.name base scope filter attributes) (.search c' base scope filter attributes)
      (.search c' base scope filter attributes) (fun _ => rfl) (fun _ _ => rfl) fun w w' _ same => ⟨?_, fun _ => ?_⟩
    · rw [← same]
      rfl
    · exact ⟨rfl, Function.update_self ..⟩
  next {attributes c c'} := .fact fun same => by
    obtain rfl : c' = c := same
    refine exchange_abreast (svc.next c'.name) ((svc.trimmed cut).next c'.name) (.next c') (.next c') (fun _ => rfl)
      (fun _ _ => rfl) fun w w' asked same => ⟨?_, rfl, asked⟩
    rw [← same, ← asked]
    rfl
  abandon {attributes c c'} := .fact fun same => by
    obtain rfl : c' = c := same
    refine exchange_abreast (svc.abandon c'.name) ((svc.trimmed cut).abandon c'.name) (.abandon c') (.abandon c')
      (fun _ => rfl) (fun _ _ => rfl) fun w w' _ same => ?_
    rw [← same]
    rfl
  close := .only fun same => same ▸ close_abreast cut svc _
  login := login_abreast kerberos
  bind {server p p'} := .only fun same => by
    obtain rfl : p' = p := same
    exact (bind_abreast cut svc server p').mono (fun _ _ => id) fun _ _ _ _ equal =>
      ⟨Same.of_eq (fun _ => ⟨rfl, rfl⟩) (congrArg Prod.fst equal), (congrArg Prod.snd equal).symm⟩
  release {server c c' p p'} := .only fun same => by
    obtain ⟨rfl, rfl⟩ : c' = c ∧ p' = p := same
    exact (release_abreast cut svc c' p').mono (fun _ _ => id) fun _ _ _ _ => Eq.symm
  discard {server c c' p p'} := .only fun same => by
    obtain ⟨rfl, rfl⟩ : c' = c ∧ p' = p := same
    exact (discard_abreast cut svc c' p').mono (fun _ _ => id) fun _ _ _ _ => Eq.symm
  closeIdle {server p p'} := .only fun same => by
    obtain rfl : p' = p := same
    exact .bind (closeAll_abreast cut svc server p'.idle.reverse) fun _ _ => .pure fun _ _ _ => rfl

variable {cut} {svc} {kerberos : Kerberos σ}

theorem beside_iff {r r' : Resolver (Line κ)} {w : Witnessed σ κ} {w' : Witnessed (Trimmed σ κ) κ} :
    (alike cut svc kerberos).Beside r r' w w' ↔ r' = r := by
  have pairedAll {fs fs' : List (Factory (Line κ))} :
      (alike cut svc kerberos).PairedAll fs fs' w w' ↔ fs' = fs := by
    have paired (f f' : Factory (Line κ)) : (alike cut svc kerberos).Paired f f' w w' ↔ f = f' := by
      obtain ⟨server, pool⟩ := f
      obtain ⟨server', pool'⟩ := f'
      rw [Factory.mk.injEq]
      exact and_congr eq_comm eq_comm
    unfold Alike.PairedAll
    simp only [paired, List.forall₂_eq_eq_eq]
    exact eq_comm
  obtain ⟨registry, factories⟩ := r
  obtain ⟨registry', factories'⟩ := r'
  rw [Resolver.mk.injEq, ← pairedAll]
  rfl

theorem agree_of_abreast {act : Act (Witnessed σ κ) (α × Resolver (Line κ))}
    {act' : Act (Witnessed (Trimmed σ κ) κ) (α × Resolver (Line κ))} {r : Resolver (Line κ)}
    (abreast : (alike cut svc kerberos).Abreast ((alike cut svc kerberos).Beside r r) act act' fun found found' w w' =>
      found.1 = found'.1 ∧ (alike cut svc kerberos).Beside found.2 found'.2 w w')
    (asked : κ → List String) (t : Trace (Witnessed σ κ)) : Agree (act t) (act' (trace asked t)) := by
  obtain ⟨⟨world, said, log⟩, -, result, beside⟩ := abreast t (trace asked t) ⟨rfl, rfl, rfl⟩ (beside_iff.2 rfl)
  exact ⟨result.symm, beside_iff.1 beside, world, said, log⟩

end Trimmed

namespace Resolver

/-- The attributes that are asked for are enough. A directory that hands out nothing else than was asked for, whichever
attribute of an entry comes first, leads to the same results, and is sent the same; and whenever groups are asked for,
the lookup of the user before asks for every placeholder of the request for groups, but for the name of the entry. -/
theorem attributes_suffice [DecidableEq κ] (cut : Entry.Cut) (svc : Service σ κ) (kerberos : Kerberos σ)
    (login password : String) (r : Resolver (Line κ)) (asked : κ → List String) (t : Trace (Witnessed σ κ)) :
    let u := Trimmed.trace asked t
    ((authenticate (svc.trimmed cut) kerberos.trimmed login password r.plain (Act.plain u)).1 =
        (authenticate svc kerberos login password r.plain (Act.plain t)).1 ∧
      (userDetails (svc.trimmed cut) login r.plain (Act.plain u)).1 = (userDetails svc login r.plain (Act.plain t)).1 ∧
      (groups (svc.trimmed cut) login r.plain (Act.plain u)).1 = (groups svc login r.plain (Act.plain t)).1) ∧
    Trimmed.Agree (authenticate svc.witnessed kerberos.witnessed login password r t)
      (authenticate (svc.trimmed cut).witnessed kerberos.trimmed.witnessed login password r u) ∧
    Trimmed.Agree (userDetails svc.witnessed login r t) (userDetails (svc.trimmed cut).witnessed login r u) ∧
    Trimmed.Agree (groups svc.witnessed login r t) (groups (svc.trimmed cut).witnessed login r u) ∧
    ∃ es, (groups svc.witnessed login r t).2.world.exchanges = t.world.exchanges ++ es ∧
      (es = [] ∨ ∃ owns, es = owns.flatten ∧ List.Forall₂ (fun f own =>
        ∃ first second, own = first ++ second ∧ GroupsWanted login f first second) r.factories owns) := by
  intro u
  have accepted := Trimmed.agree_of_abreast
    (authenticate_abreast (Trimmed.alike cut svc kerberos) login password r r) asked t
  have known := Trimmed.agree_of_abreast (userDetails_abreast (Trimmed.alike cut svc kerberos) login r r) asked t
  have found := Trimmed.agree_of_abreast (groups_abreast (Trimmed.alike cut svc kerberos) login r r) asked t
  refine ⟨⟨?_, ?_, ?_⟩, accepted, known, found, groups_wants svc login r t⟩
  · exact accepted.plain (authenticate_mirrors svc kerberos login password r)
      (authenticate_mirrors (svc.trimmed cut) kerberos.trimmed login password r)
  · exact known.plain (userDetails_mirrors svc login r) (userDetails_mirrors (svc.trimmed cut) login r)
  · exact found.plain (groups_mirrors svc login r) (groups_mirrors (svc.trimmed cut) login r)

end Resolver

end DirectoryLogin
