import DirectoryLogin.Proofs.Promise
import DirectoryLogin.Service

namespace DirectoryLogin

/-- A connection with the environment that it was opened with. -/
structure Line (κ : Type) where
  name : κ
  env : Environment

/-- A call of a service, with its outcome. -/
inductive Exchange (κ : Type)
  | connect (env : Environment) (outcome : Except Error (Line κ))
  | search (line : Line κ) (base : String) (scope : Scope) (filter : String)
      (attributes : List String) (outcome : Except Error Unit)
  | next (line : Line κ) (outcome : Except Error (Option Item))
  | abandon (line : Line κ) (outcome : Except Error Unit)
  | close (line : Line κ) (outcome : Except Error Unit)

/-- A world with the exchanges that led to it, oldest first. -/
structure Witnessed (σ κ : Type) where
  world : σ
  exchanges : List (Exchange κ) := []

variable {σ κ α β : Type}

/-- A step of the world, as an exchange. -/
def Witnessed.exchange (w : Witnessed σ κ) (step : σ → α × σ) (witness : α → Exchange κ) :
    α × Witnessed σ κ :=
  ((step w.world).1, ⟨(step w.world).2, w.exchanges ++ [witness (step w.world).1]⟩)

/-- The service with all exchanges kept. -/
def Service.witnessed (svc : Service σ κ) : Service (Witnessed σ κ) (Line κ) where
  supports := svc.supports
  connect env w :=
    w.exchange (fun world => ((svc.connect env world).1.map (Line.mk · env), (svc.connect env world).2))
      (.connect env)
  search c base scope filter attributes w :=
    w.exchange (svc.search c.name base scope filter attributes)
      (.search c base scope filter attributes)
  next c w := w.exchange (svc.next c.name) (.next c)
  abandon c w := w.exchange (svc.abandon c.name) (.abandon c)
  close c w := w.exchange (svc.close c.name) (.close c)
  isClosed c w := svc.isClosed c.name w.world
  remaining c w := svc.remaining c.name w.world
  next_lt took := by
    simp only [Witnessed.exchange, Prod.mk.injEq] at took
    rw [← took.2]
    exact svc.next_lt (Prod.ext took.1 rfl)

namespace Exchange

/-- The environment that a connection was asked for with. -/
def attempt : Exchange κ → List Environment
  | connect env _ => [env]
  | _ => []

/-- Where a search was asked for: the URL of the connection, and the base. -/
def context : Exchange κ → List (String × String)
  | search line base .. => [(line.env.url, base)]
  | _ => []

/-- The referrals that were handed out. -/
def referrals : Exchange κ → List String
  | next _ (.ok (some (.referral urls))) => urls
  | _ => []

/-- The entry that was handed out. -/
def entry : Exchange κ → List Entry
  | next _ (.ok (some (.entry e))) => [e]
  | _ => []

/-- The error in which a search, or the next item of one, ended. -/
def failure : Exchange κ → List Error
  | search _ _ _ _ _ (.error e) => [e]
  | next _ (.error e) => [e]
  | _ => []

end Exchange

namespace Act

/-- The act adds exchanges that have the property together with its result. -/
def Adds (act : Act (Witnessed σ κ) α) (after : α → List (Exchange κ) → Prop) : Prop :=
  ∀ t, ∃ es, (act t).2.world.exchanges = t.world.exchanges ++ es ∧ after (act t).1 es

namespace Adds

variable {after : β → List (Exchange κ) → Prop}

theorem pure {b : β} (holds : after b []) : Adds (σ := σ) (pure b) after :=
  fun _ => ⟨[], (List.append_nil _).symm, holds⟩

theorem bind {between : α → List (Exchange κ) → Prop} {act : Act (Witnessed σ κ) α}
    {next : α → Act (Witnessed σ κ) β} (first : Adds act between)
    (second : ∀ a es, between a es → Adds (next a) fun b more => after b (es ++ more)) :
    Adds (act >>= next) after := by
  intro t
  obtain ⟨es, added, held⟩ := first t
  obtain ⟨more, addedMore, holds⟩ := second _ es held (act t).2
  refine ⟨es ++ more, ?_, holds⟩
  rw [← List.append_assoc, ← added]
  exact addedMore

theorem mono {weaker : β → List (Exchange κ) → Prop} {act : Act (Witnessed σ κ) β}
    (adds : Adds act after) (weaken : ∀ b es, after b es → weaker b es) : Adds act weaker := by
  intro t
  obtain ⟨es, added, held⟩ := adds t
  exact ⟨es, added, weaken _ es held⟩

theorem quiet {act : Act (Witnessed σ κ) β} (same : ∀ t, (act t).2.world = t.world)
    (holds : ∀ b, after b []) : Adds act after :=
  fun t => ⟨[], by rw [same, List.append_nil], holds _⟩

/-- After an act that adds nothing. -/
theorem andThen {act : Act (Witnessed σ κ) α} {next : α → Act (Witnessed σ κ) β}
    (same : ∀ t, (act t).2.world = t.world) (second : ∀ a, Adds (next a) after) :
    Adds (act >>= next) after := by
  have nothing : Adds act fun _ es => es = [] := quiet same fun _ => rfl
  exact bind nothing fun a _ none => none ▸ second a

theorem exchange (step : σ → β × σ) (witness : β → Exchange κ) :
    Adds (Act.perform fun w => w.exchange step witness) fun b es => es = [witness b] :=
  fun _ => ⟨_, rfl, rfl⟩

/-- A connection that was opened knows its environment. -/
theorem connect (svc : Service σ κ) (env : Environment) :
    Adds (Act.perform (svc.witnessed.connect env)) fun outcome es =>
      es = [.connect env outcome] ∧ ∀ c, outcome = .ok c → c.env = env := by
  intro t
  refine ⟨_, rfl, rfl, fun c opened => ?_⟩
  change (svc.connect env t.world.world).1.map (Line.mk · env) = .ok c at opened
  cases outcome : (svc.connect env t.world.world).1 with
  | error e =>
    rw [outcome] at opened
    cases opened
  | ok name =>
    rw [outcome] at opened
    cases opened
    rfl

end Adds

/-- What is left of a trace without the exchanges. -/
def plain (t : Trace (Witnessed σ κ)) : Trace σ := ⟨t.world.world, t.log⟩

/-- The act does the same as one on worlds without exchanges; results are compared through `view`. -/
def Mirrors (view : β → α) (act : Act (Witnessed σ κ) β) (other : Act σ α) : Prop :=
  ∀ t, other (plain t) = (view (act t).1, plain (act t).2)

namespace Mirrors

variable {γ δ : Type} {view : β → α} {viewNext : δ → γ}

theorem pure {a : α} {b : β} (same : a = view b) :
    Mirrors (σ := σ) (κ := κ) view (pure b) (pure a) := fun _ => same ▸ rfl

theorem bind {act : Act (Witnessed σ κ) β} {other : Act σ α} {next : β → Act (Witnessed σ κ) δ}
    {otherNext : α → Act σ γ} (first : Mirrors view act other)
    (second : ∀ b, Mirrors viewNext (next b) (otherNext (view b))) :
    Mirrors viewNext (act >>= next) (other >>= otherNext) := by
  intro t
  have here := first t
  have later := second (act t).1 (act t).2
  change otherNext (other (plain t)).1 (other (plain t)).2 = _
  rw [here]
  exact later

theorem note (e : Event) : Mirrors (σ := σ) (κ := κ) id (note e) (note e) := fun _ => rfl

theorem noteAll (es : List Event) : Mirrors (σ := σ) (κ := κ) id (noteAll es) (noteAll es) :=
  fun _ => rfl

theorem observe (look : σ → α) : Mirrors (κ := κ) id (observe fun w => look w.world) (observe look) :=
  fun _ => rfl

theorem exchange (step : σ → β × σ) (witness : β → Exchange κ) :
    Mirrors id (Act.perform fun w => w.exchange step witness) (Act.perform step) := fun _ => rfl

theorem connect (svc : Service σ κ) (env : Environment) :
    Mirrors (Except.map Line.name) (Act.perform (svc.witnessed.connect env))
      (Act.perform (svc.connect env)) := by
  intro t
  have same (outcome : Except Error κ) :
      outcome = (outcome.map (Line.mk · env)).map Line.name := by
    cases outcome <;> rfl
  exact Prod.ext (same _) rfl

end Mirrors

end Act

end DirectoryLogin
