import DirectoryLogin.Act

namespace DirectoryLogin.Act

variable {σ α β : Type}

theorem bind_apply (act : Act σ α) (next : α → Act σ β) (t : Trace σ) :
    (act >>= next) t = next (act t).1 (act t).2 := rfl

/-- From every world with the one property, the act leads to a result and a world with the other. -/
def Meets (before : σ → Prop) (act : Act σ α) (after : α → σ → Prop) : Prop :=
  ∀ t, before t.world → after (act t).1 (act t).2.world

namespace Meets

variable {before : σ → Prop} {after : β → σ → Prop}

theorem pure {b : β} (holds : ∀ w, before w → after b w) : Meets before (pure b) after :=
  fun t start => holds t.world start

theorem bind {between : α → σ → Prop} {act : Act σ α} {next : α → Act σ β}
    (first : Meets before act between) (second : ∀ a, Meets (between a) (next a) after) :
    Meets before (act >>= next) after :=
  fun t start => second (act t).1 (act t).2 (first t start)

theorem strengthen {stronger : σ → Prop} {act : Act σ β} (meets : Meets before act after)
    (enough : ∀ w, stronger w → before w) : Meets stronger act after :=
  fun t start => meets t (enough t.world start)

/-- Nothing is promised. -/
theorem any (act : Act σ β) : Meets before act fun _ _ => True := fun _ _ => trivial

/-- A fact that is not about the world stays one. -/
theorem frame {act : Act σ β} (meets : Meets before act after) (p : Prop) :
    Meets (fun w => p ∧ before w) act fun b w => p ∧ after b w :=
  fun t start => ⟨start.1, meets t start.2⟩

theorem note (e : Event) : Meets before (note e) fun _ => before :=
  fun _ start => start

theorem noteAll (es : List Event) : Meets before (noteAll es) fun _ => before :=
  fun _ start => start

theorem perform {step : σ → β × σ} (holds : ∀ w, before w → after (step w).1 (step w).2) :
    Meets before (perform step) after :=
  fun t start => holds t.world start

end Meets

/-- What the act comes to, and does to the world, does not depend on what has been logged. -/
def Blind (act : Act σ α) : Prop :=
  ∀ t u, u.world = t.world → (act u).1 = (act t).1 ∧ (act u).2.world = (act t).2.world

namespace Blind

theorem pure (a : α) : Blind (σ := σ) (pure a) := fun _ _ here => ⟨rfl, here⟩

theorem bind {act : Act σ α} {next : α → Act σ β} (first : Blind act) (second : ∀ a, Blind (next a)) :
    Blind (act >>= next) := by
  intro t u here
  obtain ⟨result, world⟩ := first t u here
  have start : (act >>= next) u = next (act t).1 (act u).2 := congrArg (next · (act u).2) result
  rw [start]
  exact second (act t).1 _ _ world

theorem note (e : Event) : Blind (σ := σ) (note e) := fun _ _ here => ⟨rfl, here⟩

theorem noteAll (es : List Event) : Blind (σ := σ) (noteAll es) := fun _ _ here => ⟨rfl, here⟩

theorem perform (step : σ → α × σ) : Blind (perform step) :=
  fun _ _ here => ⟨congrArg (fun w => (step w).1) here, congrArg (fun w => (step w).2) here⟩

end Blind

end DirectoryLogin.Act
