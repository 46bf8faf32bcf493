import DirectoryLogin.Error
import DirectoryLogin.Event

namespace DirectoryLogin

/-- A world together with what has been logged, oldest event first. -/
structure Trace (σ : Type) where
  world : σ
  log : List Event := []

abbrev Act (σ : Type) := StateM (Trace σ)

namespace Act

variable {σ α : Type}

def note (e : Event) : Act σ Unit :=
  modify fun t => { t with log := t.log ++ [e] }

def noteAll (es : List Event) : Act σ Unit :=
  modify fun t => { t with log := t.log ++ es }

def perform (step : σ → α × σ) : Act σ α := fun t =>
  let (a, world) := step t.world
  (a, { t with world })

def observe (look : σ → α) : Act σ α := fun t => (look t.world, t)

end Act

end DirectoryLogin
