import DirectoryLogin.Factory
import DirectoryLogin.Proofs.Live
import DirectoryLogin.Proofs.Search.Legs

namespace DirectoryLogin

open Exchange (Live)

variable {σ κ : Type}

/-- A connection with such an environment is never a pooled one. -/
def Environment.IsGuest (server : Server) (env : Environment) : Prop :=
  (∃ principal credential, env = user server principal credential) ∨ ∃ url, env = referral server url

/-- Exchanges that open guest connections only, and close all of them again. -/
structure Guests (server : Server) (hosts : List (Line κ)) (es : List (Exchange κ)) : Prop where
  live : Live hosts es hosts
  guests : ∀ env ∈ es.flatMap Exchange.attempt, env.IsGuest server

namespace Guests

variable {server : Server} {hosts : List (Line κ)} {es more : List (Exchange κ)}

theorem nil : Guests server hosts [] where
  live := .refl hosts
  guests _ member := nomatch member

theorem append (first : Guests server hosts es) (second : Guests server hosts more) :
    Guests server hosts (es ++ more) where
  live := first.live.append second.live
  guests env member := by
    rw [List.flatMap_append] at member
    exact (List.mem_append.1 member).elim (first.guests env) (second.guests env)

/-- A connection was opened, used and closed. -/
theorem visit {env : Environment} {c : Line κ} {outcome : Except Error Unit} (guest : env.IsGuest server)
    (used : Live [c] es [c]) (noAttempt : es.flatMap Exchange.attempt = []) :
    Guests server hosts (.connect env (.ok c) :: (es ++ [.close c outcome])) where
  live := by
    have closing : Live [c] [.close c outcome] [] := .single (fun _ => id) (.refl _)
    have visit : Live [] (.connect env (.ok c) :: (es ++ [.close c outcome])) [] :=
      .cons nofun (.refl _) (used.append closing)
    exact visit.frame hosts
  guests env' member := by
    obtain rfl : env' = env := by simpa [Exchange.attempt, noAttempt] using member
    exact guest

theorem refused {env : Environment} {e : Error} (guest : env.IsGuest server) :
    Guests server hosts [.connect env (.error e)] where
  live := .single nofun (.refl _)
  guests env' member := by
    obtain rfl : env' = env := by simpa [Exchange.attempt] using member
    exact guest

end Guests

namespace Search

variable {server : Server} {r : Request} {mode : FindMode} {c : Line κ} {es : List (Exchange κ)}

theorem Drained.live {f : Findings} {ended : Except Error Ending × Findings}
    (drained : Drained c r mode f ended es) : Live [c] es [c] := by
  have next (outcome : Except Error (Option Item)) : Live [c] [.next c outcome] [c] :=
    .single (fun _ => id) (.refl _)
  have abandon (outcome : Except Error Unit) : Live [c] [.abandon c outcome] [c] :=
    .single (fun _ => id) (.refl _)
  induction drained with
  | referral _ ih => exact (next _).append ih
  | entry _ _ ih => exact (next _).append ih
  | first => exact (next _).append (abandon _)
  | second => exact (next _).append (abandon _)
  | exhausted => exact next _
  | broken => exact (next _).append (abandon _)

theorem Enumerated.live {base : String} {f : Findings} {ended : Except Error Ending × Findings}
    (enumerated : Enumerated c r base mode f ended es) : Live [c] es [c] := by
  cases enumerated with
  | refused => exact .single (fun _ => id) (.refl _)
  | started drained => exact .cons (fun _ => id) (.refl _) drained.live

theorem Referred.guests {hosts : List (Line κ)} {url : String} {f : Findings}
    {ended : Except Error Ending × Findings} (referred : Referred server r mode url f ended es) :
    Guests server hosts es := by
  cases referred with
  | noBase => exact .nil
  | closed _ opened =>
    cases opened with
    | noTarget => exact .nil
    | refused => exact .refused (.inr ⟨_, rfl⟩)
  | entered _ opened enumerated =>
    cases opened with
    | opened leads => exact .visit (.inr ⟨_, rfl⟩) enumerated.live enumerated.attempts

theorem Found.guests {result : Except Error (List Entry)} {first : List (Exchange κ)}
    {legs : List (Leg κ)} (found : Found server c r mode result first legs) :
    Guests server [c] (first ++ legs.flatMap Leg.exchanges) := by
  obtain ⟨ended, origin, chased⟩ := found
  have here : Guests server [c] first := ⟨origin.live, by simp [origin.attempts]⟩
  refine here.append ?_
  have each := chased.referred
  clear chased
  induction legs with
  | nil => exact .nil
  | cons leg legs ih =>
    obtain ⟨⟨_, _, referred⟩, others⟩ := List.forall_mem_cons.1 each
    exact referred.guests.append (ih others)

end Search

/-- Whether the check succeeds or not, its connection is closed. -/
theorem Factory.checkBind_guests (svc : Service σ κ) (server : Server) (principal password : String) :
    Act.Adds (checkBind svc.witnessed server principal password) fun _ es => Guests server [] es := by
  have guest : (Environment.user server principal password).IsGuest server := .inl ⟨_, _, rfl⟩
  have opens : Act.Adds (openUser svc.witnessed server principal password) fun outcome es =>
      es = [.connect (Environment.user server principal password) outcome] :=
    .andThen (fun _ => rfl) fun _ => (Act.Adds.connect svc _).mono fun _ _ opened => opened.1
  refine .bind opens ?_
  rintro outcome _ rfl
  cases outcome with
  | ok c =>
    refine .bind (.exchange _ _) ?_
    rintro outcome _ rfl
    cases outcome with
    | ok _ => exact .pure (.visit guest (.refl _) rfl)
    | error e => exact .andThen (fun _ => rfl) fun _ => .pure (.visit guest (.refl _) rfl)
  | error e =>
    cases e with
    | bind reason => exact .andThen (fun _ => rfl) fun _ => .pure (.refused guest)
    | _ => exact .pure (.refused guest)

end DirectoryLogin
