import DirectoryLogin.Factory
import DirectoryLogin.Proofs.Pool.Moves
import DirectoryLogin.Proofs.Search.Failures
import DirectoryLogin.Proofs.Search.Mirrored

namespace DirectoryLogin

variable {σ κ : Type}

/-- The request was made below its base, unless the connection for it was refused with the word that a
subject is not found. -/
def Exchange.Asked (server : Server) (r : Request) (es : List (Exchange κ)) : Prop :=
  (∃ line outcome, .search line r.baseDn r.scope r.filter r.wireAttributes outcome ∈ es) ∨
    ∃ e, e.isNotFound ∧ .connect (Environment.bind server) (.error e) ∈ es

/-- A lookup that comes to nothing: no entry was handed out, or the lookup ended in the word of a server
that a subject is not found. -/
def Exchange.Fruitless (es : List (Exchange κ)) : Prop :=
  es.flatMap Exchange.entry = [] ∨ ∃ e, e.isNotFound ∧ Exchange.Broken e es

/-- After an entry was handed out, a server says that a subject is not found. -/
def Exchange.NotFoundAfterEntry (es : List (Exchange κ)) : Prop :=
  ∃ before x after e, es = before ++ x :: after ∧ x.failure = [e] ∧ e.isNotFound ∧
    before.flatMap Exchange.entry ≠ []

theorem Exchange.entry_of_failure {x : Exchange κ} {e : Error} (failure : x.failure = [e]) :
    x.entry = [] := by
  cases x with
  | next line outcome =>
    cases outcome with
    | ok item => cases failure
    | error e => rfl
  | _ => rfl

theorem Exchange.Fruitless.entry_iff {es : List (Exchange κ)} (fruitless : Fruitless es) :
    es.flatMap Exchange.entry ≠ [] ↔ NotFoundAfterEntry es := by
  constructor
  · intro some
    obtain none | ⟨e, notFound, before, x, after, rfl, failure, quiet⟩ := fruitless
    · exact absurd none some
    · refine ⟨before, x, after, e, rfl, failure, notFound, fun none => some ?_⟩
      simp [none, quiet, entry_of_failure failure]
  · rintro ⟨before, x, after, e, rfl, _, _, some⟩ none
    rw [List.flatMap_append, List.append_eq_nil_iff] at none
    exact some none.1

open Exchange (Asked Broken Fruitless NotFoundAfterEntry)

/-- How a caller comes to a bind connection, or fails to. -/
inductive Pool.Bound (server : Server) (p : Pool (Line κ)) :
    Except Error (Line κ) → Pool (Line κ) → List (Exchange κ) → Prop
  | taken {c dropped idle} (waited : p.idle = dropped ++ c :: idle) :
    Bound server p (.ok c) { p.lend with idle } []
  | opened {c} : Bound server p (.ok c) { p.lend with idle := [] } [.connect (.bind server) (.ok c)]
  | refused {e} :
    Bound server p (.error e) { p.lend with idle := [] }.free [.connect (.bind server) (.error e)]

theorem Pool.bind_bound (svc : Service σ κ) (server : Server) (p : Pool (Line κ)) :
    Act.Adds (p.bind svc.witnessed server) fun bound es => p.Bound server bound.1 bound.2 es := by
  have took : Act.Adds (takeOpen svc.witnessed server p.idle) fun found es => es = [] ∧
      ∃ dropped, p.idle = dropped ++ found.1.toList ++ found.2 ∧ (found.1 = none → found.2 = []) := by
    intro t
    rcases run : takeOpen svc.witnessed server p.idle t with ⟨⟨found, idle⟩, t'⟩
    obtain ⟨dropped, split, -, -, empty⟩ := takeOpen_cases (congrArg Prod.fst run)
    have same : t'.world = t.world := by
      rw [← (takeOpen_eq svc.witnessed server p.idle t).2, run]
    exact ⟨[], by rw [same, List.append_nil], rfl, dropped, split, empty⟩
  refine .bind took ?_
  rintro ⟨found, idle⟩ _ ⟨rfl, dropped, split, empty⟩
  cases found with
  | some c => exact .pure (.taken (by simpa using split))
  | none =>
    obtain rfl : idle = [] := empty rfl
    refine .andThen (fun _ => rfl) fun _ => .bind (.connect svc _) ?_
    rintro outcome _ ⟨rfl, -⟩
    cases outcome with
    | ok c => exact .pure .opened
    | error e => exact .pure .refused

theorem Pool.bind_adds (svc : Service σ κ) (server : Server) (p : Pool (Line κ)) :
    Act.Adds (p.bind svc.witnessed server) fun bound es => es.flatMap Exchange.entry = [] ∧
      ∀ e, bound.1 = .error e → es = [.connect (Environment.bind server) (.error e)] := by
  refine (bind_bound svc server p).mono fun bound es course => ?_
  rcases bound with ⟨outcome, pool⟩
  cases course with
  | taken => exact ⟨rfl, nofun⟩
  | opened => exact ⟨rfl, nofun⟩
  | refused => exact ⟨rfl, fun e failed => by rw [Except.error.inj failed]⟩

theorem Pool.release_adds (svc : Service σ κ) (c : Line κ) (p : Pool (Line κ)) :
    Act.Adds (p.release svc.witnessed c) fun _ es => es.flatMap Exchange.entry = [] := by
  refine .andThen (fun _ => rfl) fun closed => ?_
  split
  · exact .pure rfl
  · exact .pure rfl

theorem Pool.discard_closes (svc : Service σ κ) (c : Line κ) (p : Pool (Line κ)) :
    Act.Adds (p.discard svc.witnessed c) fun p' es => p' = p.free ∧ ∃ outcome, es = [.close c outcome] := by
  refine .bind (.exchange _ _) ?_
  rintro outcome _ rfl
  cases outcome with
  | ok _ => exact .pure ⟨rfl, _, rfl⟩
  | error e => exact .andThen (fun _ => rfl) fun _ => .pure ⟨rfl, _, rfl⟩

theorem Pool.discard_adds (svc : Service σ κ) (c : Line κ) (p : Pool (Line κ)) :
    Act.Adds (p.discard svc.witnessed c) fun _ es => es.flatMap Exchange.entry = [] := by
  refine (discard_closes svc c p).mono ?_
  rintro _ _ ⟨-, outcome, rfl⟩
  rfl

theorem Search.Found.searched {server : Server} {c : Line κ} {r : Request} {mode : FindMode}
    {found : Except Error (List Entry)} {first : List (Exchange κ)} {legs : List (Leg κ)}
    (course : Found server c r mode found first legs) :
    ∃ outcome, .search c r.baseDn r.scope r.filter r.wireAttributes outcome ∈ first := by
  obtain ⟨ended, origin, _⟩ := course
  cases origin with
  | refused => exact ⟨_, List.mem_cons_self⟩
  | started => exact ⟨_, List.mem_cons_self⟩

/-- The result of a lookup gives account of what was asked and handed out on its way. -/
structure Accounts (server : Server) (r : Request) (found : Except Error (List Entry))
    (es : List (Exchange κ)) : Prop where
  entries : ∀ entries, found = .ok entries → entries = es.flatMap Exchange.entry
  notFound : ∀ e, found = .error e → e.isNotFound → Fruitless es
  asked : (∀ e, found = .error e → e.isNotFound) → Asked server r es

theorem Accounts.of_refused {server : Server} {r : Request} {e : Error} {es : List (Exchange κ)}
    (refused : es = [.connect (Environment.bind server) (.error e)]) :
    Accounts server r (.error e) es where
  entries _ well := by cases well
  notFound _ _ _ := .inl (by rw [refused]; rfl)
  asked told := .inr ⟨e, told e rfl, by rw [refused]; exact List.mem_singleton_self _⟩

theorem Accounts.of_found {server : Server} {c : Line κ} {r : Request} {mode : FindMode}
    {found : Except Error (List Entry)} {first : List (Exchange κ)} {legs : List (Search.Leg κ)}
    (course : Search.Found server c r mode found first legs) :
    Accounts server r found (first ++ legs.flatMap Search.Leg.exchanges) where
  entries _ well := course.entries well
  notFound e failed notFound := .inr ⟨e, notFound, course.broken_of_notFound failed notFound⟩
  asked _ := by
    obtain ⟨outcome, searched⟩ := course.searched
    exact .inl ⟨c, outcome, List.mem_append_left _ searched⟩

/-- What hands out no entry changes no account. -/
theorem Accounts.between {server : Server} {r : Request} {found : Except Error (List Entry)}
    {before es after : List (Exchange κ)} (accounts : Accounts server r found es)
    (quietBefore : before.flatMap Exchange.entry = [])
    (quietAfter : after.flatMap Exchange.entry = []) :
    Accounts server r found (before ++ (es ++ after)) where
  entries entries well := by
    rw [List.flatMap_append, List.flatMap_append, quietBefore, quietAfter, List.nil_append,
      List.append_nil]
    exact accounts.entries entries well
  notFound e failed notFound := by
    obtain none | ⟨e', notFound', broken⟩ := accounts.notFound e failed notFound
    · left
      rw [List.flatMap_append, List.flatMap_append, quietBefore, quietAfter, none]
      rfl
    · exact .inr ⟨e', notFound', (broken.append quietAfter).prepend before⟩
  asked told := by
    have inside {x : Exchange κ} (member : x ∈ es) : x ∈ before ++ (es ++ after) :=
      List.mem_append_right _ (List.mem_append_left _ member)
    obtain ⟨line, outcome, searched⟩ | ⟨e, notFound, refused⟩ := accounts.asked told
    · exact .inl ⟨line, outcome, inside searched⟩
    · exact .inr ⟨e, notFound, inside refused⟩

theorem Factory.lookup_adds (svc : Service σ κ) (r : Request) (mode : FindMode)
    (f : Factory (Line κ)) :
    Act.Adds (f.lookup svc.witnessed r mode) fun found es => Accounts f.server r found.1 es := by
  refine .bind (Pool.bind_adds svc f.server f.pool) ?_
  rintro ⟨bound, pool⟩ opening ⟨quiet, refused⟩
  cases bound with
  | error e =>
    refine .pure ?_
    rw [List.append_nil]
    exact .of_refused (refused e rfl)
  | ok c =>
    refine .bind (Search.find_adds svc f.server c r mode) ?_
    rintro found _ ⟨first, legs, rfl, course⟩
    have back (pool : Pool (Line κ)) (closing : List (Exchange κ))
        (quietClosing : closing.flatMap Exchange.entry = []) : Act.Adds (σ := σ)
          (pure (found, { f with pool })) fun b more => Accounts f.server r b.1
            (opening ++ (first ++ legs.flatMap Search.Leg.exchanges ++ (closing ++ more))) := by
      refine .pure ?_
      rw [List.append_nil]
      exact (Accounts.of_found course).between quiet quietClosing
    cases found with
    | ok entries => exact .bind (Pool.release_adds svc c pool) back
    | error e =>
      dsimp only
      split
      · exact .bind (Pool.discard_adds svc c pool) back
      · exact .bind (Pool.release_adds svc c pool) back

def Pool.plain (p : Pool (Line κ)) : Pool κ :=
  { size := p.size, inUse := p.inUse, idle := p.idle.map Line.name }

def Factory.plain (f : Factory (Line κ)) : Factory κ := ⟨f.server, f.pool.plain⟩

@[simp] theorem Factory.plain_server (f : Factory (Line κ)) : f.plain.server = f.server := rfl

theorem Pool.takeOpen_mirrors (svc : Service σ κ) (server : Server) (idle : List (Line κ)) :
    Act.Mirrors (fun found => (found.1.map Line.name, found.2.map Line.name))
      (takeOpen svc.witnessed server idle) (takeOpen svc server (idle.map Line.name)) := by
  induction idle with
  | nil => exact .pure rfl
  | cons c older ih =>
    refine .bind (.observe _) fun closed => ?_
    cases closed with
    | true => exact .bind (.note _) fun _ => ih
    | false => exact .pure rfl

theorem Pool.bind_mirrors (svc : Service σ κ) (server : Server) (p : Pool (Line κ)) :
    Act.Mirrors (fun bound => (bound.1.map Line.name, bound.2.plain)) (p.bind svc.witnessed server)
      (p.plain.bind svc server) := by
  refine .bind (takeOpen_mirrors svc server p.idle) ?_
  rintro ⟨found, idle⟩
  cases found with
  | some c => exact .pure rfl
  | none =>
    refine .bind (.note _) fun _ => .bind (.connect svc _) fun outcome => ?_
    cases outcome with
    | ok c => exact .pure rfl
    | error e => exact .pure rfl

theorem Pool.release_mirrors (svc : Service σ κ) (c : Line κ) (p : Pool (Line κ)) :
    Act.Mirrors plain (p.release svc.witnessed c) (p.plain.release svc c.name) := by
  refine .bind (.observe _) fun closed => ?_
  cases closed with
  | true => exact .pure rfl
  | false => exact .pure rfl

theorem Pool.discard_mirrors (svc : Service σ κ) (c : Line κ) (p : Pool (Line κ)) :
    Act.Mirrors plain (p.discard svc.witnessed c) (p.plain.discard svc c.name) := by
  refine .bind (.exchange _ _) fun outcome => ?_
  cases outcome with
  | ok _ => exact .pure rfl
  | error e => exact .bind (.note _) fun _ => .pure rfl

theorem Factory.lookup_mirrors (svc : Service σ κ) (r : Request) (mode : FindMode)
    (f : Factory (Line κ)) :
    Act.Mirrors (fun found => (found.1, found.2.plain)) (f.lookup svc.witnessed r mode)
      (f.plain.lookup svc r mode) := by
  refine .bind (Pool.bind_mirrors svc f.server f.pool) ?_
  rintro ⟨bound, pool⟩
  cases bound with
  | error e => exact .pure rfl
  | ok c =>
    refine .bind (Search.find_mirrors svc f.server c r mode) fun found => ?_
    cases found with
    | ok entries => exact .bind (Pool.release_mirrors svc c pool) fun _ => .pure rfl
    | error e =>
      dsimp only [id]
      split
      · exact .bind (Pool.discard_mirrors svc c pool) fun _ => .pure rfl
      · exact .bind (Pool.release_mirrors svc c pool) fun _ => .pure rfl

end DirectoryLogin
