import Mathlib.Tactic.Choose
import DirectoryLogin.Proofs.Search.Legs
import DirectoryLogin.Proofs.Search.Mirrored

namespace DirectoryLogin

/-- The number of the entry at which a search stops. -/
def FindMode.limit : FindMode → Option Nat
  | .unique => some 2
  | .first => some 1
  | .all => none

theorem FindMode.limit_pos {mode : FindMode} {limit : Nat} (stops : mode.limit = some limit) :
    0 < limit := by
  cases mode with
  | unique => cases stops; exact Nat.two_pos
  | first => cases stops; exact Nat.one_pos
  | all => cases stops

theorem FindMode.eq_of_limit_lt {mode : FindMode} {limit n : Nat} (stops : mode.limit = some limit)
    (more : n + 1 < limit) : mode = .unique ∧ n = 0 := by
  cases mode with
  | unique => cases stops; exact ⟨rfl, by omega⟩
  | first => cases stops; omega
  | all => cases stops

namespace Search

variable {σ κ α β : Type} {r : Request} {mode : FindMode} {limit : Nat} {had : List Entry} {c : Line κ}

/-- The exchanges `short` go the way of `full` up to the entry that makes `limit` together with those that
were had before; the search is then given up. -/
def GivesUp (limit : Nat) (had : List Entry) (c : Line κ) (full short : List (Exchange κ)) : Prop :=
  ∃ before e after outcome, (had ++ before.flatMap Exchange.entry).length + 1 = limit ∧
    full = before ++ .next c (.ok (some (.entry e))) :: after ∧
    short = before ++ [.next c (.ok (some (.entry e))), .abandon c outcome]

/-- After that, nothing is done but to close the connection, if the search has opened it. -/
def Stops (limit : Nat) (had : List Entry) (full short : List (Exchange κ)) : Prop :=
  ∃ c given closing, GivesUp limit had c full given ∧ short = given ++ closing ∧
    (closing = [] ∨ ∃ outcome, closing = [.close c outcome])

theorem GivesUp.prepend {full short : List (Exchange κ)} (es : List (Exchange κ))
    (givesUp : GivesUp limit (had ++ es.flatMap Exchange.entry) c full short) :
    GivesUp limit had c (es ++ full) (es ++ short) := by
  obtain ⟨before, e, after, outcome, count, rfl, rfl⟩ := givesUp
  refine ⟨es ++ before, e, after, outcome, ?_, by simp, by simp⟩
  rw [List.flatMap_append, ← List.append_assoc]
  exact count

theorem Stops.prepend {full short : List (Exchange κ)} (es : List (Exchange κ))
    (stops : Stops limit (had ++ es.flatMap Exchange.entry) full short) :
    Stops limit had (es ++ full) (es ++ short) := by
  obtain ⟨c, given, closing, givesUp, rfl, last⟩ := stops
  exact ⟨c, es ++ given, closing, givesUp.prepend es, by rw [List.append_assoc], last⟩

theorem GivesUp.prepend_quiet (es full short : List (Exchange κ)) (none : es.flatMap Exchange.entry = [])
    (givesUp : GivesUp limit had c full short) : GivesUp limit had c (es ++ full) (es ++ short) :=
  .prepend es (by rwa [none, List.append_nil])

theorem Stops.prepend_quiet (es full short : List (Exchange κ)) (none : es.flatMap Exchange.entry = [])
    (stops : Stops limit had full short) : Stops limit had (es ++ full) (es ++ short) :=
  .prepend es (by rwa [none, List.append_nil])

theorem GivesUp.append {full short : List (Exchange κ)} (givesUp : GivesUp limit had c full short)
    (later : List (Exchange κ)) : GivesUp limit had c (full ++ later) short := by
  obtain ⟨before, e, after, outcome, count, rfl, rfl⟩ := givesUp
  exact ⟨before, e, after ++ later, outcome, count, by simp, rfl⟩

theorem Stops.append {full short : List (Exchange κ)} (stops : Stops limit had full short)
    (later : List (Exchange κ)) : Stops limit had (full ++ later) short := by
  obtain ⟨c, given, closing, givesUp, rfl, last⟩ := stops
  exact ⟨c, given, closing, givesUp.append later, rfl, last⟩

/-- From a world, `short` does the same as `full` as long as there are fewer entries than the limit.
Otherwise it breaks off in a certain way, with a certain result. -/
def Abridged (limit : Nat) (had : List Entry) (cut : List (Exchange κ) → List (Exchange κ) → Prop)
    (stopped : List Entry → β → Prop) (w : Witnessed σ κ)
    (full short : β × Trace (Witnessed σ κ)) : Prop :=
  ∃ es, full.2.world.exchanges = w.exchanges ++ es ∧
    ((had ++ es.flatMap Exchange.entry).length < limit ∧ short.1 = full.1 ∧
        short.2.world = full.2.world ∨
      limit ≤ (had ++ es.flatMap Exchange.entry).length ∧
        ∃ given, short.2.world.exchanges = w.exchanges ++ given ∧ cut es given ∧
          stopped ((had ++ es.flatMap Exchange.entry).take limit) short.1)

/-- One exchange that is common to both. -/
theorem Abridged.cons {stopped : List Entry → β → Prop} {w w' : Witnessed σ κ}
    {full short : β × Trace (Witnessed σ κ)} {x : Exchange κ}
    (kept : w'.exchanges = w.exchanges ++ [x])
    (rest : Abridged limit (had ++ x.entry) (GivesUp limit (had ++ x.entry) c) stopped w' full short) :
    Abridged limit had (GivesUp limit had c) stopped w full short := by
  have entries (es : List (Exchange κ)) :
      had ++ (x :: es).flatMap Exchange.entry = had ++ x.entry ++ es.flatMap Exchange.entry := by
    rw [List.flatMap_cons, List.append_assoc]
  have single : [x].flatMap Exchange.entry = x.entry := List.flatMap_singleton ..
  obtain ⟨es, added, rest⟩ := rest
  refine ⟨x :: es, ?_, ?_⟩
  · rw [added, kept, List.append_assoc, List.singleton_append]
  · rw [entries]
    obtain ⟨few, same⟩ | ⟨enough, given, addedShort, givesUp, result⟩ := rest
    · exact .inl ⟨few, same⟩
    · refine .inr ⟨enough, x :: given, ?_, .prepend [x] (single.symm ▸ givesUp), result⟩
      rw [addedShort, kept, List.append_assoc, List.singleton_append]

/-- So it is from every world, whatever the two have logged before. -/
def Abridges (limit : Nat) (had : List Entry) (cut : List (Exchange κ) → List (Exchange κ) → Prop)
    (stopped : List Entry → β → Prop) (full short : Act (Witnessed σ κ) β) : Prop :=
  ∀ t u, u.world = t.world → Abridged limit had cut stopped t.world (full t) (short u)

namespace Abridges

variable {cut : List (Exchange κ) → List (Exchange κ) → Prop} {stopped : List Entry → β → Prop}

/-- An act that hands out too few entries. -/
theorem same {act : Act (Witnessed σ κ) β} (blind : act.Blind)
    (few : Act.Adds act fun _ es => (had ++ es.flatMap Exchange.entry).length < limit) :
    Abridges limit had cut stopped act act := by
  intro t u here
  obtain ⟨es, added, few⟩ := few t
  exact ⟨es, added, .inl ⟨few, blind t u here⟩⟩

theorem mono {other : List (Exchange κ) → List (Exchange κ) → Prop} {full short : Act (Witnessed σ κ) β}
    (abridges : Abridges limit had cut stopped full short)
    (weaken : ∀ es given, cut es given → other es given) : Abridges limit had other stopped full short := by
  intro t u here
  obtain ⟨es, added, same | ⟨enough, given, addedShort, broke, result⟩⟩ := abridges t u here
  · exact ⟨es, added, .inl same⟩
  · exact ⟨es, added, .inr ⟨enough, given, addedShort, weaken es given broke, result⟩⟩

/-- An act that is common to both and hands out no entry. -/
theorem after {first : Act (Witnessed σ κ) α} {next nextShort : α → Act (Witnessed σ κ) β}
    (blind : first.Blind) (quiet : Act.Adds first fun _ es => es.flatMap Exchange.entry = [])
    (prepend : ∀ es full short, es.flatMap Exchange.entry = [] → cut full short →
      cut (es ++ full) (es ++ short))
    (rest : ∀ a, Abridges limit had cut stopped (next a) (nextShort a)) :
    Abridges limit had cut stopped (first >>= next) (first >>= nextShort) := by
  intro t u here
  obtain ⟨es, added, none⟩ := quiet t
  obtain ⟨result, world⟩ := blind t u here
  have start : (first >>= nextShort) u = nextShort (first t).1 (first u).2 :=
    congrArg (nextShort · (first u).2) result
  obtain ⟨later, addedLater, rest⟩ := rest (first t).1 (first t).2 (first u).2 world
  refine ⟨es ++ later, ?_, ?_⟩
  · rw [← List.append_assoc, ← added]
    exact addedLater
  · rw [start, List.flatMap_append, none, List.nil_append]
    obtain ⟨few, same⟩ | ⟨enough, given, addedShort, broke, result⟩ := rest
    · exact .inl ⟨few, same⟩
    · refine .inr ⟨enough, es ++ given, ?_, prepend es later given none broke, result⟩
      rw [← List.append_assoc, ← added]
      exact addedShort

theorem bind {cutFirst : List (Exchange κ) → List (Exchange κ) → Prop} {stoppedFirst : List Entry → α → Prop}
    {first firstShort : Act (Witnessed σ κ) α} {next nextShort : α → Act (Witnessed σ κ) β}
    {between : α → List (Exchange κ) → Prop}
    (head : Abridges limit had cutFirst stoppedFirst first firstShort) (adds : Act.Adds first between)
    (more : ∀ a, Act.Adds (next a) fun _ _ => True)
    (goesOn : ∀ a es, between a es → (had ++ es.flatMap Exchange.entry).length < limit →
      Abridges limit (had ++ es.flatMap Exchange.entry) (fun full short => cut (es ++ full) (es ++ short))
        stopped (next a) (nextShort a))
    (ends : ∀ a entries full short, cutFirst full short → stoppedFirst entries a →
      Act.Adds (nextShort a) fun b closing =>
        (∀ later, cut (full ++ later) (short ++ closing)) ∧ stopped entries b) :
    Abridges limit had cut stopped (first >>= next) (firstShort >>= nextShort) := by
  intro t u here
  obtain ⟨es, added, within | ⟨enough, given, addedShort, broke, result⟩⟩ := head t u here
  · obtain ⟨few, result, world⟩ := within
    obtain ⟨es', added', known⟩ := adds t
    obtain rfl : es = es' := List.append_cancel_left (added.symm.trans added')
    have start : (firstShort >>= nextShort) u = nextShort (first t).1 (firstShort u).2 :=
      congrArg (nextShort · (firstShort u).2) result
    obtain ⟨later, addedLater, rest⟩ := goesOn _ es known few (first t).2 (firstShort u).2 world
    refine ⟨es ++ later, ?_, ?_⟩
    · rw [← List.append_assoc, ← added]
      exact addedLater
    · rw [start, List.flatMap_append, ← List.append_assoc]
      obtain ⟨few, same⟩ | ⟨enough, given, addedShort, broke, result⟩ := rest
      · exact .inl ⟨few, same⟩
      · refine .inr ⟨enough, es ++ given, ?_, broke, result⟩
        rw [addedShort, added, List.append_assoc]
  · obtain ⟨later, addedLater, -⟩ := more (first t).1 (first t).2
    obtain ⟨closing, closed, cutAll, ended⟩ := ends _ _ es given broke result (firstShort u).2
    refine ⟨es ++ later, ?_, .inr ⟨?_, given ++ closing, ?_, cutAll later, ?_⟩⟩
    · rw [← List.append_assoc, ← added]
      exact addedLater
    · rw [List.flatMap_append, ← List.append_assoc, List.length_append]
      exact Nat.le_add_right_of_le enough
    · rw [← List.append_assoc, ← addedShort]
      exact closed
    · rw [List.flatMap_append, ← List.append_assoc, List.take_append_of_le_length enough]
      exact ended

end Abridges

theorem abandonQuietly_blind (svc : Service σ κ) (c : κ) : (abandonQuietly svc c).Blind := by
  refine .bind (.perform _) fun outcome => ?_
  cases outcome with
  | ok _ => exact .pure _
  | error e => exact .note _

theorem closeQuietly_blind (svc : Service σ κ) (c : κ) : (closeQuietly svc c).Blind := by
  refine .bind (.perform _) fun outcome => ?_
  cases outcome with
  | ok _ => exact .pure _
  | error e => exact .note _

theorem openReferral_blind (svc : Service σ κ) (server : Server) (url : String) :
    (openReferral svc server url).Blind := by
  unfold openReferral
  cases Environment.referralUrl url with
  | error e => exact .pure _
  | ok target =>
    refine .bind (.note _) fun _ => .bind (.perform _) fun outcome => ?_
    cases outcome with
    | ok c => exact .pure _
    | error e => exact .pure _

/-- How the enumeration of a server ends when its search is given up. -/
def Stopped (r : Request) : FindMode → List Entry → Except Error Ending × Findings → Prop
  | .first, entries, ended => ∃ pending, ended = (.ok .satisfied, { entries, pending })
  | .unique, _, ended => ended.1 = .error (.nonUniqueResult r.display)
  | .all, _, _ => False

/-- What a search comes to that is given up. -/
def verdict (r : Request) : FindMode → List Entry → Except Error (List Entry)
  | .first, entries => .ok entries
  | .unique, _ => .error (.nonUniqueResult r.display)
  | .all, entries => .ok entries

theorem chase_stopped (svc : Service σ κ) (server : Server) (hops : Nat) (visited : List String)
    {entries : List Entry} {ended : Except Error Ending × Findings}
    (stopped : Stopped r mode entries ended) :
    chase svc server r mode hops visited ended = pure (verdict r mode entries) := by
  obtain ⟨outcome, f⟩ := ended
  cases mode with
  | first =>
    obtain ⟨pending, ⟨⟩⟩ := stopped
    rw [chase]
    rfl
  | unique =>
    obtain rfl : outcome = .error (.nonUniqueResult r.display) := stopped
    rw [chase]
    rfl
  | all => exact stopped.elim

theorem drain_more {svc : Service σ κ} {c : κ} {f : Findings} {t : Trace σ} {e : Entry} {world : σ}
    (stops : mode.limit = some limit) (next : svc.next c t.world = (.ok (some (.entry e)), world))
    (more : f.entries.length + 1 < limit) : drain svc c r mode f t =
      drain svc c r mode { f with entries := f.entries ++ [e] } { t with world } := by
  obtain ⟨rfl, none⟩ := FindMode.eq_of_limit_lt stops more
  have first : f.entries.isEmpty = true := List.isEmpty_iff_length_eq_zero.2 none
  rw [drain_eq, next]
  simp [first]

theorem drain_last {svc : Service σ κ} {c : κ} {f : Findings} {t : Trace σ} {e : Entry} {world : σ}
    (stops : mode.limit = some limit) (next : svc.next c t.world = (.ok (some (.entry e)), world))
    (last : f.entries.length + 1 = limit) : ∃ ended, Stopped r mode (f.entries ++ [e]) ended ∧
      drain svc c r mode f t = (ended, (abandonQuietly svc c { t with world }).2) := by
  rw [drain_eq, next]
  cases mode with
  | unique =>
    cases stops
    have another : f.entries.isEmpty = false := by
      rw [List.isEmpty_eq_false_iff, ← List.length_pos_iff]
      omega
    exact ⟨(.error (.nonUniqueResult r.display), f), rfl, by simp [another]⟩
  | first => exact ⟨(.ok .satisfied, { f with entries := f.entries ++ [e] }), ⟨_, rfl⟩, by simp⟩
  | all => cases stops

theorem drain_abridges (svc : Service σ κ) (c : Line κ) (r : Request) (stops : mode.limit = some limit)
    (f : Findings) (few : f.entries.length < limit) :
    Abridges limit f.entries (GivesUp limit f.entries c) (Stopped r mode)
      (drain svc.witnessed c r .all f) (drain svc.witnessed c r mode f) := by
  intro t u here
  have kept {outcome : Except Error (Option Item)} {w world : Witnessed σ κ}
      (next : svc.witnessed.next c w = (outcome, world)) :
      world.exchanges = w.exchanges ++ [.next c outcome] := by
    rw [← (Prod.mk.inj next).1, ← (Prod.mk.inj next).2]
  fun_induction drain svc.witnessed c r .all f t generalizing u with
  | case1 f t world t' urls next _ _ ih =>
    have added : t'.world.exchanges = t.world.exchanges ++ [.next c (.ok (some (.referral urls)))] :=
      kept next
    have none : f.entries ++ (Exchange.next c (.ok (some (.referral urls)))).entry = f.entries :=
      List.append_nil _
    rw [drain_eq _ c r mode f u, here, next]
    exact .cons added (none.symm ▸ ih few _ rfl)
  | case2 f t world t' e next second => cases second
  | case3 f t world t' e next _ f' first => cases first
  | case4 f t world t' e next notSecond f' notFirst _ _ ih =>
    have added : t'.world.exchanges = t.world.exchanges ++ [.next c (.ok (some (.entry e)))] := kept next
    by_cases more : f.entries.length + 1 < limit
    · rw [drain_more stops (here ▸ next) more]
      exact .cons added (ih (by simpa [f'] using more) _ rfl)
    · have last : f.entries.length + 1 = limit := by omega
      obtain ⟨ended, stopped, short⟩ := drain_last (r := r) stops (here ▸ next) last
      obtain ⟨es, later, -⟩ := drain_adds svc c r .all f' t'
      obtain ⟨_, abandoned, outcome, rfl⟩ := abandonQuietly_adds svc c { u with world }
      refine ⟨.next c (.ok (some (.entry e))) :: es, ?_, .inr ⟨?_,
        [.next c (.ok (some (.entry e))), .abandon c outcome], ?_, ?_, ?_⟩⟩
      · rw [later, added, List.append_assoc, List.singleton_append]
      · simp [Exchange.entry]
        omega
      · rw [short, abandoned]
        exact (congrArg (· ++ [.abandon c outcome]) added).trans (List.append_assoc ..)
      · exact ⟨[], e, es, outcome, by simpa using last, rfl, rfl⟩
      · have entries : (f.entries ++ (Exchange.next c (.ok (some (.entry e))) :: es).flatMap
            Exchange.entry).take limit = f.entries ++ [e] := by
          rw [List.flatMap_cons, ← List.append_assoc]
          exact List.take_left' (by simpa [Exchange.entry] using last)
        rwa [entries, short]
  | case5 f t world next =>
    refine ⟨[.next c (.ok none)], kept next, .inl ⟨by simpa [Exchange.entry] using few, ?_⟩⟩
    rw [drain_eq _ c r mode f u, here, next]
    exact ⟨rfl, rfl⟩
  | case6 f t e world next =>
    obtain ⟨_, more, outcome, rfl⟩ := abandonQuietly_adds svc c { t with world }
    refine ⟨[.next c (.error e), .abandon c outcome], ?_, .inl ⟨by simpa [Exchange.entry] using few, ?_⟩⟩
    · rw [more, kept next, List.append_assoc, List.singleton_append]
    · rw [drain_eq _ c r mode f u, here, next]
      exact ⟨rfl, (abandonQuietly_blind svc.witnessed c { t with world } { u with world } rfl).2⟩

theorem enumerate_abridges (svc : Service σ κ) (c : Line κ) (r : Request) (base : String)
    (stops : mode.limit = some limit) (f : Findings) (few : f.entries.length < limit) :
    Abridges limit f.entries (GivesUp limit f.entries c) (Stopped r mode)
      (enumerate svc.witnessed c r base .all f) (enumerate svc.witnessed c r base mode f) := by
  have asked : Act.Adds (Act.perform (svc.witnessed.search c base r.scope r.filter r.wireAttributes))
      fun _ es => es.flatMap Exchange.entry = [] :=
    (Act.Adds.exchange _ _).mono fun _ _ one => one ▸ rfl
  refine .after (.perform _) asked GivesUp.prepend_quiet fun outcome => ?_
  cases outcome with
  | error e => exact .same (.pure _) (.pure (by simpa using few))
  | ok _ => exact drain_abridges svc c r stops f few

theorem closeQuietly_closes (svc : Service σ κ) (c : Line κ) (ended : Except Error Ending × Findings) :
    Act.Adds (do closeQuietly svc.witnessed c; return ended) fun found es =>
      found = ended ∧ ∃ outcome, es = [.close c outcome] := by
  refine .bind (closeQuietly_adds svc c) ?_
  rintro _ _ ⟨outcome, rfl⟩
  exact .pure ⟨rfl, outcome, rfl⟩

theorem enumerateReferral_abridges (svc : Service σ κ) (server : Server) (r : Request) (url : String)
    (stops : mode.limit = some limit) (f : Findings) (few : f.entries.length < limit) :
    Abridges limit f.entries (Stops limit f.entries) (Stopped r mode)
      (enumerateReferral svc.witnessed server r .all url f)
      (enumerateReferral svc.witnessed server r mode url f) := by
  have nothing : Act.Adds (σ := σ) (κ := κ) (Act.note (.debug "Following referral" [("referral", url)]))
      fun _ es => es.flatMap Exchange.entry = [] := .quiet (fun _ => rfl) fun _ => rfl
  have opened := (openReferral_adds svc server url).mono fun _ _ opened => opened.quiet.2.1
  refine .after (.note _) nothing Stops.prepend_quiet fun _ => ?_
  cases referralBase url r.baseDn with
  | error e => exact .same (.pure _) (.pure (by simpa using few))
  | ok base =>
    refine .after (openReferral_blind _ server url) opened Stops.prepend_quiet fun found => ?_
    cases found with
    | error e => exact .same (.pure _) (.pure (by simpa using few))
    | ok c =>
      refine .bind (enumerate_abridges svc c r base stops f few) (enumerate_adds svc c r base .all f)
        (fun ended => (closeQuietly_closes svc c ended).mono fun _ _ _ => trivial) ?_ ?_
      · intro ended es _ within
        refine .same (.bind (closeQuietly_blind _ c) fun _ => .pure _) ((closeQuietly_closes svc c ended).mono ?_)
        rintro _ _ ⟨rfl, outcome, rfl⟩
        simpa [Exchange.entry] using within
      · intro ended entries full short givesUp stopped
        refine (closeQuietly_closes svc c ended).mono ?_
        rintro _ _ ⟨rfl, outcome, rfl⟩
        exact ⟨fun later => ⟨c, short, _, givesUp.append later, rfl, .inr ⟨outcome, rfl⟩⟩, stopped⟩

theorem chase_ends (svc : Service σ κ) (server : Server) (hops : Nat) (visited : List String)
    (ended : Except Error Ending × Findings) (entries : List Entry) (full short : List (Exchange κ))
    (cut : Stops limit had full short) (stopped : Stopped r mode entries ended) :
    Act.Adds (chase svc.witnessed server r mode hops visited ended) fun result closing =>
      (∀ later, Stops limit had (full ++ later) (short ++ closing)) ∧ result = verdict r mode entries := by
  rw [chase_stopped svc.witnessed server hops visited stopped]
  exact .pure ⟨fun later => by rw [List.append_nil]; exact cut.append later, rfl⟩

theorem chase_abridges (svc : Service σ κ) (server : Server) (r : Request)
    (stops : mode.limit = some limit) (hops : Nat) (visited : List String)
    (ended : Except Error Ending × Findings) (few : had.length < limit)
    (known : ∀ ending, ended.1 = .ok ending → ended.2.entries = had) :
    Abridges limit had (Stops limit had) (fun entries result => result = verdict r mode entries)
      (chase svc.witnessed server r .all hops visited ended)
      (chase svc.witnessed server r mode hops visited ended) := by
  have few' : (had ++ ([] : List (Exchange κ)).flatMap Exchange.entry).length < limit := by simpa using few
  induction hops, visited, ended using chase_induction svc.witnessed server r .all generalizing had with
  | failed hops visited e f =>
    rw [chase]
    exact .same (.pure _) (.pure few')
  | satisfied hops visited f =>
    rw [chase]
    exact .same (.pure _) (.pure few')
  | exhausted hops visited visited' f events next =>
    rw [chase, next]
    exact .same (.bind (.noteAll _) fun _ => .pure _) (.andThen (fun _ => rfl) fun _ => .pure few')
  | tooMany visited visited' f leg events next =>
    rw [chase, next]
    exact .same (.bind (.noteAll _) fun _ => .pure _) (.andThen (fun _ => rfl) fun _ => .pure few')
  | followed hops visited visited' f url pending events next ih =>
    obtain rfl : f.entries = had := known _ rfl
    have noted : Act.Adds (σ := σ) (κ := κ) (Act.noteAll events) fun _ es =>
        es.flatMap Exchange.entry = [] := .quiet (fun _ => rfl) fun _ => rfl
    rw [chase, next]
    refine .after (.noteAll _) noted Stops.prepend_quiet fun _ => ?_
    refine .bind (enumerateReferral_abridges svc server r url stops { f with pending } few)
      (enumerateReferral_adds svc server r .all url _)
      (fun ended => (chase_adds svc server r .all hops visited' ended).mono fun _ _ _ => trivial) ?_ ?_
    · intro ended es referred within
      exact (ih ended within (fun ending well => referred.entries well) (by simpa using within)).mono
        fun _ _ stops => stops.prepend es
    · exact chase_ends svc server hops visited'

theorem find_abridges (svc : Service σ κ) (server : Server) (c : Line κ) (r : Request)
    (stops : mode.limit = some limit) :
    Abridges limit [] (Stops limit []) (fun entries result => result = verdict r mode entries)
      (find svc.witnessed server c r .all) (find svc.witnessed server c r mode) := by
  have few : (Findings.mk [] []).entries.length < limit := FindMode.limit_pos stops
  have noted : Abridges limit [] (Stops limit []) (fun entries result => result = verdict r mode entries)
      (enumerate svc.witnessed c r r.baseDn .all {} >>=
        chase svc.witnessed server r .all maxReferralHops [])
      (enumerate svc.witnessed c r r.baseDn mode {} >>=
        chase svc.witnessed server r mode maxReferralHops []) := by
    refine .bind (enumerate_abridges svc c r r.baseDn stops {} few)
      (enumerate_adds svc c r r.baseDn .all {})
      (fun ended => (chase_adds svc server r .all _ _ ended).mono fun _ _ _ => trivial) ?_ ?_
    · intro ended es enumerated within
      exact (chase_abridges svc server r stops maxReferralHops [] ended within
        fun ending well => enumerated.entries well).mono fun _ _ stops => stops.prepend es
    · intro ended entries full short givesUp stopped
      exact chase_ends svc server maxReferralHops [] ended entries full short
        ⟨c, short, [], givesUp, (List.append_nil _).symm, .inl rfl⟩ stopped
  intro t u here
  -- The two have logged their modes.
  exact noted _ _ here

/-- The modes are coherent. With `E` for the entries that the search for all is handed, whether it succeeds
or not: a search for one entry fails if there are two, a search for the first one gives the head of `E`, and
with fewer entries both do what the search for all does. With more, they go its way up to the entry that
settles them, abandon the search there, and at most close its connection. -/
theorem find_modes (svc : Service σ κ) (server : Server) (c : Line κ) (r : Request)
    (t : Trace (Witnessed σ κ)) :
    let run (mode : FindMode) := find svc.witnessed server c r mode t
    (∀ mode, find svc server c.name r mode (Act.plain t) = ((run mode).1, Act.plain (run mode).2)) ∧
    ∃ es : FindMode → List (Exchange κ),
    let E := (es .all).flatMap Exchange.entry
    (∀ mode, (run mode).2.world.exchanges = t.world.exchanges ++ es mode) ∧
    (∀ entries, (run .all).1 = .ok entries → entries = E) ∧
    (run .unique).1 = (if 2 ≤ E.length then .error (.nonUniqueResult r.display) else (run .all).1) ∧
    (run .first).1 = (match E with | [] => (run .all).1 | e :: _ => .ok [e]) ∧
    ∀ mode limit, mode.limit = some limit →
      if E.length < limit then (run mode).2.world = (run .all).2.world
      else Stops limit [] (es .all) (es mode) := by
  have adds (mode : FindMode) := find_adds svc server c r mode t
  choose es added found using adds
  obtain ⟨first, legs, all, course⟩ := found .all
  have compared {mode : FindMode} {limit : Nat} (stops : mode.limit = some limit) :
      ((es .all).flatMap Exchange.entry).length < limit ∧
          (find svc.witnessed server c r mode t).1 = (find svc.witnessed server c r .all t).1 ∧
          (find svc.witnessed server c r mode t).2.world =
            (find svc.witnessed server c r .all t).2.world ∨
        limit ≤ ((es .all).flatMap Exchange.entry).length ∧ Stops limit [] (es .all) (es mode) ∧
          (find svc.witnessed server c r mode t).1 =
            verdict r mode (((es .all).flatMap Exchange.entry).take limit) := by
    obtain ⟨es', added', few | ⟨enough, given, addedShort, cut, result⟩⟩ :=
      find_abridges svc server c r stops t t rfl
    · obtain rfl : es .all = es' := List.append_cancel_left ((added .all).symm.trans added')
      exact .inl few
    · obtain rfl : es .all = es' := List.append_cancel_left ((added .all).symm.trans added')
      obtain rfl : es mode = given := List.append_cancel_left ((added mode).symm.trans addedShort)
      exact .inr ⟨enough, cut, result⟩
  refine ⟨fun mode => find_mirrors svc server c r mode t, es, added, ?_, ?_, ?_, ?_⟩
  · intro entries well
    rw [all]
    exact course.entries well
  · obtain ⟨few, same, -⟩ | ⟨enough, -, result⟩ := compared (show FindMode.unique.limit = some 2 from rfl)
    · rw [if_neg (Nat.not_le.2 few), same]
    · rw [if_pos enough, result]
      rfl
  · obtain ⟨few, same, -⟩ | ⟨enough, -, result⟩ := compared (show FindMode.first.limit = some 1 from rfl)
    · rw [List.eq_nil_of_length_eq_zero (Nat.lt_one_iff.1 few)]
      exact same
    · obtain ⟨e, rest, entries⟩ := List.exists_cons_of_length_pos enough
      rw [entries] at result ⊢
      exact result
  · intro mode limit stops
    obtain ⟨few, -, world⟩ | ⟨enough, cut, -⟩ := compared stops
    · rwa [if_pos few]
    · rwa [if_neg (Nat.not_lt.2 enough)]

end Search

end DirectoryLogin
