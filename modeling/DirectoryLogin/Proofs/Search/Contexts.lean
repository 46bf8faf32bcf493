import DirectoryLogin.Proofs.Search.Failures
import DirectoryLogin.Proofs.Search.Mirrored
import DirectoryLogin.Proofs.Steady
import Mathlib.Data.List.Nodup

namespace DirectoryLogin.Search

variable {σ κ : Type} {server : Server} {c : Line κ} {r : Request} {mode : FindMode}
  {result : Except Error (List Entry)} {first : List (Exchange κ)} {legs : List (Leg κ)}

namespace Leg

/-- Whether the search got as far as to look at the server of the referral. -/
def searched (leg : Leg κ) : Bool :=
  !(leg.exchanges.flatMap Exchange.context).isEmpty

/-- Where the search looked, and the entries that it was handed there. -/
def answer (leg : Leg κ) : List ((String × String) × List Entry) :=
  (leg.exchanges.flatMap Exchange.context).map fun place =>
    (place, leg.exchanges.flatMap Exchange.entry)

end Leg

theorem Referred.entry_of_context {url : String} {f : Findings}
    {ended : Except Error Ending × Findings} {es : List (Exchange κ)}
    (referred : Referred server r mode url f ended es) (none : es.flatMap Exchange.context = []) :
    es.flatMap Exchange.entry = [] := by
  cases referred with
  | noBase => rfl
  | closed _ opened => exact opened.quiet.2.1
  | entered _ _ enumerated => simp [enumerated.contexts] at none

theorem contexts_of_referred
    (referred : ∀ leg ∈ legs, ∃ f ended, Referred server r mode leg.url f ended leg.exchanges) :
    ((legs.flatMap Leg.exchanges).flatMap Exchange.context).map some =
      (legs.filter Leg.searched).map fun leg => context? r leg.url := by
  induction legs with
  | nil => rfl
  | cons leg legs ih =>
    obtain ⟨⟨_, _, here⟩, others⟩ := List.forall_mem_cons.1 referred
    rw [List.flatMap_cons, List.flatMap_append, List.map_append, ih others]
    obtain none | ⟨place, leads, one⟩ := here.contexts
    · have skipped : ¬leg.searched = true := by simp [Leg.searched, none]
      rw [none, List.filter_cons_of_neg skipped]
      rfl
    · have searched : leg.searched = true := by simp [Leg.searched, one]
      rw [one, List.filter_cons_of_pos searched, List.map_cons, ← leads]
      rfl

theorem entries_of_referred
    (referred : ∀ leg ∈ legs, ∃ f ended, Referred server r mode leg.url f ended leg.exchanges) :
    (legs.flatMap Leg.answer).flatMap Prod.snd =
      (legs.flatMap Leg.exchanges).flatMap Exchange.entry := by
  induction legs with
  | nil => rfl
  | cons leg legs ih =>
    obtain ⟨⟨_, _, here⟩, others⟩ := List.forall_mem_cons.1 referred
    rw [List.flatMap_cons, List.flatMap_append, List.flatMap_cons, List.flatMap_append, ih others]
    obtain none | ⟨place, _, one⟩ := here.contexts
    · simp [Leg.answer, none, here.entry_of_context none]
    · simp [Leg.answer, one]

/-- What each place answered that a search looked at: the URL and the base, and the entries. -/
def answers (c : Line κ) (r : Request) (first : List (Exchange κ)) (legs : List (Leg κ)) :
    List ((String × String) × List Entry) :=
  ((c.env.url, r.baseDn), first.flatMap Exchange.entry) :: legs.flatMap Leg.answer

/-- Every entry is on one server, which hands it out once in a search. -/
structure StoredOnce (answers : List ((String × String) × List Entry)) : Prop where
  once : ∀ answer ∈ answers, answer.2.Nodup
  oneServer : ∀ answer ∈ answers, ∀ other ∈ answers, ∀ e ∈ answer.2, e ∈ other.2 →
    answer.1.1 = other.1.1

/-- Then an entry comes up twice only if one server hands it out in two searches. -/
theorem StoredOnce.nodup_iff {answers : List ((String × String) × List Entry)}
    (stored : StoredOnce answers) : (answers.flatMap Prod.snd).Nodup ↔
      answers.Pairwise fun answer other => answer.1.1 = other.1.1 → answer.2.Disjoint other.2 := by
  rw [List.nodup_flatMap, and_iff_right stored.once]
  refine List.Pairwise.iff_of_mem fun {answer other} member memberOther => ⟨?_, ?_⟩
  · exact fun apart _ => apart
  · intro apart e inAnswer inOther
    exact apart (stored.oneServer answer member other memberOther e inAnswer inOther) inAnswer inOther

namespace Found

/-- The search looks below its base on the connection that it was given, and then where those of the
referrals lead that it gets to. -/
theorem contexts (found : Found server c r mode result first legs) :
    ((first ++ legs.flatMap Leg.exchanges).flatMap Exchange.context).map some =
      some (c.env.url, r.baseDn) ::
        (legs.filter Leg.searched).map fun leg => context? r leg.url := by
  obtain ⟨ended, origin, chased⟩ := found
  rw [List.flatMap_append, List.map_append, origin.contexts, contexts_of_referred chased.referred]
  rfl

theorem entries_eq (found : Found server c r mode result first legs) :
    (answers c r first legs).flatMap Prod.snd =
      (first ++ legs.flatMap Leg.exchanges).flatMap Exchange.entry := by
  obtain ⟨ended, origin, chased⟩ := found
  rw [answers, List.flatMap_cons, entries_of_referred chased.referred, List.flatMap_append]

/-- A search looks twice at one place only if it is led back to where it started, or by two texts to the
same place. -/
theorem nodup_contexts_iff (found : Found server c r mode result first legs) :
    ((first ++ legs.flatMap Leg.exchanges).flatMap Exchange.context).Nodup ↔
      (∀ leg ∈ legs.filter Leg.searched, context? r leg.url ≠ some (c.env.url, r.baseDn)) ∧
      (legs.filter Leg.searched).Pairwise fun leg later =>
        context? r leg.url ≠ context? r later.url := by
  have injective : Function.Injective (some : String × String → Option (String × String)) :=
    fun _ _ => Option.some.inj
  rw [← List.nodup_map_iff injective, found.contexts, List.nodup_cons, List.Nodup, List.pairwise_map]
  simp only [List.mem_map, not_exists, not_and]

end Found

/-- Where a search looks. It looks below its base at the server that it starts with, and then where
referrals with different texts lead. So it looks twice at one place if and only if one of them leads back
to the start, or two of them to the same place; and where every entry is on one server, an entry comes up
twice if and only if one server hands it out in two searches. All entries that come up are the result in
the mode for all of them, and in the mode for one entry two of them are needed for an error. -/
theorem find_contexts (svc : Service σ κ) (server : Server) (c : Line κ) (r : Request)
    (mode : FindMode) (t : Trace (Witnessed σ κ)) :
    let run := find svc.witnessed server c r mode t
    find svc server c.name r mode (Act.plain t) = (run.1, Act.plain run.2) ∧
    ∃ first legs,
    let es := first ++ legs.flatMap Leg.exchanges
    let followed := legs.filter Leg.searched
    run.2.world.exchanges = t.world.exchanges ++ es ∧
    (legs.map Leg.url).Nodup ∧
    (es.flatMap Exchange.context).map some =
      some (c.env.url, r.baseDn) :: followed.map (fun leg => context? r leg.url) ∧
    ((es.flatMap Exchange.context).Nodup ↔
      (∀ leg ∈ followed, context? r leg.url ≠ some (c.env.url, r.baseDn)) ∧
      followed.Pairwise fun leg later => context? r leg.url ≠ context? r later.url) ∧
    (StoredOnce (answers c r first legs) → ((es.flatMap Exchange.entry).Nodup ↔
      (answers c r first legs).Pairwise fun answer other =>
        answer.1.1 = other.1.1 → answer.2.Disjoint other.2)) ∧
    (∀ entries, run.1 = .ok entries → entries = es.flatMap Exchange.entry) ∧
    (mode = .unique → run.1 = .error (.nonUniqueResult r.display) →
      (es.flatMap Exchange.entry).length = 2 ∨
        .nonUniqueResult r.display ∈ es.flatMap Exchange.failure) := by
  obtain ⟨_, added, first, legs, rfl, found⟩ := find_adds svc server c r mode t
  refine ⟨find_mirrors svc server c r mode t, first, legs, added, found.bounded.distinct,
    found.contexts, found.nodup_contexts_iff, ?_, fun entries well => found.entries well, ?_⟩
  · intro stored
    rw [← found.entries_eq]
    exact stored.nodup_iff
  · rintro rfl failed
    exact found.second failed

/-- In the ring, the search for the one entry of a person finds it twice, at the server that it starts with
and where it comes back to. -/
theorem find_ring_twice :
    let run := find MemoryDirectory.service.witnessed Ring.server ⟨0, Environment.bind Ring.server⟩
      Ring.onlyAnna .unique ⟨⟨Ring.directory, []⟩, []⟩
    run.1 = .error (.nonUniqueResult Ring.onlyAnna.display) ∧
      run.2.world.exchanges.flatMap Exchange.context = [
        ("ldap://a.example.org", "dc=example,dc=org"),
        ("ldap://b.example.org", "dc=example,dc=org"),
        ("ldap://a.example.org", "dc=example,dc=org")] ∧
      run.2.world.exchanges.flatMap Exchange.entry = [Ring.anna, Ring.anna] := by
  decide +kernel

end DirectoryLogin.Search
