import DirectoryLogin.Directory.Memory
import DirectoryLogin.Proofs.Mirrored
import Mathlib.Data.List.Forall2

namespace DirectoryLogin

variable {σ κ α : Type}

open Exchange (Asked Fruitless NotFoundAfterEntry)

namespace Resolver

theorem findUser_adds (svc : Service σ κ) (mapping : UserMapping) (login : String)
    (attributes : List String) (f : Factory (Line κ)) :
    Act.Adds (findUser svc.witnessed mapping login attributes f) fun found es =>
      found.1 = .ok none → Fruitless es ∧
        Asked f.server { mapping.search login with scope := f.server.scope, attributes } es := by
  refine .bind (Factory.lookup_adds svc _ mapping.findMode f) ?_
  rintro ⟨found, f'⟩ es accounts
  cases found with
  | ok entries =>
    refine .pure fun missing => ?_
    rw [List.append_nil]
    have given := accounts.entries entries rfl
    have none : entries.head? = none := Except.ok.inj missing
    exact ⟨.inl (given ▸ List.head?_eq_none_iff.1 none), accounts.asked fun e failed => nomatch failed⟩
  | error e =>
    by_cases notFound : e.isNotFound
    · simp only [notFound, if_true]
      refine .andThen (fun _ => rfl) fun _ => .pure fun _ => ?_
      rw [List.append_nil]
      refine ⟨accounts.notFound e rfl notFound, accounts.asked ?_⟩
      rintro _ ⟨⟩
      exact notFound
    · simp only [notFound]
      exact .pure fun missing => nomatch missing

/-- What a server is asked about a user, and what it hands out, when the user is not found. -/
structure Missing (login : String) (f : Factory (Line κ)) (lookup : List (Exchange κ)) : Prop where
  unasked : f.server.userMapping = none → lookup = []
  asked : ∀ mapping, f.server.userMapping = some mapping →
    Asked f.server { mapping.search login with
      scope := f.server.scope
      attributes := [mapping.realNameAttribute, mapping.emailAttribute] } lookup
  entry_iff : lookup.flatMap Exchange.entry ≠ [] ↔ NotFoundAfterEntry lookup

theorem Missing.of_none {login : String} {f : Factory (Line κ)} (noUsers : f.server.userMapping = none) :
    Missing login f [] where
  unasked _ := rfl
  asked mapping users := by
    rw [noUsers] at users
    cases users
  entry_iff := Fruitless.entry_iff (.inl rfl)

theorem Missing.of_some {login : String} {f : Factory (Line κ)} {mapping : UserMapping}
    {lookup : List (Exchange κ)} (users : f.server.userMapping = some mapping)
    (fruitless : Fruitless lookup)
    (asked : Asked f.server { mapping.search login with
      scope := f.server.scope
      attributes := [mapping.realNameAttribute, mapping.emailAttribute] } lookup) :
    Missing login f lookup where
  unasked none := by
    rw [users] at none
    cases none
  asked mapping' same := by
    rw [users] at same
    cases same
    exact asked
  entry_iff := fruitless.entry_iff

theorem detailsOn_adds (svc : Service σ κ) (login : String) (f : Factory (Line κ)) :
    Act.Adds (detailsOn svc.witnessed login f) fun found es =>
      found.1 = .nothing → Missing login f es := by
  unfold detailsOn
  cases users : f.server.userMapping with
  | none => exact .pure fun _ => .of_none users
  | some mapping =>
    refine .bind (findUser_adds svc mapping login _ f) ?_
    rintro ⟨found, f'⟩ es unknown
    rcases found with e | _ | entry
    · exact .andThen (fun _ => rfl) fun _ => .pure fun missing => nomatch missing
    · refine .andThen (fun _ => rfl) fun _ => .pure fun _ => ?_
      rw [List.append_nil]
      obtain ⟨fruitless, asked⟩ := unknown rfl
      exact .of_some users fruitless asked
    · exact .pure fun missing => nomatch missing

/-- Nothing is the reply of all servers together only if it is the reply of each. -/
theorem askUntil_adds {ask : Question (Witnessed σ κ) (Line κ) α}
    {unknown : Factory (Line κ) → List (Exchange κ) → Prop}
    (asks : ∀ f, Act.Adds (ask f) fun found es => found.1 = .nothing → unknown f es)
    (last : Option Error) (fs : List (Factory (Line κ))) :
    Act.Adds (askUntil ask last fs) fun found es => found.1 = .nothing → last = none ∧
      ∃ lookups : List (List (Exchange κ)), es = lookups.flatten ∧
        List.Forall₂ unknown fs lookups := by
  induction fs generalizing last with
  | nil =>
    cases last with
    | none => exact .pure fun _ => ⟨rfl, [], rfl, .nil⟩
    | some e => exact .pure fun missing => nomatch missing
  | cons f rest ih =>
    refine .bind (asks f) ?_
    rintro ⟨reply, f'⟩ es unknownHere
    cases reply with
    | answer a => exact .pure fun missing => nomatch missing
    | nothing =>
      refine .bind (ih last) ?_
      rintro ⟨found, rest'⟩ more later
      refine .pure fun missing => ?_
      obtain ⟨none, lookups, rfl, unknownLater⟩ := later missing
      exact ⟨none, es :: lookups, by simp, .cons (unknownHere rfl) unknownLater⟩
    | failure e =>
      refine .bind (ih (some e)) ?_
      rintro ⟨found, rest'⟩ more later
      refine .pure fun missing => ?_
      obtain ⟨none, _⟩ := later missing
      cases none

theorem userDetails_adds (svc : Service σ κ) (login : String) (r : Resolver (Line κ)) :
    Act.Adds (userDetails svc.witnessed login r) fun found es => found.1 = .ok none →
      ∃ lookups : List (List (Exchange κ)), es = lookups.flatten ∧
        List.Forall₂ (Missing login) r.factories lookups := by
  refine .andThen (fun _ => rfl) fun _ => ?_
  refine .bind (askUntil_adds (detailsOn_adds svc login) none r.factories) ?_
  rintro ⟨reply, factories⟩ es unknown
  cases reply with
  | answer details => exact .pure fun missing => nomatch missing
  | nothing =>
    refine .pure fun _ => ?_
    rw [List.append_nil]
    exact (unknown rfl).2
  | failure e => exact .pure fun missing => nomatch missing

/-- That a user is not found means that no server handed an entry out, except where after an entry a
server said that a subject is not found: all servers with users are asked, in turn, and hand out an entry
if and only if they run into that. -/
theorem userDetails_none (svc : Service σ κ) (login : String) (r : Resolver (Line κ))
    (t : Trace (Witnessed σ κ))
    (missing : (userDetails svc login r.plain (Act.plain t)).1.1 = .ok none) :
    let run := userDetails svc.witnessed login r t
    userDetails svc login r.plain (Act.plain t) = ((run.1.1, run.1.2.plain), Act.plain run.2) ∧
    ∃ lookups : List (List (Exchange κ)),
      run.2.world.exchanges = t.world.exchanges ++ lookups.flatten ∧
      List.Forall₂ (Missing login) r.factories lookups := by
  have mirrored := userDetails_mirrors svc login r t
  rw [mirrored] at missing
  obtain ⟨_, added, found⟩ := userDetails_adds svc login r t
  obtain ⟨lookups, rfl, unknown⟩ := found missing
  exact ⟨mirrored, lookups, added, unknown⟩

namespace Astray

def user : MemoryServer :=
  MemoryServer.withUser {} "tester" "uid=tester,ou=users,dc=example,dc=org" "secret"

/-- The server of a user refers to one that does not have the base of the search. -/
def servers : Dictionary MemoryServer :=
  .ofList [
    ("ldap://a.example.org:389", user.withReferral "ldap://b.example.org:389"),
    ("ldap://b.example.org:389", MemoryServer.withSuffix {} "dc=example,dc=net")]

def server : Server where
  key := "a"
  url := "ldap://a.example.org:389"
  userMapping := some (.ofRequest "ou=users,dc=example,dc=org" "(uid=\x7blogin\x7d)")

def resolver : Resolver (Line Nat) :=
  ofRegistry ⟨[server], by decide, by decide⟩

def start : Trace (Witnessed MemoryDirectory Nat) := ⟨⟨{ servers }, []⟩, []⟩

end Astray

open Astray in
theorem userDetails_none_astray :
    let run := userDetails MemoryDirectory.service.witnessed "tester" resolver start
    userDetails MemoryDirectory.service "tester" resolver.plain (Act.plain start) =
      ((run.1.1, run.1.2.plain), Act.plain run.2) ∧
    ∃ lookups : List (List (Exchange Nat)), run.2.world.exchanges = [] ++ lookups.flatten ∧
      List.Forall₂ (Missing "tester") resolver.factories lookups :=
  userDetails_none MemoryDirectory.service "tester" resolver start (by decide +kernel)

open Astray in
/-- The user is said not to be found although the user's own server has handed the entry out. -/
theorem userDetails_loses_entry :
    (userDetails MemoryDirectory.service "tester" resolver.plain (Act.plain start)).1.1 = .ok none ∧
      (userDetails MemoryDirectory.service.witnessed "tester" resolver
        start).2.world.exchanges.flatMap Exchange.entry = user.entries := by
  decide +kernel

end Resolver

end DirectoryLogin
