import DirectoryLogin.Proofs.Authentication
import DirectoryLogin.Proofs.Search.Legs

namespace DirectoryLogin

open Text

variable {σ κ α : Type}

/-- The request for a login in some scope, with some attributes. -/
def UserMapping.requestFor (mapping : UserMapping) (login : String) (scope : Scope)
    (attributes : List String) : Request :=
  { mapping.search login with scope, attributes }

/-- The request for the groups of a user in some scope. -/
def GroupMapping.requestFor (groups : GroupMapping) (user : Entry) (scope : Scope) : Request :=
  { groups.search user with scope }

/-- What a search asks for, whatever its base. -/
structure Wanted where
  scope : Scope
  filter : String
  attributes : List String

def Request.wanted (r : Request) : Wanted := ⟨r.scope, r.filter, r.wireAttributes⟩

/-- What was asked for with attributes that include these, asked for them. -/
theorem UserMapping.asks_for (mapping : UserMapping) (login : String) (scope : Scope) {attributes : List String}
    {name : String} (asked : name ∈ attributes) :
    name ∈ (mapping.requestFor login scope attributes).wanted.attributes := by
  have some : attributes.isEmpty = false := by
    rw [List.isEmpty_eq_false_iff]
    exact List.ne_nil_of_mem asked
  change name ∈ if attributes.isEmpty then [Request.noAttributes] else attributes
  rwa [some]

/-- Each placeholder but `dn` is an attribute that is asked for. -/
theorem GroupMapping.mem_requiredAttributes {groups : GroupMapping} {name : String}
    (placeholder : name ∈ groups.request.placeholders) (notDn : ¬ sameLetters name "dn") :
    name ∈ groups.requiredAttributes :=
  List.mem_filter.2 ⟨placeholder, by simpa using notDn⟩

theorem Act.Adds.andMeets {act : Act (Witnessed σ κ) α} {after : α → List (Exchange κ) → Prop} {p : α → Prop}
    (adds : Act.Adds act after) (meets : Act.Meets (fun _ => True) act fun a _ => p a) :
    Act.Adds act fun a es => p a ∧ after a es := by
  intro t
  obtain ⟨es, added, holds⟩ := adds t
  exact ⟨es, added, meets t trivial, holds⟩

namespace Exchange

def wanted : Exchange κ → List Wanted
  | search _ _ scope filter attributes _ => [⟨scope, filter, attributes⟩]
  | _ => []

/-- The exchanges ask for nothing but what the request does. -/
def Want (r : Request) (es : List (Exchange κ)) : Prop := ∀ a ∈ es.flatMap wanted, a = r.wanted

variable {r : Request} {es more : List (Exchange κ)}

theorem Want.of_nil (none : es.flatMap wanted = []) : Want r es := by
  rw [Want, none]
  exact nofun

theorem Want.append (first : Want r es) (second : Want r more) : Want r (es ++ more) := by
  intro a member
  rw [List.flatMap_append] at member
  exact (List.mem_append.1 member).elim (first a) (second a)

end Exchange

open Exchange (Want)

namespace Search

variable {server : Server} {c : Line κ} {r : Request} {mode : FindMode} {base url : String} {f : Findings}
  {ended : Except Error Ending × Findings} {es : List (Exchange κ)}

theorem Enumerated.want (enumerated : Enumerated c r base mode f ended es) : Want r es := by
  cases enumerated with
  | refused => exact fun _ => List.mem_singleton.1
  | @started _ es drained =>
    have none : es.flatMap Exchange.wanted = [] := drained.quiet (fun _ => rfl) fun _ => rfl
    intro a member
    rw [List.flatMap_cons, none, List.append_nil] at member
    exact List.mem_singleton.1 member

theorem Referred.want (referred : Referred server r mode url f ended es) : Want r es := by
  have opening {found : Except Error (Line κ)} {es : List (Exchange κ)} (opened : Opened server url found es) :
      Want r es := by
    cases opened with
    | noTarget => exact .of_nil rfl
    | refused => exact .of_nil rfl
    | opened => exact .of_nil rfl
  cases referred with
  | noBase => exact .of_nil rfl
  | closed _ opened => exact opening opened
  | entered _ opened enumerated => exact (opening opened).append (enumerated.want.append (.of_nil rfl))

theorem Found.want {result : Except Error (List Entry)} {first : List (Exchange κ)} {legs : List (Leg κ)}
    (found : Found server c r mode result first legs) : Want r (first ++ legs.flatMap Leg.exchanges) := by
  obtain ⟨ended, origin, chased⟩ := found
  refine origin.want.append fun a member => ?_
  obtain ⟨x, inside, wanted⟩ := List.mem_flatMap.1 member
  obtain ⟨leg, member, inside⟩ := List.mem_flatMap.1 inside
  obtain ⟨_, _, referred⟩ := chased.referred leg member
  exact referred.want a (List.mem_flatMap.2 ⟨x, inside, wanted⟩)

end Search

theorem Pool.release_silent (svc : Service σ κ) (c : Line κ) (p : Pool (Line κ)) :
    Act.Adds (p.release svc.witnessed c) fun _ es => es = [] := by
  refine .andThen (fun _ => rfl) fun closed => ?_
  split
  · exact .pure rfl
  · exact .pure rfl

theorem Factory.lookup_wants (svc : Service σ κ) (r : Request) (mode : FindMode) (f : Factory (Line κ)) :
    Act.Adds (f.lookup svc.witnessed r mode) fun _ es => Want r es := by
  refine .bind (Pool.bind_bound svc f.server f.pool) ?_
  rintro ⟨bound, pool⟩ opening course
  have quiet : opening.flatMap Exchange.wanted = [] := by cases course <;> rfl
  cases bound with
  | error e =>
    refine .pure ?_
    rw [List.append_nil]
    exact .of_nil quiet
  | ok c =>
    refine .bind (Search.find_adds svc f.server c r mode) ?_
    rintro found _ ⟨first, legs, rfl, course⟩
    have back {act : Act (Witnessed σ κ) (Pool (Line κ))}
        (closing : Act.Adds act fun _ es => es.flatMap Exchange.wanted = []) :
        Act.Adds (do let pool ← act; return (found, { f with pool })) fun _ more =>
          Want r (opening ++ (first ++ legs.flatMap Search.Leg.exchanges ++ more)) := by
      refine .bind closing fun pool es none => .pure ?_
      rw [List.append_nil]
      exact (Want.of_nil quiet).append (course.want.append (.of_nil none))
    have released : Act.Adds (pool.release svc.witnessed c) fun _ es => es.flatMap Exchange.wanted = [] :=
      (Pool.release_silent svc c pool).mono fun _ _ none => by rw [none]; rfl
    have discarded : Act.Adds (pool.discard svc.witnessed c) fun _ es => es.flatMap Exchange.wanted = [] :=
      (Pool.discard_closes svc c pool).mono fun _ _ ⟨_, _, closed⟩ => by rw [closed]; rfl
    cases found with
    | ok entries => exact back released
    | error e =>
      dsimp only
      split
      · exact back discarded
      · exact back released

namespace Resolver

theorem findUser_wants (svc : Service σ κ) (mapping : UserMapping) (login : String) (attributes : List String)
    (f : Factory (Line κ)) : Act.Adds (findUser svc.witnessed mapping login attributes f) fun _ es =>
      Want (mapping.requestFor login f.server.scope attributes) es := by
  refine .bind (Factory.lookup_wants svc _ mapping.findMode f) ?_
  rintro ⟨found, f'⟩ es want
  have done (found : Except Error (Option Entry)) : Act.Adds (σ := σ) (pure (found, f')) fun _ more =>
      Want (mapping.requestFor login f.server.scope attributes) (es ++ more) :=
    .pure (by rwa [List.append_nil])
  cases found with
  | ok entries => exact done _
  | error e =>
    dsimp only
    split
    · exact .andThen (fun _ => rfl) fun _ => done _
    · exact done _

/-- What is asked on behalf of groups: first for a user, with all attributes that the request for groups needs, and
then for that user's groups. -/
structure GroupsWanted (login : String) (f : Factory (Line κ)) (first second : List (Exchange κ)) : Prop where
  skipped : f.server.userMapping = none ∨ f.server.groupMapping = none → first = [] ∧ second = []
  lookup : ∀ users groups, f.server.userMapping = some users → f.server.groupMapping = some groups →
    Want (users.requestFor login f.server.scope groups.requiredAttributes) first
  placeholders : ∀ groups, f.server.groupMapping = some groups → ∀ a ∈ first.flatMap Exchange.wanted,
    ∀ name ∈ groups.request.placeholders, ¬ sameLetters name "dn" → name ∈ a.attributes
  search : ∀ groups, f.server.groupMapping = some groups →
    second = [] ∨ ∃ user, Want (groups.requestFor user f.server.scope) second

theorem GroupsWanted.of_skipped {login : String} {f : Factory (Line κ)}
    (skipped : f.server.userMapping = none ∨ f.server.groupMapping = none) : GroupsWanted login f [] [] where
  skipped _ := ⟨rfl, rfl⟩
  lookup users groups hasUsers hasGroups := by simp [hasUsers, hasGroups] at skipped
  placeholders _ _ := nofun
  search _ _ := .inl rfl

theorem GroupsWanted.of_lookup {login : String} {f : Factory (Line κ)} {users : UserMapping} {groups : GroupMapping}
    {first second : List (Exchange κ)} (hasUsers : f.server.userMapping = some users)
    (hasGroups : f.server.groupMapping = some groups)
    (lookup : Want (users.requestFor login f.server.scope groups.requiredAttributes) first)
    (search : second = [] ∨ ∃ user, Want (groups.requestFor user f.server.scope) second) :
    GroupsWanted login f first second where
  skipped skipped := by simp [hasUsers, hasGroups] at skipped
  lookup users' groups' hasUsers' hasGroups' := by
    obtain rfl : users = users' := Option.some.inj (hasUsers.symm.trans hasUsers')
    obtain rfl : groups = groups' := Option.some.inj (hasGroups.symm.trans hasGroups')
    exact lookup
  placeholders groups' hasGroups' a member name placeholder notDn := by
    obtain rfl : groups = groups' := Option.some.inj (hasGroups.symm.trans hasGroups')
    rw [lookup a member]
    exact users.asks_for login f.server.scope (groups.mem_requiredAttributes placeholder notDn)
  search groups' hasGroups' := by
    obtain rfl : groups = groups' := Option.some.inj (hasGroups.symm.trans hasGroups')
    exact search

theorem groupsOn_wants (svc : Service σ κ) (login : String) (f : Factory (Line κ)) :
    Act.Adds (groupsOn svc.witnessed login f) fun _ es =>
      ∃ first second, es = first ++ second ∧ GroupsWanted login f first second := by
  unfold groupsOn
  cases hasUsers : f.server.userMapping with
  | none => exact .andThen (fun _ => rfl) fun _ => .pure ⟨[], [], rfl, .of_skipped (.inl hasUsers)⟩
  | some users =>
    cases hasGroups : f.server.groupMapping with
    | none => exact .andThen (fun _ => rfl) fun _ => .pure ⟨[], [], rfl, .of_skipped (.inr hasGroups)⟩
    | some groups =>
      refine .bind ((findUser_wants svc users login _ f).andMeets
        (findUser_server svc.witnessed users login groups.requiredAttributes f)) ?_
      rintro ⟨found, f'⟩ es ⟨same, lookup⟩
      have done {reply : Reply (List String)} {g : Factory (Line κ)} : Act.Adds (σ := σ) (pure (reply, g))
          fun _ more => ∃ first second, es ++ more = first ++ second ∧ GroupsWanted login f first second :=
        .pure ⟨es, [], rfl, .of_lookup hasUsers hasGroups lookup (.inl rfl)⟩
      rcases found with e | _ | user
      · exact .andThen (fun _ => rfl) fun _ => done
      · exact .andThen (fun _ => rfl) fun _ => done
      · dsimp only at same ⊢
        rw [same]
        refine .bind (Factory.lookup_wants svc (groups.requestFor user f.server.scope) .all f') ?_
        rintro ⟨found, f''⟩ more search
        have done {reply : Reply (List String)} {g : Factory (Line κ)} : Act.Adds (σ := σ) (pure (reply, g))
            fun _ last => ∃ first second, es ++ (more ++ last) = first ++ second ∧
              GroupsWanted login f first second :=
          .pure ⟨es, more, by rw [List.append_nil], .of_lookup hasUsers hasGroups lookup (.inr ⟨user, search⟩)⟩
        cases found with
        | ok entries => exact done
        | error e => exact .andThen (fun _ => rfl) fun _ => done

theorem askAll_adds {ask : Question (Witnessed σ κ) (Line κ) α} {p : Factory (Line κ) → List (Exchange κ) → Prop}
    (asks : ∀ f, Act.Adds (ask f) fun _ => p f) (last : Option Error) (fs : List (Factory (Line κ))) :
    Act.Adds (askAll ask last fs) fun _ es => ∃ owns, es = owns.flatten ∧ List.Forall₂ p fs owns := by
  induction fs generalizing last with
  | nil => exact .pure ⟨[], rfl, .nil⟩
  | cons f rest ih =>
    refine .bind (asks f) ?_
    rintro ⟨reply, f'⟩ own here
    refine .bind (ih _) ?_
    rintro found _ ⟨owns, rfl, others⟩
    exact .pure ⟨own :: owns, by rw [List.append_nil, List.flatten_cons], .cons here others⟩

theorem groups_wants (svc : Service σ κ) (login : String) (r : Resolver (Line κ)) :
    Act.Adds (groups svc.witnessed login r) fun _ es => es = [] ∨ ∃ owns, es = owns.flatten ∧
      List.Forall₂ (fun f own => ∃ first second, own = first ++ second ∧ GroupsWanted login f first second)
        r.factories owns := by
  unfold groups
  split
  · exact .pure (.inl rfl)
  · refine .andThen (fun _ => rfl) fun _ => ?_
    refine .bind (askAll_adds (groupsOn_wants svc login) none r.factories) ?_
    rintro ⟨⟨answers, last⟩, fs⟩ es asked
    have done {result : Except Error (List String) × Resolver (Line κ)} : Act.Adds (σ := σ) (pure result)
        fun _ more => es ++ more = [] ∨ ∃ owns, es ++ more = owns.flatten ∧ List.Forall₂
          (fun f own => ∃ first second, own = first ++ second ∧ GroupsWanted login f first second)
          r.factories owns :=
      .pure (.inr (by rwa [List.append_nil]))
    cases answers <;> cases last <;> exact done

end Resolver

end DirectoryLogin
