import DirectoryLogin.Proofs.Authentication
import DirectoryLogin.Proofs.Replies

namespace DirectoryLogin

variable {σ κ : Type}

namespace Resolver

theorem isSome_get?_ofList (texts : List String) (x : String) :
    ((Dictionary.ofList (texts.map fun s => (s, ()))).get? x).isSome ↔ x ∈ texts := by
  have folded (d : Dictionary Unit) :
      (((texts.map fun s => (s, ())).foldl (fun d p => d.insert p.1 p.2) d).get? x).isSome ↔
        (d.get? x).isSome ∨ x ∈ texts := by
    induction texts generalizing d with
    | nil => simp
    | cons s rest ih =>
      rw [List.map_cons, List.foldl_cons, ih, Dictionary.get?_insert, List.mem_cons]
      by_cases here : s = x
      · simp [here]
      · simp [here, Ne.symm here]
  rw [Dictionary.ofList, folded]
  simp

theorem mem_distinctTexts {texts : List String} {x : String} : x ∈ distinctTexts texts ↔ x ∈ texts := by
  rw [← isSome_get?_ofList texts x, distinctTexts, Dictionary.keys, List.mem_map, Option.isSome_iff_exists]
  simp [Dictionary.get?_eq_some_iff]

theorem distinctTexts_ascending (texts : List String) : (distinctTexts texts).Pairwise (· < ·) :=
  List.pairwise_map.2 (Dictionary.ofList _).ascending

theorem distinctTexts_congr {texts others : List String} (same : ∀ x, x ∈ texts ↔ x ∈ others) :
    distinctTexts texts = distinctTexts others := by
  have known (x : String) : ((Dictionary.ofList (texts.map fun s => (s, ()))).get? x).isSome ↔
      ((Dictionary.ofList (others.map fun s => (s, ()))).get? x).isSome := by
    rw [isSome_get?_ofList, isSome_get?_ofList, same]
  have equal : Dictionary.ofList (texts.map fun s => (s, ())) = .ofList (others.map fun s => (s, ())) :=
    Dictionary.ext_get? fun x => Option.ext fun u => by
      have here := known x
      rw [Option.isSome_iff_exists, Option.isSome_iff_exists] at here
      exact ⟨fun some => (here.1 ⟨u, some⟩).choose_spec, fun some => (here.2 ⟨u, some⟩).choose_spec⟩
  rw [distinctTexts, distinctTexts, equal]

/-- A server, the outcome of the lookup of a user on it, and that of the search for the user's groups. -/
structure Surveyed where
  server : Server
  user : Except Error (Option Entry)
  groups : Except Error (List Entry)

namespace Surveyed

/-- Only servers with users and groups are asked. -/
def Eligible (a : Surveyed) (users : UserMapping) (groups : GroupMapping) : Prop :=
  a.server.userMapping = some users ∧ a.server.groupMapping = some groups

/-- The user has an entry, and the search for groups succeeds. -/
def Answers (a : Surveyed) (groups : GroupMapping) (entries : List Entry) : Prop :=
  ∃ users user, a.Eligible users groups ∧ a.user = .ok (some user) ∧ a.groups = .ok entries

def AnswersSome (a : Surveyed) : Prop := ∃ groups entries, a.Answers groups entries

/-- The lookup of the user fails, but not because the user is not found, or the search for groups fails. -/
def Errs (a : Surveyed) (e : Error) : Prop :=
  ∃ users groups, a.Eligible users groups ∧
    ((a.user = .error e ∧ ¬ e.isNotFound) ∨ ∃ user, a.user = .ok (some user) ∧ a.groups = .error e)

/-- The text is a value of the attribute that names groups, in an entry of the answer. -/
def Names (a : Surveyed) (x : String) : Prop :=
  ∃ groups entries, a.Answers groups entries ∧
    ∃ entry ∈ entries, ∃ values, entry.values? groups.idAttribute = some values ∧ x ∈ values

/-- The names of the groups that some entries are. -/
def namesOf (groups : GroupMapping) (entries : List Entry) : List String :=
  entries.flatMap fun entry => (entry.values? groups.idAttribute).getD []

theorem mem_namesOf {groups : GroupMapping} {entries : List Entry} {x : String} : x ∈ namesOf groups entries ↔
    ∃ entry ∈ entries, ∃ values, entry.values? groups.idAttribute = some values ∧ x ∈ values := by
  simp only [namesOf, List.mem_flatMap, ← Option.mem_toList]
  refine exists_congr fun entry => and_congr_right fun _ => ?_
  cases entry.values? groups.idAttribute <;> simp

/-- What a server says about groups when this comes of asking it. -/
def reply (a : Surveyed) : Reply (List String) :=
  match a.server.userMapping, a.server.groupMapping with
  | some _, some groups =>
    match a.user with
    | .ok none => .nothing
    | .error e => if e.isNotFound then .nothing else .failure e
    | .ok (some _) =>
      match a.groups with
      | .ok entries => .answer (namesOf groups entries)
      | .error e => .failure e
  | _, _ => .nothing

variable {a : Surveyed}

theorem reply_of_eligible {users : UserMapping} {groups : GroupMapping} (eligible : a.Eligible users groups) :
    a.reply = (match a.user with
      | .ok none => .nothing
      | .error e => if e.isNotFound then .nothing else .failure e
      | .ok (some _) =>
        match a.groups with
        | .ok entries => .answer (namesOf groups entries)
        | .error e => .failure e) := by
  rw [reply, eligible.1, eligible.2]

theorem reply_of_not_eligible (ineligible : ∀ users groups, ¬ a.Eligible users groups) : a.reply = .nothing := by
  unfold reply
  cases users : a.server.userMapping with
  | none => rfl
  | some mapping =>
    cases groups : a.server.groupMapping with
    | none => rfl
    | some groupMapping => exact absurd ⟨users, groups⟩ (ineligible mapping groupMapping)

theorem Eligible.unique {users users' : UserMapping} {groups groups' : GroupMapping}
    (eligible : a.Eligible users groups) (other : a.Eligible users' groups') : users = users' ∧ groups = groups' :=
  ⟨Option.some.inj (eligible.1.symm.trans other.1), Option.some.inj (eligible.2.symm.trans other.2)⟩

theorem answer?_reply {names : List String} : a.reply.answer? = some names ↔
    ∃ groups entries, a.Answers groups entries ∧ names = namesOf groups entries := by
  by_cases eligible : ∃ users groups, a.Eligible users groups
  · obtain ⟨users, groups, eligible⟩ := eligible
    rw [reply_of_eligible eligible]
    constructor
    · intro answered
      rcases user : a.user with e | _ | entry
      · rw [user] at answered
        dsimp only at answered
        split at answered <;> cases answered
      · rw [user] at answered
        cases answered
      · rw [user] at answered
        cases outcome : a.groups with
        | error e =>
          rw [outcome] at answered
          cases answered
        | ok entries =>
          rw [outcome] at answered
          cases answered
          exact ⟨groups, entries, ⟨users, entry, eligible, user, outcome⟩, rfl⟩
    · rintro ⟨groups', entries, ⟨users', entry, eligible', user, outcome⟩, rfl⟩
      obtain ⟨rfl, rfl⟩ := eligible.unique eligible'
      rw [user, outcome]
      rfl
  · rw [reply_of_not_eligible fun users groups here => eligible ⟨users, groups, here⟩]
    refine ⟨nofun, ?_⟩
    rintro ⟨groups, entries, ⟨users, _, here, _⟩, _⟩
    exact absurd ⟨users, groups, here⟩ eligible

theorem failure?_reply {e : Error} : a.reply.failure? = some e ↔ a.Errs e := by
  by_cases eligible : ∃ users groups, a.Eligible users groups
  · obtain ⟨users, groups, eligible⟩ := eligible
    rw [reply_of_eligible eligible]
    constructor
    · intro failed
      rcases user : a.user with e' | _ | entry
      · rw [user] at failed
        dsimp only at failed
        split at failed
        · cases failed
        · next told =>
          cases failed
          exact ⟨users, groups, eligible, .inl ⟨user, told⟩⟩
      · rw [user] at failed
        cases failed
      · rw [user] at failed
        cases outcome : a.groups with
        | error e' =>
          rw [outcome] at failed
          cases failed
          exact ⟨users, groups, eligible, .inr ⟨entry, user, outcome⟩⟩
        | ok entries =>
          rw [outcome] at failed
          cases failed
    · rintro ⟨_, _, -, ⟨user, told⟩ | ⟨entry, user, outcome⟩⟩
      · rw [user]
        dsimp only
        rw [if_neg told]
        rfl
      · rw [user, outcome]
        rfl
  · rw [reply_of_not_eligible fun users groups here => eligible ⟨users, groups, here⟩]
    refine ⟨nofun, ?_⟩
    rintro ⟨users, groups, here, _⟩
    exact absurd ⟨users, groups, here⟩ eligible

/-- This comes of asking the server, now: it looks the user up, and then searches for groups. -/
structure Given (svc : Service σ κ) (login : String) (f : Factory κ) (t : Trace σ) (a : Surveyed) : Prop where
  server : a.server = f.server
  user : ∀ users groups, a.Eligible users groups → a.user =
    (f.lookup svc (users.requestFor login f.server.scope groups.requiredAttributes) users.findMode
      t).1.1.map List.head?
  groups : ∀ users groups user, a.Eligible users groups → a.user = .ok (some user) →
    let found := f.lookup svc (users.requestFor login f.server.scope groups.requiredAttributes) users.findMode t
    a.groups = (found.1.2.lookup svc (groups.requestFor user f.server.scope) .all found.2).1.1

/-- This comes of asking some servers, each in its turn. -/
inductive InTurn (svc : Service σ κ) (login : String) : List (Factory κ) → Trace σ → List Surveyed → Prop
  | nil {t} : InTurn svc login [] t []
  | cons {f rest t a others} (given : a.Given svc login f t)
    (later : InTurn svc login rest (groupsOn svc login f t).2 others) :
    InTurn svc login (f :: rest) t (a :: others)

variable {svc : Service σ κ} {login : String}

theorem Given.exists (svc : Service σ κ) (login : String) (f : Factory κ) (t : Trace σ) :
    ∃ a : Surveyed, a.Given svc login f t := by
  by_cases eligible : ∃ users groups, Eligible ⟨f.server, .ok none, .ok []⟩ users groups
  · obtain ⟨users, groups, eligible⟩ := eligible
    rcases looked : f.lookup svc (users.requestFor login f.server.scope groups.requiredAttributes)
      users.findMode t with ⟨⟨found, f'⟩, t'⟩
    refine ⟨⟨f.server, found.map List.head?, (found.map List.head?).toOption.join.elim (.ok []) fun user =>
        (f'.lookup svc (groups.requestFor user f.server.scope) .all t').1.1⟩,
      rfl, fun users' groups' here => ?_, fun users' groups' user here found => ?_⟩
    · obtain ⟨rfl, rfl⟩ := Eligible.unique (a := ⟨f.server, .ok none, .ok []⟩) eligible here
      rw [looked]
    · obtain ⟨rfl, rfl⟩ := Eligible.unique (a := ⟨f.server, .ok none, .ok []⟩) eligible here
      dsimp only at found ⊢
      rw [looked, found]
      rfl
  · exact ⟨⟨f.server, .ok none, .ok []⟩, rfl, fun users groups here => absurd ⟨users, groups, here⟩ eligible,
      fun users groups _ here => absurd ⟨users, groups, here⟩ eligible⟩

theorem InTurn.exists (svc : Service σ κ) (login : String) (fs : List (Factory κ)) (t : Trace σ) :
    ∃ survey, InTurn svc login fs t survey := by
  induction fs generalizing t with
  | nil => exact ⟨[], .nil⟩
  | cons f rest ih =>
    obtain ⟨a, given⟩ := Given.exists svc login f t
    obtain ⟨others, later⟩ := ih (groupsOn svc login f t).2
    exact ⟨a :: others, .cons given later⟩

/-- A server that is asked says what its lookups come to. -/
theorem Given.reply {f : Factory κ} {t : Trace σ} (given : a.Given svc login f t) :
    (groupsOn svc login f t).1.1 = a.reply := by
  unfold groupsOn
  cases hasUsers : f.server.userMapping with
  | none =>
    rw [Surveyed.reply, given.server, hasUsers]
    rfl
  | some users =>
    cases hasGroups : f.server.groupMapping with
    | none =>
      rw [Surveyed.reply, given.server, hasUsers, hasGroups]
      rfl
    | some groups =>
      have eligible : a.Eligible users groups := by rwa [Eligible, given.server, and_iff_left hasGroups]
      have user := given.user users groups eligible
      have search := given.groups users groups
      have told := findUser_userOf svc users login groups.requiredAttributes f t
      have same := Factory.lookup_server svc
        (users.requestFor login f.server.scope groups.requiredAttributes) users.findMode f t trivial
      rw [reply_of_eligible eligible, user]
      dsimp only
      rw [Act.bind_apply]
      rcases looked : f.lookup svc (users.requestFor login f.server.scope groups.requiredAttributes)
        users.findMode t with ⟨⟨found, f'⟩, t'⟩
      rw [looked] at user told same search
      cases found with
      | error e =>
        rcases run : findUser svc users login groups.requiredAttributes f t with ⟨⟨found, f''⟩, t''⟩
        rw [run] at told
        obtain rfl : found = userOf (.error e) := told
        dsimp only [userOf, Except.map]
        split <;> rfl
      | ok entries =>
        rw [findUser_of_ok looked]
        cases entries with
        | nil => rfl
        | cons entry rest =>
          have outcome : a.groups = (f'.lookup svc (groups.requestFor entry f.server.scope) .all t').1.1 :=
            search entry eligible user
          dsimp only [Except.map, List.head?_cons] at same ⊢
          rw [outcome, Act.bind_apply, ← same, GroupMapping.requestFor]
          rcases f'.lookup svc _ .all t' with ⟨⟨found, f''⟩, t''⟩
          cases found <;> rfl

theorem InTurn.replies {fs : List (Factory κ)} {t : Trace σ} {survey : List Surveyed}
    (given : InTurn svc login fs t survey) :
    replies (groupsOn svc login) fs t = survey.map Surveyed.reply := by
  induction given with
  | nil => rfl
  | cons here _ ih => rw [Resolver.replies, List.map_cons, here.reply, ih]

theorem answer?_reply_eq_none : a.reply.answer? = none ↔ ¬ a.AnswersSome := by
  rw [Option.eq_none_iff_forall_ne_some]
  constructor
  · rintro none ⟨groups, entries, answers⟩
    exact none _ (answer?_reply.2 ⟨groups, entries, answers, rfl⟩)
  · intro none names some
    obtain ⟨groups, entries, answers, -⟩ := answer?_reply.1 some
    exact none ⟨groups, entries, answers⟩

theorem failure?_reply_eq_none : a.reply.failure? = none ↔ ∀ e, ¬ a.Errs e := by
  simp only [Option.eq_none_iff_forall_ne_some, ne_eq, failure?_reply]

/-- The names of groups that some servers answer, one list for each server that answers. -/
def answers (survey : List Surveyed) : List (List String) :=
  (survey.map Surveyed.reply).filterMap Reply.answer?

theorem mem_answers {survey : List Surveyed} {names : List String} : names ∈ answers survey ↔
    ∃ a ∈ survey, ∃ groups entries, a.Answers groups entries ∧ names = namesOf groups entries := by
  simp only [answers, List.mem_filterMap, List.mem_map, exists_exists_and_eq_and, answer?_reply]

theorem mem_flatten_answers {survey : List Surveyed} {x : String} :
    x ∈ (answers survey).flatten ↔ ∃ a ∈ survey, a.Names x := by
  simp only [List.mem_flatten, mem_answers]
  constructor
  · rintro ⟨_, ⟨a, member, groups, entries, answered, rfl⟩, named⟩
    exact ⟨a, member, groups, entries, answered, mem_namesOf.1 named⟩
  · rintro ⟨a, member, groups, entries, answered, named⟩
    exact ⟨_, ⟨a, member, groups, entries, answered, rfl⟩, mem_namesOf.2 named⟩

theorem answers_eq_nil_iff {survey : List Surveyed} : answers survey = [] ↔ ∀ a ∈ survey, ¬ a.AnswersSome := by
  simp only [answers, List.filterMap_eq_nil_iff, List.forall_mem_map, answer?_reply_eq_none]

end Surveyed

/-- What the replies of all servers together say about groups. -/
def groupsOf : List (List String) × Option Error → Except Error (List String)
  | ([], some e) => .error e
  | (answers, _) => .ok (distinctTexts answers.flatten)

theorem groupsOf_of_ne_nil {answers : List (List String)} (some : answers ≠ []) (last : Option Error) :
    groupsOf (answers, last) = .ok (distinctTexts answers.flatten) := by
  cases answers with
  | nil => exact absurd rfl some
  | cons names rest => cases last <;> rfl

/-- What has been noted by the time that the first server is asked for groups. -/
def groupsRequested (login : String) (t : Trace σ) : Trace σ :=
  (Act.note (.debug "Requesting groups for user" [("login", login)]) t).2

theorem groups_unmapped (svc : Service σ κ) (login : String) {r : Resolver κ}
    (none : ∀ server ∈ r.registry.servers, server.groupMapping = .none) (t : Trace σ) :
    groups svc login r t = ((.error (.configuration
      "No LDAP server has a group mapping, set the property 'group.baseDn'"), r), t) := by
  have unmapped : (!r.registry.hasGroupMapping) = true := by
    simpa [Registry.hasGroupMapping] using none
  unfold groups
  rw [if_pos unmapped]
  rfl

theorem groups_mapped (svc : Service σ κ) (login : String) {r : Resolver κ}
    (some : ∃ server ∈ r.registry.servers, server.groupMapping ≠ .none) (t : Trace σ) :
    (groups svc login r t).1.1 =
      groupsOf (askAll (groupsOn svc login) .none r.factories (groupsRequested login t)).1.1 := by
  have mapped : ¬ (!r.registry.hasGroupMapping) = true := by
    simpa [Registry.hasGroupMapping, Option.ne_none_iff_isSome] using some
  unfold groups
  rw [if_neg mapped, Act.bind_apply, Act.bind_apply]
  change (_ : (Except Error (List String) × Resolver κ) × Trace σ).1.1 = groupsOf
    (askAll (groupsOn svc login) .none r.factories
      (Act.note (.debug "Requesting groups for user" [("login", login)]) t).2).1.1
  rcases askAll (groupsOn svc login) .none r.factories _ with ⟨⟨⟨answers, last⟩, factories⟩, t'⟩
  cases answers <;> cases last <;> rfl

namespace Surveyed

/-- The result of asking some servers for groups: the union of all answers if there are any, and else the last
error. -/
structure Union (survey : List Surveyed) (result : Except Error (List String)) : Prop where
  answered : (∃ a ∈ survey, a.AnswersSome) → ∃ names, result = .ok names ∧ names.Pairwise (· < ·) ∧
    ∀ x, x ∈ names ↔ ∃ a ∈ survey, a.Names x
  failed_iff : (∃ e, result = .error e) ↔ (∀ a ∈ survey, ¬ a.AnswersSome) ∧ ∃ a ∈ survey, ∃ e, a.Errs e
  failed : ∀ e, result = .error e ↔ (∀ a ∈ survey, ¬ a.AnswersSome) ∧ ∃ front a back,
    survey = front ++ a :: back ∧ a.Errs e ∧ ∀ b ∈ back, ∀ e', ¬ b.Errs e'
  silent : (∀ a ∈ survey, ¬ a.AnswersSome ∧ ∀ e, ¬ a.Errs e) → result = .ok []

/-- What some servers say about groups, as `groups` gives it out. -/
def result (survey : List Surveyed) : Except Error (List String) :=
  groupsOf (answers survey, Reply.lastFailure none (survey.map reply))

theorem result_of_answer {survey : List Surveyed} (some : ∃ a ∈ survey, a.AnswersSome) :
    result survey = .ok (distinctTexts (answers survey).flatten) := by
  refine groupsOf_of_ne_nil (fun none => ?_) _
  obtain ⟨a, member, answers⟩ := some
  exact answers_eq_nil_iff.1 none a member answers

theorem result_eq_error_iff {survey : List Surveyed} {e : Error} : result survey = .error e ↔
    (∀ a ∈ survey, ¬ a.AnswersSome) ∧ Reply.lastFailure none (survey.map reply) = some e := by
  rw [← answers_eq_nil_iff, result]
  cases answers survey with
  | nil => cases Reply.lastFailure none (survey.map reply) <;> simp [groupsOf]
  | cons names rest => simp [groupsOf_of_ne_nil]

theorem union_result (survey : List Surveyed) : Union survey (result survey) where
  answered some := by
    refine ⟨_, result_of_answer some, distinctTexts_ascending _, fun x => ?_⟩
    rw [mem_distinctTexts, mem_flatten_answers]
  failed_iff := by
    have noneErrs : Reply.lastFailure none (survey.map reply) = none ↔ ∀ a ∈ survey, ∀ e, ¬ a.Errs e := by
      simp only [Reply.lastFailure_eq_none_iff, failure?_reply_eq_none]
    simp only [result_eq_error_iff, exists_and_left, ← Option.isSome_iff_exists]
    rw [← Option.ne_none_iff_isSome, ne_eq, noneErrs]
    simp only [not_forall, not_not, exists_prop]
  failed e := by
    simp only [result_eq_error_iff, Reply.lastFailure_eq_some_iff, failure?_reply, failure?_reply_eq_none]
  silent none := by
    have noAnswers : answers survey = [] := answers_eq_nil_iff.2 fun a member => (none a member).1
    have noErrors : Reply.lastFailure Option.none (survey.map reply) = Option.none :=
      Reply.lastFailure_eq_none_iff.2 fun a member => failure?_reply_eq_none.2 (none a member).2
    rw [result, noAnswers, noErrors]
    rfl

/-- The union does not depend on the order of the servers. -/
theorem result_perm {survey other : List Surveyed} (perm : survey.Perm other)
    (some : ∃ a ∈ survey, a.AnswersSome) : result other = result survey := by
  obtain ⟨a, member, answers⟩ := some
  rw [result_of_answer ⟨a, member, answers⟩, result_of_answer ⟨a, perm.subset member, answers⟩]
  refine congrArg _ (distinctTexts_congr fun x => ?_)
  simp only [mem_flatten_answers, perm.mem_iff]

/-- More servers only ever add to the union. -/
theorem result_subset {survey more : List Surveyed} (subset : survey ⊆ more)
    (some : ∃ a ∈ survey, a.AnswersSome) :
    ∃ names others, result survey = .ok names ∧ result more = .ok others ∧ names ⊆ others := by
  obtain ⟨a, member, answers⟩ := some
  refine ⟨_, _, result_of_answer ⟨a, member, answers⟩, result_of_answer ⟨a, subset member, answers⟩, fun x => ?_⟩
  simp only [mem_distinctTexts, mem_flatten_answers]
  rintro ⟨b, known, named⟩
  exact ⟨b, subset known, named⟩

end Surveyed

theorem groups_result {svc : Service σ κ} {login : String} {r : Resolver κ}
    (some : ∃ server ∈ r.registry.servers, server.groupMapping ≠ .none) {t : Trace σ} {survey : List Surveyed}
    (given : Surveyed.InTurn svc login r.factories (groupsRequested login t) survey) :
    (groups svc login r t).1.1 = Surveyed.result survey := by
  rw [groups_mapped svc login some, askAll_replies, given.replies]
  rfl

/-- The groups of a login are the union over all servers that answer; if none does, the last error comes out if there
is any. Where one answers, neither the order of the servers matters nor what the others do, and one server more
only adds groups. Without any group mapping nothing is done at all. -/
theorem groups_union (svc : Service σ κ) (login : String) (r : Resolver κ) (t : Trace σ) :
    let run := groups svc login r t
    ((∀ server ∈ r.registry.servers, server.groupMapping = none) → run = ((.error (.configuration
      "No LDAP server has a group mapping, set the property 'group.baseDn'"), r), t)) ∧
    (∃ survey, Surveyed.InTurn svc login r.factories (groupsRequested login t) survey) ∧
    ∀ survey, Surveyed.InTurn svc login r.factories (groupsRequested login t) survey →
      (∃ server ∈ r.registry.servers, server.groupMapping ≠ none) →
        Surveyed.Union survey run.1.1 ∧
        ∀ {σ' κ' : Type} (svc' : Service σ' κ') (r' : Resolver κ') (t' : Trace σ') (others : List Surveyed),
          (∃ server ∈ r'.registry.servers, server.groupMapping ≠ none) →
          Surveyed.InTurn svc' login r'.factories (groupsRequested login t') others →
          (∃ a ∈ survey, a.AnswersSome) →
            (survey.Perm others → (groups svc' login r' t').1.1 = run.1.1) ∧
            ∀ front a back, survey = front ++ back → others = front ++ a :: back →
              ∃ names names', run.1.1 = .ok names ∧ (groups svc' login r' t').1.1 = .ok names' ∧
                names ⊆ names' := by
  intro run
  refine ⟨fun none => groups_unmapped svc login none t, Surveyed.InTurn.exists .., fun survey given some => ?_⟩
  have result : run.1.1 = Surveyed.result survey := groups_result some given
  rw [result]
  refine ⟨Surveyed.union_result survey, fun svc' r' t' others some' given' answered => ?_⟩
  rw [groups_result some' given']
  refine ⟨fun perm => Surveyed.result_perm perm answered, ?_⟩
  rintro front a back rfl rfl
  refine Surveyed.result_subset ?_ answered
  exact ((List.sublist_cons_self a back).append_left front).subset

namespace Shared

def server (key : String) : Server where
  key := key
  url := "ldap://" ++ key ++ ".example.org:389"
  userMapping := some (.ofRequest "ou=users,dc=example,dc=org" "(uid=\x7blogin\x7d)")
  groupMapping := some (.ofRequest "ou=groups,dc=example,dc=org" "(uniqueMember=\x7bdn\x7d)")

/-- A server that knows the groups of a user. -/
def knowing (names : List String) : MemoryServer :=
  names.foldl (fun s name => s.withGroup name "ou=groups,dc=example,dc=org" ["uid=anna,ou=users,dc=example,dc=org"])
    (MemoryServer.withUser {} "anna" "uid=anna,ou=users,dc=example,dc=org" "secret")

/-- Two servers that know groups, and between them one that lets no one in. -/
def directories : MemoryDirectory where
  servers := .ofList [
    ("ldap://a.example.org:389", knowing ["staff", "admins"]),
    ("ldap://b.example.org:389", { down := true }),
    ("ldap://c.example.org:389", knowing ["staff", "users"])]

end Shared

open Shared in
example :
    let registry : Registry := ⟨[server "a", server "b", server "c"], by decide, by decide⟩
    (groups MemoryDirectory.service "anna" (.ofRegistry registry) ⟨directories, []⟩).1.1 =
      .ok ["admins", "staff", "users"] := by
  decide +kernel

end Resolver

end DirectoryLogin
