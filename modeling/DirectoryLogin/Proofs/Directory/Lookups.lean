import DirectoryLogin.Proofs.Directory.Abreast
import DirectoryLogin.Proofs.Search.Course

namespace DirectoryLogin

open Text

/-- What a search comes to that is handed these entries and nothing else. -/
def FindMode.outcome (r : Request) (mode : FindMode) (entries : List Entry) : Except Error (List Entry) :=
  match mode, entries with
  | .unique, _ :: _ :: _ => .error (.nonUniqueResult r.display)
  | .first, e :: _ => .ok [e]
  | _, entries => .ok entries

theorem FindMode.outcome_all (r : Request) (entries : List Entry) : FindMode.outcome r .all entries = .ok entries := by
  rfl

theorem FindMode.outcome_unique {r : Request} {entries found : List Entry} :
    FindMode.outcome r .unique entries = .ok found ↔ found = entries ∧ entries.length ≤ 1 := by
  match entries with
  | [] => simp [outcome, eq_comm]
  | [e] => simp [outcome, eq_comm]
  | _ :: _ :: _ => simp [outcome]

namespace Search

variable {σ κ : Type}

/-- One item of a search, and then what the search makes of it. -/
theorem drain_bind (svc : Service σ κ) (c : κ) (r : Request) (mode : FindMode) (f : Findings) :
    drain svc c r mode f = ((do
      match ← Act.perform (svc.next c) with
      | .ok (some (.referral urls)) => drain svc c r mode { f with pending := f.pending ++ urls }
      | .ok (some (.entry e)) =>
        if mode = .unique && !f.entries.isEmpty then
          abandonQuietly svc c
          return (.error (.nonUniqueResult r.display), f)
        else if mode = .first then
          abandonQuietly svc c
          return (.ok .satisfied, { f with entries := f.entries ++ [e] })
        else drain svc c r mode { f with entries := f.entries ++ [e] }
      | .ok none => return (.ok .exhausted, f)
      | .error e =>
        abandonQuietly svc c
        return (.error e, f)) : Act σ (Except Error Ending × Findings)) := by
  funext t
  rw [drain_eq, Act.bind_apply, Act.perform]
  rcases svc.next c t.world with ⟨outcome, world⟩
  rcases outcome with e | _ | item
  · rfl
  · rfl
  · cases item with
    | referral urls => rfl
    | entry e =>
      dsimp only
      split
      · rfl
      · split <;> rfl

/-- What an enumeration has found. -/
def foundBy (ended : Except Error Ending × Findings) : Except Error (List Entry) :=
  ended.1.map fun _ => ended.2.entries

/-- A search that has been referred nowhere is over. -/
theorem chase_foundBy (svc : Service σ κ) (server : Server) (r : Request) (mode : FindMode) (hops : Nat)
    (visited : List String) {ended : Except Error Ending × Findings} (unreferred : ended.2.pending = [])
    (before : σ → Prop) :
    Act.Meets before (chase svc server r mode hops visited ended) fun found w => found = foundBy ended ∧ before w := by
  obtain ⟨outcome, entries, pending⟩ := ended
  subst unreferred
  rcases outcome with e | _ | _
  · rw [chase]
    exact .pure fun _ start => ⟨rfl, start⟩
  · rw [chase]
    exact .bind (.noteAll _) fun _ => .pure fun _ start => ⟨rfl, start⟩
  · rw [chase]
    exact .pure fun _ start => ⟨rfl, start⟩

end Search

/-- What comes of opening a connection is what is against it, if there is anything. -/
theorem Connected.outcome {σ κ : Type} {ready : σ → Prop} {opened : κ → σ → Prop} {refusal : Option Error}
    {outcome : Except Error κ} {w : σ} (connected : Connected ready opened refusal (outcome, w)) :
    outcome.map (fun _ => ()) = refusal.elim (.ok ()) .error := by
  cases connected with
  | refused => rfl
  | opened => rfl

/-- Searches below this base find one. -/
def MemoryServer.Knows (s : MemoryServer) (base : String) : Prop :=
  ∀ suffix ∈ s.suffix, endsIn (lowerCase base) suffix

namespace MemoryDirectory

/-- No server refers to others. -/
def Unreferred (servers : Dictionary MemoryServer) : Prop :=
  ∀ url server, servers.get? url = some server → server.referrals = []

theorem items_answer {servers : Dictionary MemoryServer} (unreferred : Unreferred servers) (env : Environment)
    (base filter : String) :
    (answer servers env base filter).items = (answer servers env base filter).entries.map .entry := by
  unfold answer
  cases served : servers.get? env.url with
  | none => rfl
  | some server =>
    dsimp only
    split
    · rfl
    · split
      · rfl
      · next f _ => simp [MemoryServer.search, unreferred _ _ served, Answer.entries, List.flatMap_map]

/-- What a request comes to on a connection. -/
def found (servers : Dictionary MemoryServer) (env : Environment) (r : Request) (mode : FindMode) :
    Except Error (List Entry) :=
  let answer := answer servers env r.baseDn r.filter
  answer.failure.elim (mode.outcome r answer.entries) .error

/-- What a lookup on a server comes to, if a connection can be opened. -/
def lookedUp (servers : Dictionary MemoryServer) (server : Server) (r : Request) (mode : FindMode) :
    Except Error (List Entry) :=
  (refusal servers (Environment.bind server)).elim (found servers (Environment.bind server) r mode) .error

theorem checkBind_anonymous {server : Server} (anonymous : server.bindDn = none) (s : MemoryServer) :
    s.checkBind (Environment.bind server) = .ok () := by
  have nobody : (Environment.bind server).principal = none := anonymous
  unfold MemoryServer.checkBind
  split
  · rfl
  · rw [nobody]

theorem refusal_eq_none_iff {servers : Dictionary MemoryServer} {env : Environment} :
    refusal servers env = none ↔
      ∃ s, servers.get? env.url = some s ∧ s.down = false ∧ s.checkBind env = .ok () := by
  unfold refusal
  cases servers.get? env.url with
  | none => simp
  | some s =>
    dsimp only
    cases down : s.down with
    | true => simp [down]
    | false => cases checked : s.checkBind env <;> simp [down, checked]

theorem found_eq_ok_iff {servers : Dictionary MemoryServer} (unreferred : Unreferred servers) {env : Environment}
    {s : MemoryServer} (served : servers.get? env.url = some s) {r : Request} {f : Filter}
    (reads : Filter.read r.filter = some f) {mode : FindMode} {entries : List Entry} :
    found servers env r mode = .ok entries ↔
      s.Knows r.baseDn ∧ mode.outcome r (s.matching r.baseDn f) = .ok entries := by
  have matching : Answer.entries ⟨s.search r.baseDn f, none⟩ = s.matching r.baseDn f := by
    simp [MemoryServer.search, unreferred _ _ served, Answer.entries, List.flatMap_map]
  have outside : s.suffix.any (!endsIn (lowerCase r.baseDn) ·) = true ↔ ¬ s.Knows r.baseDn := by
    unfold MemoryServer.Knows
    cases s.suffix <;> simp
  unfold found answer
  rw [served, reads]
  dsimp only
  by_cases knows : s.Knows r.baseDn
  · rw [if_neg fun refused => outside.1 refused knows, ← matching]
    simp [knows]
  · rw [if_pos (outside.2 knows)]
    simp [knows]

/-- A server that lets anyone in looks among its entries, if it is up and knows the base. -/
theorem lookedUp_eq_ok_iff {servers : Dictionary MemoryServer} (unreferred : Unreferred servers) {server : Server}
    (anonymous : server.bindDn = none) {r : Request} {f : Filter} (reads : Filter.read r.filter = some f)
    {mode : FindMode} {entries : List Entry} :
    lookedUp servers server r mode = .ok entries ↔ ∃ s, servers.get? server.url = some s ∧ s.down = false ∧
      s.Knows r.baseDn ∧ mode.outcome r (s.matching r.baseDn f) = .ok entries := by
  have free : refusal servers (Environment.bind server) = none ↔
      ∃ s, servers.get? server.url = some s ∧ s.down = false := by
    simp only [refusal_eq_none_iff, checkBind_anonymous anonymous, and_true]
    rfl
  unfold lookedUp
  cases against : refusal servers (Environment.bind server) with
  | none =>
    obtain ⟨s, served, up⟩ := free.1 against
    have here : found servers (Environment.bind server) r mode = .ok entries ↔ _ :=
      found_eq_ok_iff unreferred served reads
    rw [Option.elim_none, here]
    simp [served, up]
  | some e =>
    rw [against] at free
    constructor
    · intro none
      cases none
    · rintro ⟨s, served, up, -⟩
      cases free.2 ⟨s, served, up⟩

end MemoryDirectory

namespace Surroundings

open MemoryDirectory Search

variable {servers : Dictionary MemoryServer} {centre : KeyCentre → Prop} {r : Request} {mode : FindMode}

theorem abandonQuietly_passes (c : Nat) : Passes servers centre (fun _ => True)
    (abandonQuietly (service MemoryDirectory.service) c) fun _ _ => True := by
  intro d
  refine .bind (abandon_passes c d) fun outcome => ?_
  cases outcome with
  | ok _ => exact .pure fun _ start => ⟨start.1, trivial⟩
  | error e => exact .bind (.note _) fun _ => .pure fun _ start => ⟨start.1, trivial⟩

/-- A search takes the entries that it is handed. At the start of it there are as many as the mode goes on with. -/
theorem drain_passes (c : Nat) {had : List Entry} (entries : List Entry) (goesOn : mode.outcome r had = .ok had)
    (none : mode = .first → had = []) :
    Passes servers centre ((steady servers).running c (entries.map .entry) .none)
      (drain (service MemoryDirectory.service) c r mode { entries := had }) fun ended _ =>
        foundBy ended = mode.outcome r (had ++ entries) ∧ ended.2.pending = [] := by
  intro d
  induction entries generalizing had with
  | nil =>
    rw [drain_bind]
    refine .bind (next_passes [] c d) fun outcome => ?_
    rintro t ⟨since, rfl, -⟩
    exact ⟨since, by rw [List.append_nil, goesOn]; rfl, rfl⟩
  | cons e rest ih =>
    rw [drain_bind]
    refine .bind (next_passes (.entry e :: rest.map .entry) c d) fun outcome => ?_
    rintro t ⟨since, rfl, runs⟩
    have quiet := (abandonQuietly_passes c d t ⟨since, trivial⟩).1
    cases mode with
    | all =>
      have later := @ih (had ++ [e]) rfl nofun t ⟨since, runs⟩
      rwa [List.append_assoc] at later
    | first =>
      obtain rfl := none rfl
      exact ⟨quiet, rfl, rfl⟩
    | unique =>
      match had with
      | [] => exact @ih [e] rfl nofun t ⟨since, runs⟩
      | [x] => exact ⟨quiet, rfl, rfl⟩
      | _ :: _ :: _ => cases goesOn

theorem enumerate_passes (unreferred : Unreferred servers) (env : Environment) (c : Nat) :
    Passes servers centre ((steady servers).opened c env)
      (enumerate (service MemoryDirectory.service) c r r.baseDn mode {}) fun ended _ =>
        foundBy ended = found servers env r mode ∧ ended.2.pending = [] := by
  intro d
  have items := items_answer unreferred env r.baseDn r.filter
  unfold found
  generalize heard : answer servers env r.baseDn r.filter = answer at items
  refine .bind (search_passes env r.baseDn r.scope r.filter r.wireAttributes c d) fun outcome => ?_
  rintro t ⟨since, started, runs⟩
  rw [heard] at started runs
  cases failure : answer.failure with
  | some e =>
    obtain rfl : outcome = .error e := by rw [started, failure]; rfl
    exact ⟨since, by dsimp only; rw [failure]; rfl, rfl⟩
  | none =>
    obtain rfl : outcome = .ok () := by rw [started, failure]; rfl
    have none : mode.outcome r [] = .ok [] := by cases mode <;> rfl
    have drained := drain_passes c answer.entries none (fun _ => rfl) d t ⟨since, items ▸ runs rfl⟩
    dsimp only
    rw [failure]
    exact drained

theorem find_passes (unreferred : Unreferred servers) (env : Environment) (server : Server) (c : Nat) :
    Passes servers centre ((steady servers).opened c env)
      (find (service MemoryDirectory.service) server c r mode) fun result _ => result = found servers env r mode := by
  intro d
  refine .bind (.note _) fun _ => .bind (enumerate_passes unreferred env c d) fun ended => ?_
  rintro t ⟨since, same, none⟩
  rw [← same]
  obtain ⟨result, unchanged⟩ := chase_foundBy (service MemoryDirectory.service) server r mode maxReferralHops [] none
    (fun w => Fit servers centre w ∧ Keeps d w.directories) t since
  exact ⟨unchanged, result⟩

/-- A connection that is given back is as good as new to the next caller. -/
theorem back_passes {f : Factory Nat} {c : Nat} {pool : Pool Nat} {act : Act (Surroundings MemoryDirectory) (Pool Nat)}
    (passes : Passes servers centre (fun d => Known servers (Environment.bind f.server) c d ∧
      AllKnown servers f.server pool.idle d) act fun p d => AllKnown servers f.server p.idle d)
    (result outcome : Except Error (List Entry)) :
    Passes servers centre (fun d => result = outcome ∧ AllKnown servers f.server (c :: pool.idle) d)
      (do let pool ← act; return (result, { f with pool })) fun result d =>
        result.1 = outcome ∧ result.2.server = f.server ∧ AllKnown servers result.2.server result.2.pool.idle d := by
  rintro d t ⟨since, same, known⟩
  obtain ⟨since, known⟩ := passes d t ⟨since, List.forall_mem_cons.1 known⟩
  exact ⟨since, same, rfl, known⟩

/-- What a lookup comes to depends on the servers alone, and afterwards all connections that wait are as good as new. -/
theorem lookup_passes (unreferred : Unreferred servers) (f : Factory Nat) :
    Passes servers centre (AllKnown servers f.server f.pool.idle)
      (f.lookup (service MemoryDirectory.service) r mode) fun result d =>
        result.1 = lookedUp servers f.server r mode ∧ result.2.server = f.server ∧
          AllKnown servers result.2.server result.2.pool.idle d := by
  intro d
  refine .bind (bind_passes f.pool d) ?_
  rintro ⟨bound, pool⟩
  unfold lookedUp
  cases refusal servers (Environment.bind f.server) with
  | some e =>
    rintro t ⟨since, refused, known⟩
    cases refused
    exact ⟨since, rfl, rfl, known⟩
  | none =>
    cases bound with
    | error e =>
      rintro t ⟨-, refused, -⟩
      cases refused
    | ok c =>
      have finds : Passes servers centre (fun d => _ ∧ AllKnown servers f.server (c :: pool.idle) d)
          (find (service MemoryDirectory.service) f.server c r mode) _ :=
        (find_passes unreferred (Environment.bind f.server) f.server c).meanwhile (c :: pool.idle)
      refine .bind ((finds d).strengthen ?_) fun result => ?_
      · rintro w ⟨since, opened, known⟩
        cases opened with
        | opened here => exact ⟨since, here.1, List.forall_mem_cons.2 ⟨here.2, known⟩⟩
      · cases result with
        | ok entries => exact back_passes (release_passes c pool) _ _ d
        | error e =>
          dsimp only
          split
          · exact back_passes (discard_passes c pool) _ _ d
          · exact back_passes (release_passes c pool) _ _ d

/-- So it is from every trace. -/
theorem lookup_settled (unreferred : Unreferred servers) (r : Request) (mode : FindMode) {f : Factory Nat}
    {t : Trace (Surroundings MemoryDirectory)} (fit : Fit servers centre t.world)
    (known : AllKnown servers f.server f.pool.idle t.world.directories) :
    let run := f.lookup (service MemoryDirectory.service) r mode t
    run.1.1 = lookedUp servers f.server r mode ∧ run.1.2.server = f.server ∧ Fit servers centre run.2.world ∧
      AllKnown servers run.1.2.server run.1.2.pool.idle run.2.world.directories := by
  obtain ⟨⟨fitThen, -⟩, result, server, knownThen⟩ :=
    lookup_passes unreferred f t.world.directories t ⟨⟨fit, .refl _⟩, known⟩
  exact ⟨result, server, fitThen, knownThen⟩

end Surroundings

end DirectoryLogin
