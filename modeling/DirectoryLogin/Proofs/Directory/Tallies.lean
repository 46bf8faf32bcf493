import DirectoryLogin.Directory.Memory
import DirectoryLogin.Proofs.Pool.Upkeep
import DirectoryLogin.Surroundings

namespace DirectoryLogin

open Exchange (Live)

namespace MemoryDirectory

/-- How often something has happened at a URL. -/
def tally (counts : Dictionary Nat) (url : String) : Nat := (counts.get? url).getD 0

theorem tally_count (counts : Dictionary Nat) (url other : String) :
    tally (count counts url) other = tally counts other + if url = other then 1 else 0 := by
  unfold tally count
  rw [Dictionary.get?_insert]
  by_cases same : url = other
  · simp [same]
  · simp [same]

/-- Where each connection leads, and whether it is closed. -/
def marks (d : MemoryDirectory) : List (String × Bool) :=
  d.connections.map fun c => (c.url, c.closed)

/-- The directories differ in nothing that is counted. -/
def Alike (d e : MemoryDirectory) : Prop :=
  e.marks = d.marks ∧ e.opened = d.opened ∧ e.closed = d.closed

theorem marks_getElem? {d : MemoryDirectory} {i : Nat} {url : String} {closed : Bool} :
    d.marks[i]? = some (url, closed) ↔
      ∃ conn, d.connections[i]? = some conn ∧ conn.url = url ∧ conn.closed = closed := by
  simp [marks]

theorem marks_update {d : MemoryDirectory} {c : Nat} {next : MemoryConnection} :
    (d.update c next).marks = d.marks.set c (next.url, next.closed) := by
  simp [marks, update, List.map_set]

/-- Something else about a connection changes. -/
theorem alike_update {d : MemoryDirectory} {c : Nat} {conn next : MemoryConnection}
    (there : d.connections[c]? = some conn) (same : next.url = conn.url ∧ next.closed = conn.closed) :
    Alike d (d.update c next) := by
  have mark : d.marks[c]? = some (next.url, next.closed) :=
    marks_getElem?.2 ⟨conn, there, same.1.symm, same.2.symm⟩
  refine ⟨?_, rfl, rfl⟩
  rw [marks_update]
  apply List.ext_getElem?
  intro i
  rw [List.getElem?_set]
  split
  · rename_i at_c
    subst at_c
    obtain ⟨bound, -⟩ := List.getElem?_eq_some_iff.1 mark
    rw [if_pos bound, mark]
  · rfl

theorem search_alike (c : Nat) (base filter : String) (d : MemoryDirectory) :
    Alike d (search c base filter d).2 := by
  unfold search
  cases there : d.connections[c]? with
  | none => exact ⟨rfl, rfl, rfl⟩
  | some conn =>
    dsimp only
    split
    · exact ⟨rfl, rfl, rfl⟩
    · split
      · exact ⟨rfl, rfl, rfl⟩
      · split
        · exact ⟨rfl, rfl, rfl⟩
        · exact alike_update there ⟨rfl, rfl⟩

theorem next_alike (c : Nat) (d : MemoryDirectory) : Alike d (next c d).2 := by
  unfold next
  cases there : d.connections[c]? with
  | none => exact ⟨rfl, rfl, rfl⟩
  | some conn =>
    dsimp only
    split
    · exact ⟨rfl, rfl, rfl⟩
    · exact alike_update there ⟨rfl, rfl⟩

theorem abandon_alike (c : Nat) (d : MemoryDirectory) : Alike d (abandon c d).2 := by
  unfold abandon
  cases there : d.connections[c]? with
  | none => exact ⟨rfl, rfl, rfl⟩
  | some conn => exact alike_update there ⟨rfl, rfl⟩

theorem connect_cases (env : Environment) (d : MemoryDirectory) :
    (∃ e, (connect env d).1 = .error e ∧ Alike d (connect env d).2) ∨
      (connect env d).1 = .ok d.connections.length ∧
        (connect env d).2.marks = d.marks ++ [(env.url, false)] ∧
        (connect env d).2.opened = count d.opened env.url ∧ (connect env d).2.closed = d.closed := by
  unfold connect
  dsimp only
  split
  · exact .inl ⟨_, rfl, rfl, rfl, rfl⟩
  · split
    · exact .inl ⟨_, rfl, rfl, rfl, rfl⟩
    · split
      · exact .inl ⟨_, rfl, rfl, rfl, rfl⟩
      · exact .inr ⟨rfl, by simp [marks], rfl, rfl⟩

theorem close_cases (c : Nat) (d : MemoryDirectory) :
    (∀ url, d.marks[c]? ≠ some (url, false)) ∧ (close c d).2 = d ∨
      ∃ url, d.marks[c]? = some (url, false) ∧ (close c d).2.marks = d.marks.set c (url, true) ∧
        (close c d).2.opened = d.opened ∧ (close c d).2.closed = count d.closed url := by
  unfold close
  cases there : d.connections[c]? with
  | none => exact .inl ⟨fun url same => by simp [marks, there] at same, rfl⟩
  | some conn =>
    dsimp only
    cases closed : conn.closed with
    | true => exact .inl ⟨fun url same => by simp [marks, there, closed] at same, rfl⟩
    | false => exact .inr ⟨conn.url, by simp [marks, there, closed], marks_update, rfl, rfl⟩

/-- Where some connections lead to. -/
def urls (lines : List (Line Nat)) : List String := lines.map fun c => c.env.url

theorem count_urls (lines : List (Line Nat)) (c : Line Nat) (url : String) :
    (urls (lines ++ [c])).count url = (urls lines).count url + if c.env.url = url then 1 else 0 := by
  rw [urls, List.map_append, List.count_append]
  simp [urls, List.count_singleton]

/-- The directory has counted all that was exchanged with it. -/
structure Recorded (es : List (Exchange Nat)) (d : MemoryDirectory) : Prop where
  names : (es.flatMap Exchange.opened).map Line.name = List.range d.marks.length
  leads : ∀ c ∈ es.flatMap Exchange.opened, ∃ closed, d.marks[c.name]? = some (c.env.url, closed)
  asked : ∀ i url, d.marks[i]? = some (url, true) → i ∈ (es.flatMap Exchange.closed).map Line.name
  opened : ∀ url, tally d.opened url = (urls (es.flatMap Exchange.opened)).count url
  /-- If no connection is used unless it is open. -/
  closed : ∀ left, Live [] es left → ∀ url, tally d.closed url = (urls (es.flatMap Exchange.closed)).count url

namespace Recorded

variable {es : List (Exchange Nat)} {d e : MemoryDirectory}

theorem fresh (servers : Dictionary MemoryServer) : Recorded [] { servers } where
  names := rfl
  leads := nofun
  asked := nofun
  opened _ := rfl
  closed _ _ _ := rfl

theorem names_distinct (recorded : Recorded es d) : ((es.flatMap Exchange.opened).map Line.name).Nodup :=
  recorded.names ▸ List.nodup_range

theorem name_not_closed (recorded : Recorded es d) {left : List (Line Nat)} (live : Live [] es left)
    {c : Line Nat} (member : c ∈ left) : c.name ∉ (es.flatMap Exchange.closed).map Line.name := by
  have distinct := (live.accounts.map Line.name).nodup_iff.1 recorded.names_distinct
  rw [List.map_append, List.nodup_append] at distinct
  exact fun closed => distinct.2.2 c.name (List.mem_map_of_mem member) c.name closed rfl

/-- A connection that may still be used has not been closed. -/
theorem mark_of_live (recorded : Recorded es d) {left : List (Line Nat)} (live : Live [] es left)
    {c : Line Nat} (member : c ∈ left) : d.marks[c.name]? = some (c.env.url, false) := by
  have known := live.accounts.symm.subset (List.mem_append_left _ member)
  obtain ⟨closed, lead⟩ := recorded.leads c known
  cases closed with
  | false => exact lead
  | true => exact absurd (recorded.asked _ _ lead) (recorded.name_not_closed live member)

theorem alike {x : Exchange Nat} (recorded : Recorded es d) (alike : Alike d e)
    (opens : x.opened = []) (closes : x.closed = []) : Recorded (es ++ [x]) e := by
  obtain ⟨marks, opened, closed⟩ := alike
  have noOpened : (es ++ [x]).flatMap Exchange.opened = es.flatMap Exchange.opened := by simp [opens]
  have noClosed : (es ++ [x]).flatMap Exchange.closed = es.flatMap Exchange.closed := by simp [closes]
  refine ⟨?_, ?_, ?_, ?_, ?_⟩
  · rw [noOpened, marks]
    exact recorded.names
  · rw [noOpened, marks]
    exact recorded.leads
  · rw [noClosed, marks]
    exact recorded.asked
  · rw [noOpened, opened]
    exact recorded.opened
  · rw [noClosed, closed]
    intro left live
    obtain ⟨between, before, -⟩ := live.split
    exact recorded.closed between before

theorem connect (recorded : Recorded es d) (env : Environment) :
    Recorded (es ++ [.connect env ((MemoryDirectory.connect env d).1.map (Line.mk · env))])
      (MemoryDirectory.connect env d).2 := by
  obtain ⟨e, refused, alike⟩ | ⟨number, marks, opened, closed⟩ := connect_cases env d
  · rw [refused]
    exact recorded.alike alike rfl rfl
  · have length : d.connections.length = d.marks.length := (List.length_map _).symm
    let c : Line Nat := ⟨d.connections.length, env⟩
    rw [number]
    change Recorded (es ++ [.connect env (.ok c)]) _
    have one : (es ++ [Exchange.connect env (.ok c)]).flatMap Exchange.opened =
        es.flatMap Exchange.opened ++ [c] := by simp [Exchange.opened]
    have none : (es ++ [Exchange.connect env (.ok c)]).flatMap Exchange.closed =
        es.flatMap Exchange.closed := by simp [Exchange.closed]
    refine ⟨?_, ?_, ?_, ?_, ?_⟩
    · rw [one, List.map_append, recorded.names, marks, List.length_append, List.length_singleton,
        List.range_succ, ← length]
      rfl
    · intro x member
      rw [one] at member
      rw [marks]
      obtain before | here := List.mem_append.1 member
      · obtain ⟨closed, lead⟩ := recorded.leads x before
        obtain ⟨bound, -⟩ := List.getElem?_eq_some_iff.1 lead
        exact ⟨closed, (List.getElem?_append_left bound).trans lead⟩
      · obtain rfl := List.mem_singleton.1 here
        exact ⟨false, by simp [c, length]⟩
    · intro i url mark
      rw [none]
      rw [marks, List.getElem?_append] at mark
      split at mark
      · exact recorded.asked i url mark
      · simp [List.getElem?_singleton] at mark
    · intro url
      rw [one, count_urls, opened, tally_count, recorded.opened]
    · rw [none, closed]
      intro left live
      obtain ⟨between, before, -⟩ := live.split
      exact recorded.closed between before

theorem close (recorded : Recorded es d) (c : Line Nat) :
    Recorded (es ++ [.close c (MemoryDirectory.close c.name d).1]) (MemoryDirectory.close c.name d).2 := by
  generalize (MemoryDirectory.close c.name d).1 = outcome
  have none : (es ++ [Exchange.close c outcome]).flatMap Exchange.opened =
      es.flatMap Exchange.opened := by simp [Exchange.opened]
  have one : (es ++ [Exchange.close c outcome]).flatMap Exchange.closed =
      es.flatMap Exchange.closed ++ [c] := by simp [Exchange.closed]
  have isOpen {left : List (Line Nat)} (live : Live [] (es ++ [.close c outcome]) left) :
      d.marks[c.name]? = some (c.env.url, false) := by
    obtain ⟨between, before, last⟩ := live.split
    cases last with
    | cons there _ _ => exact recorded.mark_of_live before (there c (List.mem_singleton_self c))
  obtain ⟨notOpen, same⟩ | ⟨url, lead, marks, opened, closed⟩ := close_cases c.name d
  · rw [same]
    refine ⟨?_, ?_, ?_, ?_, ?_⟩
    · exact none ▸ recorded.names
    · exact none ▸ recorded.leads
    · intro i url mark
      rw [one, List.map_append]
      exact List.mem_append_left _ (recorded.asked i url mark)
    · exact none ▸ recorded.opened
    · exact fun left live => absurd (isOpen live) (notOpen _)
  · refine ⟨?_, ?_, ?_, ?_, ?_⟩
    · rw [none, marks, List.length_set]
      exact recorded.names
    · intro x member
      rw [none] at member
      obtain ⟨closed, leads⟩ := recorded.leads x member
      obtain ⟨bound, -⟩ := List.getElem?_eq_some_iff.1 leads
      rw [marks, List.getElem?_set]
      split
      · rename_i same
        rw [← same, lead] at leads
        obtain ⟨url, -⟩ := Prod.mk.inj (Option.some.inj leads)
        rw [same, if_pos bound, url]
        exact ⟨true, rfl⟩
      · exact ⟨closed, leads⟩
    · intro i url mark
      rw [one, List.map_append]
      rw [marks, List.getElem?_set] at mark
      split at mark
      · rename_i same
        exact List.mem_append_right _ (same ▸ List.mem_singleton_self c.name)
      · exact List.mem_append_left _ (recorded.asked i url mark)
    · rw [none, opened]
      exact recorded.opened
    · intro left live url'
      have lead' := isOpen live
      rw [lead] at lead'
      obtain rfl : url = c.env.url := (Prod.mk.inj (Option.some.inj lead')).1
      obtain ⟨between, before, -⟩ := live.split
      rw [one, count_urls, closed, tally_count, recorded.closed between before]

theorem call {w w' : Witnessed (Surroundings MemoryDirectory) Nat}
    (recorded : Recorded w.exchanges w.world.directories)
    (call : (Surroundings.service service).witnessed.Call Surroundings.kerberos.witnessed w w') :
    Recorded w'.exchanges w'.world.directories := by
  cases call with
  | @connect env => exact recorded.connect env
  | search => exact recorded.alike (search_alike ..) rfl rfl
  | next => exact recorded.alike (next_alike ..) rfl rfl
  | abandon => exact recorded.alike (abandon_alike ..) rfl rfl
  | @close c => exact recorded.close c
  | login => exact recorded

theorem calls {w w' : Witnessed (Surroundings MemoryDirectory) Nat}
    (recorded : Recorded w.exchanges w.world.directories)
    (calls : (Surroundings.service service).witnessed.Calls Surroundings.kerberos.witnessed w w') :
    Recorded w'.exchanges w'.world.directories := by
  induction calls with
  | refl => exact recorded
  | tail _ call ih => exact ih.call call

/-- A directory counts a connection as closed that says so, and as open that is left. -/
theorem balance {start w : Witnessed (Surroundings MemoryDirectory) Nat} {left : List (Line Nat)}
    (fresh : Recorded start.exchanges start.world.directories)
    (settled : Settled (Surroundings.service service) Surroundings.kerberos [] start w.exchanges left w)
    (url : String) : tally w.world.directories.opened url =
      tally w.world.directories.closed url + (urls left).count url := by
  have recorded := fresh.calls settled.calls
  obtain ⟨lost, live, gone⟩ := settled.live
  have accounts := live.accounts
  have none : lost = [] := by
    refine List.eq_nil_iff_forall_not_mem.2 fun c member => ?_
    obtain ⟨now, before, after, known, closed⟩ := gone c member
    obtain ⟨mark, lead⟩ := (fresh.calls before).leads c known
    obtain ⟨conn, there, url, same⟩ := marks_getElem?.1 lead
    have closed : conn.closed = true := by
      change isClosed c.name now.world.directories = true at closed
      rwa [isClosed, there] at closed
    have asked := (fresh.calls before).asked c.name c.env.url (by rw [lead, ← same, closed])
    obtain ⟨later, grown⟩ := after.exchanges
    refine recorded.name_not_closed live (List.mem_append_right left member) ?_
    rw [← grown, List.flatMap_append, List.map_append]
    exact List.mem_append_left _ asked
  subst none
  rw [List.append_nil] at accounts live
  have counts : (urls (w.exchanges.flatMap Exchange.opened)).count url =
      (urls (left ++ w.exchanges.flatMap Exchange.closed)).count url := (accounts.map _).count_eq url
  rw [recorded.opened, counts, recorded.closed left live, urls, List.map_append, List.count_append]
  exact Nat.add_comm ..

end Recorded

end MemoryDirectory

end DirectoryLogin
