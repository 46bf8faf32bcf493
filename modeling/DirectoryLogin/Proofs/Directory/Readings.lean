import DirectoryLogin.Directory.Wire

namespace DirectoryLogin

variable {σ : Type}

/-- The item that a message is. -/
def Message.item? : Message → Option Item
  | entry dn attributes => some (.entry (.ofAttributes dn (textAttributes attributes)))
  | referral urls => some (.referral urls)
  | intermediate => none

/-- How a search is answered: by messages, and by a result after them or an error. -/
structure Delivery where
  messages : List Message
  ending : Except String Outcome

namespace Delivery

/-- What the end of the messages makes due, before there is nothing more. -/
def lastAnswers (d : Delivery) : List (Except Error (Option Item)) :=
  match d.ending with
  | .error e => [.error (.search e)]
  | .ok result =>
    match result.code with
    | 0 => []
    | 10 => [.ok (some (.referral result.referrals))]
    | 32 => [.error (.notFound s!"search base: {result.text}")]
    | code => [.error (.search s!"rc={code}: {result.text}")]

/-- The answers that are due while the delivery is read. -/
def answers (d : Delivery) : List (Except Error (Option Item)) :=
  (d.messages.filterMap Message.item?).map (fun item => .ok (some item)) ++ d.lastAnswers

def cons (message : Message) (d : Delivery) : Delivery := ⟨message :: d.messages, d.ending⟩

theorem answers_cons_of_some {message : Message} {item : Item} (is : message.item? = some item) (d : Delivery) :
    (cons message d).answers = .ok (some item) :: d.answers := by
  rw [answers, cons, List.filterMap_cons_some is, List.map_cons, List.cons_append]
  rfl

theorem answers_cons_of_none {message : Message} (isNone : message.item? = none) (d : Delivery) :
    (cons message d).answers = d.answers := by
  rw [answers, cons, List.filterMap_cons_none isNone]
  rfl

/-- The result is answered as it is due, and then there is nothing more. -/
theorem answers_result (result : Outcome) :
    result.ending = (answers ⟨[], .ok result⟩).head?.getD (.ok none) ∧ (answers ⟨[], .ok result⟩).tail = [] := by
  simp only [answers, lastAnswers, List.filterMap_nil, List.map_nil, List.nil_append]
  split
  · rename_i success
    exact ⟨if_pos success, rfl⟩
  · rename_i referral
    simp [Outcome.ending, Outcome.success, Outcome.referral, referral]
  · rename_i noSuchObject
    simp [Outcome.ending, Outcome.success, Outcome.referral, Outcome.noSuchObject, noSuchObject]
  · rename_i noSuccess noReferral found
    rw [Outcome.ending, if_neg (show result.code ≠ Outcome.success from noSuccess),
      if_neg (show result.code ≠ Outcome.referral from noReferral),
      if_neg (show result.code ≠ Outcome.noSuchObject from found)]
    exact ⟨rfl, rfl⟩

end Delivery

/-- What is still to come of a search. -/
def Wire.delivery (w : Wire σ) (c number : Nat) (wire : σ) : Delivery :=
  match h : w.next c number wire with
  | (.ok (some message), left) =>
    have := w.next_lt h
    .cons message (w.delivery c number left)
  | (.ok none, left) => ⟨[], .ok (w.finish c number left).1⟩
  | (.error e, _) => ⟨[], .error e⟩
termination_by w.remaining c number wire

theorem Wire.delivery_some {w : Wire σ} {c number : Nat} {wire left : σ} {message : Message}
    (came : w.next c number wire = (.ok (some message), left)) :
    w.delivery c number wire = .cons message (w.delivery c number left) := by
  rw [Wire.delivery]
  split <;> simp_all

theorem Wire.delivery_none {w : Wire σ} {c number : Nat} {wire left : σ}
    (ended : w.next c number wire = (.ok none, left)) :
    w.delivery c number wire = ⟨[], .ok (w.finish c number left).1⟩ := by
  rw [Wire.delivery]
  split <;> simp_all

theorem Wire.delivery_error {w : Wire σ} {c number : Nat} {wire left : σ} {e : String}
    (broke : w.next c number wire = (.error e, left)) : w.delivery c number wire = ⟨[], .error e⟩ := by
  rw [Wire.delivery]
  split <;> simp_all

namespace Clients

/-- The next item of a running search is the answer that is due first, and the others stay due; a search that has
stopped leaves none. -/
theorem nextItem_answers (w : Wire σ) (c number : Nat) (wire : σ) :
    let step := nextItem w c number wire
    step.1.1 = (w.delivery c number wire).answers.head?.getD (.ok none) ∧
      (if step.1.2 then (w.delivery c number step.2).answers else []) = (w.delivery c number wire).answers.tail := by
  fun_induction nextItem w c number wire with
  | case1 wire dn attributes left came =>
    rw [Wire.delivery_some came, Delivery.answers_cons_of_some rfl]
    exact ⟨rfl, rfl⟩
  | case2 wire urls left came =>
    rw [Wire.delivery_some came, Delivery.answers_cons_of_some rfl]
    exact ⟨rfl, rfl⟩
  | case3 wire left came _ ih =>
    rw [Wire.delivery_some came, Delivery.answers_cons_of_none rfl]
    exact ih
  | case4 wire left ended result after finish =>
    rw [Wire.delivery_none ended, finish]
    obtain ⟨due, last⟩ := Delivery.answers_result result
    exact ⟨due, last.symm⟩
  | case5 wire e left broke =>
    rw [Wire.delivery_error broke]
    exact ⟨rfl, rfl⟩

/-- The answers that are due on a connection. -/
def due (w : Wire σ) (c : Nat) (s : Clients σ) : List (Except Error (Option Item)) :=
  match s.running c with
  | none => []
  | some number => (w.delivery c number s.wire).answers

theorem due_of_none {w : Wire σ} {c : Nat} {s : Clients σ} (stopped : s.running c = none) : due w c s = [] := by
  rw [due, stopped]

theorem due_of_some {w : Wire σ} {c number : Nat} {s : Clients σ} (runs : s.running c = some number) :
    due w c s = (w.delivery c number s.wire).answers := by
  rw [due, runs]

theorem next_of_none {w : Wire σ} {c : Nat} {s : Clients σ} (stopped : s.running c = none) :
    next w c s = (.ok none, s) := by
  rw [next, stopped]

/-- Reading gives the answer that is due first, and the others stay due. -/
theorem next_due (w : Wire σ) (c : Nat) (s : Clients σ) :
    (next w c s).1 = (due w c s).head?.getD (.ok none) ∧ due w c (next w c s).2 = (due w c s).tail := by
  cases runs : s.running c with
  | none =>
    rw [next_of_none runs, due_of_none runs]
    exact ⟨rfl, rfl⟩
  | some number =>
    obtain ⟨answer, left⟩ := nextItem_answers w c number s.wire
    rw [due_of_some runs, next, runs]
    dsimp only
    split
    · rename_i result wire step
      rw [step] at answer left
      have due : due w c { s with wire } = (w.delivery c number wire).answers := due_of_some runs
      exact ⟨answer, due.trans left⟩
    · rename_i step
      rw [step] at answer left
      exact ⟨answer, (due_of_none (read_running c none _)).trans left⟩

/-- What can be asked on a connection. -/
inductive Operation
  | search (base : String) (scope : Scope) (filter : String) (attributes : List String)
  | next
  | abandon
  | close
  deriving DecidableEq

/-- Asks for one thing. Only the answer to `next` can hold an item. -/
def perform (w : Wire σ) (c : Nat) (s : Clients σ) : Operation → Except Error (Option Item) × Clients σ
  | .search base scope filter attributes =>
    let (answer, s) := search w c base scope filter attributes s
    (answer.map fun _ => none, s)
  | .next => next w c s
  | .abandon =>
    let (answer, s) := abandon w c s
    (answer.map fun _ => none, s)
  | .close =>
    let (answer, s) := close w c s
    (answer.map fun _ => none, s)

namespace Operation

/-- A search was started. -/
def Begins : Operation → Except Error (Option Item) → Prop
  | search .., answer => answer = .ok none
  | _, _ => False

/-- No search is left running: a search that was not started, an answer that is no item, or a search given up. -/
def Ends : Operation → Except Error (Option Item) → Prop
  | search .., answer => ∃ e, answer = .error e
  | next, answer => ∀ item, answer ≠ .ok (some item)
  | abandon, _ => True
  | close, _ => True

end Operation

/-- One thing that was asked, and its answer. -/
structure Record where
  connection : Nat
  operation : Operation
  answer : Except Error (Option Item)

/-- What was asked and answered, in its order. -/
def history (w : Wire σ) : List (Nat × Operation) → Clients σ → List Record
  | [], _ => []
  | (c, operation) :: asked, s =>
    let (answer, s) := perform w c s operation
    ⟨c, operation, answer⟩ :: history w asked s

/-- What was read from a connection. -/
def readings (c : Nat) (records : List Record) : List (Except Error (Option Item)) :=
  (records.filter fun record => record.connection = c ∧ record.operation = .next).map (·.answer)

/-- What is asked takes nothing away from what is to come of a search on another connection. -/
def Apart (w : Wire σ) (c number : Nat) (asked : Nat × Operation) : Prop :=
  ∀ s : Clients σ, w.delivery c number (perform w asked.1 s asked.2).2.wire = w.delivery c number s.wire

/-- The world of the library when it has given up the search that was read on the connection, if there was one. -/
inductive GivesUp (w : Wire σ) (c : Nat) (s : Clients σ) : σ → Prop
  | idle (stopped : s.running c = none) : GivesUp w c s s.wire
  | busy {number : Nat} {wire : σ} (runs : s.running c = some number)
    (gone : w.abandon c number s.wire = (.ok (), wire)) : GivesUp w c s wire

/-- The library is sent this request after it gave up the search before, and what is read from now on is the search that
it started for this request. -/
structure Starts (w : Wire σ) (c : Nat) (base : String) (scope : Scope) (filter : String) (attributes : List String)
    (s : Clients σ) (number : Nat) (started : Clients σ) : Prop where
  sent : ∃ given, GivesUp w c s given ∧ w.search c base scope filter attributes given = (.ok number, started.wire)
  reads : started.running c = some number
  others : ∀ other, other ≠ c → started.running other = s.running other

theorem abandon_of_none {w : Wire σ} {c : Nat} {s : Clients σ} (stopped : s.running c = none) :
    abandon w c s = (.ok (), s) := by
  rw [abandon, stopped]

theorem abandon_of_some {w : Wire σ} {c number : Nat} {s : Clients σ} (runs : s.running c = some number) :
    abandon w c s = ((w.abandon c number s.wire).1.mapError .client,
      { s with wire := (w.abandon c number s.wire).2 }.read c none) := by
  rw [abandon, runs]

theorem abandon_running (w : Wire σ) (c : Nat) (s : Clients σ) : (abandon w c s).2.running c = none := by
  cases runs : s.running c with
  | none => rwa [abandon_of_none runs]
  | some number =>
    rw [abandon_of_some runs]
    exact read_running c none _

/-- A search runs on a connection whatever is given up on another. -/
theorem abandon_running_of_ne {w : Wire σ} {c other : Nat} (elsewhere : other ≠ c) (s : Clients σ) :
    (abandon w other s).2.running c = s.running c := by
  unfold abandon
  split
  · rfl
  · exact read_running_of_ne elsewhere none _

theorem givesUp_iff {w : Wire σ} {c : Nat} {s : Clients σ} {wire : σ} :
    GivesUp w c s wire ↔ ∃ left, abandon w c s = (.ok (), left) ∧ left.wire = wire := by
  constructor
  · rintro (stopped | ⟨runs, gone⟩)
    · exact ⟨s, abandon_of_none stopped, rfl⟩
    · exact ⟨_, by rw [abandon_of_some runs, gone]; rfl, rfl⟩
  · rintro ⟨left, abandoned, rfl⟩
    cases runs : s.running c with
    | none =>
      rw [abandon_of_none runs] at abandoned
      cases abandoned
      exact .idle runs
    | some number =>
      rw [abandon_of_some runs] at abandoned
      rcases gone : w.abandon c number s.wire with ⟨e | _, wire⟩
      · rw [gone] at abandoned
        cases abandoned
      · rw [gone] at abandoned
        cases abandoned
        exact .busy runs gone

/-- A search succeeds if and only if the library gives up the search before and starts the one asked for. -/
theorem search_eq_ok_iff {w : Wire σ} {c : Nat} {base filter : String} {scope : Scope} {attributes : List String}
    {s started : Clients σ} : search w c base scope filter attributes s = (.ok (), started) ↔
      ∃ number, Starts w c base scope filter attributes s number started := by
  constructor
  · intro starts
    rw [search] at starts
    rcases abandoned : abandon w c s with ⟨e | _, left⟩
    · rw [abandoned] at starts
      cases starts
    · have given := givesUp_iff.2 ⟨left, abandoned, rfl⟩
      rw [abandoned] at starts
      dsimp only at starts
      rcases asked : w.search c base scope filter attributes left.wire with ⟨e | number, wire⟩
      · rw [asked] at starts
        cases starts
      · rw [asked] at starts
        cases starts
        refine ⟨number, ⟨left.wire, given, asked⟩, read_running c _ _, fun other elsewhere => ?_⟩
        have same := abandon_running_of_ne (w := w) elsewhere.symm s
        rw [abandoned] at same
        exact (read_running_of_ne elsewhere.symm _ _).trans same
  · rintro ⟨number, ⟨given, gives, asked⟩, reads, others⟩
    obtain ⟨left, abandoned, rfl⟩ := givesUp_iff.1 gives
    obtain ⟨wire, running⟩ := started
    have same : (left.read c (some number)).running = running := by
      funext other
      by_cases here : other = c
      · rw [here, read_running]
        exact reads.symm
      · have kept := abandon_running_of_ne (w := w) (Ne.symm here) s
        rw [abandoned] at kept
        exact (read_running_of_ne (Ne.symm here) _ _).trans (kept.trans (others other here).symm)
    rw [search, abandoned]
    dsimp only at asked ⊢
    rw [asked]
    cases same
    rfl

/-- A search that was started makes the answers of its delivery due, and no others. -/
theorem Starts.due {w : Wire σ} {c number : Nat} {base filter : String} {scope : Scope} {attributes : List String}
    {s started : Clients σ} (starts : Starts w c base scope filter attributes s number started) :
    due w c started = (w.delivery c number started.wire).answers :=
  due_of_some starts.reads

theorem item_of_runs {w : Wire σ} {c number : Nat} {wire left : σ} {answer : Except Error (Option Item)}
    (step : nextItem w c number wire = ((answer, true), left)) : ∃ item, answer = .ok (some item) := by
  fun_induction nextItem w c number wire with
  | case1 wire dn attributes => cases step; exact ⟨_, rfl⟩
  | case2 wire urls => cases step; exact ⟨_, rfl⟩
  | case3 wire between _ _ ih => exact ih step
  | case4 => cases step
  | case5 => cases step

theorem search_running {w : Wire σ} {c : Nat} {base filter : String} {scope : Scope} {attributes : List String}
    {s : Clients σ} {e : Error} (failed : (search w c base scope filter attributes s).1 = .error e) :
    (search w c base scope filter attributes s).2.running c = none := by
  have given := abandon_running w c s
  unfold search at failed ⊢
  rcases abandoned : abandon w c s with ⟨answer, left⟩
  rw [abandoned] at failed given
  cases answer with
  | error e => exact given
  | ok done =>
    dsimp only at failed ⊢
    split at failed
    · exact given
    · cases failed

theorem next_running {w : Wire σ} {c : Nat} {s : Clients σ} (ended : ∀ item, (next w c s).1 ≠ .ok (some item)) :
    (next w c s).2.running c = none := by
  cases runs : s.running c with
  | none => rwa [next_of_none runs]
  | some number =>
    rw [next, runs] at ended ⊢
    dsimp only at ended ⊢
    rcases step : nextItem w c number s.wire with ⟨⟨answer, _ | _⟩, left⟩
    · exact read_running c none _
    · obtain ⟨item, is⟩ := item_of_runs step
      rw [step] at ended
      exact absurd is (ended item)

/-- After an operation that leaves no search running, none runs. -/
theorem running_of_ends {w : Wire σ} {c : Nat} {s : Clients σ} {operation : Operation}
    (ends : operation.Ends (perform w c s operation).1) : (perform w c s operation).2.running c = none := by
  cases operation with
  | search base scope filter attributes =>
    obtain ⟨e, failed⟩ := ends
    cases answer : (search w c base scope filter attributes s).1 with
    | error e => exact search_running answer
    | ok done => simp [perform, answer, Except.map] at failed
  | next => exact next_running ends
  | abandon => exact abandon_running w c s
  | close => exact read_running c none _

/-- The search that is read on a connection stays whatever is asked on another. -/
theorem perform_running_of_ne {w : Wire σ} {c other : Nat} (elsewhere : other ≠ c) (s : Clients σ)
    (operation : Operation) : (perform w other s operation).2.running c = s.running c := by
  cases operation with
  | search base scope filter attributes =>
    have given := abandon_running_of_ne (w := w) elsewhere s
    simp only [perform, search]
    split
    · rename_i abandoned
      rw [abandoned] at given
      exact given
    · rename_i abandoned
      rw [abandoned] at given
      split
      · exact given
      · exact (read_running_of_ne elsewhere _ _).trans given
  | next =>
    simp only [perform, next]
    split
    · rfl
    · split
      · rfl
      · exact read_running_of_ne elsewhere none _
  | abandon => exact abandon_running_of_ne elsewhere s
  | close => exact read_running_of_ne elsewhere none _

/-- What is due on a connection stays due whatever is asked on another, if the library keeps the two apart. -/
theorem due_perform_other {w : Wire σ} {c number : Nat} {asked : Nat × Operation} (elsewhere : asked.1 ≠ c)
    (apart : Apart w c number asked) {s : Clients σ} (reads : s.running c = none ∨ s.running c = some number) :
    due w c (perform w asked.1 s asked.2).2 = due w c s := by
  have same := perform_running_of_ne (w := w) elsewhere s asked.2
  obtain stopped | runs := reads
  · rw [due_of_none stopped, due_of_none (same.trans stopped)]
  · rw [due_of_some runs, due_of_some (same.trans runs), apart s]

/-- No other search is read after a reading. -/
theorem next_reads {w : Wire σ} {c number : Nat} {s : Clients σ}
    (reads : s.running c = none ∨ s.running c = some number) :
    (next w c s).2.running c = none ∨ (next w c s).2.running c = some number := by
  obtain stopped | runs := reads
  · exact .inl (by rwa [next_of_none stopped])
  · rw [next, runs]
    dsimp only
    split
    · exact .inr runs
    · exact .inl (read_running c none _)

theorem history_cons (w : Wire σ) (call : Nat × Operation) (asked : List (Nat × Operation)) (s : Clients σ) :
    history w (call :: asked) s =
      ⟨call.1, call.2, (perform w call.1 s call.2).1⟩ :: history w asked (perform w call.1 s call.2).2 :=
  rfl

theorem readings_cons_next (c : Nat) (answer : Except Error (Option Item)) (records : List Record) :
    readings c (⟨c, .next, answer⟩ :: records) = answer :: readings c records := by
  simp [readings]

theorem readings_cons_other {c : Nat} {record : Record}
    (other : record.connection = c → record.operation ≠ .next) (records : List Record) :
    readings c (record :: records) = readings c records := by
  rw [readings, List.filter_cons_of_neg (by simpa using other)]
  rfl

/-- While nothing but reading goes on, what is read is what is due, and nothing more after it. -/
theorem readings_due {w : Wire σ} {c number : Nat} {asked : List (Nat × Operation)}
    (reads : ∀ call ∈ asked, call.1 = c → call.2 = .next)
    (apart : ∀ call ∈ asked, call.1 ≠ c → Apart w c number call) {s : Clients σ}
    (reading : s.running c = none ∨ s.running c = some number) :
    readings c (history w asked s) =
      (List.range (asked.countP (Prod.fst · = c))).map fun i => (due w c s)[i]?.getD (.ok none) := by
  -- The state is general: a reading leaves the others due, and a call elsewhere leaves all of them due.
  induction asked generalizing s with
  | nil => rfl
  | cons call asked ih =>
    obtain ⟨read, laterReads⟩ := List.forall_mem_cons.1 reads
    obtain ⟨spared, laterApart⟩ := List.forall_mem_cons.1 apart
    rw [history_cons]
    by_cases here : call.1 = c
    · obtain ⟨connection, operation⟩ := call
      cases here
      cases read rfl
      obtain ⟨answer, left⟩ := next_due w connection s
      have later := ih laterReads laterApart (next_reads (w := w) reading)
      rw [List.countP_cons_of_pos (by simp), List.range_succ_eq_map, List.map_cons, List.map_map, perform,
        readings_cons_next, later, answer, left, List.head?_eq_getElem?]
      simp [Function.comp_def]
    · have same := perform_running_of_ne (w := w) here s call.2
      have later := ih laterReads laterApart (same ▸ reading)
      rw [List.countP_cons_of_neg (by simpa using here), readings_cons_other fun same => absurd same here, later,
        due_perform_other here (spared here) reading]

/-- Where no search runs, an operation that starts none leaves none running. -/
theorem ends_of_stopped {w : Wire σ} {c : Nat} {s : Clients σ} {operation : Operation} (stopped : s.running c = none)
    (noBegin : ¬operation.Begins (perform w c s operation).1) : operation.Ends (perform w c s operation).1 := by
  cases operation with
  | search base scope filter attributes =>
    cases answer : (search w c base scope filter attributes s).1 with
    | error e => exact ⟨e, by simp [perform, answer, Except.map]⟩
    | ok done => exact absurd (by simp [perform, answer, Except.map, Operation.Begins]) noBegin
  | next =>
    rw [perform, next_of_none stopped]
    exact fun item same => nomatch same
  | abandon => trivial
  | close => trivial

/-- A connection on which no search runs is read as at its end, until a search begins. -/
theorem readings_of_stopped {w : Wire σ} {c : Nat} {asked : List (Nat × Operation)} {s : Clients σ}
    (stopped : s.running c = none)
    (noBegin : ∀ record ∈ history w asked s, record.connection = c → ¬record.operation.Begins record.answer) :
    ∀ answer ∈ readings c (history w asked s), answer = .ok none := by
  induction asked generalizing s with
  | nil => simp [history, readings]
  | cons call asked ih =>
    rw [history_cons] at noBegin ⊢
    obtain ⟨first, others⟩ := List.forall_mem_cons.1 noBegin
    by_cases here : call.1 = c
    · obtain ⟨connection, operation⟩ := call
      cases here
      have later := ih (running_of_ends (ends_of_stopped stopped (first rfl))) others
      by_cases reads : operation = .next
      · subst reads
        rw [readings_cons_next]
        refine List.forall_mem_cons.2 ⟨?_, later⟩
        rw [perform, next_of_none stopped]
      · rw [readings_cons_other fun _ => reads]
        exact later
    · rw [readings_cons_other fun same => absurd same here]
      exact ih ((perform_running_of_ne here s call.2).trans stopped) others

/-- No connection mixes its searches. A search succeeds if and only if the library gives up the one before and starts
this very one. From then on, whatever was asked before, reading gives the items of its delivery one after the other,
what its end makes due, and then no more; in between other connections may be used that the library keeps apart. After
the end of the items, an error, a search that was not started, or a search given up, nothing is read until the next
search starts. -/
theorem readings_of_search (w : Wire σ) (c : Nat) :
    (∀ (base filter : String) (scope : Scope) (attributes : List String) (s started : Clients σ),
      (search w c base scope filter attributes s = (.ok (), started) ↔
        ∃ number, Starts w c base scope filter attributes s number started) ∧
      ∀ number, Starts w c base scope filter attributes s number started →
        ∀ asked : List (Nat × Operation), (∀ call ∈ asked, call.1 = c → call.2 = .next) →
          (∀ call ∈ asked, call.1 ≠ c → Apart w c number call) →
          readings c (history w asked started) = (List.range (asked.countP (Prod.fst · = c))).map fun i =>
            (w.delivery c number started.wire).answers[i]?.getD (.ok none)) ∧
    (∀ (operation : Operation) (s : Clients σ), operation.Ends (perform w c s operation).1 →
      ∀ asked : List (Nat × Operation),
        (∀ record ∈ history w asked (perform w c s operation).2, record.connection = c →
          ¬record.operation.Begins record.answer) →
        ∀ answer ∈ readings c (history w asked (perform w c s operation).2), answer = .ok none) := by
  constructor
  · intro base filter scope attributes s started
    refine ⟨search_eq_ok_iff, fun number starts asked reads apart => ?_⟩
    rw [readings_due reads apart (.inr starts.reads), starts.due]
  · intro operation s ends asked noBegin
    exact readings_of_stopped (running_of_ends ends) noBegin

namespace Played

/-- A connection of a library that plays deliveries: what is left of each search on it, and which were given up. -/
structure Line where
  searches : List Delivery := []
  gone : List Nat := []

def put (lines : Nat → Line) (c : Nat) (line : Line) : Nat → Line :=
  fun other => if other = c then line else lines other

/-- What is played for a filter. -/
def playing (filter : String) : Delivery :=
  if filter = "(cn=*)" then
    ⟨[.entry "cn=a" [], .intermediate, .referral ["ldap://b"]], .ok { code := 10, referrals := ["ldap://c"] }⟩
  else ⟨[.entry "uid=y" [], .entry "uid=z" []], .error "reset"⟩

/-- What was given up is not forgotten: it could still be read. -/
def library : Wire (Nat → Line) where
  dial _ _ _ lines := (.ok 0, lines)
  bind _ _ _ lines := (.ok {}, lines)
  search c _ _ filter _ lines :=
    (.ok (lines c).searches.length,
      put lines c { lines c with searches := (lines c).searches ++ [playing filter] })
  next c number lines :=
    match (lines c).searches[number]? with
    | some ⟨message :: messages, ending⟩ =>
      (.ok (some message),
        put lines c { lines c with searches := (lines c).searches.set number ⟨messages, ending⟩ })
    | some ⟨[], .error e⟩ => (.error e, lines)
    | _ => (.ok none, lines)
  finish c number lines := (((lines c).searches[number]?.bind (·.ending.toOption)).getD {}, lines)
  abandon c number lines := (.ok (), put lines c { lines c with gone := number :: (lines c).gone })
  unbind _ lines := (.ok (), lines)
  isClosed _ _ := false
  remaining c number lines := ((lines c).searches[number]?.map (·.messages.length)).getD 0
  next_lt {c number lines message left} came := by
    split at came
    · rename_i messages ending here
      cases came
      obtain ⟨within, current⟩ := List.getElem?_eq_some_iff.1 here
      simp [put, within, current]
    · cases came
    · cases came

/-- Every delivery is played. -/
theorem delivery_library (c number : Nat) (lines : Nat → Line) :
    library.delivery c number lines = (lines c).searches[number]?.getD ⟨[], .ok {}⟩ := by
  cases here : (lines c).searches[number]? with
  | none =>
    have ended : library.next c number lines = (.ok none, lines) := by simp only [library, here]
    rw [Wire.delivery_none ended]
    simp only [library, here]
    rfl
  | some d =>
    obtain ⟨messages, ending⟩ := d
    induction messages generalizing lines with
    | nil =>
      cases ending with
      | ok result =>
        have ended : library.next c number lines = (.ok none, lines) := by simp only [library, here]
        rw [Wire.delivery_none ended]
        simp only [library, here]
        rfl
      | error e =>
        have broke : library.next c number lines = (.error e, lines) := by simp only [library, here]
        rw [Wire.delivery_error broke]
        rfl
    | cons message messages ih =>
      let line : Line := { lines c with searches := (lines c).searches.set number ⟨messages, ending⟩ }
      have came : library.next c number lines = (.ok (some message), put lines c line) := by
        simp only [library, here]
        rfl
      have within : number < (lines c).searches.length := (List.getElem?_eq_some_iff.1 here).1
      have left : (put lines c line c).searches[number]? = some ⟨messages, ending⟩ := by
        simp [put, line, within]
      rw [Wire.delivery_some came, ih _ left]
      rfl

theorem put_other {c other : Nat} (elsewhere : other ≠ c) (lines : Nat → Line) (line : Line) :
    put lines other line c = lines c :=
  if_neg elsewhere.symm

theorem next_other {c other : Nat} (elsewhere : other ≠ c) (number : Nat) (lines : Nat → Line) :
    (library.next other number lines).2 c = lines c := by
  simp only [library]
  split
  · exact put_other elsewhere lines _
  · rfl
  · rfl

theorem nextItem_other {c other : Nat} (elsewhere : other ≠ c) (number : Nat) (lines : Nat → Line) :
    (nextItem library other number lines).2 c = lines c := by
  fun_induction nextItem library other number lines with
  | case1 lines dn attributes left came =>
    have same := next_other elsewhere number lines
    rwa [came] at same
  | case2 lines urls left came =>
    have same := next_other elsewhere number lines
    rwa [came] at same
  | case3 lines left came _ ih =>
    have same := next_other elsewhere number lines
    rw [came] at same
    exact ih.trans same
  | case4 lines left ended result after finish =>
    have same := next_other elsewhere number lines
    rw [ended] at same
    cases finish
    exact same
  | case5 lines e left broke =>
    have same := next_other elsewhere number lines
    rwa [broke] at same

theorem abandon_other {c other : Nat} (elsewhere : other ≠ c) (s : Clients (Nat → Line)) :
    (abandon library other s).2.wire c = s.wire c := by
  unfold abandon
  split
  · rfl
  · exact put_other elsewhere s.wire _

theorem apart_library {c number : Nat} {asked : Nat × Operation} (elsewhere : asked.1 ≠ c) :
    Apart library c number asked := by
  obtain ⟨other, operation⟩ := asked
  intro s
  suffices same : (perform library other s operation).2.wire c = s.wire c by
    rw [delivery_library, delivery_library, same]
  have given := abandon_other elsewhere s
  cases operation with
  | search base scope filter attributes =>
    simp only [perform, search]
    rcases abandoned : abandon library other s with ⟨answer, left⟩
    rw [abandoned] at given
    cases answer with
    | error e => exact given
    | ok done => exact (put_other elsewhere left.wire _).trans given
  | next =>
    simp only [perform, next]
    split
    · rfl
    · rename_i number runs
      have same := nextItem_other elsewhere number s.wire
      split
      · rename_i step
        rwa [step] at same
      · rename_i step
        rwa [step] at same
  | abandon => exact given
  | close => rfl

/-- A search runs, and its items are still to come. -/
def busy : Clients (Nat → Line) := (search library 0 "" .subtree "(uid=*)" [] { wire := fun _ => {} }).2

/-- Another search in its place. -/
def started : Clients (Nat → Line) := (search library 0 "dc=org" .subtree "(cn=*)" ["cn"] busy).2

/-- Reading to the end and once more, while another connection is used. -/
def asked : List (Nat × Operation) :=
  [(0, .next), (1, .search "" .subtree "(uid=*)" []), (1, .next), (0, .next), (1, .next), (0, .next), (0, .next)]

end Played

open Played in
/-- The new search is read, and nothing of the one before, of which all items are left. -/
theorem readings_of_search_played :
    busy.running 0 = some 0 ∧ library.delivery 0 0 started.wire = library.delivery 0 0 busy.wire ∧
      (started.wire 0).gone = [0] ∧
      Starts library 0 "dc=org" .subtree "(cn=*)" ["cn"] busy 1 started ∧
      readings 0 (history library asked started) =
        [.ok (some (.entry (.ofAttributes "cn=a" []))), .ok (some (.referral ["ldap://b"])),
          .ok (some (.referral ["ldap://c"])), .ok none] ∧
      let abandoned := (perform library 0 started .abandon).2
      ∀ answer ∈ readings 0 (history library [(0, .next)] abandoned), answer = .ok none := by
  obtain ⟨succeeds, readsOn⟩ := (readings_of_search library 0).1 "dc=org" "(cn=*)" .subtree ["cn"] busy started
  have starts : Starts library 0 "dc=org" .subtree "(cn=*)" ["cn"] busy 1 started := by
    obtain ⟨number, starts⟩ := succeeds.1 rfl
    cases starts.reads
    exact starts
  refine ⟨rfl, ?_, rfl, starts, ?_, ?_⟩
  · rw [delivery_library, delivery_library]
    rfl
  · have read := readsOn 1 starts asked (by decide) fun call _ elsewhere => apart_library elsewhere
    rw [delivery_library] at read
    exact read
  · refine (readings_of_search library 0).2 .abandon started trivial _ ?_
    intro record member
    rw [history_cons] at member
    cases List.mem_singleton.1 member
    exact fun _ begins => begins

end Clients

end DirectoryLogin
