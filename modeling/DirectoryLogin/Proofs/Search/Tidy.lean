import DirectoryLogin.Proofs.Live
import DirectoryLogin.Proofs.Search.Determined
import DirectoryLogin.Proofs.Search.Legs
import DirectoryLogin.Proofs.Search.Mirrored
import DirectoryLogin.Proofs.Steady
import Mathlib.Data.List.Basic

namespace DirectoryLogin

variable {σ κ : Type}

namespace Exchange

/-- Something is still to come on the connection: a search was started, or an item or an error was taken of it. -/
def Runs (line : Line κ) : Exchange κ → Prop
  | search l _ _ _ _ (.ok _) => l = line
  | next l (.ok (some _)) => l = line
  | next l (.error _) => l = line
  | _ => False

theorem Runs.line_eq {line c : Line κ} {x : Exchange κ} (runs : x.Runs line) (only : x.line = [c]) : c = line := by
  unfold Runs at runs
  split at runs
  · rw [← List.singleton_inj.1 only, runs]
  · rw [← List.singleton_inj.1 only, runs]
  · rw [← List.singleton_inj.1 only, runs]
  · exact runs.elim

/-- The search of the connection is over: there was no more of it, or it was given up. -/
def Ends (line : Line κ) : Exchange κ → Prop
  | next l (.ok none) => l = line
  | abandon l _ => l = line
  | _ => False

/-- Whatever runs on the connection is ended later on. -/
def WoundUp (line : Line κ) (es : List (Exchange κ)) : Prop :=
  ∀ before x after, es = before ++ x :: after → x.Runs line → ∃ y ∈ after, y.Ends line

namespace WoundUp

variable {line : Line κ} {es es' : List (Exchange κ)}

theorem of_quiet (quiet : ∀ x ∈ es, ¬ x.Runs line) : WoundUp line es := by
  intro before x after split runs
  have member : x ∈ es := by simp [split]
  exact absurd runs (quiet x member)

theorem append (first : WoundUp line es) (second : WoundUp line es') : WoundUp line (es ++ es') := by
  intro before x after split runs
  rcases List.append_eq_append_iff.1 split with ⟨between, rfl, later⟩ | ⟨between, rfl, inner⟩
  · exact second between x after later runs
  · cases between with
    | nil => exact second [] x after inner.symm runs
    | cons y between =>
      cases inner
      obtain ⟨z, member, ends⟩ := first before x between rfl runs
      exact ⟨z, List.mem_append_left _ member, ends⟩

theorem flatten {parts : List (List (Exchange κ))} (each : ∀ part ∈ parts, WoundUp line part) :
    WoundUp line parts.flatten := by
  induction parts with
  | nil => exact of_quiet (by simp)
  | cons part parts ih =>
    obtain ⟨first, others⟩ := List.forall_mem_cons.1 each
    exact first.append (ih others)

/-- What ends the search comes last. -/
theorem of_last {last : Exchange κ} (ends : ∀ x ∈ es, x.Runs line → last.Ends line) (done : ¬ last.Runs line) :
    WoundUp line (es ++ [last]) := by
  intro before x after split runs
  rcases after.eq_nil_or_concat' with rfl | ⟨between, y, rfl⟩
  · obtain ⟨-, same⟩ := List.append_inj' split rfl
    cases same
    exact absurd runs done
  · rw [← List.cons_append, ← List.append_assoc] at split
    obtain ⟨inner, same⟩ := List.append_inj' split rfl
    cases same
    exact ⟨last, by simp, ends x (by simp [inner]) runs⟩

end WoundUp

/-- One referral connection after the other: from the one that is open, if there is one, to the one that is left. -/
inductive OneByOne : Option (Line κ) → List (Exchange κ) → Option (Line κ) → Prop
  | nil {had} : OneByOne had [] had
  | opens {env c es left} (later : OneByOne (some c) es left) : OneByOne none (.connect env (.ok c) :: es) left
  | refused {env e es left} (later : OneByOne none es left) : OneByOne none (.connect env (.error e) :: es) left
  | closes {c outcome es left} (later : OneByOne none es left) : OneByOne (some c) (.close c outcome :: es) left
  | other {had x es left} (idle : x.attempt = [] ∧ x.closed = []) (later : OneByOne had es left) :
    OneByOne had (x :: es) left

namespace OneByOne

variable {had between left : Option (Line κ)} {es es' : List (Exchange κ)}

theorem append (first : OneByOne had es between) (second : OneByOne between es' left) :
    OneByOne had (es ++ es') left := by
  induction first with
  | nil => exact second
  | opens _ ih => exact .opens (ih second)
  | refused _ ih => exact .refused (ih second)
  | closes _ ih => exact .closes (ih second)
  | other idle _ ih => exact .other idle (ih second)

theorem split (whole : OneByOne had (es ++ es') left) :
    ∃ between, OneByOne had es between ∧ OneByOne between es' left := by
  induction es generalizing had with
  | nil => exact ⟨had, .nil, whole⟩
  | cons x es ih =>
    cases whole with
    | opens later =>
      obtain ⟨between, first, second⟩ := ih later
      exact ⟨between, .opens first, second⟩
    | refused later =>
      obtain ⟨between, first, second⟩ := ih later
      exact ⟨between, .refused first, second⟩
    | closes later =>
      obtain ⟨between, first, second⟩ := ih later
      exact ⟨between, .closes first, second⟩
    | other idle later =>
      obtain ⟨between, first, second⟩ := ih later
      exact ⟨between, .other idle first, second⟩

theorem opened_of_attempt {x : Exchange κ} (idle : x.attempt = []) : x.opened = [] := by
  cases x with
  | connect => cases idle
  | search => rfl
  | next => rfl
  | abandon => rfl
  | close => rfl

/-- What was open or has been opened was closed in that order, but for what is left. -/
theorem accounts (whole : OneByOne had es left) :
    had.toList ++ es.flatMap opened = es.flatMap closed ++ left.toList := by
  induction whole with
  | nil => simp
  | opens _ ih => simpa [opened, closed] using ih
  | refused _ ih => simpa [opened, closed] using ih
  | closes _ ih => simpa [opened, closed] using ih
  | other idle _ ih => simpa [opened_of_attempt idle.1, idle.2] using ih

theorem of_idle (idle : ∀ x ∈ es, x.attempt = [] ∧ x.closed = []) : OneByOne had es had := by
  induction es with
  | nil => exact .nil
  | cons x es ih =>
    obtain ⟨first, others⟩ := List.forall_mem_cons.1 idle
    exact .other first (ih others)

theorem flatten {parts : List (List (Exchange κ))} (each : ∀ part ∈ parts, OneByOne none part none) :
    OneByOne none parts.flatten none := by
  induction parts with
  | nil => exact .nil
  | cons part parts ih =>
    obtain ⟨first, others⟩ := List.forall_mem_cons.1 each
    exact first.append (ih others)

end OneByOne

/-- Exchanges that leave nothing behind. -/
structure Tidy (es : List (Exchange κ)) : Prop where
  /-- At every moment what was opened has been closed in that order, but for at most one connection; -/
  oneOpen : ∀ before after, es = before ++ after → before.flatMap opened = before.flatMap closed ∨
    ∃ c, before.flatMap opened = before.flatMap closed ++ [c]
  /-- there is none when the next one is asked for, -/
  closedBefore : ∀ before env outcome after, es = before ++ .connect env outcome :: after →
    before.flatMap opened = before.flatMap closed
  /-- and none in the end. -/
  allClosed : es.flatMap opened = es.flatMap closed
  /-- Nothing is closed but what was opened on the way. -/
  ownClosed : ∀ c outcome, .close c outcome ∈ es → ∃ env, .connect env (.ok c) ∈ es
  /-- No search is left running. -/
  woundUp : ∀ line, WoundUp line es

theorem mem_opened {es : List (Exchange κ)} {c : Line κ} (member : c ∈ es.flatMap opened) :
    ∃ env, .connect env (.ok c) ∈ es := by
  obtain ⟨x, inside, here⟩ := List.mem_flatMap.1 member
  unfold opened at here
  split at here
  · rw [List.mem_singleton.1 here]
    exact ⟨_, inside⟩
  · cases here

theorem OneByOne.leavesNothing {es : List (Exchange κ)} (whole : OneByOne none es none)
    (woundUp : ∀ line, WoundUp line es) : Tidy es := by
  have all : es.flatMap opened = es.flatMap closed := by simpa using whole.accounts
  refine ⟨?_, ?_, all, ?_, woundUp⟩
  · intro before after same
    obtain ⟨between, first, -⟩ := (same ▸ whole).split
    have accounts := first.accounts
    cases between with
    | none => exact .inl (by simpa using accounts)
    | some c => exact .inr ⟨c, by simpa using accounts⟩
  · intro before env outcome after same
    obtain ⟨between, first, second⟩ := (same ▸ whole).split
    have accounts := first.accounts
    cases second with
    | opens => simpa using accounts
    | refused => simpa using accounts
    | other idle => cases idle.1
  · intro c outcome member
    have closing : c ∈ es.flatMap closed := List.mem_flatMap.2 ⟨_, member, List.mem_singleton_self c⟩
    rw [← all] at closing
    exact mem_opened closing

/-- The items that are taken one after the other. -/
def items (c : Line κ) (taken : List Item) : List (Exchange κ) :=
  taken.map fun item => .next c (.ok (some item))

end Exchange

namespace Search

open Exchange (WoundUp OneByOne Tidy)

variable {server : Server} {c : Line κ} {r : Request} {mode : FindMode} {base url : String} {f : Findings}
  {ended : Except Error Ending × Findings} {es : List (Exchange κ)} {result : Except Error (List Entry)}

/-- How one connection is searched: the search is refused, or its items are taken until there are no more, or until it
is given up after the last of them or after an error. -/
inductive Enumeration (c : Line κ) : List (Exchange κ) → Prop
  | refused {base scope filter attributes e} :
    Enumeration c [.search c base scope filter attributes (.error e)]
  | exhausted {base scope filter attributes} (taken : List Item) :
    Enumeration c (.search c base scope filter attributes (.ok ()) :: Exchange.items c taken ++ [.next c (.ok none)])
  | abandoned {base scope filter attributes last outcome} (taken : List Item) (some_ : last ≠ .ok none) :
    Enumeration c (.search c base scope filter attributes (.ok ()) :: Exchange.items c taken ++ [.next c last] ++
      [.abandon c outcome])

/-- How the server of a referral is visited, if at all: a connection to it is opened, searched and closed. -/
inductive Visit (server : Server) : List (Exchange κ) → Prop
  | nowhere : Visit server []
  | refused {url e} : Visit server [.connect (Environment.referral server url) (.error e)]
  | entered {url c es outcome} (line : c.env = Environment.referral server url) (searched : Enumeration c es) :
    Visit server (.connect (Environment.referral server url) (.ok c) :: es ++ [.close c outcome])

theorem Drained.taken (drained : Drained c r mode f ended es) :
    ∃ taken, es = Exchange.items c taken ++ [.next c (.ok none)] ∨
      ∃ last outcome, last ≠ .ok none ∧ es = Exchange.items c taken ++ [.next c last] ++ [.abandon c outcome] := by
  induction drained with
  | @referral f ended urls es _ ih =>
    obtain ⟨taken, rfl | ⟨last, outcome, some_, rfl⟩⟩ := ih
    · exact ⟨.referral urls :: taken, .inl rfl⟩
    · exact ⟨.referral urls :: taken, .inr ⟨last, outcome, some_, rfl⟩⟩
  | @entry f ended e es _ _ ih =>
    obtain ⟨taken, rfl | ⟨last, outcome, some_, rfl⟩⟩ := ih
    · exact ⟨.entry e :: taken, .inl rfl⟩
    · exact ⟨.entry e :: taken, .inr ⟨last, outcome, some_, rfl⟩⟩
  | first => exact ⟨[], .inr ⟨_, _, by simp, rfl⟩⟩
  | second => exact ⟨[], .inr ⟨_, _, by simp, rfl⟩⟩
  | exhausted => exact ⟨[], .inl rfl⟩
  | broken => exact ⟨[], .inr ⟨_, _, by simp, rfl⟩⟩

theorem Enumerated.enumeration (enumerated : Enumerated c r base mode f ended es) : Enumeration c es := by
  cases enumerated with
  | refused => exact .refused
  | started drained =>
    obtain ⟨taken, rfl | ⟨last, outcome, some_, rfl⟩⟩ := drained.taken
    · exact .exhausted taken
    · exact .abandoned taken some_

theorem Referred.visit (referred : Referred server r mode url f ended es) : Visit server es := by
  cases referred with
  | noBase => exact .nowhere
  | closed _ opened =>
    cases opened with
    | noTarget => exact .nowhere
    | refused => exact .refused
  | entered _ opened enumerated =>
    cases opened with
    | opened _ line => exact .entered line enumerated.enumeration

namespace Enumeration

/-- Only the one connection is used, and it is neither opened nor closed. -/
theorem idle (enumeration : Enumeration c es) : ∀ x ∈ es, x.attempt = [] ∧ x.closed = [] ∧ x.line = [c] := by
  have taking (taken : List Item) : ∀ x ∈ Exchange.items c taken, x.attempt = [] ∧ x.closed = [] ∧ x.line = [c] := by
    intro x member
    obtain ⟨item, -, rfl⟩ := List.mem_map.1 member
    exact ⟨rfl, rfl, rfl⟩
  cases enumeration with
  | refused => simp [Exchange.attempt, Exchange.closed, Exchange.line]
  | exhausted taken =>
    simp only [List.cons_append, List.mem_cons, List.mem_append, List.not_mem_nil, or_false]
    rintro x (rfl | member | rfl)
    · exact ⟨rfl, rfl, rfl⟩
    · exact taking taken x member
    · exact ⟨rfl, rfl, rfl⟩
  | abandoned taken =>
    simp only [List.cons_append, List.mem_cons, List.mem_append, List.not_mem_nil, or_false]
    rintro x (rfl | (member | rfl) | rfl)
    · exact ⟨rfl, rfl, rfl⟩
    · exact taking taken x member
    · exact ⟨rfl, rfl, rfl⟩
    · exact ⟨rfl, rfl, rfl⟩

theorem oneByOne (enumeration : Enumeration c es) (had : Option (Line κ)) : OneByOne had es had :=
  .of_idle fun x member => ⟨(enumeration.idle x member).1, (enumeration.idle x member).2.1⟩

theorem woundUp (enumeration : Enumeration c es) (line : Line κ) : WoundUp line es := by
  have own : ∀ x ∈ es, x.Runs line → c = line := fun x member runs => runs.line_eq (enumeration.idle x member).2.2
  cases enumeration with
  | refused => exact .of_quiet (by simp [Exchange.Runs])
  | exhausted taken => exact .of_last (fun x member runs => own x (List.mem_append_left _ member) runs) id
  | abandoned taken => exact .of_last (fun x member runs => own x (List.mem_append_left _ member) runs) id

end Enumeration

namespace Visit

theorem oneByOne (visit : Visit server es) : OneByOne none es none := by
  cases visit with
  | nowhere => exact .nil
  | refused => exact .refused .nil
  | entered line searched => exact .opens ((searched.oneByOne _).append (.closes .nil))

theorem woundUp (visit : Visit server es) (line : Line κ) : WoundUp line es := by
  cases visit with
  | nowhere => exact .of_quiet (by simp)
  | refused => exact .of_quiet (by simp [Exchange.Runs])
  | @entered url c es outcome _ searched =>
    have opening : WoundUp line [Exchange.connect (Environment.referral server url) (.ok c)] :=
      .of_quiet (by simp [Exchange.Runs])
    have closing : WoundUp line [Exchange.close c outcome] := .of_quiet (by simp [Exchange.Runs])
    exact opening.append ((searched.woundUp line).append closing)

end Visit

/-- What one connection is searched for, and then the servers of referrals, leaves nothing behind. -/
theorem tidy_of_visits {first : List (Exchange κ)} {visits : List (List (Exchange κ))} (origin : Enumeration c first)
    (each : ∀ visit ∈ visits, Visit server visit) : Tidy (first ++ visits.flatten) := by
  have oneByOne : OneByOne none (first ++ visits.flatten) none :=
    (origin.oneByOne none).append (.flatten fun visit member => (each visit member).oneByOne)
  exact oneByOne.leavesNothing fun line =>
    (origin.woundUp line).append (.flatten fun visit member => (each visit member).woundUp line)

/-- Searches clean up after themselves, whatever they are answered and however they end. After the search of the
connection that was given, which is never closed, come visits at the servers of referrals, each on a connection of its
own. At most one of these is open at a time, each is closed once, before the next one is asked for, and nothing that
was started on any connection is left running. Giving up and closing may fail without a trace in the result: any two
searches that are answered alike in everything else come to the same. -/
theorem find_tidy (svc : Service σ κ) (server : Server) (c : Line κ) (r : Request) (mode : FindMode)
    (t : Trace (Witnessed σ κ)) :
    let run := find svc.witnessed server c r mode t
    find svc server c.name r mode (Act.plain t) = (run.1, Act.plain run.2) ∧
    ∃ (first : List (Exchange κ)) (visits : List (List (Exchange κ))),
    let es := first ++ visits.flatten
    run.2.world.exchanges = t.world.exchanges ++ es ∧
    Enumeration c first ∧ (∀ visit ∈ visits, Visit server visit) ∧ Tidy es ∧
    ∀ (σ' κ' : Type) (svc' : Service σ' κ') (c' : Line κ') (t' : Trace (Witnessed σ' κ')) (es' : List (Exchange κ')),
      let run' := find svc'.witnessed server c' r mode t'
      run'.2.world.exchanges = t'.world.exchanges ++ es' →
      es'.flatMap Exchange.news = es.flatMap Exchange.news → run'.1 = run.1 := by
  obtain ⟨es, added, first, legs, rfl, ended, origin, chased⟩ := find_adds svc server c r mode t
  have each : ∀ visit ∈ legs.map Leg.exchanges, Visit server visit := by
    intro visit member
    obtain ⟨leg, inside, rfl⟩ := List.mem_map.1 member
    obtain ⟨f, ended, referred⟩ := chased.referred leg inside
    exact referred.visit
  rw [List.flatMap_def] at added
  refine ⟨find_mirrors svc server c r mode t, first, legs.map Leg.exchanges, added, origin.enumeration, each,
    tidy_of_visits origin.enumeration each, fun σ' κ' svc' c' t' es' added' same => ?_⟩
  rw [find_outcome_of_news svc' server c' r mode t' added', same, find_outcome_of_news svc server c r mode t added]

namespace Sulking

/-- Directories in memory that do as they are told, and say that they could not when it comes to an end. -/
def service : Service MemoryDirectory Nat :=
  { MemoryDirectory.service with
    abandon := fun c d => (.error .timeout, (MemoryDirectory.abandon c d).2)
    close := fun c d => (.error (.connection "broken pipe"), (MemoryDirectory.close c d).2) }

def origin : Line Nat := ⟨0, Environment.bind Ring.server⟩

def start : Trace (Witnessed MemoryDirectory Nat) := ⟨⟨Ring.directory, []⟩, []⟩

end Sulking

/-- A search that is given up at the second server of two, where neither that nor any closing succeeds. It comes to the
same as where everything succeeds. -/
theorem find_tidy_sulking :
    let run (svc : Service MemoryDirectory Nat) :=
      find svc.witnessed Ring.server Sulking.origin Ring.onlyAnna .unique Sulking.start
    (run Sulking.service).2.world.exchanges.flatMap Exchange.news =
      (run MemoryDirectory.service).2.world.exchanges.flatMap Exchange.news ∧
    ((run Sulking.service).2.log.map Event.message ≠ (run MemoryDirectory.service).2.log.map Event.message) ∧
    (run MemoryDirectory.service).1 = .error (.nonUniqueResult Ring.onlyAnna.display) ∧
    (run Sulking.service).1 = (run MemoryDirectory.service).1 := by
  intro run
  have same : (run Sulking.service).2.world.exchanges.flatMap Exchange.news =
      (run MemoryDirectory.service).2.world.exchanges.flatMap Exchange.news := by decide +kernel
  refine ⟨same, by decide +kernel, by decide +kernel, ?_⟩
  obtain ⟨-, first, visits, added, -, -, -, determined⟩ :=
    find_tidy MemoryDirectory.service Ring.server Sulking.origin Ring.onlyAnna .unique Sulking.start
  have kept : (run MemoryDirectory.service).2.world.exchanges = first ++ visits.flatten := added
  refine determined _ _ Sulking.service Sulking.origin Sulking.start _ rfl ?_
  rw [← kept]
  exact same

end Search

end DirectoryLogin
