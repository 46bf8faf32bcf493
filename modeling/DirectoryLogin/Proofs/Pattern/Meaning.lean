import DirectoryLogin.Pattern.Normal
import Mathlib.Data.Finset.Card
import Mathlib.Data.List.Infix
import Mathlib.Data.Nat.Bitwise
import Mathlib.Logic.Function.Iterate

namespace DirectoryLogin

/-- The character before a place. -/
def charBefore (text : List Char) : Nat → Option Char
  | 0 => none
  | i + 1 => text[i]?

namespace Pattern

/-- A number of steps one after the other. -/
def Repeated (step : Nat → Nat → Prop) : Nat → Nat → Nat → Prop
  | 0, i, j => i = j
  | n + 1, i, j => ∃ k, step i k ∧ Repeated step n k j

/-- The pattern matches the stretch of the text from the one place to the other. -/
def Spans (text : List Char) : Pattern → Nat → Nat → Prop
  | empty, i, j => i = j
  | literal cs, i, j => cs <+: text.drop i ∧ j = i + cs.length
  | one accepted, i, j => (∃ c, text[i]? = some c ∧ accepted.contains c) ∧ j = i + 1
  | look condition, i, j => condition.holds (charBefore text i) text[i]? ∧ i = j
  | group _ body, i, j => Spans text body i j
  | seq first rest, i, j => ∃ k, Spans text first i k ∧ Spans text rest k j
  | alt first rest, i, j => Spans text first i j ∨ Spans text rest i j
  | times body least most _, i, j =>
    ∃ more, (∀ limit ∈ most, more ≤ limit - least) ∧ Repeated (Spans text body) (least + more) i j

end Pattern

theorem iterate_eq {α : Type} [DecidableEq α] (f : α → α) (n : Nat) (a : α) : iterate f n a = f^[n] a := by
  induction n generalizing a with
  | zero => rfl
  | succ n ih =>
    rw [iterate, Function.iterate_succ_apply]
    split
    · next fixed => rw [fixed, Function.iterate_fixed fixed]
    · exact ih (f a)

namespace Places

/-- All places of the set are below the bound. -/
def Within (bound : Nat) (s : Places) : Prop := ∀ i, s.testBit i → i < bound

theorem testBit_marks {α : Type} (test : α → Bool) (as : List α) (i : Nat) :
    (marks test as).testBit i ↔ ∃ a, as[i]? = some a ∧ test a := by
  induction as generalizing i with
  | nil => simp [marks]
  | cons a rest ih =>
    have one : (if test a then 1 else 0) + 2 * marks test rest = 2 * marks test rest + (test a).toNat := by
      cases test a <;> simp [Nat.add_comm]
    rw [marks, one, ← Nat.bit_val]
    cases i with
    | zero => simp
    | succ i => simp [Nat.testBit_bit_succ, ih]

theorem neighbours_getElem? (before : Option Char) (text : List Char) (i : Nat) :
    (neighbours before text)[i]? = if i ≤ text.length then
      some (if i = 0 then before else charBefore text i, text[i]?) else none := by
  induction text generalizing before i with
  | nil =>
    cases i with
    | zero => rfl
    | succ i => simp [neighbours]
  | cons c rest ih =>
    cases i with
    | zero => rfl
    | succ i =>
      have shifted : (if i = 0 then some c else charBefore rest i) = charBefore (c :: rest) (i + 1) := by
        cases i <;> rfl
      simp only [neighbours, List.getElem?_cons_succ, ih, shifted, List.length_cons, Nat.add_le_add_iff_right,
        Nat.add_one_ne_zero, if_false]

theorem testBit_looking {text : List Char} (condition : Look) (s : Places) (j : Nat) (within : j ≤ text.length) :
    (looking text condition s).testBit j ↔ s.testBit j ∧ condition.holds (charBefore text j) text[j]? := by
  have place : (neighbours none text)[j]? = some (charBefore text j, text[j]?) := by
    rw [neighbours_getElem?, if_pos within]
    cases j <;> rfl
  rw [looking, Nat.testBit_land, Bool.and_eq_true, testBit_marks, place]
  simp

theorem testBit_passing (text : List Char) (accepts : Char → Bool) (s : Places) (j : Nat) :
    (passing text accepts s).testBit j ↔ ∃ i, s.testBit i ∧ (∃ c, text[i]? = some c ∧ accepts c) ∧ j = i + 1 := by
  cases j with
  | zero => simp [passing]
  | succ j => simp [passing, testBit_marks]

theorem testBit_all (text : List Char) (i : Nat) : (all text).testBit i ↔ i ≤ text.length := by
  rw [all, testBit_marks, neighbours_getElem?]
  split <;> simp [*]

/-- The places of the set below the bound. -/
def below (bound : Nat) (s : Places) : Finset Nat :=
  (Finset.range bound).filter fun i => s.testBit i

theorem card_below_le (bound : Nat) (s : Places) : (below bound s).card ≤ bound :=
  (Finset.card_filter_le _ _).trans_eq (Finset.card_range bound)

theorem card_below_lt {bound : Nat} {s t : Places} (grows : ∀ i, s.testBit i → t.testBit i) (within : Within bound t)
    (differs : t ≠ s) : (below bound s).card < (below bound t).card := by
  obtain ⟨i, bit⟩ := Nat.exists_testBit_ne_of_ne differs
  have absent : s.testBit i = false :=
    Bool.eq_false_iff.2 fun before => bit ((grows i before).trans before.symm)
  have there : t.testBit i := by
    rw [absent] at bit
    exact Bool.eq_true_of_not_eq_false bit
  refine Finset.card_lt_card ((Finset.ssubset_iff_of_subset fun k member => ?_).2 ⟨i, ?_, fun member => ?_⟩)
  · obtain ⟨inside, before⟩ := Finset.mem_filter.1 member
    exact Finset.mem_filter.2 ⟨inside, grows k before⟩
  · exact Finset.mem_filter.2 ⟨Finset.mem_range.2 (within i there), there⟩
  · exact Bool.eq_false_iff.1 absent (Finset.mem_filter.1 member).2

/-- A set that grows within a bound, as long as it grows at all, is full in the end. -/
theorem grown_fixed {grow : Places → Places} {bound : Nat} (grows : ∀ s i, s.testBit i → (grow s).testBit i)
    (stays : ∀ s, Within bound s → Within bound (grow s)) {s : Places} (start : Within bound s) :
    grow (grow^[bound] s) = grow^[bound] s := by
  have within (n : Nat) : Within bound (grow^[n] s) := by
    induction n with
    | zero => exact start
    | succ n ih =>
      rw [Function.iterate_succ_apply']
      exact stays _ ih
  have larger (n : Nat) (differs : grow (grow^[n] s) ≠ grow^[n] s) :
      (below bound (grow^[n] s)).card < (below bound (grow^[n + 1] s)).card := by
    rw [Function.iterate_succ_apply']
    exact card_below_lt (grows _) (stays _ (within n)) differs
  -- As long as each step has made a difference, there are more places than steps.
  have count (n : Nat) : grow (grow^[n] s) = grow^[n] s ∨ n < (below bound (grow^[n + 1] s)).card := by
    induction n with
    | zero =>
      by_cases fixed : grow (grow^[0] s) = grow^[0] s
      · exact .inl fixed
      · exact .inr (Nat.lt_of_le_of_lt (Nat.zero_le _) (larger 0 fixed))
    | succ n ih =>
      by_cases fixed : grow (grow^[n + 1] s) = grow^[n + 1] s
      · exact .inl fixed
      · obtain before | many := ih
        · refine absurd ?_ fixed
          rw [Function.iterate_succ_apply', before, before]
        · exact .inr (Nat.lt_of_le_of_lt many (larger (n + 1) fixed))
  obtain fixed | many := count bound
  · exact fixed
  · exact absurd many (Nat.not_lt.2 (card_below_le bound _))

end Places

namespace Pattern

variable {text : List Char}

theorem Repeated.append {step : Nat → Nat → Prop} {m n i j : Nat} :
    Repeated step (m + n) i j ↔ ∃ k, Repeated step m i k ∧ Repeated step n k j := by
  induction m generalizing i with
  | zero => simp [Repeated]
  | succ m ih =>
    rw [Nat.add_right_comm]
    simp only [Repeated, ih]
    constructor
    · rintro ⟨k, first, l, more, rest⟩
      exact ⟨l, ⟨k, first, more⟩, rest⟩
    · rintro ⟨l, ⟨k, first, more⟩, rest⟩
      exact ⟨k, first, l, more, rest⟩

theorem Repeated.le {step : Nat → Nat → Prop} {bound : Nat} (stays : ∀ i j, i ≤ bound → step i j → j ≤ bound)
    {n i j : Nat} (start : i ≤ bound) (steps : Repeated step n i j) : j ≤ bound := by
  induction n generalizing i with
  | zero => exact steps ▸ start
  | succ n ih =>
    obtain ⟨k, first, rest⟩ := steps
    exact ih (stays i k start first) rest

/-- No match goes beyond the text. -/
theorem Spans.le {p : Pattern} {i j : Nat} (start : i ≤ text.length) (spans : Spans text p i j) :
    j ≤ text.length := by
  induction p generalizing i j with
  | empty => exact spans ▸ start
  | literal cs =>
    obtain ⟨there, rfl⟩ := spans
    have fits := there.length_le
    rw [List.length_drop] at fits
    omega
  | one accepted =>
    obtain ⟨⟨c, there, -⟩, rfl⟩ := spans
    exact (List.getElem?_eq_some_iff.1 there).1
  | look condition => exact spans.2 ▸ start
  | group number body ih => exact ih start spans
  | seq first rest ihFirst ihRest =>
    obtain ⟨k, before, after⟩ := spans
    exact ihRest (ihFirst start before) after
  | alt first rest ihFirst ihRest =>
    obtain left | right := spans
    · exact ihFirst start left
    · exact ihRest start right
  | times body least most reluctant ih =>
    obtain ⟨more, -, steps⟩ := spans
    exact steps.le (fun _ _ => ih) start

/-- What a step from set to set does, told by single places: all of them stay in the text. -/
structure Takes (text : List Char) (f : Places → Places) (step : Nat → Nat → Prop) : Prop where
  testBit {s : Places} {j : Nat} : Places.Within (text.length + 1) s →
    ((f s).testBit j ↔ ∃ i, s.testBit i ∧ step i j)
  le {i j : Nat} : i ≤ text.length → step i j → j ≤ text.length

namespace Takes

variable {f g : Places → Places} {step next : Nat → Nat → Prop}

theorem within (takes : Takes text f step) {s : Places} (start : Places.Within (text.length + 1) s) :
    Places.Within (text.length + 1) (f s) := by
  intro j there
  obtain ⟨i, before, one⟩ := (takes.testBit start).1 there
  exact Nat.lt_succ_of_le (takes.le (Nat.le_of_lt_succ (start i before)) one)

theorem comp (first : Takes text f step) (second : Takes text g next) :
    Takes text (fun s => g (f s)) fun i j => ∃ k, step i k ∧ next k j where
  testBit start := by
    rw [second.testBit (first.within start)]
    constructor
    · rintro ⟨k, there, later⟩
      obtain ⟨i, before, one⟩ := (first.testBit start).1 there
      exact ⟨i, before, k, one, later⟩
    · rintro ⟨i, before, k, one, later⟩
      exact ⟨k, (first.testBit start).2 ⟨i, before, one⟩, later⟩
  le start := by
    rintro ⟨k, one, later⟩
    exact second.le (first.le start one) later

theorem iterate (takes : Takes text f step) (n : Nat) : Takes text f^[n] (Repeated step n) := by
  induction n with
  | zero => exact ⟨fun _ => by simp [Repeated], fun start same => same ▸ start⟩
  | succ n ih => exact takes.comp ih

/-- What is reached by a number of steps up to a limit. -/
theorem upTo (takes : Takes text f step) (limit : Nat) :
    Takes text (fun t => t ||| f t)^[limit] fun i j => ∃ more ≤ limit, Repeated step more i j := by
  have one : Takes text (fun t => t ||| f t) fun i j => i = j ∨ step i j := by
    refine ⟨fun start => ?_, fun start => ?_⟩
    · rw [Nat.testBit_lor, Bool.or_eq_true, takes.testBit start]
      constructor
      · rintro (here | ⟨i, there, later⟩)
        · exact ⟨_, here, .inl rfl⟩
        · exact ⟨i, there, .inr later⟩
      · rintro ⟨i, there, rfl | later⟩
        · exact .inl there
        · exact .inr ⟨i, there, later⟩
    · rintro (rfl | later)
      · exact start
      · exact takes.le start later
  have same (n i j : Nat) : Repeated (fun i j => i = j ∨ step i j) n i j ↔ ∃ more ≤ n, Repeated step more i j := by
    induction n generalizing i with
    | zero => simp [Repeated]
    | succ n ih =>
      simp only [Repeated, ih]
      constructor
      · rintro ⟨k, rfl | first, more, few, rest⟩
        · exact ⟨more, Nat.le_succ_of_le few, rest⟩
        · exact ⟨more + 1, Nat.succ_le_succ few, k, first, rest⟩
      · rintro ⟨more, few, rest⟩
        cases more with
        | zero => exact ⟨i, .inl rfl, 0, Nat.zero_le n, rest⟩
        | succ more =>
          obtain ⟨k, first, rest⟩ := rest
          exact ⟨k, .inr first, more, Nat.le_of_succ_le_succ few, rest⟩
  have all := one.iterate limit
  exact ⟨fun start => by rw [all.testBit start]; simp only [same], fun start steps => all.le start ((same ..).2 steps)⟩

/-- As many steps as there are places reach all that is reached at all. -/
theorem closure (takes : Takes text f step) :
    Takes text (fun t => t ||| f t)^[text.length + 1] fun i j => ∃ more, Repeated step more i j := by
  have limited := takes.upTo (text.length + 1)
  refine ⟨fun {s j} start => ⟨fun there => ?_, ?_⟩, fun start => ?_⟩
  · obtain ⟨i, before, more, -, steps⟩ := (limited.testBit start).1 there
    exact ⟨i, before, more, steps⟩
  · rintro ⟨i, before, more, steps⟩
    have grows (t : Places) (i : Nat) (there : t.testBit i) : (t ||| f t).testBit i := by
      rw [Nat.testBit_lor, there, Bool.true_or]
    have stays (t : Places) (inside : Places.Within (text.length + 1) t) :
        Places.Within (text.length + 1) (t ||| f t) := by
      intro i there
      rw [Nat.testBit_lor, Bool.or_eq_true] at there
      exact there.elim (inside i) (takes.within inside i)
    have fixed := Places.grown_fixed grows stays start
    have inside := limited.within start
    have first : ((fun t => t ||| f t)^[text.length + 1] s).testBit i :=
      (limited.testBit start).2 ⟨i, before, 0, Nat.zero_le _, rfl⟩
    clear before
    induction more generalizing i with
    | zero => exact steps ▸ first
    | succ more ih =>
      obtain ⟨k, one, rest⟩ := steps
      refine ih k rest ?_
      rw [← fixed, Nat.testBit_lor, Bool.or_eq_true]
      exact .inr ((takes.testBit inside).2 ⟨i, first, one⟩)
  · rintro ⟨more, steps⟩
    exact steps.le (fun _ _ => takes.le) start

theorem literal (cs : List Char) :
    Takes text (fun s => cs.foldl (fun t c => Places.passing text (· == c) t) s) (Spans text (.literal cs)) := by
  refine ⟨fun {s j} start => ?_, fun start spans => Spans.le start spans⟩
  induction cs generalizing s with
  | nil => simp [Spans]
  | cons c rest ih =>
    have passed : Places.Within (text.length + 1) (Places.passing text (· == c) s) := by
      intro k there
      obtain ⟨i, -, ⟨d, found, -⟩, rfl⟩ := (Places.testBit_passing text _ s k).1 there
      exact Nat.succ_lt_succ (List.getElem?_eq_some_iff.1 found).1
    have begins (i : Nat) : c :: rest <+: text.drop i ↔ text[i]? = some c ∧ rest <+: text.drop (i + 1) := by
      rw [← List.head?_drop, ← List.tail_drop]
      cases text.drop i with
      | nil => simp
      | cons d more => simp [List.cons_prefix_cons, eq_comm]
    rw [List.foldl_cons, ih passed]
    simp only [Places.testBit_passing, Spans, begins, List.length_cons]
    constructor
    · rintro ⟨_, ⟨i, there, ⟨d, found, same⟩, rfl⟩, more, rfl⟩
      obtain rfl : d = c := by simpa using same
      exact ⟨i, there, ⟨found, more⟩, by omega⟩
    · rintro ⟨i, there, ⟨found, more⟩, rfl⟩
      exact ⟨i + 1, ⟨i, there, ⟨c, found, by simp⟩, rfl⟩, more, by omega⟩

theorem look (condition : Look) : Takes text (Places.looking text condition) (Spans text (.look condition)) := by
  refine ⟨fun {s j} start => ?_, fun start spans => Spans.le start spans⟩
  by_cases inside : j ≤ text.length
  · rw [Places.testBit_looking condition s j inside]
    constructor
    · rintro ⟨there, holds⟩
      exact ⟨j, there, holds, rfl⟩
    · rintro ⟨_, there, holds, rfl⟩
      exact ⟨there, holds⟩
  · constructor
    · intro there
      have before : s.testBit j := by
        rw [Places.looking, Nat.testBit_land, Bool.and_eq_true] at there
        exact there.1
      exact absurd (Nat.le_of_lt_succ (start j before)) inside
    · rintro ⟨_, there, -, rfl⟩
      exact absurd (Nat.le_of_lt_succ (start _ there)) inside

end Takes

/-- To run a pattern is to find the stretches that it matches. -/
theorem takes_run (p : Pattern) : Takes text (run text p) (Spans text p) := by
  induction p with
  | empty => exact ⟨fun _ => by simp [run, Spans], fun start same => same ▸ start⟩
  | literal cs => exact .literal cs
  | one accepted =>
    exact ⟨fun _ => by simp [run, Spans, Places.testBit_passing], fun start spans => Spans.le start spans⟩
  | look condition => exact .look condition
  | group number body ih => exact ih
  | seq first rest ihFirst ihRest => exact ihFirst.comp ihRest
  | alt first rest ihFirst ihRest =>
    refine ⟨fun start => ?_, fun start spans => Spans.le start spans⟩
    simp only [run, Spans, Nat.testBit_lor, Bool.or_eq_true, ihFirst.testBit start, ihRest.testBit start]
    constructor
    · rintro (⟨i, there, left⟩ | ⟨i, there, right⟩)
      · exact ⟨i, there, .inl left⟩
      · exact ⟨i, there, .inr right⟩
    · rintro ⟨i, there, left | right⟩
      · exact .inl ⟨i, there, left⟩
      · exact .inr ⟨i, there, right⟩
  | times body least most reluctant ih =>
    refine ⟨fun start => ?_, fun start spans => Spans.le start spans⟩
    have reached := ih.iterate least
    simp only [run, Spans, iterate_eq, Repeated.append]
    cases most with
    | none =>
      have all := reached.comp ih.closure
      simp only [Option.mem_def, reduceCtorEq, false_implies, implies_true, true_and]
      rw [all.testBit start]
      constructor
      · rintro ⟨i, there, k, first, more, later⟩
        exact ⟨i, there, more, k, first, later⟩
      · rintro ⟨i, there, more, k, first, later⟩
        exact ⟨i, there, k, first, more, later⟩
    | some limit =>
      have all := reached.comp (ih.upTo (limit - least))
      simp only [Option.mem_def, Option.some.injEq, forall_eq']
      rw [all.testBit start]
      constructor
      · rintro ⟨i, there, k, first, more, few, later⟩
        exact ⟨i, there, more, few, k, first, later⟩
      · rintro ⟨i, there, more, few, k, first, later⟩
        exact ⟨i, there, k, first, more, few, later⟩

theorem testBit_run (p : Pattern) {s : Places} (within : Places.Within (text.length + 1) s) (j : Nat) :
    (p.run text s).testBit j ↔ ∃ i, s.testBit i ∧ Spans text p i j :=
  (takes_run p).testBit within

theorem occursIn_iff (p : Pattern) (text : List Char) :
    p.occursIn text ↔ ∃ i j, i ≤ text.length ∧ Spans text p i j := by
  have within : Places.Within (text.length + 1) (Places.all text) :=
    fun i there => Nat.lt_succ_of_le ((Places.testBit_all text i).1 there)
  rw [occursIn, bne_iff_ne]
  constructor
  · intro found
    obtain ⟨j, there, -⟩ := Nat.exists_most_significant_bit found
    obtain ⟨i, start, spans⟩ := (testBit_run p within j).1 there
    exact ⟨i, j, (Places.testBit_all text i).1 start, spans⟩
  · rintro ⟨i, j, start, spans⟩ none
    have there := (testBit_run p within j).2 ⟨i, (Places.testBit_all text i).2 start, spans⟩
    rw [none, Nat.zero_testBit] at there
    cases there

/-- The patterns match one after the other. -/
def Through (text : List Char) : List Pattern → Nat → Nat → Prop
  | [], i, j => i = j
  | p :: rest, i, j => ∃ k, Spans text p i k ∧ Through text rest k j

theorem through_append (ps qs : List Pattern) (i j : Nat) :
    Through text (ps ++ qs) i j ↔ ∃ k, Through text ps i k ∧ Through text qs k j := by
  induction ps generalizing i with
  | nil => simp [Through]
  | cons p rest ih =>
    simp only [List.cons_append, Through, ih]
    constructor
    · rintro ⟨k, first, l, more, later⟩
      exact ⟨l, ⟨k, first, more⟩, later⟩
    · rintro ⟨l, ⟨k, first, more⟩, later⟩
      exact ⟨k, first, l, more, later⟩

theorem through_singleton (p : Pattern) (i j : Nat) : Through text [p] i j ↔ Spans text p i j := by
  simp [Through]

theorem through_parts (p : Pattern) (i j : Nat) : Through text p.parts i j ↔ Spans text p i j := by
  induction p generalizing i with
  | empty => exact Iff.rfl
  | seq first rest _ ih => simp only [parts, Through, Spans, ih]
  | _ => exact through_singleton _ i j

theorem through_flatMap_parts (ps : List Pattern) (i j : Nat) :
    Through text (ps.flatMap parts) i j ↔ Through text ps i j := by
  induction ps generalizing i with
  | nil => exact Iff.rfl
  | cons p rest ih => simp only [List.flatMap_cons, through_append, through_parts, ih, Through]

theorem spans_literal_append (cs ds : List Char) (i j : Nat) : Spans text (.literal (cs ++ ds)) i j ↔
    ∃ k, Spans text (.literal cs) i k ∧ Spans text (.literal ds) k j := by
  have begins : cs ++ ds <+: text.drop i ↔ cs <+: text.drop i ∧ ds <+: text.drop (i + cs.length) := by
    rw [← List.drop_drop]
    constructor
    · rintro ⟨more, split⟩
      rw [← split]
      exact ⟨⟨ds ++ more, by simp⟩, ⟨more, by simp⟩⟩
    · rintro ⟨⟨more, split⟩, later⟩
      rw [← split, List.drop_left] at later
      obtain ⟨rest, split'⟩ := later
      exact ⟨rest, by rw [← split, ← split', List.append_assoc]⟩
  simp only [Spans, begins, List.length_append]
  constructor
  · rintro ⟨⟨first, later⟩, rfl⟩
    exact ⟨_, ⟨first, rfl⟩, later, by omega⟩
  · rintro ⟨_, ⟨first, rfl⟩, later, rfl⟩
    exact ⟨⟨first, later⟩, by omega⟩

/-- Texts side by side are one text. -/
theorem through_joinTexts (ps : List Pattern) (i j : Nat) :
    Through text (joinTexts ps) i j ↔ Through text ps i j := by
  fun_induction joinTexts ps generalizing i with
  | case1 => exact Iff.rfl
  | case2 cs rest more later joined ih =>
    simp only [joined, Through] at ih
    simp only [Through, spans_literal_append, ← ih]
    constructor
    · rintro ⟨l, ⟨k, first, more⟩, later⟩
      exact ⟨k, first, l, more, later⟩
    · rintro ⟨k, first, l, more, later⟩
      exact ⟨l, ⟨k, first, more⟩, later⟩
  | case3 cs rest _ ih => simp only [Through, ih]
  | case4 p rest _ ih => simp only [Through, ih]

theorem spans_ofParts (ps : List Pattern) (i j : Nat) : Spans text (ofParts ps) i j ↔ Through text ps i j := by
  fun_induction ofParts ps generalizing i with
  | case1 => exact Iff.rfl
  | case2 p => exact (through_singleton p i j).symm
  | case3 p rest _ ih => simp only [Spans, Through, ih]

theorem spans_sequence (ps : List Pattern) (i j : Nat) : Spans text (sequence ps) i j ↔ Through text ps i j := by
  rw [sequence, spans_ofParts, through_joinTexts, through_flatMap_parts]

theorem spans_textStart (i j : Nat) (within : i ≤ text.length) :
    Spans text (.look .textStart) i j ↔ i = 0 ∧ j = 0 := by
  cases i with
  | zero => simp [Spans, charBefore, Look.holds, eq_comm]
  | succ i => simp [Spans, charBefore, Look.holds, Nat.lt_of_succ_le within]

theorem spans_textFinish (i j : Nat) (within : i ≤ text.length) :
    Spans text (.look .textFinish) i j ↔ i = text.length ∧ j = text.length := by
  simp only [Spans, Look.holds, Option.isNone_iff_eq_none, List.getElem?_eq_none_iff]
  omega

/-- Between the start and the end of the text, a pattern matches the whole text or nothing. -/
theorem occursIn_anchored (p : Pattern) (text : List Char) :
    (sequence [.look .textStart, p, .look .textFinish]).occursIn text ↔ Spans text p 0 text.length := by
  rw [occursIn_iff]
  simp only [spans_sequence, Through]
  constructor
  · rintro ⟨i, _, within, k, start, l, middle, _, finish, rfl⟩
    obtain ⟨rfl, rfl⟩ := (spans_textStart i k within).1 start
    obtain ⟨rfl, -⟩ := (spans_textFinish l _ (middle.le within)).1 finish
    exact middle
  · intro middle
    exact ⟨0, text.length, Nat.zero_le _, 0, (spans_textStart 0 0 (Nat.zero_le _)).2 ⟨rfl, rfl⟩, text.length, middle,
      text.length, (spans_textFinish _ _ (Nat.le_refl _)).2 ⟨rfl, rfl⟩, rfl⟩

end Pattern

end DirectoryLogin
