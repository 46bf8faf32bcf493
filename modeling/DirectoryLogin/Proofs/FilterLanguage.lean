import DirectoryLogin.Proofs.FilterText

namespace DirectoryLogin

open Text

namespace FilterRules

/-- The rules of the description: an attribute description, a value in which syntax is escaped by two hexadecimal
digits, and no list without a filter. -/
def documented : FilterRules where
  IsName name := name ≠ [] ∧ ∀ c ∈ name, c.isAlphanum ∨ c ∈ ['-', '.', ';']
  IsPlain c := isFilterSyntax c = false ∧ c ≠ '\\'
  IsEscape first second := (hexDigit? first).isSome ∧ (hexDigit? second).isSome
  IsList filters := filters ≠ []

/-- What one set of rules allows, another does. -/
structure Within (rules wider : FilterRules) : Prop where
  name : ∀ {name}, rules.IsName name → wider.IsName name
  plain : ∀ {c}, rules.IsPlain c → wider.IsPlain c
  escape : ∀ {first second}, rules.IsEscape first second → wider.IsEscape first second
  list : ∀ {filters}, rules.IsList filters → wider.IsList filters

theorem Within.part {rules wider : FilterRules} (within : rules.Within wider) {part : ValuePart}
    (kept : rules.IsPart part) : wider.IsPart part := by
  cases part with
  | plain c => exact within.plain kept
  | escape first second => exact within.escape kept

theorem documented_within_taken : documented.Within taken where
  name := by
    rintro name ⟨_, letters⟩
    have plain : ∀ c ∈ name, c ≠ ')' ∧ c ≠ '=' ∧ c ≠ '&' ∧ c ≠ '|' ∧ c ≠ '!' := by
      intro c member
      have letter := letters c member
      refine ⟨?_, ?_, ?_, ?_, ?_⟩ <;> rintro rfl <;> revert letter <;> decide
    exact ⟨fun c member => ⟨(plain c member).1, (plain c member).2.1⟩,
      fun c member => (plain c (List.mem_of_mem_head? member)).2.2⟩
  plain := by
    rintro c ⟨ordinary, noEscape⟩
    refine ⟨?_, noEscape⟩
    rintro rfl
    exact absurd ordinary (by decide)
  escape digits := ⟨.inl digits.1, digits.2⟩
  list _ := trivial

end FilterRules

namespace FilterText

mutual

theorem Follows.mono {rules wider : FilterRules} (within : rules.Within wider) (filter : FilterText)
    (kept : filter.Follows rules) : filter.Follows wider := by
  cases filter with
  | and filters =>
    rw [Follows] at kept ⊢
    exact ⟨within.list kept.1, AllFollow.mono within filters kept.2⟩
  | or filters =>
    rw [Follows] at kept ⊢
    exact ⟨within.list kept.1, AllFollow.mono within filters kept.2⟩
  | not filter =>
    rw [Follows] at kept ⊢
    exact Follows.mono within filter kept
  | present name =>
    rw [Follows] at kept ⊢
    exact within.name kept
  | equal name value =>
    rw [Follows] at kept ⊢
    exact ⟨within.name kept.1, fun part member => within.part (kept.2.1 part member), kept.2.2⟩

theorem AllFollow.mono {rules wider : FilterRules} (within : rules.Within wider) (filters : List FilterText)
    (kept : AllFollow rules filters) : AllFollow wider filters := by
  cases filters with
  | nil => rw [AllFollow]; trivial
  | cons filter filters =>
    rw [AllFollow] at kept ⊢
    exact ⟨Follows.mono within filter kept.1, AllFollow.mono within filters kept.2⟩

end

/-- Two tests with the same text have the same name and value. -/
theorem test_inj {name other value reading rest after : List Char} (isName : IsTestName name)
    (otherName : IsTestName other) (closed : ∀ c ∈ value, c ≠ ')') (otherClosed : ∀ c ∈ reading, c ≠ ')')
    (same : name ++ '=' :: (value ++ ')' :: rest) = other ++ '=' :: (reading ++ ')' :: after)) :
    name = other ∧ value = reading ∧ rest = after := by
  have cut := isName.cutAt_close closed rest
  rw [same, otherName.cutAt_close otherClosed, Option.some.injEq, Prod.mk.injEq] at cut
  have cutName := isName.cutAt_equality value
  rw [← cut.1, otherName.cutAt_equality, Option.some.injEq, Prod.mk.injEq] at cutName
  exact ⟨cutName.1.symm, cutName.2.symm, cut.2.symm⟩

theorem part_inj {part other : ValuePart} (kept : FilterRules.taken.IsPart part)
    (otherKept : FilterRules.taken.IsPart other) {rest after : List Char}
    (same : part.written ++ rest = other.written ++ after) : part = other ∧ rest = after := by
  cases part with
  | plain c =>
    cases other with
    | plain d =>
      cases same
      exact ⟨rfl, rfl⟩
    | escape first second => exact absurd (List.cons_eq_cons.1 same).1 kept.2
  | escape first second =>
    cases other with
    | plain d => exact absurd (List.cons_eq_cons.1 same).1.symm otherKept.2
    | escape third fourth =>
      cases same
      exact ⟨rfl, rfl⟩

theorem parts_inj {value reading : List ValuePart} (legal : ∀ part ∈ value, FilterRules.taken.IsPart part)
    (otherLegal : ∀ part ∈ reading, FilterRules.taken.IsPart part)
    (same : value.flatMap ValuePart.written = reading.flatMap ValuePart.written) : value = reading := by
  have filled (part : ValuePart) (parts : List ValuePart) : (part :: parts).flatMap ValuePart.written ≠ [] := by
    cases part <;> simp [ValuePart.written]
  induction value generalizing reading with
  | nil =>
    cases reading with
    | nil => rfl
    | cons part reading => exact absurd same.symm (filled part reading)
  | cons part value ih =>
    cases reading with
    | nil => exact absurd same (filled part value)
    | cons other reading =>
      obtain ⟨kept, later⟩ := List.forall_mem_cons.1 legal
      obtain ⟨otherKept, otherLater⟩ := List.forall_mem_cons.1 otherLegal
      obtain ⟨rfl, rest⟩ := part_inj kept otherKept same
      rw [ih later otherLater rest]

/-- The operator that a filter starts with. -/
def operator? : FilterText → Option Char
  | and _ => some '&'
  | or _ => some '|'
  | not _ => some '!'
  | present _ => none
  | equal _ _ => none

theorem operator?_eq (filter : FilterText) (legal : filter.Follows .taken) (rest : List Char) :
    filter.operator? = (filter.written ++ rest)[1]?.filter (['&', '|', '!'].contains ·) := by
  have test {name value : List Char} (isName : IsTestName name) :
      (name ++ '=' :: value).head?.filter (['&', '|', '!'].contains ·) = none := by
    rw [Option.filter_eq_none_iff]
    intro c member
    simpa using isName.head?_append value c member
  cases filter with
  | and filters => rfl
  | or filters => rfl
  | not filter => rfl
  | present name =>
    rw [Follows] at legal
    simpa [operator?, written, List.head?_eq_getElem?] using (test legal).symm
  | equal name value =>
    rw [Follows] at legal
    simpa [operator?, written, List.head?_eq_getElem?] using (test legal.1).symm

mutual

/-- A text that is read was written in one way. -/
theorem written_inj (filter other : FilterText) (legal : filter.Follows .taken) (otherLegal : other.Follows .taken)
    {rest after : List Char} (same : filter.written ++ rest = other.written ++ after) :
    filter = other ∧ rest = after := by
  -- The character after the parenthesis tells the lists and the negations apart from each other and from the tests.
  have operator : filter.operator? = other.operator? := by
    rw [operator?_eq filter legal rest, same, ← operator?_eq other otherLegal after]
  cases filter with
  | and filters =>
    cases other with
    | and others =>
      simp only [Follows] at legal otherLegal
      simp only [written_and, List.cons.injEq, true_and] at same
      obtain ⟨rfl, rfl⟩ := writtenAll_inj filters others legal.2 otherLegal.2 same
      exact ⟨rfl, rfl⟩
    | _ => cases operator
  | or filters =>
    cases other with
    | or others =>
      simp only [Follows] at legal otherLegal
      simp only [written_or, List.cons.injEq, true_and] at same
      obtain ⟨rfl, rfl⟩ := writtenAll_inj filters others legal.2 otherLegal.2 same
      exact ⟨rfl, rfl⟩
    | _ => cases operator
  | not filter =>
    cases other with
    | not other =>
      simp only [Follows] at legal otherLegal
      simp only [written_not, List.cons.injEq, true_and] at same
      obtain ⟨rfl, rest⟩ := written_inj filter other legal otherLegal same
      cases rest
      exact ⟨rfl, rfl⟩
    | _ => cases operator
  | present name =>
    have closed : ∀ c ∈ ['*'], c ≠ ')' := by simp
    cases other with
    | present other =>
      simp only [Follows] at legal otherLegal
      simp only [written_present, List.cons.injEq, true_and] at same
      obtain ⟨rfl, -, rfl⟩ := test_inj legal otherLegal closed closed same
      exact ⟨rfl, rfl⟩
    | equal other value =>
      simp only [Follows] at legal otherLegal
      simp only [written_present, written_equal, List.cons.injEq, true_and] at same
      obtain ⟨-, star, -⟩ := test_inj legal otherLegal.1 closed (FilterRules.ne_close_of_mem otherLegal.2.1) same
      exact absurd star.symm otherLegal.2.2
    | _ => cases operator
  | equal name value =>
    cases other with
    | present other =>
      have closed : ∀ c ∈ ['*'], c ≠ ')' := by simp
      simp only [Follows] at legal otherLegal
      simp only [written_present, written_equal, List.cons.injEq, true_and] at same
      obtain ⟨-, star, -⟩ := test_inj legal.1 otherLegal (FilterRules.ne_close_of_mem legal.2.1) closed same
      exact absurd star legal.2.2
    | equal other reading =>
      simp only [Follows] at legal otherLegal
      simp only [written_equal, List.cons.injEq, true_and] at same
      obtain ⟨rfl, text, rfl⟩ := test_inj legal.1 otherLegal.1 (FilterRules.ne_close_of_mem legal.2.1)
        (FilterRules.ne_close_of_mem otherLegal.2.1) same
      rw [parts_inj legal.2.1 otherLegal.2.1 text]
      exact ⟨rfl, rfl⟩
    | _ => cases operator

theorem writtenAll_inj (filters others : List FilterText) (legal : AllFollow .taken filters)
    (otherLegal : AllFollow .taken others) {rest after : List Char}
    (same : writtenAll filters ++ ')' :: rest = writtenAll others ++ ')' :: after) :
    filters = others ∧ rest = after := by
  have opens (filter : FilterText) (filters : List FilterText) (rest after : List Char) :
      writtenAll (filter :: filters) ++ ')' :: rest ≠ ')' :: after := by
    obtain ⟨inner, shape⟩ := written_eq_cons filter
    simp [writtenAll, shape]
  cases filters with
  | nil =>
    cases others with
    | nil =>
      cases same
      exact ⟨rfl, rfl⟩
    | cons other others => exact absurd same.symm (opens other others after rest)
  | cons filter filters =>
    cases others with
    | nil => exact absurd same (opens filter filters rest after)
    | cons other others =>
      rw [AllFollow] at legal otherLegal
      rw [writtenAll, writtenAll, List.append_assoc, List.append_assoc] at same
      obtain ⟨rfl, later⟩ := written_inj filter other legal.1 otherLegal.1 same
      obtain ⟨rfl, rfl⟩ := writtenAll_inj filters others legal.2 otherLegal.2 later
      exact ⟨rfl, rfl⟩

end

/-- A text that is read is a filter of the description only if it was written by these rules. -/
theorem documented_iff {filter : FilterText} (legal : filter.Follows .taken) {cs : List Char}
    (written : filter.written = cs) :
    (∃ other : FilterText, other.Follows .documented ∧ other.written = cs) ↔ filter.Follows .documented := by
  constructor
  · rintro ⟨other, described, otherWritten⟩
    have otherLegal := Follows.mono FilterRules.documented_within_taken other described
    have same : filter.written ++ [] = other.written ++ [] := by rw [written, otherWritten]
    obtain ⟨rfl, -⟩ := written_inj filter other legal otherLegal same
    exact described
  · intro described
    exact ⟨filter, described, written⟩

/-- A test with another operator, such as `>=`, is read as equality, with the sign at the end of the name. -/
theorem read_otherOperator {name : List Char} (letters : FilterRules.documented.IsName name) {sign : Char}
    (other : sign ∈ ['<', '>', '~', ':']) {value : List ValuePart}
    (legal : ∀ part ∈ value, FilterRules.taken.IsPart part) (notPresence : value.flatMap ValuePart.written ≠ ['*'])
    {text : String} (written : trim text.toList =
      '(' :: (name ++ sign :: '=' :: (value.flatMap ValuePart.written ++ [')']))) :
    Filter.read text = (equal (name ++ [sign]) value).tree? ∧
      ¬∃ filter : FilterText, filter.Follows .documented ∧ filter.written = trim text.toList := by
  have strange : (sign ≠ ')' ∧ sign ≠ '=') ∧ ¬(sign.isAlphanum ∨ sign ∈ ['-', '.', ';']) := by
    simp only [List.mem_cons, List.not_mem_nil, or_false] at other
    rcases other with rfl | rfl | rfl | rfl <;> decide
  have isName : IsTestName (name ++ [sign]) := by
    have plain := FilterRules.documented_within_taken.name letters
    obtain ⟨first, more, rfl⟩ := List.exists_cons_of_ne_nil letters.1
    exact ⟨List.forall_mem_append.2 ⟨plain.ordinary, List.forall_mem_singleton.2 strange.1⟩,
      plain.noOperator⟩
  have taken : (equal (name ++ [sign]) value).Follows .taken := by
    rw [Follows]
    exact ⟨isName, legal, notPresence⟩
  have shape : (equal (name ++ [sign]) value).written = trim text.toList := by
    rw [written, FilterText.written, List.append_assoc, List.singleton_append]
  refine ⟨read_of_written taken shape, ?_⟩
  rw [documented_iff taken shape, Follows]
  rintro ⟨⟨-, described⟩, -⟩
  exact strange.2 (described sign (List.mem_append_right _ (List.mem_singleton_self sign)))

end FilterText

/-- Exactly the texts that the rules `taken` allow are read, each in one way and as the filter that it is written for;
among them is every filter of the description. A text that is read is no filter of the description if and only if its
one form breaks a rule of it. -/
theorem Filter.read_language (text : String) :
    (∀ tree, Filter.read text = some tree ↔
      ∃ filter : FilterText, filter.Follows .taken ∧ filter.written = trim text.toList ∧ filter.tree? = some tree) ∧
    (∀ filter : FilterText, filter.Follows .documented → filter.written = trim text.toList →
      Filter.read text = filter.tree?) ∧
    (∀ filter : FilterText, filter.Follows .taken → filter.written = trim text.toList →
      ((∃ other : FilterText, other.Follows .documented ∧ other.written = trim text.toList) ↔
        filter.Follows .documented)) := by
  refine ⟨fun tree => ⟨FilterText.exists_of_read, ?_⟩, fun filter described written => ?_,
    fun filter legal written => FilterText.documented_iff legal written⟩
  · rintro ⟨filter, legal, written, same⟩
    rw [FilterText.read_of_written legal written, same]
  · exact FilterText.read_of_written (.mono FilterRules.documented_within_taken filter described) written

/-- A comparison is read although the description leaves it out. -/
theorem Filter.read_comparison : Filter.read "(uid>=5)" = some (.equal "uid>" "5") ∧
    ¬∃ filter : FilterText, filter.Follows .documented ∧ filter.written = trim "(uid>=5)".toList := by
  have five : ∀ part ∈ [ValuePart.plain '5'], FilterRules.taken.IsPart part := by
    intro part member
    cases List.mem_singleton.1 member
    exact ⟨by decide, by decide⟩
  have letters : FilterRules.documented.IsName ['u', 'i', 'd'] := by
    refine ⟨by decide, fun c member => ?_⟩
    simp only [List.mem_cons, List.not_mem_nil, or_false] at member
    rcases member with rfl | rfl | rfl <;> decide
  have shape : trim "(uid>=5)".toList =
      '(' :: (['u', 'i', 'd'] ++ '>' :: '=' :: ([ValuePart.plain '5'].flatMap ValuePart.written ++ [')'])) := by decide
  obtain ⟨read, undescribed⟩ := FilterText.read_otherOperator letters (by decide) five (by decide) shape
  have bytes : ofUtf8? ([ValuePart.plain '5'].flatMap ValuePart.bytes) = some ['5'] := ofUtf8?_utf8 ['5']
  rw [FilterText.tree?, bytes] at read
  exact ⟨read, undescribed⟩

end DirectoryLogin
