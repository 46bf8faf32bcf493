import DirectoryLogin.Proofs.EscapedValue
import DirectoryLogin.Proofs.Text.Cutting

namespace DirectoryLogin

open Text

/-- A part of a value as a filter shows it. -/
inductive ValuePart
  | plain (c : Char)
  /-- The byte that two characters after a backslash write. -/
  | escape (first second : Char)

namespace ValuePart

def written : ValuePart → List Char
  | plain c => [c]
  | escape first second => ['\\', first, second]

/-- The byte with these digits. A sign in the place of the first one counts nothing. -/
def byteOf (first second : Char) : UInt8 :=
  (16 * (hexDigit? first).getD 0 + (hexDigit? second).getD 0).toUInt8

/-- The bytes that a part stands for. -/
def bytes : ValuePart → List UInt8
  | plain c => String.utf8EncodeChar c
  | escape first second => [byteOf first second]

end ValuePart

/-- A filter as it is written. -/
inductive FilterText
  | and (filters : List FilterText)
  | or (filters : List FilterText)
  | not (filter : FilterText)
  | present (name : List Char)
  | equal (name : List Char) (value : List ValuePart)

namespace FilterText

mutual

def written : FilterText → List Char
  | and filters => '(' :: '&' :: (writtenAll filters ++ [')'])
  | or filters => '(' :: '|' :: (writtenAll filters ++ [')'])
  | not filter => '(' :: '!' :: (written filter ++ [')'])
  | present name => '(' :: (name ++ ['=', '*', ')'])
  | equal name value => '(' :: (name ++ '=' :: (value.flatMap ValuePart.written ++ [')']))

def writtenAll : List FilterText → List Char
  | [] => []
  | filter :: filters => written filter ++ writtenAll filters

end

mutual

/-- The filter that is written, if its values are texts. -/
def tree? : FilterText → Option Filter
  | and filters => (trees? filters).map .and
  | or filters => (trees? filters).map .or
  | not filter => (tree? filter).map .not
  | present name => some (.present (String.ofList name))
  | equal name value =>
    (ofUtf8? (value.flatMap ValuePart.bytes)).map fun text => .equal (String.ofList name) (String.ofList text)

def trees? : List FilterText → Option (List Filter)
  | [] => some []
  | filter :: filters => do return (← tree? filter) :: (← trees? filters)

end

end FilterText

/-- A text that can be read as the name of a test: it ends neither the name nor the test, and does not start like a
list or a negation. -/
structure IsTestName (name : List Char) : Prop where
  ordinary : ∀ c ∈ name, c ≠ ')' ∧ c ≠ '='
  noOperator : ∀ c ∈ name.head?, c ≠ '&' ∧ c ≠ '|' ∧ c ≠ '!'

/-- Which names, values and lists a filter may be written with. -/
structure FilterRules where
  IsName : List Char → Prop
  IsPlain : Char → Prop
  IsEscape : Char → Char → Prop
  IsList : List FilterText → Prop

namespace FilterRules

/-- The rules that the reader keeps to. -/
def taken : FilterRules where
  IsName := IsTestName
  IsPlain c := c ≠ ')' ∧ c ≠ '\\'
  IsEscape first second := ((hexDigit? first).isSome ∨ first = '+') ∧ (hexDigit? second).isSome
  IsList _ := True

variable (rules : FilterRules)

def IsPart : ValuePart → Prop
  | .plain c => rules.IsPlain c
  | .escape first second => rules.IsEscape first second

end FilterRules

namespace FilterText

mutual

/-- A filter is written by the rules. A lone asterisk is no value, since it asks for presence. -/
def Follows (rules : FilterRules) : FilterText → Prop
  | and filters => rules.IsList filters ∧ AllFollow rules filters
  | or filters => rules.IsList filters ∧ AllFollow rules filters
  | not filter => Follows rules filter
  | present name => rules.IsName name
  | equal name value =>
    rules.IsName name ∧ (∀ part ∈ value, rules.IsPart part) ∧ value.flatMap ValuePart.written ≠ ['*']

def AllFollow (rules : FilterRules) : List FilterText → Prop
  | [] => True
  | filter :: filters => Follows rules filter ∧ AllFollow rules filters

end

end FilterText

namespace FilterRules

/-- No part of a value that is read closes the test. -/
theorem ne_close_of_mem {value : List ValuePart} (legal : ∀ part ∈ value, taken.IsPart part) :
    ∀ c ∈ value.flatMap ValuePart.written, c ≠ ')' := by
  intro c member
  obtain ⟨part, inValue, inside⟩ := List.mem_flatMap.1 member
  have kept := legal part inValue
  cases part with
  | plain d =>
    cases List.mem_singleton.1 inside
    exact kept.1
  | escape first second =>
    obtain ⟨digit, last⟩ := kept
    rcases List.mem_cons.1 inside with rfl | inside
    · decide
    rcases List.mem_cons.1 inside with rfl | inside
    · rintro rfl
      exact absurd digit (by decide)
    · cases List.mem_singleton.1 inside
      rintro rfl
      exact absurd last (by decide)

end FilterRules

namespace Filter

open FilterRules

theorem hexPair_eq_some_iff {first second : Char} {byte : UInt8} :
    hexPair first second = some byte ↔ taken.IsEscape first second ∧ ValuePart.byteOf first second = byte := by
  change _ ↔ (((hexDigit? first).isSome ∨ first = '+') ∧ (hexDigit? second).isSome) ∧ _
  rw [hexPair, ValuePart.byteOf]
  cases hexDigit? second with
  | none => simp
  | some low =>
    cases hexDigit? first with
    | none => by_cases sign : first = '+' <;> simp [sign]
    | some high => simp

theorem unescapeBytes_written {value : List ValuePart} (legal : ∀ part ∈ value, taken.IsPart part) :
    unescapeBytes (value.flatMap ValuePart.written) = some (value.flatMap ValuePart.bytes) := by
  induction value with
  | nil => rfl
  | cons part value ih =>
    obtain ⟨kept, later⟩ := List.forall_mem_cons.1 legal
    rw [List.flatMap_cons, List.flatMap_cons]
    cases part with
    | plain c =>
      rw [ValuePart.written, List.singleton_append, unescapeBytes_cons _ kept.2, ih later]
      rfl
    | escape first second =>
      have pair := hexPair_eq_some_iff.2 ⟨kept, rfl⟩
      rw [ValuePart.written, List.cons_append, List.cons_append, List.singleton_append, unescapeBytes_pair _ pair,
        ih later]
      rfl

/-- What has bytes as a value is made of parts that may be read. -/
theorem exists_parts {cs : List Char} {bytes : List UInt8} (closed : ∀ c ∈ cs, c ≠ ')')
    (read : unescapeBytes cs = some bytes) :
    ∃ value : List ValuePart, (∀ part ∈ value, taken.IsPart part) ∧ value.flatMap ValuePart.written = cs := by
  fun_induction unescapeBytes cs generalizing bytes with
  | case1 => exact ⟨[], by simp, rfl⟩
  | case2 first second rest ih =>
    obtain ⟨byte, pair, later⟩ := Option.bind_eq_some_iff.1 read
    obtain ⟨others, readRest, _⟩ := Option.bind_eq_some_iff.1 later
    obtain ⟨value, legal, written⟩ := ih (fun c member => closed c (by simp [member])) readRest
    refine ⟨.escape first second :: value, List.forall_mem_cons.2 ⟨(hexPair_eq_some_iff.1 pair).1, legal⟩, ?_⟩
    rw [List.flatMap_cons, written]
    rfl
  | case3 rest => cases read
  | case4 c rest _ ordinary ih =>
    obtain ⟨others, readRest, _⟩ := Option.bind_eq_some_iff.1 read
    obtain ⟨first, later⟩ := List.forall_mem_cons.1 closed
    obtain ⟨value, legal, written⟩ := ih later readRest
    refine ⟨.plain c :: value, List.forall_mem_cons.2 ⟨⟨first, ordinary⟩, legal⟩, ?_⟩
    rw [List.flatMap_cons, written]
    rfl

theorem unescape_written {value : List ValuePart} (legal : ∀ part ∈ value, taken.IsPart part) :
    unescape (value.flatMap ValuePart.written) =
      (ofUtf8? (value.flatMap ValuePart.bytes)).map String.ofList := by
  rw [unescape, unescapeBytes_written legal, Option.bind_some]

theorem exists_parts_of_unescape {cs : List Char} {text : String} (closed : ∀ c ∈ cs, c ≠ ')')
    (read : unescape cs = some text) :
    ∃ value : List ValuePart, (∀ part ∈ value, taken.IsPart part) ∧ value.flatMap ValuePart.written = cs ∧
      ∃ letters, ofUtf8? (value.flatMap ValuePart.bytes) = some letters ∧ String.ofList letters = text := by
  obtain ⟨letters, ofBytes, same⟩ := Option.map_eq_some_iff.1 read
  obtain ⟨bytes, readBytes, readLetters⟩ := Option.bind_eq_some_iff.1 ofBytes
  obtain ⟨value, legal, rfl⟩ := exists_parts closed readBytes
  rw [unescapeBytes_written legal, Option.some.injEq] at readBytes
  exact ⟨value, legal, rfl, letters, readBytes ▸ readLetters, same⟩

/-- What does not start like a list or a negation is read as a test. -/
theorem readOne_noOperator (fuel : Nat) {inner : List Char}
    (noOperator : ∀ c ∈ inner.head?, c ≠ '&' ∧ c ≠ '|' ∧ c ≠ '!') :
    readOne (fuel + 1) ('(' :: inner) = (cutAt (· == ')') inner).bind fun cut =>
      (readTest cut.1).map fun test => (test, cut.2) := by
  rw [readOne]
  · cases cutAt (· == ')') inner with
    | none => rfl
    | some cut =>
      simp only [Option.bind_eq_bind, Option.bind_some]
      cases readTest cut.1 <;> rfl
  · rintro rest rfl
    exact (noOperator '&' rfl).1 rfl
  · rintro rest rfl
    exact (noOperator '|' rfl).2.1 rfl
  · rintro rest rfl
    exact (noOperator '!' rfl).2.2 rfl

end Filter

namespace IsTestName

variable {name : List Char} (isName : IsTestName name)

include isName

theorem head?_append (after : List Char) : ∀ c ∈ (name ++ '=' :: after).head?, c ≠ '&' ∧ c ≠ '|' ∧ c ≠ '!' := by
  have own := isName.noOperator
  intro c member
  cases name with
  | nil =>
    cases member
    decide
  | cons first letters => exact own c member

theorem cutAt_equality (value : List Char) : cutAt (· == '=') (name ++ '=' :: value) = some (name, value) :=
  cutAt_append value (fun c member => beq_eq_false_iff_ne.2 (isName.ordinary c member).2) (beq_self_eq_true '=')

theorem cutAt_close {value : List Char} (closed : ∀ c ∈ value, c ≠ ')') (rest : List Char) :
    cutAt (· == ')') (name ++ '=' :: (value ++ ')' :: rest)) = some (name ++ '=' :: value, rest) := by
  have skips : ∀ c ∈ name ++ '=' :: value, (c == ')') = false := by
    intro c member
    rw [beq_eq_false_iff_ne]
    rcases List.mem_append.1 member with inName | inValue
    · exact (isName.ordinary c inName).1
    · rcases List.mem_cons.1 inValue with rfl | inValue
      · decide
      · exact closed c inValue
  have cut := cutAt_append rest skips (beq_self_eq_true ')')
  rwa [List.append_assoc] at cut

/-- A test has the text between its first equality sign and its end for a value, and a lone asterisk asks for
presence. -/
theorem readTest (value : List Char) : Filter.readTest (name ++ '=' :: value) =
    if value = ['*'] then some (.present (String.ofList name))
    else (Filter.unescape value).map (.equal (String.ofList name)) := by
  rw [Filter.readTest, isName.cutAt_equality]
  simp only [Option.bind_eq_bind, Option.bind_some]
  split
  · rfl
  · cases Filter.unescape value <;> rfl

/-- A test is read up to the parenthesis after it. -/
theorem readOne (fuel : Nat) {value : List Char} (closed : ∀ c ∈ value, c ≠ ')') (rest : List Char) :
    Filter.readOne (fuel + 1) ('(' :: (name ++ '=' :: (value ++ ')' :: rest))) =
      (Filter.readTest (name ++ '=' :: value)).map fun test => (test, rest) := by
  rw [Filter.readOne_noOperator fuel (isName.head?_append _), isName.cutAt_close closed, Option.bind_some]

end IsTestName

namespace FilterText

theorem written_and (filters : List FilterText) (rest : List Char) :
    (and filters).written ++ rest = '(' :: '&' :: (writtenAll filters ++ ')' :: rest) := by
  simp [written]

theorem written_or (filters : List FilterText) (rest : List Char) :
    (or filters).written ++ rest = '(' :: '|' :: (writtenAll filters ++ ')' :: rest) := by
  simp [written]

theorem written_not (filter : FilterText) (rest : List Char) :
    (not filter).written ++ rest = '(' :: '!' :: (filter.written ++ ')' :: rest) := by
  simp [written]

theorem written_present (name rest : List Char) :
    (present name).written ++ rest = '(' :: (name ++ '=' :: (['*'] ++ ')' :: rest)) := by
  simp [written]

theorem written_equal (name : List Char) (value : List ValuePart) (rest : List Char) :
    (equal name value).written ++ rest =
      '(' :: (name ++ '=' :: (value.flatMap ValuePart.written ++ ')' :: rest)) := by
  simp [written]

theorem written_eq_cons (filter : FilterText) : ∃ inner, filter.written = '(' :: inner ++ [')'] := by
  cases filter with
  | and filters => exact ⟨'&' :: writtenAll filters, rfl⟩
  | or filters => exact ⟨'|' :: writtenAll filters, rfl⟩
  | not filter => exact ⟨'!' :: filter.written, rfl⟩
  | present name => exact ⟨name ++ ['=', '*'], by simp [written]⟩
  | equal name value => exact ⟨name ++ '=' :: value.flatMap ValuePart.written, by simp [written]⟩

/-- There is no white space around a written filter. -/
theorem trim_written (filter : FilterText) : trim filter.written = filter.written := by
  obtain ⟨inner, shape⟩ := written_eq_cons filter
  have opening : trimStart ('(' :: (inner ++ [')'])) = '(' :: (inner ++ [')']) :=
    List.dropWhile_cons_of_neg (by decide)
  have closing := trimEnd_append_cons ('(' :: inner) (by decide : isBlank ')' = false) []
  rw [shape, List.cons_append, trim, opening]
  exact closing

mutual

/-- A filter that may be read is read up to its end, whatever follows. -/
theorem readOne_written (filter : FilterText) (legal : filter.Follows .taken) (fuel : Nat) (rest : List Char)
    (enough : filter.written.length ≤ fuel) :
    Filter.readOne fuel (filter.written ++ rest) = filter.tree?.map fun tree => (tree, rest) := by
  obtain ⟨inner, shape⟩ := written_eq_cons filter
  have positive : 0 < fuel := by
    rw [shape] at enough
    simp at enough
    omega
  obtain ⟨fuel, rfl⟩ : ∃ less, fuel = less + 1 := ⟨fuel - 1, by omega⟩
  cases filter with
  | and filters =>
    rw [Follows] at legal
    simp only [written, List.length_cons, List.length_append] at enough
    have list := readMany_writtenAll filters legal.2 fuel rest (by omega)
    rw [written_and, Filter.readOne, list, tree?]
    cases trees? filters <;> rfl
  | or filters =>
    rw [Follows] at legal
    simp only [written, List.length_cons, List.length_append] at enough
    have list := readMany_writtenAll filters legal.2 fuel rest (by omega)
    rw [written_or, Filter.readOne, list, tree?]
    cases trees? filters <;> rfl
  | not filter =>
    rw [Follows] at legal
    simp only [written, List.length_cons, List.length_append] at enough
    have one := readOne_written filter legal fuel (')' :: rest) (by omega)
    rw [written_not, Filter.readOne, one, tree?]
    cases tree? filter <;> rfl
  | present name =>
    rw [Follows] at legal
    rw [written_present, legal.readOne fuel (by simp), legal.readTest, if_pos rfl, tree?]
  | equal name value =>
    rw [Follows] at legal
    obtain ⟨isName, parts, notPresence⟩ := legal
    rw [written_equal, isName.readOne fuel (FilterRules.ne_close_of_mem parts), isName.readTest, if_neg notPresence,
      Filter.unescape_written parts, tree?, Option.map_map, Option.map_map, Option.map_map]
    rfl

theorem readMany_writtenAll (filters : List FilterText) (legal : AllFollow .taken filters) (fuel : Nat)
    (rest : List Char) (enough : (writtenAll filters).length < fuel) :
    Filter.readMany fuel (writtenAll filters ++ ')' :: rest) = (trees? filters).map fun trees => (trees, rest) := by
  obtain ⟨fuel, rfl⟩ : ∃ less, fuel = less + 1 := ⟨fuel - 1, by omega⟩
  cases filters with
  | nil => simp [writtenAll, Filter.readMany, trees?]
  | cons filter filters =>
    rw [AllFollow] at legal
    simp only [writtenAll, List.length_append] at enough
    obtain ⟨inner, shape⟩ := written_eq_cons filter
    -- Each filter takes a character of the text at least, so the bound is enough for those after it.
    have filled : 0 < filter.written.length := by simp [shape]
    have one := readOne_written filter legal.1 fuel (writtenAll filters ++ ')' :: rest) (by omega)
    have others := readMany_writtenAll filters legal.2 fuel rest (by omega)
    rw [writtenAll, List.append_assoc, Filter.readMany]
    · rw [one, trees?]
      cases filter.tree? with
      | none => rfl
      | some tree => cases trees : trees? filters <;> simp [others, trees]
    · rintro cs same
      simp [shape] at same

end

/-- A test that is read is written by the rules. -/
theorem exists_test {name value : List Char} {filter : Filter} (isName : IsTestName name)
    (closed : ∀ c ∈ value, c ≠ ')') (read : Filter.readTest (name ++ '=' :: value) = some filter) :
    ∃ text : FilterText, text.Follows .taken ∧ text.written = '(' :: (name ++ '=' :: (value ++ [')'])) ∧
      text.tree? = some filter := by
  rw [isName.readTest] at read
  split at read
  · rename_i star
    cases read
    subst star
    exact ⟨.present name, by rwa [Follows], rfl, rfl⟩
  · rename_i notPresence
    obtain ⟨text, unescaped, same⟩ := Option.map_eq_some_iff.1 read
    cases same
    obtain ⟨parts, legal, rfl, letters, readLetters, rfl⟩ := Filter.exists_parts_of_unescape closed unescaped
    exact ⟨.equal name parts, by rw [Follows]; exact ⟨isName, legal, notPresence⟩, rfl,
      by rw [tree?, readLetters, Option.map_some]⟩

/-- What is taken apart as a test has a name before its value. -/
theorem exists_parts_of_readTest {inner inside after : List Char} {filter : Filter}
    (noOperator : ∀ c ∈ inner.head?, c ≠ '&' ∧ c ≠ '|' ∧ c ≠ '!')
    (cut : cutAt (· == ')') inner = some (inside, after)) (read : Filter.readTest inside = some filter) :
    ∃ name value, IsTestName name ∧ (∀ c ∈ value, c ≠ ')') ∧ inside = name ++ '=' :: value ∧
      inner = name ++ '=' :: (value ++ ')' :: after) := by
  obtain ⟨⟨name, value⟩, cutName, _⟩ := Option.bind_eq_some_iff.1 read
  obtain ⟨close, split, isClose, noClose⟩ := exists_split_of_cutAt cut
  obtain ⟨sign, splitName, isSign, plain⟩ := exists_split_of_cutAt cutName
  cases eq_of_beq isClose
  cases eq_of_beq isSign
  subst splitName
  rw [List.append_assoc, List.cons_append] at split
  subst split
  have closed : ∀ c ∈ name ++ '=' :: value, c ≠ ')' := fun c member => beq_eq_false_iff_ne.1 (noClose c member)
  refine ⟨name, value, ⟨fun c member => ⟨closed c (List.mem_append_left _ member), ?_⟩, fun c member => ?_⟩,
    fun c member => closed c (List.mem_append_right _ (List.mem_cons_of_mem _ member)), rfl, rfl⟩
  · exact beq_eq_false_iff_ne.1 (plain c member)
  · refine noOperator c ?_
    rw [List.head?_append, Option.mem_def.1 member]
    rfl

-- By induction on the bound: it is less wherever a filter is read within another.
mutual

/-- What is read is written by the rules, and the reading is its filter. -/
theorem exists_of_readOne (fuel : Nat) {cs rest : List Char} {filter : Filter}
    (read : Filter.readOne fuel cs = some (filter, rest)) :
    ∃ text : FilterText, text.Follows .taken ∧ text.written ++ rest = cs ∧ text.tree? = some filter := by
  rw [Filter.readOne.eq_def] at read
  split at read
  case h_1 list =>
    obtain ⟨⟨filters, after⟩, many, same⟩ := Option.bind_eq_some_iff.1 read
    cases same
    obtain ⟨texts, legal, written, trees⟩ := exists_of_readMany _ many
    exact ⟨.and texts, by rw [Follows]; exact ⟨trivial, legal⟩, by rw [written_and, written],
      by rw [tree?, trees, Option.map_some]⟩
  case h_2 list =>
    obtain ⟨⟨filters, after⟩, many, same⟩ := Option.bind_eq_some_iff.1 read
    cases same
    obtain ⟨texts, legal, written, trees⟩ := exists_of_readMany _ many
    exact ⟨.or texts, by rw [Follows]; exact ⟨trivial, legal⟩, by rw [written_or, written],
      by rw [tree?, trees, Option.map_some]⟩
  case h_3 inner =>
    obtain ⟨⟨negated, after⟩, one, closing⟩ := Option.bind_eq_some_iff.1 read
    split at closing
    · rename_i shape
      cases shape
      cases closing
      obtain ⟨text, legal, written, tree⟩ := exists_of_readOne _ one
      exact ⟨.not text, by rwa [Follows], by rw [written_not, written], by rw [tree?, tree, Option.map_some]⟩
    · cases closing
  case h_4 inner notAnd notOr notNot =>
    obtain ⟨⟨inside, after⟩, cut, later⟩ := Option.bind_eq_some_iff.1 read
    obtain ⟨test, readTest, same⟩ := Option.bind_eq_some_iff.1 later
    cases same
    have noOperator : ∀ c ∈ inner.head?, c ≠ '&' ∧ c ≠ '|' ∧ c ≠ '!' := by
      intro c member
      obtain ⟨more, rfl⟩ := List.head?_eq_some_iff.1 member
      refine ⟨?_, ?_, ?_⟩ <;> rintro rfl
      · exact notAnd _ rfl
      · exact notOr _ rfl
      · exact notNot _ rfl
    obtain ⟨name, value, isName, closed, rfl, rfl⟩ := exists_parts_of_readTest noOperator cut readTest
    obtain ⟨text, legal, written, tree⟩ := exists_test isName closed readTest
    exact ⟨text, legal, by simp [written], tree⟩
  case h_5 => cases read

theorem exists_of_readMany (fuel : Nat) {cs rest : List Char} {filters : List Filter}
    (read : Filter.readMany fuel cs = some (filters, rest)) :
    ∃ texts : List FilterText, AllFollow .taken texts ∧ writtenAll texts ++ ')' :: rest = cs ∧
      trees? texts = some filters := by
  rw [Filter.readMany.eq_def] at read
  split at read
  · cases read
    exact ⟨[], by rw [AllFollow]; trivial, rfl, rfl⟩
  · obtain ⟨⟨filter, after⟩, one, later⟩ := Option.bind_eq_some_iff.1 read
    obtain ⟨⟨others, last⟩, many, same⟩ := Option.bind_eq_some_iff.1 later
    cases same
    obtain ⟨text, legal, written, tree⟩ := exists_of_readOne _ one
    obtain ⟨texts, allLegal, allWritten, trees⟩ := exists_of_readMany _ many
    refine ⟨text :: texts, by rw [AllFollow]; exact ⟨legal, allLegal⟩, ?_, by rw [trees?, tree, trees]; rfl⟩
    rw [writtenAll, List.append_assoc, allWritten, written]
  · cases read

end

/-- Reading gives the filter of the text that is written by the rules. -/
theorem read_of_written {filter : FilterText} (legal : filter.Follows .taken) {text : String}
    (written : filter.written = trim text.toList) : Filter.read text = filter.tree? := by
  have one := readOne_written filter legal (filter.written.length + 1) [] (Nat.le_succ _)
  rw [List.append_nil] at one
  rw [Filter.read, ← written, one]
  cases filter.tree? <;> rfl

theorem exists_of_read {text : String} {tree : Filter} (read : Filter.read text = some tree) :
    ∃ filter : FilterText, filter.Follows .taken ∧ filter.written = trim text.toList ∧ filter.tree? = some tree := by
  rw [Filter.read] at read
  split at read
  · rename_i one
    cases read
    obtain ⟨filter, legal, written, same⟩ := exists_of_readOne _ one
    rw [List.append_nil] at written
    exact ⟨filter, legal, written, same⟩
  · cases read

end FilterText

end DirectoryLogin
