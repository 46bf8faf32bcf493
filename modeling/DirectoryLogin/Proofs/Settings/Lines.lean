import DirectoryLogin.Proofs.Text.Cutting
import DirectoryLogin.Settings.Properties

namespace DirectoryLogin

open Text

namespace Settings

/-- A text that can be the key of a line as it stands. -/
structure IsKey (key : String) : Prop where
  filled : key ≠ ""
  bare : trimmed key = key
  ordinary : ∀ c ∈ key.toList, c ≠ '=' ∧ c ≠ ':' ∧ c ≠ '\n'
  noComment : ∀ c ∈ key.toList.head?, c ≠ '#' ∧ c ≠ '!'

/-- A text that can be the value of a line as it stands. It may hold separators and the marks of comments. -/
structure IsValue (value : String) : Prop where
  bare : trimmed value = value
  inline : '\n' ∉ value.toList

/-- White space that stays within its line. -/
structure Margin where
  text : List Char := []
  blank : ∀ c ∈ text, isBlank c := by simp
  inline : '\n' ∉ text := by simp

/-- A key, a separator and a value, with white space around each of them. -/
structure PairLine where
  key : String
  value : String
  separator : Char := '='
  start : Margin := {}
  beforeSeparator : Margin := {}
  afterSeparator : Margin := {}
  finish : Margin := {}
  isKey : IsKey key
  isValue : IsValue value
  separates : separator = '=' ∨ separator = ':' := by simp

/-- A line of a settings file. -/
inductive Line
  | pair (pair : PairLine)
  | blank (margin : Margin)
  | comment (start : Margin) (mark : Char) (text : List Char) (marks : mark = '#' ∨ mark = '!') (inline : '\n' ∉ text)

namespace Line

def written : Line → List Char
  | pair p => p.start.text ++ (p.key.toList ++ p.beforeSeparator.text ++
      p.separator :: (p.afterSeparator.text ++ p.value.toList ++ p.finish.text))
  | blank margin => margin.text
  | comment start mark text _ _ => start.text ++ mark :: text

/-- The key and the value that a line is about. -/
def said : Line → Option (String × String)
  | pair p => some (p.key, p.value)
  | blank _ => none
  | comment .. => none

end Line

/-- How a line ends, with a line feed alone or with a carriage return before it. -/
inductive LineEnd
  | feed
  | returnAndFeed

/-- What stands between the text of a line and its line feed. -/
def LineEnd.beforeFeed : LineEnd → List Char
  | feed => []
  | returnAndFeed => ['\r']

/-- The lines of a settings file. The last one may do without an end. -/
structure LineFile where
  ended : List (Line × LineEnd)
  last : Option Line := none

namespace LineFile

def written (file : LineFile) : String :=
  String.ofList (file.ended.flatMap (fun (line, ending) => line.written ++ ending.beforeFeed ++ ['\n']) ++
    (file.last.map Line.written).getD [])

/-- The pairs of a file in their order. -/
def pairs (file : LineFile) : List (String × String) :=
  (file.ended.map (·.1) ++ file.last.toList).filterMap Line.said

end LineFile

/-- A line that is neither blank nor a comment. -/
def Speaks (line : List Char) : Prop :=
  ∃ c rest, trim line = c :: rest ∧ c ≠ '#' ∧ c ≠ '!'

def LacksSeparator (line : List Char) : Prop :=
  ∀ c ∈ trim line, c ≠ '=' ∧ c ≠ ':'

/-- Nothing but white space stands before the first separator. -/
def LacksKey (line : List Char) : Prop :=
  ∃ margin separator rest, trim line = margin ++ separator :: rest ∧ (separator = '=' ∨ separator = ':') ∧
    ∀ c ∈ margin, isBlank c

def IsFaulty (line : List Char) : Prop :=
  Speaks line ∧ (LacksSeparator line ∨ LacksKey line)

/-- What is wrong with the line of a number. -/
inductive Fault (number : Nat) (line : List Char) : Error → Prop
  | noSeparator (speaks : Speaks line) (lacks : LacksSeparator line) : Fault number line
      (.configuration s!"line {number}: expected 'key=value', got '{String.ofList (trim line)}'")
  | noKey (speaks : Speaks line) (lacks : LacksKey line) : Fault number line
      (.configuration s!"line {number}: empty key")

theorem isFaulty_iff (number : Nat) (line : List Char) : IsFaulty line ↔ ∃ e, Fault number line e := by
  constructor
  · rintro ⟨speaks, lacks | lacks⟩
    · exact ⟨_, .noSeparator speaks lacks⟩
    · exact ⟨_, .noKey speaks lacks⟩
  · rintro ⟨e, fault⟩
    cases fault with
    | noSeparator speaks lacks => exact ⟨speaks, .inl lacks⟩
    | noKey speaks lacks => exact ⟨speaks, .inr lacks⟩

theorem isSeparator_iff {c : Char} : isSeparator c ↔ c = '=' ∨ c = ':' := by
  simp [isSeparator]

theorem isSeparator_eq_false_iff {c : Char} : isSeparator c = false ↔ c ≠ '=' ∧ c ≠ ':' := by
  simp [isSeparator]

theorem not_isSeparator_of_isBlank {c : Char} (blank : isBlank c) : isSeparator c = false := by
  refine isSeparator_eq_false_iff.2 ⟨?_, ?_⟩ <;> rintro rfl <;> exact absurd blank (by decide)

theorem isIdle_eq_false_iff {line : List Char} : isIdle (trim line) = false ↔ Speaks line := by
  rw [Speaks]
  cases trim line with
  | nil => simp [isIdle]
  | cons c rest => simp [isIdle]

/-- A line is read by its trimmed text alone. -/
theorem readLine_congr (number : Nat) {line other : List Char} (same : trim line = trim other) :
    readLine number line = readLine number other := by
  rw [readLine, readLine, same]

theorem readLine_idle (number : Nat) {line : List Char} (idle : isIdle (trim line) = true) :
    readLine number line = .ok none := by
  rw [readLine, if_pos idle]

theorem readLine_uncut (number : Nat) {line : List Char} (speaks : Speaks line)
    (uncut : cutAt isSeparator (trim line) = none) : readLine number line =
      .error (.configuration s!"line {number}: expected 'key=value', got '{String.ofList (trim line)}'") := by
  simp only [readLine, isIdle_eq_false_iff.2 speaks, uncut, Bool.false_eq_true, if_false]

theorem readLine_cut (number : Nat) {line key value : List Char} (speaks : Speaks line)
    (cut : cutAt isSeparator (trim line) = some (key, value)) : readLine number line =
      if (trim key).isEmpty then .error (.configuration s!"line {number}: empty key")
      else .ok (some (String.ofList (trim key), String.ofList (trim value))) := by
  simp only [readLine, isIdle_eq_false_iff.2 speaks, cut, Bool.false_eq_true, if_false]

theorem cutAt_eq_none_iff_lacksSeparator {line : List Char} :
    cutAt isSeparator (trim line) = none ↔ LacksSeparator line := by
  simp only [cutAt_eq_none_iff, isSeparator_eq_false_iff, LacksSeparator]

/-- Where a line is cut, it lacks a key exactly if what comes before the cut is blank. -/
theorem lacksKey_iff_of_cut {line key value : List Char} (cut : cutAt isSeparator (trim line) = some (key, value)) :
    LacksKey line ↔ trim key = [] := by
  rw [trim_eq_nil]
  constructor
  · rintro ⟨margin, separator, rest, split, separates, blank⟩
    have plain : ∀ c ∈ margin, isSeparator c = false := fun c member => not_isSeparator_of_isBlank (blank c member)
    rw [split, cutAt_append rest plain (isSeparator_iff.2 separates)] at cut
    cases cut
    exact blank
  · intro blank
    obtain ⟨separator, split, separates, -⟩ := exists_split_of_cutAt cut
    exact ⟨key, separator, value, split, isSeparator_iff.1 separates, blank⟩

/-- A line is refused for what is wrong with it. -/
theorem readLine_eq_error_iff {number : Nat} {line : List Char} {e : Error} :
    readLine number line = .error e ↔ Fault number line e := by
  by_cases idle : isIdle (trim line) = true
  · have mute : ¬Speaks line := by simp [← isIdle_eq_false_iff, idle]
    rw [readLine_idle number idle]
    refine ⟨nofun, fun fault => ?_⟩
    cases fault with
    | noSeparator speaks | noKey speaks => exact absurd speaks mute
  have speaks : Speaks line := isIdle_eq_false_iff.1 (Bool.not_eq_true _ ▸ idle)
  cases cut : cutAt isSeparator (trim line) with
  | none =>
    have lacks := cutAt_eq_none_iff_lacksSeparator.1 cut
    rw [readLine_uncut number speaks cut]
    constructor
    · rintro ⟨⟩
      exact .noSeparator speaks lacks
    · intro fault
      cases fault with
      | noSeparator => rfl
      | noKey _ noKey =>
        obtain ⟨margin, separator, rest, split, separates, -⟩ := noKey
        have plain := lacks separator (by simp [split])
        rcases separates with rfl | rfl
        · exact absurd rfl plain.1
        · exact absurd rfl plain.2
  | some pair =>
    obtain ⟨key, value⟩ := pair
    have separated : ¬LacksSeparator line := by simp [← cutAt_eq_none_iff_lacksSeparator, cut]
    rw [readLine_cut number speaks cut]
    by_cases empty : trim key = []
    · rw [if_pos (List.isEmpty_iff.2 empty)]
      constructor
      · rintro ⟨⟩
        exact .noKey speaks ((lacksKey_iff_of_cut cut).2 empty)
      · intro fault
        cases fault with
        | noSeparator _ lacks => exact absurd lacks separated
        | noKey => rfl
    · rw [if_neg (by simp [empty])]
      refine ⟨nofun, fun fault => ?_⟩
      cases fault with
      | noSeparator _ lacks => exact absurd lacks separated
      | noKey _ lacks => exact absurd ((lacksKey_iff_of_cut cut).1 lacks) empty

theorem readLines_cons_error {number : Nat} {line : List Char} {e : Error} (refused : readLine number line = .error e)
    (rest : List (List Char)) : readLines number (line :: rest) = .error e := by
  rw [readLines, refused]
  rfl

theorem readLines_cons_ok {number : Nat} {line : List Char} {said : Option (String × String)}
    (read : readLine number line = .ok said) (rest : List (List Char)) :
    readLines number (line :: rest) = (readLines (number + 1) rest).map (said.toList ++ ·) := by
  rw [readLines, read]
  cases readLines (number + 1) rest <;> rfl

/-- A line is refused exactly if it is faulty. -/
theorem isFaulty_iff_readLine (number : Nat) {line : List Char} :
    IsFaulty line ↔ ∃ e, readLine number line = .error e := by
  simp only [isFaulty_iff number, readLine_eq_error_iff]

theorem not_isFaulty_of_readLine {number : Nat} {line : List Char} {said : Option (String × String)}
    (read : readLine number line = .ok said) : ¬IsFaulty line := by
  rw [isFaulty_iff_readLine number, read]
  exact nofun

/-- Lines are refused for the first of them that is faulty. -/
theorem readLines_eq_error_iff {number : Nat} {texts : List (List Char)} {e : Error} :
    readLines number texts = .error e ↔ ∃ before line after, texts = before ++ line :: after ∧
      (∀ other ∈ before, ¬IsFaulty other) ∧ Fault (number + before.length) line e := by
  induction texts generalizing number with
  | nil => simp [readLines]
  | cons text texts ih =>
    cases first : readLine number text with
    | error e' =>
      have fault := readLine_eq_error_iff.1 first
      rw [readLines_cons_error first]
      constructor
      · rintro ⟨⟩
        exact ⟨[], text, texts, rfl, by simp, fault⟩
      · rintro ⟨before, line, after, split, sound, later⟩
        cases before with
        | nil =>
          cases split
          have same := first.symm.trans (readLine_eq_error_iff.2 later)
          cases same
          rfl
        | cons other before =>
          cases split
          exact absurd ((isFaulty_iff_readLine number).2 ⟨e', first⟩) (sound text (List.mem_cons_self ..))
    | ok said =>
      have sound := not_isFaulty_of_readLine first
      have later : readLines number (text :: texts) = .error e ↔ readLines (number + 1) texts = .error e := by
        rw [readLines_cons_ok first]
        cases readLines (number + 1) texts <;> simp [Except.map]
      rw [later, ih]
      constructor
      · rintro ⟨before, line, after, split, others, fault⟩
        refine ⟨text :: before, line, after, by rw [split, List.cons_append], List.forall_mem_cons.2 ⟨sound, others⟩, ?_⟩
        rwa [List.length_cons, Nat.add_comm before.length, ← Nat.add_assoc]
      · rintro ⟨before, line, after, split, others, fault⟩
        cases before with
        | nil =>
          cases split
          exact absurd ((isFaulty_iff _ _).2 ⟨e, fault⟩) sound
        | cons other before =>
          cases split
          refine ⟨before, line, after, rfl, fun other member => others other (List.mem_cons_of_mem _ member), ?_⟩
          rwa [List.length_cons, Nat.add_comm before.length, ← Nat.add_assoc] at fault

/-- Lines are refused exactly if one of them is faulty. -/
theorem exists_readLines_error_iff {number : Nat} {texts : List (List Char)} :
    (∃ e, readLines number texts = .error e) ↔ ∃ line ∈ texts, IsFaulty line := by
  constructor
  · rintro ⟨e, refused⟩
    obtain ⟨before, line, after, rfl, -, fault⟩ := readLines_eq_error_iff.1 refused
    exact ⟨line, by simp, (isFaulty_iff _ _).2 ⟨e, fault⟩⟩
  · rintro ⟨line, member, faulty⟩
    induction texts generalizing number with
    | nil => cases member
    | cons text texts ih =>
      cases first : readLine number text with
      | error e => exact ⟨e, readLines_cons_error first texts⟩
      | ok said =>
        rcases List.mem_cons.1 member with rfl | later
        · exact absurd faulty (not_isFaulty_of_readLine first)
        · obtain ⟨e, refused⟩ : ∃ e, readLines (number + 1) texts = .error e := ih later
          exact ⟨e, by rw [readLines_cons_ok first, refused]; rfl⟩

theorem PairLine.solid (p : PairLine) : isBlank p.separator = false := by
  rcases p.separates with same | same <;> rw [same] <;> decide

/-- A key begins its line: it is no comment, and no white space stands before it. -/
theorem IsKey.exists_cons {key : String} (isKey : IsKey key) :
    ∃ c rest, key.toList = c :: rest ∧ isBlank c = false ∧ c ≠ '#' ∧ c ≠ '!' := by
  have bare := trimStart_of_trim (trimmed_eq_self.1 isKey.bare)
  have mark := isKey.noComment
  cases letters : key.toList with
  | nil => exact absurd (String.toList_eq_nil_iff.1 letters) isKey.filled
  | cons c rest =>
    rw [letters] at bare mark
    refine ⟨c, rest, rfl, ?_, mark c rfl⟩
    by_contra blank
    rw [trimStart, List.dropWhile_cons_of_pos (by simpa using blank)] at bare
    have shorter := (List.dropWhile_suffix isBlank (l := rest)).length_le
    rw [bare, List.length_cons] at shorter
    omega

/-- The text of a pair without the white space at its ends. -/
theorem trim_written_pair (p : PairLine) : trim (Line.pair p).written =
    p.key.toList ++ p.beforeSeparator.text ++
      p.separator :: trimEnd (p.afterSeparator.text ++ p.value.toList ++ p.finish.text) := by
  obtain ⟨c, rest, letters, solid, -⟩ := p.isKey.exists_cons
  have first : ∀ more, trimStart (p.key.toList ++ more) = p.key.toList ++ more := fun more => by
    rw [letters, List.cons_append, trimStart, List.dropWhile_cons_of_neg (by simp [solid])]
  rw [Line.written, trim, trimStart_append p.start.blank, List.append_assoc p.key.toList, first, ← List.append_assoc,
    trimEnd_append_cons _ p.solid]

theorem readLine_pair (number : Nat) (p : PairLine) :
    readLine number (Line.pair p).written = .ok (some (p.key, p.value)) := by
  have text := trim_written_pair p
  have speaks : Speaks (Line.pair p).written := by
    obtain ⟨c, rest, letters, -, mark⟩ := p.isKey.exists_cons
    exact ⟨c, _, by rw [text, letters]; rfl, mark⟩
  have plain : ∀ c ∈ p.key.toList ++ p.beforeSeparator.text, isSeparator c = false := by
    refine List.forall_mem_append.2 ⟨fun c member => ?_, fun c member => ?_⟩
    · have ordinary := p.isKey.ordinary c member
      exact isSeparator_eq_false_iff.2 ⟨ordinary.1, ordinary.2.1⟩
    · exact not_isSeparator_of_isBlank (p.beforeSeparator.blank c member)
  have cut : cutAt isSeparator (trim (Line.pair p).written) = some (p.key.toList ++ p.beforeSeparator.text,
      trimEnd (p.afterSeparator.text ++ p.value.toList ++ p.finish.text)) := by
    rw [text]
    exact cutAt_append _ plain (isSeparator_iff.2 p.separates)
  have key : trim (p.key.toList ++ p.beforeSeparator.text) = p.key.toList := by
    rw [trim_append _ p.beforeSeparator.blank, trimmed_eq_self.1 p.isKey.bare]
  have value : trim (trimEnd (p.afterSeparator.text ++ p.value.toList ++ p.finish.text)) = p.value.toList := by
    rw [trim_trimEnd, trim_append _ p.finish.blank, trim, trimStart_append p.afterSeparator.blank, ← trim,
      trimmed_eq_self.1 p.isValue.bare]
  have filled : p.key.toList.isEmpty = false := by simp [p.isKey.filled]
  rw [readLine_cut number speaks cut, key, value, filled, String.ofList_toList, String.ofList_toList]
  rfl

/-- A written line is read as what it says. -/
theorem readLine_written (number : Nat) (line : Line) : readLine number line.written = .ok line.said := by
  cases line with
  | pair p => exact readLine_pair number p
  | blank margin =>
    refine readLine_idle number ?_
    rw [Line.written, trim_eq_nil.2 margin.blank]
    rfl
  | comment start mark text marks inline =>
    have solid : isBlank mark = false := by rcases marks with same | same <;> rw [same] <;> decide
    refine readLine_idle number ?_
    rw [Line.written, trim, trimStart_append start.blank, trimStart, List.dropWhile_cons_of_neg (by simp [solid]),
      ← List.nil_append (mark :: text), trimEnd_append_cons [] solid]
    simpa [isIdle] using marks

/-- Texts that are written lines but for white space at their ends are read as what these lines say. -/
theorem readLines_written (number : Nat) {rows : List (List Char × Line)}
    (each : ∀ row ∈ rows, trim row.1 = trim row.2.written) :
    readLines number (rows.map (·.1)) = .ok (rows.filterMap (·.2.said)) := by
  induction rows generalizing number with
  | nil => rfl
  | cons row rows ih =>
    have first : readLine number row.1 = .ok row.2.said := by
      rw [readLine_congr number (each row (List.mem_cons_self ..)), readLine_written]
    have later := ih (number + 1) fun other member => each other (List.mem_cons_of_mem row member)
    rw [List.map_cons, readLines_cons_ok first, later, List.filterMap_cons]
    cases row.2.said <;> rfl

theorem Line.inline (line : Line) : '\n' ∉ line.written := by
  cases line with
  | pair p =>
    have key : '\n' ∉ p.key.toList := fun member => (p.isKey.ordinary _ member).2.2 rfl
    have separator : '\n' ≠ p.separator := by rcases p.separates with same | same <;> rw [same] <;> decide
    simp only [written, List.mem_append, List.mem_cons, not_or]
    exact ⟨p.start.inline, ⟨key, p.beforeSeparator.inline⟩, separator,
      ⟨p.afterSeparator.inline, p.isValue.inline⟩, p.finish.inline⟩
  | blank margin => exact margin.inline
  | comment start mark text marks inline =>
    have apart : '\n' ≠ mark := by rcases marks with same | same <;> rw [same] <;> decide
    simp only [written, List.mem_append, List.mem_cons, not_or]
    exact ⟨start.inline, apart, inline⟩

/-- A line of which nothing is written says nothing. -/
theorem Line.said_of_written_nil {line : Line} (empty : line.written = []) : line.said = none := by
  cases line with
  | pair p => simp [written] at empty
  | blank margin => rfl
  | comment start mark text marks inline => rfl

namespace LineFile

/-- The text of a line that ends, but for its line feed. -/
def textOf (row : Line × LineEnd) : List Char :=
  row.1.written ++ row.2.beforeFeed

theorem textOf_inline (row : Line × LineEnd) : '\n' ∉ textOf row := by
  obtain ⟨line, ending⟩ := row
  have before : '\n' ∉ ending.beforeFeed := by cases ending <;> simp [LineEnd.beforeFeed]
  simp [textOf, line.inline, before]

theorem trim_textOf (row : Line × LineEnd) : trim (dropReturn (textOf row)) = trim row.1.written := by
  obtain ⟨line, ending⟩ := row
  have blank : ∀ c ∈ ending.beforeFeed, isBlank c := by cases ending <;> simp [LineEnd.beforeFeed]; decide
  rw [trim_dropReturn, textOf, trim_append _ blank]

theorem toList_written (file : LineFile) : file.written.toList =
    (file.ended.map textOf).flatMap (· ++ ['\n']) ++ (file.last.map Line.written).getD [] := by
  rw [written, String.toList_ofList, List.flatMap_map]
  rfl

/-- A file is cut into its lines, each as it was written but for white space at its ends. A last line of which nothing
is written does not count. -/
theorem exists_rows (file : LineFile) : ∃ rows : List (List Char × Line), lines file.written.toList = rows.map (·.1) ∧
    (∀ row ∈ rows, trim row.1 = trim row.2.written) ∧ rows.filterMap (·.2.said) = file.pairs := by
  have inline : ∀ text ∈ file.ended.map textOf, '\n' ∉ text := by
    intro text member
    obtain ⟨row, -, rfl⟩ := List.mem_map.1 member
    exact textOf_inline row
  let ended : List (List Char × Line) := file.ended.map fun row => (dropReturn (textOf row), row.1)
  have endedTexts : (file.ended.map textOf).map dropReturn = ended.map (·.1) := by simp [ended]
  have endedTrim : ∀ row ∈ ended, trim row.1 = trim row.2.written := by
    intro row member
    obtain ⟨written, -, rfl⟩ := List.mem_map.1 member
    exact trim_textOf written
  have endedSaid : ended.filterMap (·.2.said) = (file.ended.map (·.1)).filterMap Line.said := by
    simp only [ended, List.filterMap_map]
    rfl
  rw [toList_written, pairs, List.filterMap_append, ← endedSaid]
  cases last : file.last with
  | none =>
    refine ⟨ended, ?_, endedTrim, by simp⟩
    rw [lines_written inline (by simp)]
    exact endedTexts
  | some line =>
    rw [Option.map_some, Option.getD_some, lines_written inline line.inline]
    by_cases empty : line.written = []
    · refine ⟨ended, by rw [if_pos empty, endedTexts], endedTrim, ?_⟩
      simp [Line.said_of_written_nil empty]
    · refine ⟨ended ++ [(dropReturn line.written, line)], ?_, ?_, ?_⟩
      · rw [if_neg empty, List.map_append, endedTexts]
        simp
      · refine List.forall_mem_append.2 ⟨endedTrim, fun row member => ?_⟩
        cases List.mem_singleton.1 member
        exact trim_dropReturn _
      · simp [List.filterMap_append, List.filterMap_cons]

end LineFile

/-- A file is read as what its lines say. -/
theorem ofProperties_written (file : LineFile) : ofProperties file.written = .ok (ofList file.pairs) := by
  obtain ⟨rows, texts, each, said⟩ := file.exists_rows
  rw [ofProperties, texts, readLines_written 1 each, said]
  rfl

/-- The plainest file of some pairs. -/
theorem exists_file {pairs : List (String × String)} (legal : ∀ p ∈ pairs, IsKey p.1 ∧ IsValue p.2) :
    ∃ file : LineFile, file.written = String.join (pairs.map fun p => p.1 ++ "=" ++ p.2 ++ "\n") ∧ file.pairs = pairs := by
  induction pairs with
  | nil => exact ⟨{ ended := [] }, rfl, rfl⟩
  | cons p pairs ih =>
    obtain ⟨isKey, isValue⟩ := legal p (List.mem_cons_self ..)
    obtain ⟨file, written, said⟩ := ih fun other member => legal other (List.mem_cons_of_mem p member)
    let line : Line := .pair { key := p.1, value := p.2, isKey, isValue }
    refine ⟨{ file with ended := (line, .feed) :: file.ended }, ?_, ?_⟩
    · rw [← String.toList_inj] at written ⊢
      simp only [String.toList_join, List.flatMap_map, LineFile.written, String.toList_ofList] at written ⊢
      rw [List.flatMap_cons, List.append_assoc, written]
      simp [line, Line.written, LineEnd.beforeFeed]
    · simp only [LineFile.pairs, List.map_cons, List.cons_append, List.filterMap_cons] at said ⊢
      rw [said]
      rfl

theorem ofProperties_eq_error_iff {content : String} {e : Error} :
    ofProperties content = .error e ↔ readLines 1 (lines content.toList) = .error e := by
  rw [ofProperties]
  cases readLines 1 (lines content.toList) <;> simp [bind, Except.bind, pure, Except.pure]

/-- Reading undoes writing. A file of pairs is read as these pairs, and the last value of a key wins, however the file
is spaced out, separated and commented, and however its lines end. A text is refused exactly if one of its lines, which
is neither blank nor a comment, lacks a separator or has nothing before it, and the error is about the first such line:
it says its number, counted from one, and what is wrong with it. -/
theorem ofProperties_lines :
    (∀ file : LineFile, ofProperties file.written = .ok (ofList file.pairs) ∧
      ∀ key, (ofList file.pairs).values.get? key = file.pairs.reverse.lookup key) ∧
    ∀ content : String,
      ((∃ e, ofProperties content = .error e) ↔ ∃ line ∈ lines content.toList, IsFaulty line) ∧
      ∀ e, ofProperties content = .error e ↔ ∃ before line after, lines content.toList = before ++ line :: after ∧
        (∀ other ∈ before, ¬IsFaulty other) ∧ Fault (before.length + 1) line e := by
  refine ⟨fun file => ⟨ofProperties_written file, Dictionary.get?_ofList file.pairs⟩, fun content => ⟨?_, fun e => ?_⟩⟩
  · simp only [ofProperties_eq_error_iff, exists_readLines_error_iff]
  · simp only [ofProperties_eq_error_iff, readLines_eq_error_iff, Nat.add_comm 1]

end Settings

end DirectoryLogin
