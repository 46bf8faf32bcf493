import DirectoryLogin.Proofs.FilterText
import DirectoryLogin.Proofs.Markers
import DirectoryLogin.Template

namespace DirectoryLogin

open Text

/-- A text that can be the name of an attribute in a printed filter. -/
structure AttributeText where
  text : String
  /-- It ends neither the name nor the test, and opens no placeholder. -/
  ordinary : ∀ c ∈ text.toList, c ≠ ')' ∧ c ≠ '=' ∧ c ≠ '{'
  /-- It does not start like a list or a negation. -/
  noOperator : ∀ c ∈ text.toList.head?, c ≠ '&' ∧ c ≠ '|' ∧ c ≠ '!'

theorem AttributeText.isTestName (name : AttributeText) : IsTestName name.text.toList where
  ordinary c member := ⟨(name.ordinary c member).1, (name.ordinary c member).2.1⟩
  noOperator := name.noOperator

/-- A text that can be a value in a printed filter as it stands. -/
structure ValueText where
  text : String
  ordinary : ∀ c ∈ text.toList, c ≠ ')' ∧ c ≠ '\\' ∧ c ≠ '{'
  notPresence : text ≠ "*"

/-- A text that can be the name of a placeholder. -/
structure PlaceholderText where
  text : String
  filled : text.toList ≠ []
  ordinary : ∀ c ∈ text.toList, Template.isNameCharacter c

/-- A filter in which values may be left open. -/
inductive FilterForm
  | and (forms : List FilterForm)
  | or (forms : List FilterForm)
  | not (form : FilterForm)
  | present (name : AttributeText)
  | equal (name : AttributeText) (value : ValueText)
  /-- Equality with the value that the placeholder stands for. -/
  | placed (name : AttributeText) (placeholder : PlaceholderText)

namespace FilterForm

mutual

/-- The printed form, when `place` says how the placeholders are written. -/
def write (place : String → List Char) : FilterForm → List Char
  | and forms => '(' :: '&' :: writeAll place forms ++ [')']
  | or forms => '(' :: '|' :: writeAll place forms ++ [')']
  | not form => '(' :: '!' :: write place form ++ [')']
  | present name => '(' :: name.text.toList ++ '=' :: '*' :: [')']
  | equal name value => '(' :: name.text.toList ++ '=' :: value.text.toList ++ [')']
  | placed name placeholder =>
    '(' :: name.text.toList ++ '=' :: place placeholder.text ++ [')']

def writeAll (place : String → List Char) : List FilterForm → List Char
  | [] => []
  | form :: forms => write place form ++ writeAll place forms

end

/-- The template source of a form: the placeholders are names between braces. -/
def source (form : FilterForm) : String :=
  String.ofList (form.write fun name => '{' :: name.toList ++ ['}'])

mutual

/-- The filter that a form becomes with the values of its placeholders. -/
def fill (value : String → String) : FilterForm → Filter
  | and forms => .and (fillAll value forms)
  | or forms => .or (fillAll value forms)
  | not form => .not (fill value form)
  | present name => .present name.text
  | equal name text => .equal name.text text.text
  | placed name placeholder => .equal name.text (value placeholder.text)

def fillAll (value : String → String) : List FilterForm → List Filter
  | [] => []
  | form :: forms => fill value form :: fillAll value forms

end

mutual

/-- The parts of the printed form. -/
def spans : FilterForm → List (Span String)
  | and forms => .plain '(' :: .plain '&' :: spansAll forms ++ [.plain ')']
  | or forms => .plain '(' :: .plain '|' :: spansAll forms ++ [.plain ')']
  | not form => .plain '(' :: .plain '!' :: spans form ++ [.plain ')']
  | present name =>
    .plain '(' :: name.text.toList.map .plain ++ .plain '=' :: .plain '*' :: [.plain ')']
  | equal name value => .plain '(' :: name.text.toList.map .plain ++
      .plain '=' :: value.text.toList.map .plain ++ [.plain ')']
  | placed name placeholder => .plain '(' :: name.text.toList.map .plain ++
      .plain '=' :: .marker placeholder.text :: [.plain ')']

def spansAll : List FilterForm → List (Span String)
  | [] => []
  | form :: forms => spans form ++ spansAll forms

end

theorem flatMap_plain {α : Type} (place : α → List Char) (cs : List Char) :
    (cs.map Span.plain).flatMap (Span.text place) = cs := by
  induction cs with
  | nil => rfl
  | cons c cs ih => simp only [List.map_cons, List.flatMap_cons, Span.text, ih, List.singleton_append]

mutual

theorem write_eq_flatMap (place : String → List Char) (form : FilterForm) :
    form.write place = form.spans.flatMap (Span.text place) := by
  cases form with
  | and forms => simp [write, spans, Span.text, writeAll_eq_flatMap place forms]
  | or forms => simp [write, spans, Span.text, writeAll_eq_flatMap place forms]
  | not form => simp [write, spans, Span.text, write_eq_flatMap place form]
  | present name => simp [write, spans, Span.text, flatMap_plain]
  | equal name value => simp [write, spans, Span.text, flatMap_plain]
  | placed name placeholder => simp [write, spans, Span.text, flatMap_plain]

theorem writeAll_eq_flatMap (place : String → List Char) (forms : List FilterForm) :
    writeAll place forms = (spansAll forms).flatMap (Span.text place) := by
  cases forms with
  | nil => rfl
  | cons form forms =>
    simp [writeAll, spansAll, write_eq_flatMap place form, writeAll_eq_flatMap place forms]

end

/-- A part of a printed form is a character other than an opening brace, or a placeholder. -/
def IsPart : Span String → Prop
  | .plain c => c ≠ '{'
  | .marker name => ∃ placeholder : PlaceholderText, placeholder.text = name

theorem isPart_plain {cs : List Char} (ordinary : ∀ c ∈ cs, c ≠ '{') :
    ∀ span ∈ cs.map Span.plain, IsPart span :=
  List.forall_mem_map.2 ordinary

theorem isPart_cons {c : Char} {spans : List (Span String)} (ordinary : c ≠ '{')
    (rest : ∀ span ∈ spans, IsPart span) : ∀ span ∈ .plain c :: spans, IsPart span :=
  List.forall_mem_cons.2 ⟨ordinary, rest⟩

theorem isPart_close : ∀ span ∈ [Span.plain ')'], IsPart span :=
  isPart_cons (by decide) (by simp)

theorem isPart_append {first second : List (Span String)} (left : ∀ span ∈ first, IsPart span)
    (right : ∀ span ∈ second, IsPart span) : ∀ span ∈ first ++ second, IsPart span :=
  List.forall_mem_append.2 ⟨left, right⟩

mutual

theorem isPart_of_mem_spans (form : FilterForm) : ∀ span ∈ form.spans, IsPart span := by
  cases form with
  | and forms =>
    exact isPart_cons (by decide) (isPart_cons (by decide)
      (isPart_append (isPart_of_mem_spansAll forms) isPart_close))
  | or forms =>
    exact isPart_cons (by decide) (isPart_cons (by decide)
      (isPart_append (isPart_of_mem_spansAll forms) isPart_close))
  | not form =>
    exact isPart_cons (by decide) (isPart_cons (by decide)
      (isPart_append (isPart_of_mem_spans form) isPart_close))
  | present name =>
    have inName := isPart_plain fun c member => (name.ordinary c member).2.2
    exact isPart_cons (by decide) (isPart_append inName
      (isPart_cons (by decide) (isPart_cons (by decide) isPart_close)))
  | equal name value =>
    have inName := isPart_plain fun c member => (name.ordinary c member).2.2
    have inValue := isPart_plain fun c member => (value.ordinary c member).2.2
    exact isPart_append (isPart_cons (by decide) (isPart_append inName
      (isPart_cons (by decide) inValue))) isPart_close
  | placed name placeholder =>
    have inName := isPart_plain fun c member => (name.ordinary c member).2.2
    exact isPart_cons (by decide) (isPart_append inName (isPart_cons (by decide)
      (List.forall_mem_cons.2 ⟨⟨placeholder, rfl⟩, isPart_close⟩)))

theorem isPart_of_mem_spansAll (forms : List FilterForm) :
    ∀ span ∈ spansAll forms, IsPart span := by
  cases forms with
  | nil => simp [spansAll]
  | cons form forms =>
    exact List.forall_mem_append.2 ⟨isPart_of_mem_spans form, isPart_of_mem_spansAll forms⟩

end

theorem brace_notMem_placeholder (placeholder : PlaceholderText) :
    '}' ∉ placeholder.text.toList := fun member => by
  have character := placeholder.ordinary '}' member
  simp [Template.isNameCharacter] at character

theorem name?_placeholder (placeholder : PlaceholderText) :
    Template.name? placeholder.text.toList = some placeholder.text := by
  have all : placeholder.text.toList.all Template.isNameCharacter = true :=
    List.all_eq_true.2 placeholder.ordinary
  have filled : placeholder.text.toList.isEmpty = false :=
    List.isEmpty_eq_false_iff.2 placeholder.filled
  simp [Template.name?, all, filled]

theorem brace_notMem_spans (form : FilterForm) : .plain '{' ∉ form.spans := fun member =>
  isPart_of_mem_spans form _ member rfl

/-- Taking the template of a form apart finds its placeholders. -/
theorem ofText_source (form : FilterForm) :
    Span.ofText Template.name? form.source.toList = form.spans := by
  have read : Span.ofText Template.name? (form.spans.flatMap
      (Span.text fun name => '{' :: name.toList ++ ['}'])) = form.spans.map (Span.map id) :=
    Span.ofText_written form.spans form.brace_notMem_spans fun name member => by
      obtain ⟨placeholder, rfl⟩ := isPart_of_mem_spans form _ member
      exact ⟨brace_notMem_placeholder placeholder, name?_placeholder placeholder⟩
  rw [source, String.toList_ofList, write_eq_flatMap, read, Span.map_id]

/-- The names of a form, each once. -/
def names (form : FilterForm) : List String :=
  (form.spans.filterMap Span.marker?).eraseDups

theorem mem_names {form : FilterForm} {name : String} (member : .marker name ∈ form.spans) :
    name ∈ form.names :=
  List.mem_eraseDups.2 (List.mem_filterMap.2 ⟨_, member, rfl⟩)

theorem compile_source (form : FilterForm) :
    (Template.compile form.source).placeholders = form.names ∧
      (Template.compile form.source).filter.toList =
        form.spans.flatMap (Span.text fun name => Template.numbered (form.names.idxOf name)) := by
  simp only [Template.compile, ofText_source, String.toList_ofList, names, and_self]

/-- The number of a name stands for the value of the name. -/
theorem parameterAt_idxOf (value : String → String) {names : List String} {name : String}
    (member : name ∈ names) :
    Request.parameterAt (names.map value) (numeral (names.idxOf name)) = some (value name) := by
  have within : names.idxOf name < names.length := List.idxOf_lt_length_iff.2 member
  rw [Request.parameterAt, List.length_map, readNumeral_numeral within]
  simp [List.getElem?_eq_getElem within]

/-- The values of a request stand in the filter, escaped, where the placeholders were. -/
theorem filter_bind (form : FilterForm) (baseDn : String) (values : Dictionary String) :
    (((Template.compile form.source).bind baseDn values).filter).toList =
      form.write fun name => escapedValue ((values.get? name).getD "") := by
  obtain ⟨placeholders, filter⟩ := compile_source form
  have read : Span.ofText
      (Request.parameterAt (form.names.map fun name => (values.get? name).getD ""))
      (form.spans.flatMap (Span.text fun name => '{' :: numeral (form.names.idxOf name) ++ ['}'])) =
        form.spans.map (Span.map fun name => (values.get? name).getD "") :=
    Span.ofText_written form.spans form.brace_notMem_spans fun name member =>
      ⟨fun inside => by simpa using isDigit_of_mem_numeral inside,
        parameterAt_idxOf _ (mem_names member)⟩
  simp only [Request.filter, Template.bind, Template.parameters, placeholders, filter,
    Template.numbered, String.toList_ofList]
  rw [read, Span.flatMap_map, write_eq_flatMap]
  rfl

/-- The values as `place` writes them are read back: none closes its test, none asks for presence. -/
structure Reads (place : String → List Char) (value : String → String) : Prop where
  closed : ∀ name, ∀ c ∈ place name, c ≠ ')'
  notPresence : ∀ name, place name ≠ ['*']
  unescape : ∀ name, Filter.unescape (place name) = some (value name)

/-- Escaped values are read back. -/
theorem Reads.escaped (value : String → String) : Reads (fun name => escapedValue (value name)) value where
  closed name c member same := by
    have ordinary := isFilterSyntax_escapedValue _ c member
    simp [isFilterSyntax, same] at ordinary
  notPresence name same := by
    have ordinary := isFilterSyntax_escapedValue (value name) '*' (same ▸ List.mem_singleton_self _)
    simp [isFilterSyntax] at ordinary
  unescape name := Filter.unescape_escapedValue (value name)

/-- A test whose value is read back is a filter that may be read. -/
theorem exists_text_equal (name : AttributeText) {written : List Char} {value : String}
    (closed : ∀ c ∈ written, c ≠ ')') (notPresence : written ≠ ['*'])
    (unescape : Filter.unescape written = some value) :
    ∃ text : FilterText, text.Follows .taken ∧ text.written = '(' :: name.text.toList ++ '=' :: written ++ [')'] ∧
      text.tree? = some (.equal name.text value) := by
  have read : Filter.readTest (name.text.toList ++ '=' :: written) = some (.equal name.text value) := by
    rw [name.isTestName.readTest, if_neg notPresence, unescape, String.ofList_toList, Option.map_some]
  obtain ⟨text, legal, shape, tree⟩ := FilterText.exists_test name.isTestName closed read
  exact ⟨text, legal, by simp [shape], tree⟩

mutual

/-- A written form is a filter that may be read. -/
theorem exists_text {place : String → List Char} {value : String → String} (reads : Reads place value)
    (form : FilterForm) : ∃ text : FilterText, text.Follows .taken ∧ text.written = form.write place ∧
      text.tree? = some (form.fill value) := by
  cases form with
  | and forms =>
    obtain ⟨texts, legal, written, trees⟩ := exists_texts reads forms
    exact ⟨.and texts, by rw [FilterText.Follows]; exact ⟨trivial, legal⟩, by simp [FilterText.written, write, written],
      by rw [FilterText.tree?, trees, fill, Option.map_some]⟩
  | or forms =>
    obtain ⟨texts, legal, written, trees⟩ := exists_texts reads forms
    exact ⟨.or texts, by rw [FilterText.Follows]; exact ⟨trivial, legal⟩, by simp [FilterText.written, write, written],
      by rw [FilterText.tree?, trees, fill, Option.map_some]⟩
  | not form =>
    obtain ⟨text, legal, written, tree⟩ := exists_text reads form
    exact ⟨.not text, by rwa [FilterText.Follows], by simp [FilterText.written, write, written],
      by rw [FilterText.tree?, tree, fill, Option.map_some]⟩
  | present name =>
    exact ⟨.present name.text.toList, by rw [FilterText.Follows]; exact name.isTestName,
      by simp [FilterText.written, write], by rw [FilterText.tree?, fill, String.ofList_toList]⟩
  | equal name text =>
    exact exists_text_equal name (fun c member => (text.ordinary c member).1)
      (fun same => text.notPresence (String.toList_inj.1 same))
      (Filter.unescape_ordinary fun c member => (text.ordinary c member).2.1)
  | placed name placeholder =>
    exact exists_text_equal name (reads.closed _) (reads.notPresence _) (reads.unescape _)

theorem exists_texts {place : String → List Char} {value : String → String} (reads : Reads place value)
    (forms : List FilterForm) : ∃ texts : List FilterText, FilterText.AllFollow .taken texts ∧
      FilterText.writtenAll texts = writeAll place forms ∧ FilterText.trees? texts = some (fillAll value forms) := by
  cases forms with
  | nil => exact ⟨[], by rw [FilterText.AllFollow]; trivial, rfl, rfl⟩
  | cons form forms =>
    obtain ⟨text, legal, written, tree⟩ := exists_text reads form
    obtain ⟨texts, allLegal, allWritten, trees⟩ := exists_texts reads forms
    refine ⟨text :: texts, by rw [FilterText.AllFollow]; exact ⟨legal, allLegal⟩, ?_, ?_⟩
    · rw [FilterText.writtenAll, written, allWritten, writeAll]
    · rw [FilterText.trees?, tree, trees]
      rfl

end

/-- What a form is printed as reads back, whatever the values are that stand in it. -/
theorem read_of_written {place : String → List Char} {value : String → String} (reads : Reads place value)
    {form : FilterForm} {text : String} (written : text.toList = form.write place) :
    Filter.read text = some (form.fill value) := by
  obtain ⟨filter, legal, shape, tree⟩ := exists_text reads form
  have trimmed : filter.written = trim text.toList := by rw [written, ← shape, filter.trim_written]
  rw [FilterText.read_of_written legal trimmed, tree]

/-- No value changes what a filter asks: the filter that is read back from a bound template is the form
with the values in their places, and the empty text where a value is missing. -/
theorem read_filter_bind (form : FilterForm) (baseDn : String) (values : Dictionary String) :
    Filter.read ((Template.compile form.source).bind baseDn values).filter =
      some (form.fill fun name => (values.get? name).getD "") :=
  read_of_written (.escaped fun name => (values.get? name).getD "") (form.filter_bind baseDn values)

end FilterForm

end DirectoryLogin
