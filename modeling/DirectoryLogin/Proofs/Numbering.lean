import DirectoryLogin.Proofs.Substitution

namespace DirectoryLogin

open Text

namespace Text

theorem numeral_injective {m n : Nat} (same : numeral m = numeral n) : m = n := by
  rw [← digitsValue_numeral m, same, digitsValue_numeral]

theorem closing_notMem_numeral (n : Nat) : '}' ∉ numeral n := by
  intro member
  have digit := isDigit_of_mem_numeral member
  simp at digit

end Text

theorem eraseDups_nodup (names : List String) : names.eraseDups.Nodup := by
  induction h : names.length using Nat.strong_induction_on generalizing names with
  | _ n ih =>
    cases names with
    | nil => exact List.nodup_nil
    | cons name rest =>
      rw [List.eraseDups_cons, List.nodup_cons]
      refine ⟨fun member => ?_, ih _ ?_ _ rfl⟩
      · simpa using (List.mem_filter.1 (List.mem_eraseDups.1 member)).2
      · have shorter := List.length_filter_le (fun other => !other == name) rest
        rw [List.length_cons] at h
        omega

/-- Names that stay apart are renamed one by one. -/
theorem eraseDups_map {names : List String} {f : String → String}
    (apart : ∀ name ∈ names, ∀ other ∈ names, f name = f other → name = other) :
    (names.map f).eraseDups = names.eraseDups.map f := by
  induction h : names.length using Nat.strong_induction_on generalizing names with
  | _ n ih =>
    cases names with
    | nil => rfl
    | cons name rest =>
      have same : (rest.map f).filter (fun other => !other == f name) =
          (rest.filter fun other => !other == name).map f := by
        rw [List.filter_map]
        congr 1
        refine List.filter_congr fun other member => ?_
        have tells : f other = f name ↔ other = name :=
          ⟨apart other (List.mem_cons_of_mem _ member) name List.mem_cons_self, congrArg f⟩
        rw [Bool.eq_iff_iff]
        simp [tells]
      rw [List.map_cons, List.eraseDups_cons, same, List.eraseDups_cons, List.map_cons, ih _ ?_ ?_ rfl]
      · have shorter := List.length_filter_le (fun other => !other == name) rest
        rw [List.length_cons] at h
        omega
      · intro other member another member'
        exact apart other (List.mem_cons_of_mem _ (List.mem_filter.1 member).1) another
          (List.mem_cons_of_mem _ (List.mem_filter.1 member').1)

/-- What comes before a name, of all that are listed once, stands before it wherever the name stands. -/
theorem mem_of_idxOf_lt {front back : List String} {name other : String}
    (before : (front ++ other :: back).eraseDups.idxOf name < (front ++ other :: back).eraseDups.idxOf other) :
    name ∈ front := by
  rw [List.eraseDups_append] at before
  by_contra absent
  have late : name ∉ front.eraseDups := fun member => absent (List.mem_eraseDups.1 member)
  rw [List.idxOf_append_of_notMem late] at before
  by_cases early : other ∈ front.eraseDups
  · rw [List.idxOf_append_of_mem early] at before
    have within := List.idxOf_lt_length_of_mem early
    omega
  · have kept : (other :: back).removeAll front = other :: back.removeAll front := by
      have absent' : other ∉ front := fun member => early (List.mem_eraseDups.2 member)
      simp [List.removeAll, absent']
    rw [List.idxOf_append_of_notMem early, kept, List.eraseDups_cons, List.idxOf_cons_self] at before
    omega

namespace Span

variable {α β : Type} {read : List Char → Option α}

/-- A text is what its parts say, if markers are written as they were. -/
theorem flatMap_ofText {write : α → List Char}
    (written : ∀ inside a, read inside = some a → write a = '{' :: inside ++ ['}']) (cs : List Char) :
    (ofText read cs).flatMap (text write) = cs := by
  refine ofText_induction (motive := fun cs parts => parts.flatMap (text write) = cs) ?_ ?_ ?_ cs
  · rfl
  · intro inside after a closed reads ih
    rw [List.flatMap_cons, text, written inside a reads, ih, List.append_assoc, List.singleton_append]
  · intro c rest _ ih
    rw [List.flatMap_cons, text, ih, List.singleton_append]

/-- A marker splits a text in two that are taken apart on their own. -/
theorem ofText_append_marker {inside : List Char} {a : α} (noOpening : ∀ inside a, read inside = some a → '{' ∉ inside)
    (closed : '}' ∉ inside) (reads : read inside = some a) (before after : List Char) :
    ofText read (before ++ '{' :: inside ++ '}' :: after) = ofText read before ++ marker a :: ofText read after := by
  refine ofText_induction (motive := fun cs parts =>
    ofText read (cs ++ '{' :: inside ++ '}' :: after) = parts ++ marker a :: ofText read after) ?_ ?_ ?_ before
  · exact ofText_marker after closed reads
  · intro other rest b shut known ih
    have split : '{' :: other ++ '}' :: rest ++ '{' :: inside ++ '}' :: after =
        '{' :: other ++ '}' :: (rest ++ '{' :: inside ++ '}' :: after) := by simp
    rw [split, ofText_marker _ shut known, ih, List.cons_append]
  · intro c rest stray ih
    rw [List.cons_append, List.cons_append, ofText_stray c, ih, List.cons_append]
    intro other later same shut
    obtain ⟨opening, split⟩ := List.cons.inj same
    by_cases early : '}' ∈ rest
    · obtain ⟨front, back, rfl, noClosing⟩ := List.eq_append_cons_of_mem early
      have parts : front ++ '}' :: (back ++ '{' :: inside ++ '}' :: after) = other ++ '}' :: later := by
        simpa using split
      obtain ⟨rfl, -⟩ := closing_unique parts noClosing shut
      exact stray front back (opening ▸ rfl) shut
    · have parts : rest ++ '{' :: (inside ++ '}' :: after) = other ++ '}' :: later := by simpa using split
      have inner : '{' ∈ other := mem_of_split parts early
      cases known : read other with
      | none => rfl
      | some b => exact absurd inner (noOpening other b known)

/-- Markers may be written anew for another reader, who then takes the same parts. -/
theorem ofText_rewritten {readAgain : List Char → Option β} {inside : α → List Char} {value : α → β} (cs : List Char)
    (noOpening : ∀ inside b, readAgain inside = some b → '{' ∉ inside)
    (fewer : ∀ inside, read inside = none → readAgain inside = none)
    (reads : ∀ a, marker a ∈ ofText read cs → '}' ∉ inside a ∧ readAgain (inside a) = some (value a)) :
    ofText readAgain ((ofText read cs).flatMap (text fun a => '{' :: inside a ++ ['}'])) =
      (ofText read cs).map (map value) := by
  refine ofText_induction (motive := fun _ parts =>
    (∀ a, marker a ∈ parts → '}' ∉ inside a ∧ readAgain (inside a) = some (value a)) →
    ofText readAgain (parts.flatMap (text fun a => '{' :: inside a ++ ['}'])) = parts.map (map value)) ?_ ?_ ?_ cs reads
  · intro _
    simp [ofText]
  · intro _ after a _ _ ih known
    obtain ⟨closed, again⟩ := known a List.mem_cons_self
    have later := ih fun b member => known b (List.mem_cons_of_mem _ member)
    simp only [List.flatMap_cons, text, List.map_cons, map, List.append_assoc, List.singleton_append]
    rw [ofText_marker _ closed again, later]
  · intro c rest stray ih known
    have later := ih fun b member => known b (List.mem_cons_of_mem _ member)
    rw [List.flatMap_cons, text, List.singleton_append, ofText_stray c, later]
    · rfl
    · intro other after same closed
      exact stray_rewritten (fun _ => ⟨_, rfl⟩) noOpening
        (fun between after same closed => fewer between (stray between after same closed)) same closed

end Span

namespace Template

/-- A name of a placeholder: letters and digits of ASCII, underscores, hyphens and dots, at least one of them. -/
def IsName (name : String) : Prop :=
  name ≠ "" ∧ ∀ c ∈ name.toList, c.isAlphanum ∨ c = '_' ∨ c = '-' ∨ c = '.'

theorem IsName.closed {name : String} (valid : IsName name) : '}' ∉ name.toList := by
  intro member
  have character := valid.2 '}' member
  simp at character

theorem name?_eq_some_iff {inside : List Char} {name : String} :
    name? inside = some name ↔ inside = name.toList ∧ IsName name := by
  have filled : inside ≠ [] ↔ String.ofList inside ≠ "" := by
    rw [not_iff_not]
    exact ⟨fun none => by rw [none], fun none => by simpa using congrArg String.toList none⟩
  have characters : inside.all isNameCharacter = true ↔ ∀ c ∈ inside, c.isAlphanum ∨ c = '_' ∨ c = '-' ∨ c = '.' := by
    simp [isNameCharacter, or_assoc]
  unfold name? IsName
  simp only [Bool.and_eq_true, Option.ite_none_right_eq_some, Option.some.injEq, Bool.not_eq_true',
    List.isEmpty_eq_false_iff]
  constructor
  · rintro ⟨⟨some_, all⟩, rfl⟩
    rw [String.toList_ofList]
    exact ⟨rfl, filled.1 some_, characters.1 all⟩
  · rintro ⟨rfl, some_, all⟩
    rw [String.ofList_toList] at filled ⊢
    exact ⟨⟨filled.2 some_, characters.2 all⟩, rfl⟩

/-- A row of digits is a name. -/
theorem name?_digits {digits : List Char} (filled : digits ≠ []) (numeric : ∀ c ∈ digits, c.isDigit) :
    name? digits = some (String.ofList digits) := by
  refine name?_eq_some_iff.2 ⟨String.toList_ofList.symm, fun none => filled ?_, fun c member => .inl ?_⟩
  · simpa using congrArg String.toList none
  · rw [String.toList_ofList] at member
    simp [Char.isAlphanum, numeric c member]

/-- The name that a number between braces stands for. -/
def placedNumbers (names : List String) (inside : List Char) : Option (List Char) :=
  if inside.isEmpty = false ∧ inside.all Char.isDigit then
    (names[digitsValue inside]?).map fun name => '{' :: name.toList ++ ['}']
  else none

theorem name?_of_placedNumbers {names : List String} {inside new : List Char}
    (reads : placedNumbers names inside = some new) : name? inside = some (String.ofList inside) := by
  unfold placedNumbers at reads
  split at reads
  · next digits => exact name?_digits (List.isEmpty_eq_false_iff.1 digits.1) (List.all_eq_true.1 digits.2)
  · cases reads

/-- The names and the filter that a source is compiled to: the one can be read off the other, and the source off both. -/
structure Canonical (source : String) (t : Template) : Prop where
  /-- No name is listed twice, -/
  distinct : t.placeholders.Nodup
  /-- and listed are those that stand between braces in the source, -/
  names (name : String) : name ∈ t.placeholders ↔
    IsName name ∧ ∃ before after, source.toList = before ++ '{' :: name.toList ++ '}' :: after
  /-- in the order in which they first do so. -/
  ordered {i j : Nat} {name other : String} : i < j → t.placeholders[i]? = some name →
    t.placeholders[j]? = some other → ∀ before after, source.toList = before ++ '{' :: other.toList ++ '}' :: after →
      ∃ earlier later, before = earlier ++ '{' :: name.toList ++ '}' :: later
  /-- Digits between braces in the filter are the numeral of a place in the list, -/
  numbers (before digits after : List Char) : t.filter.toList = before ++ '{' :: digits ++ '}' :: after → digits ≠ [] →
    (∀ c ∈ digits, c.isDigit) → ∃ i < t.placeholders.length, digits = numeral i
  /-- and every place has its numeral there. -/
  everyNumber {i : Nat} : i < t.placeholders.length →
    ∃ before after, t.filter.toList = before ++ '{' :: numeral i ++ '}' :: after
  /-- With the names in the places of their numbers, the filter is the source again. -/
  lossless : Substituted (placedNumbers t.placeholders) t.filter.toList source.toList
  /-- The filter compiles to itself, and its names are the numerals in order. -/
  stable : compile t.filter = ⟨t.filter, t.filter,
    (List.range t.placeholders.length).map fun i => String.ofList (numeral i)⟩

variable {source : String}

theorem mem_placeholders {name : String} :
    name ∈ (compile source).placeholders ↔ .marker name ∈ Span.ofText name? source.toList := by
  simp only [compile, List.mem_eraseDups, List.mem_filterMap]
  constructor
  · rintro ⟨_ | name, member, same⟩
    · cases same
    · cases same
      exact member
  · exact fun member => ⟨_, member, rfl⟩

theorem placeholders_nodup : (compile source).placeholders.Nodup := eraseDups_nodup _

theorem idxOf_lt {name : String} (member : .marker name ∈ Span.ofText name? source.toList) :
    (compile source).placeholders.idxOf name < (compile source).placeholders.length :=
  List.idxOf_lt_length_of_mem (mem_placeholders.2 member)

/-- A name stands between braces where the source is taken apart. -/
theorem exists_written {name : String} :
    .marker name ∈ Span.ofText name? source.toList ↔
      IsName name ∧ ∃ before after, source.toList = before ++ '{' :: name.toList ++ '}' :: after := by
  rw [Span.marker_mem_ofText fun _ _ => noOpening_of_name?]
  constructor
  · rintro ⟨before, inside, after, split, -, reads⟩
    obtain ⟨rfl, valid⟩ := name?_eq_some_iff.1 reads
    exact ⟨valid, before, after, split⟩
  · rintro ⟨valid, before, after, split⟩
    exact ⟨before, name.toList, after, split, valid.closed, name?_eq_some_iff.2 ⟨rfl, valid⟩⟩

theorem toList_filter (source : String) : (compile source).filter.toList = (Span.ofText name? source.toList).flatMap
    (Span.text fun name => '{' :: numeral ((compile source).placeholders.idxOf name) ++ ['}']) :=
  String.toList_ofList

/-- The name that takes the place of another one when the filter is compiled again. -/
def renamed (names : List String) (name : String) : String :=
  String.ofList (numeral (names.idxOf name))

/-- Compiling the filter meets the parts of the source, with numerals for names. -/
theorem ofText_filter (source : String) : Span.ofText name? (compile source).filter.toList =
    (Span.ofText name? source.toList).map (Span.map (renamed (compile source).placeholders)) := by
  rw [toList_filter]
  refine Span.ofText_rewritten _ (fun _ _ => noOpening_of_name?) (fun _ => id) fun name _ => ?_
  exact ⟨closing_notMem_numeral _, name?_digits Nat.toDigits_ne_nil fun _ => isDigit_of_mem_numeral⟩

theorem renamed_getElem {names : List String} (distinct : names.Nodup) :
    names.map (renamed names) = (List.range names.length).map fun i => String.ofList (numeral i) := by
  refine List.ext_getElem (by simp) fun i _ _ => ?_
  simp [renamed, distinct.idxOf_getElem]

theorem renamed_inj {names : List String} {name other : String} (member : name ∈ names)
    (same : renamed names name = renamed names other) : name = other :=
  (List.idxOf_inj member).1 (numeral_injective (String.ofList_injective same))

/-- The names of the filter, when it is compiled again. -/
theorem placeholders_filter (source : String) : (compile (compile source).filter).placeholders =
    (List.range (compile source).placeholders.length).map fun i => String.ofList (numeral i) := by
  have names : (Span.ofText name? (compile source).filter.toList).filterMap Span.marker? =
      ((Span.ofText name? source.toList).filterMap Span.marker?).map (renamed (compile source).placeholders) := by
    rw [ofText_filter, List.filterMap_map, List.map_filterMap]
    congr 1
    funext part
    cases part <;> rfl
  have apart : ∀ name ∈ (Span.ofText name? source.toList).filterMap Span.marker?,
      ∀ other ∈ (Span.ofText name? source.toList).filterMap Span.marker?,
        renamed (compile source).placeholders name = renamed (compile source).placeholders other → name = other :=
    fun name member _ _ => renamed_inj (List.mem_eraseDups.2 member)
  calc (compile (compile source).filter).placeholders
      = (((Span.ofText name? source.toList).filterMap Span.marker?).map
          (renamed (compile source).placeholders)).eraseDups := by rw [← names]; rfl
    _ = (compile source).placeholders.map (renamed (compile source).placeholders) := by rw [eraseDups_map apart]; rfl
    _ = _ := renamed_getElem placeholders_nodup

/-- A name keeps its number when the filter is compiled again. -/
theorem idxOf_renamed {name : String} (member : name ∈ (compile source).placeholders) :
    (compile (compile source).filter).placeholders.idxOf (renamed (compile source).placeholders name) =
      (compile source).placeholders.idxOf name := by
  have within := List.idxOf_lt_length_of_mem member
  have again : (compile (compile source).filter).placeholders[(compile source).placeholders.idxOf name]? =
      some (renamed (compile source).placeholders name) := by
    rw [placeholders_filter, List.getElem?_map, List.getElem?_range within]
    rfl
  obtain ⟨below, same⟩ := List.getElem?_eq_some_iff.1 again
  rw [← same, placeholders_nodup.idxOf_getElem]

theorem filter_filter (source : String) : (compile (compile source).filter).filter = (compile source).filter := by
  refine String.toList_injective ?_
  rw [toList_filter, ofText_filter, Span.flatMap_map, toList_filter source]
  refine List.flatMap_congr fun part member => ?_
  match part with
  | .plain c => rfl
  | .marker name =>
    have known : name ∈ (compile source).placeholders := mem_placeholders.2 member
    simp only [Span.text, Function.comp_apply, idxOf_renamed known]

theorem compile_filter (source : String) : compile (compile source).filter = ⟨(compile source).filter,
    (compile source).filter, (List.range (compile source).placeholders.length).map fun i => String.ofList (numeral i)⟩ := by
  rw [← placeholders_filter]
  conv => rhs; arg 2; rw [← filter_filter]
  rfl

theorem placeholders_ordered {i j : Nat} {name other : String} (before : i < j)
    (first : (compile source).placeholders[i]? = some name) (second : (compile source).placeholders[j]? = some other)
    {front back : List Char} (split : source.toList = front ++ '{' :: other.toList ++ '}' :: back) :
    ∃ earlier later, front = earlier ++ '{' :: name.toList ++ '}' :: later := by
  obtain ⟨_, atFirst⟩ := List.getElem?_eq_some_iff.1 first
  obtain ⟨_, atSecond⟩ := List.getElem?_eq_some_iff.1 second
  have valid : IsName other := (exists_written.1 (mem_placeholders.1 (List.mem_of_getElem? second))).1
  have parts := Span.ofText_append_marker (fun _ _ => noOpening_of_name?) valid.closed
    (name?_eq_some_iff.2 ⟨rfl, valid⟩) front back
  have places : (compile source).placeholders.idxOf name < (compile source).placeholders.idxOf other := by
    rwa [← atFirst, ← atSecond, placeholders_nodup.idxOf_getElem, placeholders_nodup.idxOf_getElem]
  have member : name ∈ (Span.ofText name? front).filterMap Span.marker? := by
    simp only [compile, split, parts, List.filterMap_append, List.filterMap_cons, Span.marker?] at places
    exact mem_of_idxOf_lt places
  obtain ⟨_ | known, inside, same⟩ := List.mem_filterMap.1 member
  · cases same
  · cases same
    obtain ⟨earlier, written, later, split, -, reads⟩ :=
      (Span.marker_mem_ofText fun _ _ => noOpening_of_name?).1 inside
    obtain ⟨rfl, -⟩ := name?_eq_some_iff.1 reads
    exact ⟨earlier, later, split⟩

/-- Digits between braces in the filter are the numeral of a place in the list of names. -/
theorem numeral_of_filter {before digits after : List Char}
    (split : (compile source).filter.toList = before ++ '{' :: digits ++ '}' :: after) (filled : digits ≠ [])
    (numeric : ∀ c ∈ digits, c.isDigit) : ∃ i < (compile source).placeholders.length, digits = numeral i := by
  have closed : '}' ∉ digits := by
    intro member
    have digit := numeric '}' member
    simp at digit
  have member := (Span.marker_mem_ofText fun _ _ => noOpening_of_name?).2
    ⟨before, digits, after, split, closed, name?_digits filled numeric⟩
  rw [ofText_filter, List.mem_map] at member
  obtain ⟨_ | name, inside, same⟩ := member
  · cases same
  · refine ⟨_, idxOf_lt inside, ?_⟩
    exact (String.ofList_injective (Span.marker.inj same)).symm

theorem exists_numeral {i : Nat} (within : i < (compile source).placeholders.length) :
    ∃ before after, (compile source).filter.toList = before ++ '{' :: numeral i ++ '}' :: after := by
  have member := mem_placeholders.1 (List.getElem_mem within)
  obtain ⟨front, back, parts⟩ := List.append_of_mem member
  have written := toList_filter source
  rw [parts, List.flatMap_append, List.flatMap_cons, Span.text, placeholders_nodup.idxOf_getElem] at written
  exact ⟨_, _, by simpa only [List.append_assoc, List.cons_append, List.nil_append] using written⟩

/-- Names in the places of their numbers make the source out of the filter. -/
theorem substituted_placedNumbers (source : String) :
    Substituted (placedNumbers (compile source).placeholders) (compile source).filter.toList source.toList := by
  have parts : Span.ofText (placedNumbers (compile source).placeholders) (compile source).filter.toList =
      (Span.ofText name? source.toList).map (Span.map fun name => '{' :: name.toList ++ ['}']) := by
    rw [toList_filter]
    refine Span.ofText_rewritten _ ?_ ?_ ?_
    · intro inside new reads
      exact noOpening_of_name? (name?_of_placedNumbers reads)
    · intro inside unnamed
      cases reads : placedNumbers (compile source).placeholders inside with
      | none => rfl
      | some new => cases unnamed.symm.trans (name?_of_placedNumbers reads)
    · intro name member
      have within := idxOf_lt member
      refine ⟨closing_notMem_numeral _, ?_⟩
      rw [placedNumbers, if_pos ⟨List.isEmpty_eq_false_iff.2 Nat.toDigits_ne_nil,
        List.all_eq_true.2 fun _ => isDigit_of_mem_numeral⟩, digitsValue_numeral,
        List.getElem?_eq_getElem within, List.getElem_idxOf, Option.map_some]
  rw [substituted_iff, parts, Span.flatMap_map, Function.id_comp]
  refine (Span.flatMap_ofText (fun inside name reads => ?_) _).symm
  rw [(name?_eq_some_iff.1 reads).1]

/-- Compiling loses nothing, and each template has one form. -/
theorem compile_canonical (source : String) : Canonical source (compile source) where
  distinct := placeholders_nodup
  names _ := mem_placeholders.trans exists_written
  ordered before first second _ _ split := placeholders_ordered before first second split
  numbers _ _ _ split filled numeric := numeral_of_filter split filled numeric
  everyNumber within := exists_numeral within
  lossless := substituted_placedNumbers source
  stable := compile_filter source

end Template

end DirectoryLogin
