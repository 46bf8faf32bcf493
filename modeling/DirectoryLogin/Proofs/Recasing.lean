import DirectoryLogin.Filter
import DirectoryLogin.Mapping.Group
import DirectoryLogin.Proofs.Distinct
import DirectoryLogin.Proofs.Substitution
import DirectoryLogin.Proofs.Text.Case

namespace DirectoryLogin

open Text

theorem Text.lowerCase_eq_iff {s t : String} : lowerCase s = lowerCase t ↔ sameLetters s t := by
  rw [sameLetters_iff, lowerCase, lowerCase, ← String.toList_inj, String.toList_ofList, String.toList_ofList]

namespace Entry

/-- The entries have the same attributes, but for their order and for the case of their names. -/
structure Recased (e f : Entry) : Prop where
  dn : e.dn = f.dn
  attributes : (e.attributes.map fun p => (lowerCase p.1, p.2)).Perm (f.attributes.map fun p => (lowerCase p.1, p.2))

/-- Distinct names are distinct in lower case. -/
theorem distinct_iff {e : Entry} :
    e.Distinct ↔ (e.attributes.map fun p => (lowerCase p.1, p.2)).Pairwise fun p q => p.1 ≠ q.1 := by
  simp only [Distinct, List.pairwise_map, Ne, lowerCase_eq_iff]

variable {e f : Entry}

theorem Recased.refl (e : Entry) : e.Recased e :=
  ⟨rfl, .refl _⟩

theorem Recased.distinct (recased : e.Recased f) (distinct : e.Distinct) : f.Distinct := by
  rw [distinct_iff] at distinct ⊢
  exact (recased.attributes.pairwise_iff Ne.symm).1 distinct

theorem Recased.values? (recased : e.Recased f) (distinct : e.Distinct) {name other : String}
    (same : sameLetters name other) : e.values? name = f.values? other := by
  have listed (g : Entry) (asked : String) (values : List String) :
      (∃ p ∈ g.attributes, sameLetters p.1 asked ∧ p.2 = values) ↔
        (lowerCase asked, values) ∈ g.attributes.map fun p => (lowerCase p.1, p.2) := by
    simp only [List.mem_map, Prod.mk.injEq, lowerCase_eq_iff]
  refine Option.ext fun values => ?_
  rw [distinct.values?, (recased.distinct distinct).values?, listed, listed, lowerCase_eq_iff.2 same,
    recased.attributes.mem_iff]

end Entry

namespace Filter

mutual

/-- The filter with the names of its attributes in lower case. -/
def lowered : Filter → Filter
  | and filters => .and (loweredAll filters)
  | or filters => .or (loweredAll filters)
  | not filter => .not (lowered filter)
  | present name => .present (lowerCase name)
  | equal name value => .equal (lowerCase name) value

def loweredAll : List Filter → List Filter
  | [] => []
  | f :: rest => lowered f :: loweredAll rest

end

theorem sameLetters_lowerCase (name : String) : sameLetters name (lowerCase name) := by
  rw [sameLetters_iff, lowerCase, String.toList_ofList, List.map_map]
  exact List.map_congr_left fun c _ => (Char.toLower_toLower_eq_toLower c).symm

variable {e f : Entry}

mutual

/-- A filter with other letters in its names holds of an entry that answers to them. -/
theorem holds_lowered (same : ∀ name other, sameLetters name other → e.values? name = f.values? other) (F : Filter) :
    holds f (lowered F) = holds e F := by
  cases F with
  | and filters => rw [lowered, holds, holds, holdsAll_loweredAll same filters]
  | or filters => rw [lowered, holds, holds, holdsAny_loweredAll same filters]
  | not filter => rw [lowered, holds, holds, holds_lowered same filter]
  | present name =>
    rw [lowered, holds, holds, Entry.hasAttribute, Entry.hasAttribute, same name _ (sameLetters_lowerCase name)]
  | equal name value =>
    rw [lowered, holds, holds, same name _ (sameLetters_lowerCase name)]

theorem holdsAll_loweredAll (same : ∀ name other, sameLetters name other → e.values? name = f.values? other)
    (filters : List Filter) : holdsAll f (loweredAll filters) = holdsAll e filters := by
  cases filters with
  | nil => rfl
  | cons F filters => rw [loweredAll, holdsAll, holdsAll, holds_lowered same F, holdsAll_loweredAll same filters]

theorem holdsAny_loweredAll (same : ∀ name other, sameLetters name other → e.values? name = f.values? other)
    (filters : List Filter) : holdsAny f (loweredAll filters) = holdsAny e filters := by
  cases filters with
  | nil => rfl
  | cons F filters => rw [loweredAll, holdsAny, holdsAny, holds_lowered same F, holdsAny_loweredAll same filters]

end

end Filter

namespace Text

/-- Where a text of the same letters has a sign that no letter is written with. -/
theorem exists_split_of_map_toLower {front back ds : List Char} {sign : Char} (plain : sign.isAlpha = false)
    (same : (front ++ sign :: back).map Char.toLower = ds.map Char.toLower) :
    ∃ front' back', ds = front' ++ sign :: back' ∧ front.map Char.toLower = front'.map Char.toLower ∧
      back.map Char.toLower = back'.map Char.toLower := by
  rw [List.map_append, List.map_cons] at same
  obtain ⟨front', rest, rfl, before, after⟩ := List.map_eq_append_iff.1 same.symm
  obtain ⟨d, back', rfl, here, later⟩ := List.map_eq_cons_iff.1 after
  rw [toLower_of_not_isAlpha plain, toLower_eq_iff plain] at here
  exact ⟨front', back', by rw [here], before.symm, later.symm⟩

/-- Texts of the same letters have their braces at the same places. -/
theorem exists_braces_of_map_toLower {inside after ds : List Char}
    (same : ('{' :: inside ++ '}' :: after).map Char.toLower = ds.map Char.toLower) :
    ∃ inside' after', ds = '{' :: inside' ++ '}' :: after' ∧ inside.map Char.toLower = inside'.map Char.toLower ∧
      after.map Char.toLower = after'.map Char.toLower := by
  obtain ⟨d, rest, rfl, first, later⟩ := List.map_eq_cons_iff.1 same.symm
  obtain rfl : d = '{' := (toLower_eq_iff rfl).1 first
  obtain ⟨inside', after', rfl, name, tail⟩ := exists_split_of_map_toLower rfl later.symm
  exact ⟨inside', after', rfl, name, tail⟩

end Text

namespace Span

variable {α β : Type}

/-- Parts that differ at most in the case of a plain letter, where markers are related as they should be. -/
inductive Recased (same : α → β → Prop) : Span α → Span β → Prop
  | plain {c d : Char} (letter : c.toLower = d.toLower) : Recased same (plain c) (plain d)
  | marker {a : α} {b : β} (alike : same a b) : Recased same (marker a) (marker b)

variable {same : α → β → Prop}

@[simp] theorem recased_plain_iff {c d : Char} : Recased same (plain c) (plain d) ↔ c.toLower = d.toLower :=
  ⟨fun recased => by cases recased; assumption, .plain⟩

@[simp] theorem recased_marker_iff {a : α} {b : β} : Recased same (marker a) (marker b) ↔ same a b :=
  ⟨fun recased => by cases recased; assumption, .marker⟩

@[simp] theorem not_recased_plain_marker {c : Char} {b : β} : ¬Recased same (plain c) (marker b) :=
  nofun

@[simp] theorem not_recased_marker_plain {a : α} {d : Char} : ¬Recased same (marker a) (plain d) :=
  nofun

theorem forall₂_recased_append {front : List Char} {spans : List (Span α)} {others : List (Span β)} :
    List.Forall₂ (Recased same) (front.map plain ++ spans) (front.map plain ++ others) ↔
      List.Forall₂ (Recased same) spans others := by
  induction front with
  | nil => rfl
  | cons c front ih => simpa using ih

/-- Readers that do not look at the case of letters take texts of the same letters apart in the same way. -/
theorem ofText_recased {read : List Char → Option α} {read' : List Char → Option β}
    (alike : ∀ inside other, inside.map Char.toLower = other.map Char.toLower →
      Option.Rel same (read inside) (read' other)) {cs ds : List Char}
    (letters : cs.map Char.toLower = ds.map Char.toLower) :
    List.Forall₂ (Recased same) (ofText read cs) (ofText read' ds) := by
  have shut {inside other : List Char} (letters : inside.map Char.toLower = other.map Char.toLower)
      (closed : '}' ∉ inside) : '}' ∉ other := by
    rwa [← mem_map_toLower (by decide), ← letters, mem_map_toLower (by decide)]
  refine ofText_induction (motive := fun cs spans => ∀ ds, cs.map Char.toLower = ds.map Char.toLower →
    List.Forall₂ (Recased same) spans (ofText read' ds)) ?_ ?_ ?_ cs ds letters
  · intro ds letters
    rw [List.map_eq_nil_iff.1 letters.symm, ofText]
    exact .nil
  · intro inside after a closed reads ih ds letters
    obtain ⟨inside', after', rfl, name, tail⟩ := exists_braces_of_map_toLower letters
    obtain ⟨b, reads', known⟩ : ∃ b, read' inside' = some b ∧ same a b := by
      have related := alike inside inside' name
      rw [reads] at related
      generalize read' inside' = outcome at related ⊢
      cases related with
      | some known => exact ⟨_, rfl, known⟩
    rw [ofText_marker after' (shut name closed) reads']
    exact .cons (.marker known) (ih after' tail)
  · intro c rest stray ih ds letters
    obtain ⟨d, ds, rfl, first, tail⟩ := List.map_eq_cons_iff.1 letters.symm
    have stray' : ∀ inside' after', d :: ds = '{' :: inside' ++ '}' :: after' → '}' ∉ inside' → read' inside' = none := by
      intro inside' after' split closed
      rw [split] at letters
      obtain ⟨inside, after, split', name, -⟩ := exists_braces_of_map_toLower letters.symm
      have related := alike inside inside' name.symm
      rw [stray inside after split' (shut name closed)] at related
      generalize read' inside' = outcome at related ⊢
      cases related
      rfl
    rw [ofText_stray d stray']
    exact .cons (.plain first.symm) (ih ds tail.symm)

end Span

namespace Template

theorem isNameCharacter_toLower (c : Char) : isNameCharacter c.toLower = isNameCharacter c := by
  have sign (other : Char) (plain : other.isAlpha = false) : (c.toLower == other) = (c == other) := by
    rw [Bool.eq_iff_iff, beq_iff_eq, beq_iff_eq, toLower_eq_iff plain]
  simp only [isNameCharacter, isAlphanum_toLower, sign '_' rfl, sign '-' rfl, sign '.' rfl]

/-- What reads as a number has no letters. -/
theorem eq_of_readNumeral {bound n : Nat} {inside other : List Char} (reads : readNumeral bound inside = some n)
    (letters : inside.map Char.toLower = other.map Char.toLower) : inside = other := by
  refine map_toLower_inj_of_plain (fun c member => ?_) letters
  obtain ⟨digits, shape, -, numeric, -⟩ := digits_of_readNumeral reads
  rcases shape with rfl | rfl
  · exact isAlpha_of_isDigit (numeric c member)
  · rcases List.mem_cons.1 member with rfl | later
    · rfl
    · exact isAlpha_of_isDigit (numeric c later)

theorem name?_recased {inside other : List Char} (letters : inside.map Char.toLower = other.map Char.toLower) :
    Option.Rel (fun name name' => sameLetters name name') (name? inside) (name? other) := by
  have characters (cs : List Char) : cs.all isNameCharacter = (cs.map Char.toLower).all isNameCharacter := by
    rw [List.all_map]
    exact congrArg cs.all (funext fun c => (isNameCharacter_toLower c).symm)
  have empty (cs : List Char) : cs.isEmpty = (cs.map Char.toLower).isEmpty := List.isEmpty_map.symm
  have both : (!inside.isEmpty && inside.all isNameCharacter) = (!other.isEmpty && other.all isNameCharacter) := by
    rw [characters, empty, letters, ← empty, ← characters]
  rw [name?, name?, both]
  split
  · exact .some (sameLetters_iff.2 (by simpa only [String.toList_ofList] using letters))
  · exact .none

namespace Mark

/-- Marks that differ at most in the case of a name. -/
inductive Recased : Mark → Mark → Prop
  | named {name other : String} (letters : sameLetters name other) : Recased (named name) (named other)
  | counted (inside : List Char) (place : Nat) : Recased (counted inside place) (counted inside place)

theorem read_recased (bound : Nat) (inside other : List Char)
    (letters : inside.map Char.toLower = other.map Char.toLower) :
    Option.Rel Recased (read bound inside) (read bound other) := by
  have names := name?_recased letters
  unfold read
  generalize name? inside = name, name? other = name' at names
  cases names with
  | some alike => exact .some (.named alike)
  | none =>
    dsimp only
    cases reads : readNumeral bound inside with
    | some place =>
      rw [← eq_of_readNumeral reads letters, reads]
      exact .some (.counted inside place)
    | none =>
      cases reads' : readNumeral bound other with
      | some place =>
        rw [eq_of_readNumeral reads' letters.symm, reads] at reads'
        cases reads'
      | none => exact .none

theorem read_named {bound other : Nat} {inside : List Char} {name : String}
    (reads : read bound inside = some (named name)) : read other inside = some (named name) := by
  unfold read at reads ⊢
  split at reads
  · exact reads
  · simp at reads

/-- How a part of a source is written when the parameters are these: a number beyond them stays. -/
def shown (parameters : List String) (value : String → String) : Span Mark → List (Span String)
  | .plain c => [.plain c]
  | .marker (named name) => [.marker (value name)]
  | .marker (counted inside place) =>
    match parameters[place]? with
    | some parameter => [.marker parameter]
    | none => ('{' :: inside ++ ['}']).map .plain

/-- A source may be read with a bound beyond the number of its names. -/
theorem map_ofText {names : List String} {bound : Nat} (le : names.length ≤ bound) (value : String → String)
    (cs : List Char) : (Span.ofText (read names.length) cs).map (Span.map (parameter names value)) =
      (Span.ofText (read bound) cs).flatMap (shown (names.map value) value) := by
  refine Span.ofText_induction (motive := fun cs parts =>
    (Span.ofText (read names.length) cs).map (Span.map (parameter names value)) =
      parts.flatMap (shown (names.map value) value)) ?_ ?_ ?_ cs
  · simp [Span.ofText]
  · intro inside after mark closed reads ih
    cases mark with
    | named name =>
      rw [Span.ofText_marker after closed (read_named reads), List.map_cons, List.flatMap_cons, ih]
      rfl
    | counted written place =>
      obtain ⟨rfl, unnamed, found⟩ := counted_of_read reads
      have narrower := readNumeral_of_le le written
      rw [found, Option.filter_some] at narrower
      by_cases within : place < names.length
      · have reads' : read names.length written = some (counted written place) := by
          simp [read, unnamed, narrower, within]
        rw [Span.ofText_marker after closed reads', List.map_cons, List.flatMap_cons, ih]
        simp [shown, Span.map, parameter, within]
      · have unread : read names.length written = none := by simp [read, unnamed, narrower, within]
        have stray : ∀ other later, '{' :: (written ++ '}' :: after) = '{' :: other ++ '}' :: later → '}' ∉ other →
            read names.length other = none := by
          intro other later same shut
          obtain ⟨rfl, -⟩ := closing_unique (List.cons.inj same).2 closed shut
          exact unread
        have ordinary : '{' ∉ written ++ ['}'] := by simp [noOpening_of_read reads]
        rw [List.cons_append, Span.ofText_stray '{' stray, List.append_cons, Span.ofText_append_plain after ordinary,
          List.map_cons, List.map_append, ih]
        simp [shown, Span.map, within]
  · intro c rest stray ih
    have stray' : ∀ inside after, c :: rest = '{' :: inside ++ '}' :: after → '}' ∉ inside →
        read names.length inside = none := by
      intro inside after same closed
      obtain ⟨unnamed, unread⟩ := read_eq_none.1 (stray inside after same closed)
      exact read_eq_none.2 ⟨unnamed, by rw [readNumeral_of_le le, unread]; rfl⟩
    rw [Span.ofText_stray c stray', List.map_cons, ih]
    rfl

/-- A number is written the same if it stands for the same parameter, or for none. -/
theorem shown_counted_iff {parameters parameters' : List String} {value value' : String → String} {inside : List Char}
    {place : Nat} {spans others : List (Span String)} :
    List.Forall₂ (Span.Recased Eq) (shown parameters value (.marker (counted inside place)) ++ spans)
        (shown parameters' value' (.marker (counted inside place)) ++ others) ↔
      parameters[place]? = parameters'[place]? ∧ List.Forall₂ (Span.Recased Eq) spans others := by
  cases found : parameters[place]? with
  | none =>
    cases found' : parameters'[place]? with
    | none => simp only [shown, found, found', Span.forall₂_recased_append, true_and]
    | some parameter' => simp [shown, found, found']
  | some parameter =>
    cases found' : parameters'[place]? with
    | none => simp [shown, found, found']
    | some parameter' => simp [shown, found, found']

/-- Sources of the same letters are written the same exactly if the numbers in them stand for the same parameters. -/
theorem shown_recased_iff {parts others : List (Span Mark)} (alike : List.Forall₂ (Span.Recased Recased) parts others)
    {parameters parameters' : List String} {value value' : String → String}
    (same : ∀ name other, sameLetters name other → value name = value' other) :
    List.Forall₂ (Span.Recased Eq) (parts.flatMap (shown parameters value)) (others.flatMap (shown parameters' value')) ↔
      ∀ inside place, .marker (counted inside place) ∈ parts → parameters[place]? = parameters'[place]? := by
  induction alike with
  | nil => simp
  | @cons part other parts others head _ ih =>
    rw [List.flatMap_cons, List.flatMap_cons]
    cases head with
    | plain letter =>
      simp [shown, letter, ih]
    | marker alike =>
      cases alike with
      | named letters =>
        simp [shown, same _ _ letters, ih]
      | counted inside place =>
        rw [shown_counted_iff, ih]
        constructor
        · rintro ⟨first, rest⟩ inside' place' member
          rcases List.mem_cons.1 member with here | later
          · cases here
            exact first
          · exact rest inside' place' later
        · exact fun all => ⟨all inside place List.mem_cons_self, fun inside' place' later =>
            all inside' place' (List.mem_cons_of_mem _ later)⟩

/-- What stands in a source for itself. -/
def literal : Span Mark → List Char
  | .plain c => [c]
  | .marker (named _) => []
  | .marker (counted inside _) => '{' :: inside ++ ['}']

/-- Sources that differ in their names alone are written in the very same way. -/
theorem shown_eq {parts others : List (Span Mark)} (alike : List.Forall₂ (Span.Recased Recased) parts others)
    {parameters parameters' : List String} {value value' : String → String}
    (same : ∀ name other, sameLetters name other → value name = value' other)
    (numbers : ∀ inside place, .marker (counted inside place) ∈ parts → parameters[place]? = parameters'[place]?)
    (literals : parts.flatMap literal = others.flatMap literal) :
    parts.flatMap (shown parameters value) = others.flatMap (shown parameters' value') := by
  induction alike with
  | nil => rfl
  | cons head _ ih =>
    have later := ih fun inside place member => numbers inside place (List.mem_cons_of_mem _ member)
    rw [List.flatMap_cons, List.flatMap_cons] at literals ⊢
    cases head with
    | plain letter =>
      obtain ⟨rfl, rest⟩ := List.cons.inj literals
      rw [later rest]
      rfl
    | marker alike =>
      cases alike with
      | named letters =>
        rw [later literals]
        simp only [shown, same _ _ letters]
      | counted inside place =>
        rw [later (List.append_cancel_left literals)]
        simp only [shown, numbers inside place List.mem_cons_self]

end Mark

/-- The text of a source without its placeholders. -/
def literal (source : String) : List Char :=
  (Span.ofText name? source.toList).flatMap (Span.text fun _ => [])

theorem literal_eq (source : String) (bound : Nat) :
    literal source = (Span.ofText (Mark.read bound) source.toList).flatMap Mark.literal := by
  rw [literal, Mark.ofText_name? bound, List.flatMap_assoc]
  refine List.flatMap_congr fun part _ => ?_
  match part with
  | .plain c => rfl
  | .marker (.named name) => rfl
  | .marker (.counted inside place) => exact FilterForm.flatMap_plain _ _

end Template

namespace Request

/-- The parts of the filter: the characters that stand for themselves, and the parameters. -/
def parts (r : Request) : List (Span String) :=
  Span.ofText (parameterAt r.parameters) r.positional.toList

/-- The filters are the same, but for the case of letters that come from no parameter. -/
def Recased (r s : Request) : Prop :=
  List.Forall₂ (Span.Recased Eq) r.parts s.parts

/-- What reads as a number in the source, a row of digits after a plus sign between braces, stands for the same parameter
of both requests, or for none of either. -/
def SameNumbers (source : String) (r s : Request) : Prop :=
  ∀ before digits after, source.toList = before ++ '{' :: '+' :: digits ++ '}' :: after → digits ≠ [] →
    (∀ c ∈ digits, c.isDigit) → r.parameters[digitsValue digits]? = s.parameters[digitsValue digits]?

theorem filter_eq (r : Request) : r.filter = String.ofList (r.parts.flatMap (Span.text escapedValue)) :=
  rfl

theorem Recased.filter {r s : Request} (recased : r.Recased s) : sameLetters r.filter s.filter := by
  rw [sameLetters_iff, filter_eq, filter_eq, String.toList_ofList, String.toList_ofList, List.map_flatMap,
    List.map_flatMap]
  unfold Recased at recased
  generalize r.parts = spans, s.parts = others at recased
  induction recased with
  | nil => rfl
  | cons head _ ih =>
    rw [List.flatMap_cons, List.flatMap_cons, ih]
    cases head with
    | plain letter => simp [Span.text, letter]
    | marker same => rw [same]

end Request

namespace GroupMapping

variable {m : GroupMapping} {e : Entry}

/-- A placeholder has the value that the entry has for it. -/
theorem valuesOf_get? {name : String} (placed : name ∈ m.request.placeholders) :
    (m.valuesOf e).get? name = e.value? name := by
  have pair (v : String) : (name, v) ∈ (m.request.placeholders.filterMap fun other =>
      (e.value? other).map fun value => (other, value)) ↔ e.value? name = some v := by
    simp [List.mem_filterMap, placed]
  refine Option.ext fun value => ?_
  rw [valuesOf, Dictionary.get?_ofList_iff_of_agree, pair]
  intro v w first second
  exact Option.some.inj (((pair v).1 first).symm.trans ((pair w).1 second))

theorem parameters_search : (m.search e).parameters =
    m.request.placeholders.map fun name => (e.value? name).getD "" :=
  List.map_congr_left fun name placed => by rw [valuesOf_get? placed]

theorem parts_search {source : String} (compiled : m.request = .compile source) {bound : Nat}
    (le : m.request.placeholders.length ≤ bound) : (m.search e).parts =
      (Span.ofText (Template.Mark.read bound) source.toList).flatMap
        (Template.Mark.shown (m.search e).parameters fun name => (e.value? name).getD "") := by
  have known : ∀ name, .marker name ∈ Span.ofText Template.name? source.toList → name ∈ m.request.placeholders := by
    rw [compiled]
    exact fun name member => List.mem_eraseDups.2 (List.mem_filterMap.2 ⟨_, member, rfl⟩)
  have apart := Template.Mark.ofText_numbered (fun name => (e.value? name).getD "") source.toList known
  rw [Request.parts, parameters_search, ← Template.Mark.map_ofText le, ← apart]
  simp only [search, Template.bind, compiled, Template.compile, String.toList_ofList]

/-- The numbers in a source are those that are read in it with a bound beyond both requests. -/
theorem sameNumbers_iff {n : GroupMapping} {f : Entry} (source : String) {bound : Nat}
    (le : m.request.placeholders.length ≤ bound) (le' : n.request.placeholders.length ≤ bound) :
    Request.SameNumbers source (m.search e) (n.search f) ↔
      ∀ inside place, .marker (.counted inside place) ∈ Span.ofText (Template.Mark.read bound) source.toList →
        (m.search e).parameters[place]? = (n.search f).parameters[place]? := by
  have beyond (k : GroupMapping) (g : Entry) {place : Nat} (far : k.request.placeholders.length ≤ place) :
      (k.search g).parameters[place]? = none := by
    rw [parameters_search]
    exact List.getElem?_eq_none (by rwa [List.length_map])
  constructor
  · intro same inside place member
    obtain ⟨before, digits, after, split, -, filled, numeric, rfl, -⟩ := Template.marker_counted_mem.1 member
    exact same before digits after split filled numeric
  · intro same before digits after split filled numeric
    rcases Nat.lt_or_ge (digitsValue digits) bound with below | far
    · exact same _ _ (Template.marker_counted_mem.2 ⟨before, digits, after, split, rfl, filled, numeric, rfl, below⟩)
    · rw [beyond m e (Nat.le_trans le far), beyond n f (Nat.le_trans le' far)]

end GroupMapping

namespace Entry

variable {e f : Entry}

theorem Recased.value? (recased : e.Recased f) (distinct : e.Distinct) {name other : String}
    (same : sameLetters name other) : e.value? name = f.value? other := by
  have dn : sameLetters name "dn" = sameLetters other "dn" := by
    rw [sameLetters, sameLetters, sameLetters_iff.1 same]
  rw [Entry.value?, Entry.value?, dn, recased.dn, first?, first?, recased.values? distinct same]

/-- Requests from sources of the same letters, for entries that are the same but for case and order, are the same but for
the case of letters if and only if the numbers in the sources stand for the same, and they are the very same if besides
the sources differ in their placeholders alone. -/
theorem Recased.search (recased : e.Recased f) (distinct : e.Distinct) {m n : GroupMapping} {source other : String}
    (compiled : m.request = .compile source) (compiled' : n.request = .compile other)
    (letters : sameLetters source other) :
    ((m.search e).Recased (n.search f) ↔ Request.SameNumbers source (m.search e) (n.search f)) ∧
    (Request.SameNumbers source (m.search e) (n.search f) → Template.literal source = Template.literal other →
      (m.search e).filter = (n.search f).filter) := by
  have le := Nat.le_max_left m.request.placeholders.length n.request.placeholders.length
  have le' := Nat.le_max_right m.request.placeholders.length n.request.placeholders.length
  generalize max m.request.placeholders.length n.request.placeholders.length = bound at le le'
  have apart := Span.ofText_recased (Template.Mark.read_recased bound) (sameLetters_iff.1 letters)
  have values (name other : String) (same : sameLetters name other) :
      (e.value? name).getD "" = (f.value? other).getD "" := by
    rw [recased.value? distinct same]
  rw [GroupMapping.sameNumbers_iff source le le', Request.Recased, Request.filter_eq, Request.filter_eq,
    GroupMapping.parts_search compiled le, GroupMapping.parts_search compiled' le']
  refine ⟨Template.Mark.shown_recased_iff apart values, fun numbers literals => ?_⟩
  rw [Template.literal_eq source bound, Template.literal_eq other bound] at literals
  rw [Template.Mark.shown_eq apart values numbers literals]

/-- Neither the order of attributes nor the case of their names matters. Lookups find the same, and filters hold alike.
The request for groups is the same but for the case of its own letters, and the very same if only placeholders are
written in another case, as long as the numbers that stand in its source after a plus sign stand for the same parameters.
Every placeholder that is spelled like `dn` has the name of the entry. -/
theorem recased_alike {e f : Entry} (recased : e.Recased f) (distinct : e.Distinct) :
    (∀ name other, sameLetters name other → e.values? name = f.values? other ∧ e.first? name = f.first? other ∧
      e.hasAttribute name = f.hasAttribute other ∧ e.value? name = f.value? other) ∧
    (∀ F G : Filter, F.lowered = G.lowered → F.holds e = G.holds f) ∧
    ∀ (m n : GroupMapping) (source other : String), m.request = .compile source → n.request = .compile other →
      sameLetters source other →
        ((m.search e).Recased (n.search f) ↔ Request.SameNumbers source (m.search e) (n.search f)) ∧
        (Request.SameNumbers source (m.search e) (n.search f) → Template.literal source = Template.literal other →
          (m.search e).filter = (n.search f).filter) ∧
        ∀ name ∈ m.request.placeholders, sameLetters name "dn" → (m.valuesOf e).get? name = some e.dn := by
  refine ⟨fun name other same => ?_, fun F G same => ?_, fun m n source other compiled compiled' letters => ?_⟩
  · have values := recased.values? distinct same
    have first : e.first? name = f.first? other := by rw [first?, first?, values]
    have known : e.hasAttribute name = f.hasAttribute other := by rw [hasAttribute, hasAttribute, values]
    exact ⟨values, first, known, recased.value? distinct same⟩
  · have across : F.lowered.holds f = F.holds e :=
      Filter.holds_lowered (fun _ _ same => recased.values? distinct same) F
    have within : G.lowered.holds f = G.holds f :=
      Filter.holds_lowered (fun _ _ same => (Recased.refl f).values? (recased.distinct distinct) same) G
    rw [← across, same, within]
  · obtain ⟨parts, filters⟩ := recased.search distinct compiled compiled' letters
    refine ⟨parts, filters, fun name placed same => ?_⟩
    rw [GroupMapping.valuesOf_get? placed, Entry.value?, if_pos same]

namespace Visitor

def stored : Entry where
  dn := "uid=v,dc=example,dc=org"
  attributes := [("uid", ["v"]), ("departmentNumber", ["7"])]

def renamed : Entry where
  dn := "uid=v,dc=example,dc=org"
  attributes := [("DepartmentNumber", ["7"]), ("UID", ["v"])]

theorem recased : stored.Recased renamed :=
  ⟨rfl, by decide +kernel⟩

def groups (source : String) : GroupMapping :=
  .ofRequest "ou=groups,dc=example,dc=org" source

def ofMember : String := "(&(member=\x7bdn\x7d)(owner=\x7buid\x7d))"

def ofMemberRecased : String := "(&(Member=\x7bDN\x7d)(OWNER=\x7bUid\x7d))"

def ofMemberPlaced : String := "(&(member=\x7bDN\x7d)(owner=\x7bUid\x7d))"

theorem sameNumbers {source : String} (plain : '+' ∉ source.toList) (r s : Request) : Request.SameNumbers source r s := by
  intro before digits after split
  exact absurd (by simp [split]) plain

/-- One placeholder in two cases, and a number. -/
def inTwoCases : String := "(&(a=\x7buid\x7d)(b=\x7bUID\x7d)(c=\x7b+1\x7d))"

def inOneCase : String := "(&(a=\x7buid\x7d)(b=\x7buid\x7d)(c=\x7b+1\x7d))"

end Visitor

/-- Other names in another order, and the same answers. -/
theorem recased_alike_visitor :
    Visitor.stored.value? "departmentNumber" = Visitor.renamed.value? "DEPARTMENTNUMBER" ∧
    Filter.holds Visitor.stored (.and [.equal "uid" "V", .not (.present "sn")]) =
      Filter.holds Visitor.renamed (.and [.equal "Uid" "V", .not (.present "SN")]) ∧
    ((Visitor.groups Visitor.ofMember).search Visitor.stored).Recased
      ((Visitor.groups Visitor.ofMemberRecased).search Visitor.renamed) ∧
    ((Visitor.groups Visitor.ofMember).search Visitor.stored).filter =
      ((Visitor.groups Visitor.ofMemberPlaced).search Visitor.renamed).filter ∧
    ((Visitor.groups Visitor.ofMemberRecased).valuesOf Visitor.renamed).get? "DN" = some "uid=v,dc=example,dc=org" := by
  obtain ⟨lookups, filters, requests⟩ := recased_alike Visitor.recased (by decide +kernel)
  have again := (recased_alike (Recased.refl Visitor.renamed) (by decide +kernel)).2.2
  refine ⟨(lookups _ _ (by decide)).2.2.2, filters _ _ rfl, ?_, ?_, ?_⟩
  · have same := requests (Visitor.groups Visitor.ofMember) (Visitor.groups Visitor.ofMemberRecased) Visitor.ofMember
      Visitor.ofMemberRecased rfl rfl (by decide)
    exact same.1.2 (Visitor.sameNumbers (by decide) _ _)
  · have same := requests (Visitor.groups Visitor.ofMember) (Visitor.groups Visitor.ofMemberPlaced) Visitor.ofMember
      Visitor.ofMemberPlaced rfl rfl (by decide)
    exact same.2.1 (Visitor.sameNumbers (by decide) _ _) (by decide +kernel)
  · have same := again (Visitor.groups Visitor.ofMemberRecased) (Visitor.groups Visitor.ofMember) Visitor.ofMemberRecased
      Visitor.ofMember rfl rfl (by decide)
    exact same.2.2 "DN" (by decide +kernel) (by decide)

/-- The number stands for a parameter that there is only where one placeholder is written in two cases. -/
theorem recased_plusSign :
    Visitor.stored.Recased Visitor.stored ∧ Visitor.stored.Distinct ∧ sameLetters Visitor.inTwoCases Visitor.inOneCase ∧
    ((Visitor.groups Visitor.inTwoCases).search Visitor.stored).filter = "(&(a=v)(b=v)(c=v))" ∧
    ((Visitor.groups Visitor.inOneCase).search Visitor.stored).filter = "(&(a=v)(b=v)(c=\x7b+1\x7d))" ∧
    ¬((Visitor.groups Visitor.inTwoCases).search Visitor.stored).Recased
      ((Visitor.groups Visitor.inOneCase).search Visitor.stored) := by
  have rendered : ((Visitor.groups Visitor.inTwoCases).search Visitor.stored).filter = "(&(a=v)(b=v)(c=v))" := by
    decide +kernel
  have rendered' : ((Visitor.groups Visitor.inOneCase).search Visitor.stored).filter = "(&(a=v)(b=v)(c=\x7b+1\x7d))" := by
    decide +kernel
  refine ⟨.refl _, by decide +kernel, by decide, rendered, rendered', fun same => ?_⟩
  have letters := same.filter
  rw [rendered, rendered'] at letters
  exact absurd letters (by decide)

end Entry

end DirectoryLogin
