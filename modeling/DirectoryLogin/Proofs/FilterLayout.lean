import DirectoryLogin.Proofs.EscapedValue
import DirectoryLogin.Proofs.Substitution

namespace DirectoryLogin

open Text

namespace Request

/-- A marker: what stands between its braces, and the place of the parameter that it stands for. -/
structure Marker where
  written : List Char
  place : Nat

def marker? (count : Nat) (inside : List Char) : Option Marker :=
  (readNumeral count inside).map (Marker.mk inside)

/-- The layout of a positional text for requests with `count` parameters. -/
def layout (count : Nat) (positional : String) : List (Span Marker) :=
  Span.ofText (marker? count) positional.toList

/-- A layout with its markers as they are written. -/
def spelled (parts : List (Span Marker)) : List Char :=
  parts.flatMap (Span.text fun m => '{' :: m.written ++ ['}'])

/-- A layout with escaped parameters in the places of its markers. -/
def filled (parameters : List String) (parts : List (Span Marker)) : List Char :=
  parts.flatMap (Span.text fun m => escapedValue ((parameters[m.place]?).getD ""))

theorem place_lt_of_marker? {count : Nat} {inside : List Char} {m : Marker} (reads : marker? count inside = some m) :
    m.place < count := by
  obtain ⟨place, found, same⟩ := Option.map_eq_some_iff.1 reads
  obtain ⟨_, _, _, _, _, below⟩ := digits_of_readNumeral found
  rw [← same]
  exact below

theorem isFilterSyntax_of_isDigit {c : Char} (digit : c.isDigit) : isFilterSyntax c = false := by
  by_cases special : isFilterSyntax c = true
  · simp only [isFilterSyntax, Bool.or_eq_true, beq_iff_eq] at special
    obtain ((rfl | rfl) | rfl) | rfl := special <;> simp at digit
  · exact Bool.not_eq_true _ ▸ special

/-- What reads as a marker is a numeral, and no character of one means anything in a filter. -/
theorem plain_of_marker? {count : Nat} {inside : List Char} {m : Marker} (reads : marker? count inside = some m) :
    ∀ c ∈ '{' :: m.written ++ ['}'], isFilterSyntax c = false := by
  obtain ⟨place, found, same⟩ := Option.map_eq_some_iff.1 reads
  obtain ⟨digits, shape, _, numeric, _⟩ := digits_of_readNumeral found
  have inner : ∀ c ∈ inside, c = '+' ∨ c ∈ digits := by
    intro c member
    rcases shape with whole | signed
    · exact .inr (whole ▸ member)
    · exact List.mem_cons.1 (signed ▸ member)
  intro c member
  rw [← same] at member
  simp only [List.cons_append, List.mem_cons, List.mem_append, List.not_mem_nil, or_false] at member
  rcases member with rfl | within | rfl
  · decide
  · rcases inner c within with rfl | digit
    · decide
    · exact isFilterSyntax_of_isDigit (numeric c digit)
  · decide

/-- A marker of a layout was read as one. -/
theorem exists_marker?_of_mem {count : Nat} {positional : String} {m : Marker}
    (member : .marker m ∈ layout count positional) : ∃ inside, marker? count inside = some m := by
  obtain ⟨_, inside, _, _, _, reads⟩ := Span.exists_marker_of_mem member
  exact ⟨inside, reads⟩

/-- A layout leaves nothing of its text out. -/
theorem spelled_layout (count : Nat) (positional : String) :
    spelled (layout count positional) = positional.toList := by
  refine Span.ofText_induction (motive := fun cs parts => spelled parts = cs) rfl ?_ ?_ positional.toList
  · intro inside after m _ reads ih
    obtain ⟨place, _, same⟩ := Option.map_eq_some_iff.1 reads
    have written : m.written = inside := by rw [← same]
    rw [spelled, List.flatMap_cons, ← spelled, ih, Span.text, written]
    simp
  · intro c rest _ ih
    rw [spelled, List.flatMap_cons, ← spelled, ih]
    rfl

/-- The parameter of a marker is the one at the place that the marker names. -/
theorem parameterAt_eq (parameters : List String) :
    parameterAt parameters =
      fun inside => (marker? parameters.length inside).map fun m => (parameters[m.place]?).getD "" := by
  funext inside
  rw [parameterAt, marker?]
  cases found : readNumeral parameters.length inside with
  | none => rfl
  | some place =>
    obtain ⟨_, _, _, _, _, below⟩ := digits_of_readNumeral found
    simp [below]

/-- A filter is its layout with the parameters put in. -/
theorem toList_filter (r : Request) :
    r.filter.toList = filled r.parameters (layout r.parameters.length r.positional) := by
  rw [filter, String.toList_ofList, parameterAt_eq, Span.ofText_map, Span.flatMap_map]
  rfl

/-- Whatever is put in, the characters that mean something in a filter are those of the positional text. -/
theorem filter_isFilterSyntax_filled (parameters : List String) (count : Nat) (positional : String) :
    (filled parameters (layout count positional)).filter isFilterSyntax =
      positional.toList.filter isFilterSyntax := by
  have none_of {cs : List Char} (ordinary : ∀ c ∈ cs, isFilterSyntax c = false) : cs.filter isFilterSyntax = [] :=
    List.filter_eq_nil_iff.2 fun c member => by simp [ordinary c member]
  conv_rhs => rw [← spelled_layout count positional]
  rw [filled, spelled, List.filter_flatMap, List.filter_flatMap]
  refine List.flatMap_congr fun part member => ?_
  cases part with
  | plain c => rfl
  | marker m =>
    obtain ⟨inside, reads⟩ := exists_marker?_of_mem member
    have value := none_of (isFilterSyntax_escapedValue ((parameters[m.place]?).getD ""))
    have name := none_of (plain_of_marker? reads)
    exact value.trans name.symm

/-- The structure of a filter does not depend on its parameters. The parentheses, asterisks and null characters of a
filter are those of its positional text, in their order. A request with the same positional text and equally many
parameters has a filter of the same layout, which spells the positional text and has a parameter for each of its
markers; the two filters differ in the escaped parameters at those places alone. -/
theorem filter_structure (r : Request) :
    r.filter.toList.filter isFilterSyntax = r.positional.toList.filter isFilterSyntax ∧
    spelled (layout r.parameters.length r.positional) = r.positional.toList ∧
    (∀ m, .marker m ∈ layout r.parameters.length r.positional → m.place < r.parameters.length) ∧
    ∀ r' : Request, r'.positional = r.positional → r'.parameters.length = r.parameters.length →
      ∃ parts, parts = layout r.parameters.length r.positional ∧
        r.filter.toList = filled r.parameters parts ∧ r'.filter.toList = filled r'.parameters parts := by
  refine ⟨?_, spelled_layout _ _, fun m member => ?_, fun r' text count => ?_⟩
  · rw [toList_filter]
    exact filter_isFilterSyntax_filled _ _ _
  · obtain ⟨inside, reads⟩ := exists_marker?_of_mem member
    exact place_lt_of_marker? reads
  · refine ⟨_, rfl, toList_filter r, ?_⟩
    rw [toList_filter r', text, count]

namespace Tangled

/-- A marker after a stray brace, one with a sign, one out of range and one without an end. -/
def positional : String :=
  "(&(a=\x7b\x7b0\x7d)(b=\x7b+1\x7d)(c=\x7b2\x7d)(d=\x7b1"

def plain : Request := { baseDn := "dc=example", positional, parameters := ["ada", "lovelace"] }

/-- Parameters that look like markers and like filters. -/
def hostile : Request := { baseDn := "dc=example", positional, parameters := ["\x7b1\x7d", "*)(|(\\"] }

end Tangled

/-- Hostile parameters do not get out of their places. -/
theorem filter_structure_tangled :
    Tangled.plain.filter = "(&(a=\x7bada)(b=lovelace)(c=\x7b2\x7d)(d=\x7b1" ∧
    Tangled.hostile.filter = "(&(a=\x7b\x7b1\x7d)(b=\\2a\\29\\28|\\28\\5c)(c=\x7b2\x7d)(d=\x7b1" ∧
    Tangled.hostile.positional = Tangled.plain.positional ∧
    Tangled.hostile.parameters.length = Tangled.plain.parameters.length ∧
    ∃ parts, parts = layout Tangled.plain.parameters.length Tangled.plain.positional ∧
      Tangled.plain.filter.toList = filled Tangled.plain.parameters parts ∧
      Tangled.hostile.filter.toList = filled Tangled.hostile.parameters parts := by
  have text : Tangled.hostile.positional = Tangled.plain.positional := rfl
  have count : Tangled.hostile.parameters.length = Tangled.plain.parameters.length := rfl
  exact ⟨by decide +kernel, by decide +kernel, text, count, (filter_structure Tangled.plain).2.2.2 _ text count⟩

end Request

end DirectoryLogin
