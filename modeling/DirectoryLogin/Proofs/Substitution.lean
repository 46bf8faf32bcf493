import DirectoryLogin.Proofs.FilterForm
import Mathlib.Algebra.Order.BigOperators.Group.List
import Mathlib.Algebra.Order.Group.Nat
import Mathlib.Data.List.Basic

namespace DirectoryLogin

open Text

/-- One pass over a text, from left to right. What stands between an opening brace and the next closing brace gives way
to what it stands for, if it stands for anything; every other character stays. What has been put in is not looked at. -/
inductive Substituted (stands : List Char → Option (List Char)) : List Char → List Char → Prop
  | nil : Substituted stands [] []
  | placed {inside after written new} (closed : '}' ∉ inside) (known : stands inside = some new)
    (later : Substituted stands after written) :
    Substituted stands ('{' :: inside ++ '}' :: after) (new ++ written)
  | kept {c rest written}
    (stray : ∀ inside after, c :: rest = '{' :: inside ++ '}' :: after → '}' ∉ inside → stands inside = none)
    (later : Substituted stands rest written) : Substituted stands (c :: rest) (c :: written)

namespace Text

theorem cutAt_eq_some {c : Char} {cs before after : List Char}
    (found : cutAt (· == c) cs = some (before, after)) : cs = before ++ c :: after ∧ c ∉ before := by
  obtain ⟨d, split, cuts, skips⟩ := exists_split_of_cutAt found
  obtain rfl := eq_of_beq cuts
  exact ⟨split, fun member => beq_eq_false_iff_ne.1 (skips d member) rfl⟩

theorem cutAt_closing {inside : List Char} (after : List Char) (closed : '}' ∉ inside) :
    cutAt (· == '}') (inside ++ '}' :: after) = some (inside, after) :=
  cutAt_append after (fun _ member => beq_eq_false_iff_ne.2 fun same => closed (same ▸ member)) (beq_self_eq_true '}')

/-- A text has one first closing brace. -/
theorem closing_unique {inside other after later : List Char} (split : inside ++ '}' :: after = other ++ '}' :: later)
    (closed : '}' ∉ inside) (shut : '}' ∉ other) : inside = other ∧ after = later := by
  have cut := cutAt_closing after closed
  rw [split, cutAt_closing later shut] at cut
  cases cut
  exact ⟨rfl, rfl⟩

/-- A text up to its first brace. -/
theorem exists_first_brace (cs : List Char) : ∃ front back, cs = front ++ back ∧ '{' ∉ front ∧ '}' ∉ front ∧
    (back = [] ∨ (∃ after, back = '}' :: after) ∨ ∃ more, back = '{' :: more) := by
  induction cs with
  | nil => exact ⟨[], [], rfl, List.not_mem_nil, List.not_mem_nil, .inl rfl⟩
  | cons c rest ih =>
    by_cases closing : c = '}'
    · exact ⟨[], c :: rest, rfl, List.not_mem_nil, List.not_mem_nil, .inr (.inl ⟨rest, by rw [closing]⟩)⟩
    · by_cases opening : c = '{'
      · exact ⟨[], c :: rest, rfl, List.not_mem_nil, List.not_mem_nil, .inr (.inr ⟨rest, by rw [opening]⟩)⟩
      · obtain ⟨front, back, split, noOpening, noClosing, last⟩ := ih
        refine ⟨c :: front, back, by rw [split, List.cons_append], ?_, ?_, last⟩
        · simp [noOpening, Ne.symm opening]
        · simp [noClosing, Ne.symm closing]

/-- Where the closing brace of a text comes after an opening one, that one stands before it. -/
theorem mem_of_split {front more inside after : List Char} (split : front ++ '{' :: more = inside ++ '}' :: after)
    (noClosing : '}' ∉ front) : '{' ∈ inside := by
  obtain ⟨between, rfl, rest⟩ | ⟨between, rfl, rest⟩ := List.append_eq_append_iff.1 split
  · cases between with
    | nil => simp at rest
    | cons c between =>
      obtain ⟨rfl, -⟩ := List.cons.inj rest
      exact List.mem_append_right _ List.mem_cons_self
  · cases between with
    | nil => simp at rest
    | cons c between =>
      obtain ⟨rfl, -⟩ := List.cons.inj rest
      exact absurd (List.mem_append_right _ List.mem_cons_self) noClosing

/-- A numeral is a row of digits, perhaps after a plus sign. -/
theorem digits_of_readNumeral {bound n : Nat} {cs : List Char} (reads : readNumeral bound cs = some n) :
    ∃ digits, (cs = digits ∨ cs = '+' :: digits) ∧ digits ≠ [] ∧ (∀ c ∈ digits, c.isDigit) ∧
      digitsValue digits = n ∧ n < bound := by
  have value {digits : List Char} (reads : (if digits.isEmpty || !digits.all Char.isDigit then none
      else if digitsValue digits < bound then some (digitsValue digits) else none) = some n) :
      digits ≠ [] ∧ (∀ c ∈ digits, c.isDigit) ∧ digitsValue digits = n ∧ n < bound := by
    simp only [Option.ite_none_left_eq_some, Option.ite_none_right_eq_some, Option.some.injEq, Bool.or_eq_true,
      not_or, Bool.not_eq_true', Bool.not_eq_false, List.isEmpty_iff, List.all_eq_true] at reads
    obtain ⟨⟨filled, numeric⟩, below, rfl⟩ := reads
    exact ⟨filled, numeric, rfl, below⟩
  unfold readNumeral at reads
  split at reads
  · next digits => exact ⟨digits, .inr rfl, value reads⟩
  · exact ⟨cs, .inl rfl, value reads⟩

theorem noOpening_of_readNumeral {bound n : Nat} {cs : List Char} (reads : readNumeral bound cs = some n) :
    '{' ∉ cs := by
  obtain ⟨digits, shape, _, numeric, _⟩ := digits_of_readNumeral reads
  intro member
  have inDigits : '{' ∈ digits := by
    rcases shape with rfl | rfl
    · exact member
    · simpa using member
  have digit := numeric '{' inDigits
  simp at digit

theorem readNumeral_plusSign (bound : Nat) {digits : List Char} (filled : digits ≠ [])
    (numeric : ∀ c ∈ digits, c.isDigit) (below : digitsValue digits < bound) :
    readNumeral bound ('+' :: digits) = some (digitsValue digits) := by
  have all : digits.all Char.isDigit = true := List.all_eq_true.2 numeric
  simp [readNumeral, filled, all, below]

end Text

namespace Span

variable {α β : Type} {read : List Char → Option α}

theorem ofText_stray {rest : List Char} (c : Char)
    (stray : ∀ inside after, c :: rest = '{' :: inside ++ '}' :: after → '}' ∉ inside → read inside = none) :
    ofText read (c :: rest) = plain c :: ofText read rest := by
  by_cases opening : c = '{'
  · subst opening
    rw [ofText, if_pos rfl]
    split
    · next inside after found =>
      obtain ⟨split, closed⟩ := cutAt_eq_some found
      have unread : read inside = none := stray inside after (by rw [split]; rfl) closed
      simp only [unread]
    · rfl
  · exact ofText_plain read rest opening

theorem ofText_append_plain {front : List Char} (cs : List Char) (ordinary : '{' ∉ front) :
    ofText read (front ++ cs) = front.map plain ++ ofText read cs := by
  induction front with
  | nil => rfl
  | cons c front ih =>
    have different : c ≠ '{' := fun same => ordinary (same ▸ List.mem_cons_self)
    rw [List.cons_append, ofText_plain read _ different, ih fun member => ordinary (List.mem_cons_of_mem _ member)]
    rfl

/-- Induction along the way on which a text is taken apart. -/
@[elab_as_elim]
theorem ofText_induction {motive : List Char → List (Span α) → Prop} (nil : motive [] [])
    (marker : ∀ inside after a, '}' ∉ inside → read inside = some a → motive after (ofText read after) →
      motive ('{' :: inside ++ '}' :: after) (marker a :: ofText read after))
    (plain : ∀ c rest,
      (∀ inside after, c :: rest = '{' :: inside ++ '}' :: after → '}' ∉ inside → read inside = none) →
      motive rest (ofText read rest) → motive (c :: rest) (plain c :: ofText read rest))
    (cs : List Char) : motive cs (ofText read cs) := by
  fun_induction ofText read cs with
  | case1 => exact nil
  | case2 rest inside after found a reads _ ih =>
    obtain ⟨split, closed⟩ := cutAt_eq_some found
    rw [split]
    exact marker inside after a closed reads ih
  | case3 rest inside after found unread ih =>
    refine plain '{' rest (fun other later same closed => ?_) ih
    obtain ⟨split, shut⟩ := cutAt_eq_some found
    obtain ⟨rfl, -⟩ := closing_unique (split.symm.trans (List.cons.inj same).2) shut closed
    exact unread
  | case4 rest missing ih =>
    refine plain '{' rest (fun other later same closed => ?_) ih
    have split : rest = other ++ '}' :: later := (List.cons.inj same).2
    rw [split, cutAt_closing later closed] at missing
    cases missing
  | case5 c rest ordinary ih =>
    exact plain c rest (fun inside after same _ => absurd (List.cons.inj same).1 ordinary) ih

/-- A change of what markers are read as. -/
theorem ofText_map (f : α → β) (cs : List Char) :
    ofText (fun inside => (read inside).map f) cs = (ofText read cs).map (map f) := by
  refine ofText_induction (motive := fun cs spans => ofText _ cs = spans.map (map f)) ?_ ?_ ?_ cs
  · simp [ofText]
  · intro inside after a closed reads ih
    rw [ofText_marker after closed (by rw [reads, Option.map_some]), ih]
    rfl
  · intro c rest stray ih
    rw [ofText_stray c fun inside after same closed => by rw [stray inside after same closed, Option.map_none], ih]
    rfl

/-- Where writing opens every marker with a brace, a text that starts with one is written so. -/
theorem opens_ofText {write : α → List Char} (opens : ∀ a, ∃ more, write a = '{' :: more) (cs : List Char) :
    ∃ more, (ofText read ('{' :: cs)).flatMap (text write) = '{' :: more := by
  rw [ofText, if_pos rfl]
  split
  · split
    · next a _ =>
      obtain ⟨more, starts⟩ := opens a
      simp [text, starts]
    · exact ⟨_, rfl⟩
  · exact ⟨_, rfl⟩

/-- A character that opens no marker for a reader opens none when the markers after it have been written anew: they
start with a brace, and what the reader accepts holds none. -/
theorem stray_rewritten {readAgain : List Char → Option β} {write : α → List Char} {c : Char} {rest : List Char}
    (opens : ∀ a, ∃ more, write a = '{' :: more)
    (noOpening : ∀ inside b, readAgain inside = some b → '{' ∉ inside)
    (stray : ∀ inside after, c :: rest = '{' :: inside ++ '}' :: after → '}' ∉ inside → readAgain inside = none)
    {inside after : List Char}
    (same : c :: (ofText read rest).flatMap (text write) = '{' :: inside ++ '}' :: after)
    (closed : '}' ∉ inside) : readAgain inside = none := by
  obtain ⟨opening, split⟩ := List.cons.inj same
  obtain ⟨front, back, rfl, noOpeningFront, noClosing, last⟩ := exists_first_brace rest
  rw [ofText_append_plain back noOpeningFront, List.flatMap_append, FilterForm.flatMap_plain] at split
  rcases last with rfl | ⟨later, rfl⟩ | ⟨more, rfl⟩
  · have member : '}' ∈ front := by
      simp only [ofText, List.flatMap_nil, List.append_nil] at split
      exact split ▸ List.mem_append_right _ List.mem_cons_self
    exact absurd member noClosing
  · rw [ofText_plain read later (by decide)] at split
    obtain ⟨rfl, -⟩ := closing_unique split noClosing closed
    exact stray front later (opening ▸ rfl) closed
  · obtain ⟨written, starts⟩ : ∃ written, (ofText read ('{' :: more)).flatMap (text write) = '{' :: written :=
      opens_ofText opens more
    rw [starts] at split
    have inner : '{' ∈ inside := mem_of_split split noClosing
    cases reads : readAgain inside with
    | none => rfl
    | some b => exact absurd inner (noOpening inside b reads)

/-- A marker stands in the text. -/
theorem exists_marker_of_mem {cs : List Char} {a : α} (member : marker a ∈ ofText read cs) :
    ∃ before inside after, cs = before ++ '{' :: inside ++ '}' :: after ∧ '}' ∉ inside ∧ read inside = some a := by
  refine ofText_induction (motive := fun cs spans => marker a ∈ spans → ∃ before inside after,
    cs = before ++ '{' :: inside ++ '}' :: after ∧ '}' ∉ inside ∧ read inside = some a) ?_ ?_ ?_ cs member
  · intro member
    cases member
  · intro inside after b closed reads ih member
    rcases List.mem_cons.1 member with same | later
    · cases same
      exact ⟨[], inside, after, rfl, closed, reads⟩
    · obtain ⟨before, inner, rest, rfl, shut, known⟩ := ih later
      exact ⟨'{' :: inside ++ '}' :: before, inner, rest, by simp, shut, known⟩
  · intro c rest _ ih member
    rcases List.mem_cons.1 member with same | later
    · cases same
    · obtain ⟨before, inner, after, rfl, shut, known⟩ := ih later
      exact ⟨c :: before, inner, after, rfl, shut, known⟩

/-- Where what reads as a marker holds no opening brace, the way through a text comes past every opening brace, and so
every marker that stands in the text is found. -/
theorem marker_mem_of_split {cs : List Char} {a : α} (noOpening : ∀ inside a, read inside = some a → '{' ∉ inside)
    {before inside after : List Char} (split : cs = before ++ '{' :: inside ++ '}' :: after) (closed : '}' ∉ inside)
    (reads : read inside = some a) : marker a ∈ ofText read cs := by
  refine ofText_induction (motive := fun cs spans => ∀ before, cs = before ++ '{' :: inside ++ '}' :: after →
    marker a ∈ spans) ?_ ?_ ?_ cs before split
  · intro before same
    simp at same
  · intro other later b shut known ih before same
    cases before with
    | nil =>
      obtain ⟨rfl, rfl⟩ := closing_unique (List.cons.inj same).2 shut closed
      obtain rfl : b = a := Option.some.inj (known.symm.trans reads)
      exact List.mem_cons_self
    | cons c before =>
      have parts : before ++ '{' :: (inside ++ '}' :: after) = other ++ '}' :: later := by
        simpa using (List.cons.inj same).2.symm
      by_cases passed : '}' ∈ before
      · obtain ⟨front, back, rfl, noClosing⟩ := List.eq_append_cons_of_mem passed
        rw [List.append_assoc, List.cons_append] at parts
        obtain ⟨-, rfl⟩ := closing_unique parts noClosing shut
        exact List.mem_cons_of_mem _ (ih back (by simp))
      · exact absurd (mem_of_split parts passed) (noOpening other b known)
  · intro c rest stray ih before same
    cases before with
    | nil =>
      have unread := stray inside after same closed
      rw [reads] at unread
      cases unread
    | cons c before =>
      exact List.mem_cons_of_mem _ (ih before (List.cons.inj same).2)

theorem marker_mem_ofText {cs : List Char} {a : α} (noOpening : ∀ inside a, read inside = some a → '{' ∉ inside) :
    marker a ∈ ofText read cs ↔
      ∃ before inside after, cs = before ++ '{' :: inside ++ '}' :: after ∧ '}' ∉ inside ∧ read inside = some a := by
  constructor
  · exact exists_marker_of_mem
  · rintro ⟨before, inside, after, split, closed, reads⟩
    exact marker_mem_of_split noOpening split closed reads

end Span

/-- Plain substitution comes to one text: that of the parts, each marker giving way to what it stands for. -/
theorem substituted_iff {stands : List Char → Option (List Char)} {cs out : List Char} :
    Substituted stands cs out ↔ out = (Span.ofText stands cs).flatMap (Span.text id) := by
  constructor
  · intro result
    induction result with
    | nil => simp [Span.ofText]
    | placed closed known _ ih => rw [Span.ofText_marker _ closed known, List.flatMap_cons, ← ih, Span.text, id]
    | kept stray _ ih => rw [Span.ofText_stray _ stray, List.flatMap_cons, ← ih, Span.text, List.singleton_append]
  · rintro rfl
    refine Span.ofText_induction (motive := fun cs spans => Substituted stands cs (spans.flatMap (Span.text id)))
      ?_ ?_ ?_ cs
    · exact .nil
    · intro inside after new closed known ih
      exact .placed closed known ih
    · intro c rest stray ih
      exact .kept stray ih

namespace Template

/-- What names between braces give way to: their values, escaped, and the empty text where they have none. -/
def placedNames (values : Dictionary String) (inside : List Char) : Option (List Char) :=
  (name? inside).map fun name => escapedValue ((values.get? name).getD "")

/-- What gives way once the template is bound: its names, and the numbers of its parameters too. -/
def placedMarks (t : Template) (values : Dictionary String) (inside : List Char) : Option (List Char) :=
  (placedNames values inside).or ((Request.parameterAt (t.parameters values) inside).map escapedValue)

/-- What a text between braces is taken for by compiling and writing together. -/
inductive Mark
  | named (name : String)
  /-- A number, as it is written, and the place that it stands for. -/
  | counted (inside : List Char) (place : Nat)

namespace Mark

/-- Names come first: what compiling takes for a name is not there any more when numbers are read. -/
def read (bound : Nat) (inside : List Char) : Option Mark :=
  match name? inside with
  | some name => some (named name)
  | none => (readNumeral bound inside).map (counted inside)

/-- The text of a mark when only names have values. -/
def writeNames (value : String → List Char) : Mark → List Char
  | named name => value name
  | counted inside _ => '{' :: inside ++ ['}']

/-- The parameter that a mark stands for. -/
def parameter (names : List String) (value : String → String) : Mark → String
  | named name => value name
  | counted _ place => ((names.map value)[place]?).getD ""

/-- The parts that compiling sees in one part: the braces around a number mean nothing to it. -/
def spans : Span Mark → List (Span String)
  | .plain c => [.plain c]
  | .marker (named name) => [.marker name]
  | .marker (counted inside _) => ('{' :: inside ++ ['}']).map .plain

end Mark

theorem noOpening_of_name? {inside : List Char} {name : String} (reads : name? inside = some name) :
    '{' ∉ inside := by
  intro member
  have filled : inside.all isNameCharacter = true := by
    simp only [name?, Bool.and_eq_true, Option.ite_none_right_eq_some] at reads
    exact reads.1.2
  have character := List.all_eq_true.1 filled '{' member
  simp [isNameCharacter] at character

/-- What reads as a number but not as a name starts with a plus sign. -/
theorem plusSign_of_readNumeral {bound place : Nat} {inside : List Char} (unnamed : name? inside = none)
    (reads : readNumeral bound inside = some place) :
    ∃ digits, inside = '+' :: digits ∧ digits ≠ [] ∧ (∀ c ∈ digits, c.isDigit) ∧ digitsValue digits = place ∧
      place < bound := by
  obtain ⟨digits, rfl | rfl, filled, numeric, value, below⟩ := digits_of_readNumeral reads
  · have characters : inside.all isNameCharacter = true :=
      List.all_eq_true.2 fun c member => by simp [isNameCharacter, Char.isAlphanum, numeric c member]
    simp [name?, filled, characters] at unnamed
  · exact ⟨digits, rfl, filled, numeric, value, below⟩

namespace Mark

theorem read_eq_none {bound : Nat} {inside : List Char} :
    read bound inside = none ↔ name? inside = none ∧ readNumeral bound inside = none := by
  unfold read
  cases name? inside <;> simp

theorem counted_of_read {bound place : Nat} {inside written : List Char}
    (reads : read bound inside = some (counted written place)) :
    written = inside ∧ name? inside = none ∧ readNumeral bound inside = some place := by
  unfold read at reads
  split at reads
  · cases reads
  · next unnamed =>
    obtain ⟨other, found, same⟩ := Option.map_eq_some_iff.1 reads
    cases same
    exact ⟨rfl, unnamed, found⟩

theorem noOpening_of_read {bound : Nat} {inside : List Char} {mark : Mark} (reads : read bound inside = some mark) :
    '{' ∉ inside := by
  unfold read at reads
  split at reads
  · next found => exact noOpening_of_name? found
  · obtain ⟨place, found, -⟩ := Option.map_eq_some_iff.1 reads
    exact noOpening_of_readNumeral found

/-- Compiling takes the same text apart, and keeps the numbers as they are written. -/
theorem ofText_name? (bound : Nat) (cs : List Char) :
    Span.ofText name? cs = (Span.ofText (read bound) cs).flatMap spans := by
  refine Span.ofText_induction (motive := fun cs parts => Span.ofText name? cs = parts.flatMap spans) ?_ ?_ ?_ cs
  · simp [Span.ofText]
  · intro inside after mark closed reads ih
    have noOpening := noOpening_of_read reads
    unfold read at reads
    split at reads
    · next name found =>
      cases reads
      rw [Span.ofText_marker after closed found, ih]
      rfl
    · next unnamed =>
      obtain ⟨place, -, rfl⟩ := Option.map_eq_some_iff.1 reads
      have stray : ∀ other later, '{' :: (inside ++ '}' :: after) = '{' :: other ++ '}' :: later → '}' ∉ other →
          name? other = none := by
        intro other later same shut
        obtain ⟨rfl, -⟩ := closing_unique (List.cons.inj same).2 closed shut
        exact unnamed
      have ordinary : '{' ∉ inside ++ ['}'] := by simp [noOpening]
      rw [List.cons_append, Span.ofText_stray '{' stray, List.append_cons, Span.ofText_append_plain after ordinary, ih]
      simp [spans]
  · intro c rest stray ih
    have unnamed : ∀ inside after, c :: rest = '{' :: inside ++ '}' :: after → '}' ∉ inside → name? inside = none :=
      fun inside after same closed => (read_eq_none.1 (stray inside after same closed)).1
    rw [Span.ofText_stray c unnamed, ih]
    rfl

theorem flatMap_spans_named (names : List String) (name : String) (more : List Char) :
    (spans (.marker (named name))).flatMap (Span.text fun name => numbered (names.idxOf name)) ++ more =
      '{' :: numeral (names.idxOf name) ++ '}' :: more := by
  simp [spans, Span.text, numbered]

theorem parameterAt_counted {names : List String} (value : String → String) {inside : List Char} {place : Nat}
    (found : readNumeral names.length inside = some place) :
    Request.parameterAt (names.map value) inside = some (parameter names value (counted inside place)) := by
  obtain ⟨_, _, _, _, _, below⟩ := digits_of_readNumeral found
  rw [Request.parameterAt, List.length_map, found]
  simp [parameter, below]

/-- The numbered filter of a text is taken apart as the text is, with parameters for marks. -/
theorem ofText_numbered {names : List String} (value : String → String) (cs : List Char)
    (known : ∀ name, .marker name ∈ Span.ofText name? cs → name ∈ names) :
    Span.ofText (Request.parameterAt (names.map value))
        ((Span.ofText name? cs).flatMap (Span.text fun name => numbered (names.idxOf name))) =
      (Span.ofText (read names.length) cs).map (Span.map (parameter names value)) := by
  refine Span.ofText_induction (motive := fun cs parts => (∀ name, .marker name ∈ Span.ofText name? cs → name ∈ names) →
    Span.ofText (Request.parameterAt (names.map value))
        ((Span.ofText name? cs).flatMap (Span.text fun name => numbered (names.idxOf name))) =
      parts.map (Span.map (parameter names value))) ?_ ?_ ?_ cs known
  · intro _
    simp [Span.ofText]
  · intro inside after mark closed reads ih known
    have whole := ofText_name? names.length ('{' :: inside ++ '}' :: after)
    rw [Span.ofText_marker after closed reads, List.flatMap_cons, ← ofText_name?] at whole
    rw [whole] at known
    have later := ih fun name member => known name (List.mem_append_right _ member)
    rw [whole, List.flatMap_append]
    cases mark with
    | named name =>
      have number : Request.parameterAt (names.map value) (numeral (names.idxOf name)) = some (value name) :=
        FilterForm.parameterAt_idxOf value (known name (List.mem_append_left _ List.mem_cons_self))
      have shut : '}' ∉ numeral (names.idxOf name) := fun member => by simpa using isDigit_of_mem_numeral member
      rw [flatMap_spans_named, Span.ofText_marker _ shut number, later]
      rfl
    | counted written place =>
      obtain ⟨rfl, -, found⟩ := counted_of_read reads
      rw [spans, FilterForm.flatMap_plain, List.append_assoc, List.singleton_append,
        Span.ofText_marker _ closed (parameterAt_counted value found), later]
      rfl
  · intro c rest stray ih known
    have unnamed : ∀ inside after, c :: rest = '{' :: inside ++ '}' :: after → '}' ∉ inside → name? inside = none :=
      fun inside after same closed => (read_eq_none.1 (stray inside after same closed)).1
    rw [Span.ofText_stray c unnamed] at known ⊢
    have later := ih fun name member => known name (List.mem_cons_of_mem _ member)
    rw [List.flatMap_cons, Span.text, List.singleton_append, Span.ofText_stray c, later]
    · rfl
    · intro inside after same closed
      have unread : readNumeral names.length inside = none :=
        Span.stray_rewritten (fun _ => ⟨_, rfl⟩) (fun _ _ => noOpening_of_readNumeral)
          (fun inside after same closed => (read_eq_none.1 (stray inside after same closed)).2) same closed
      rw [Request.parameterAt, List.length_map, unread, Option.bind_none]

end Mark

/-- The filter of a bound template, part by part as the source is taken apart. -/
theorem toList_filter_bind (source baseDn : String) (values : Dictionary String) :
    ((compile source).bind baseDn values).filter.toList =
      (Span.ofText (Mark.read (compile source).placeholders.length) source.toList).flatMap
        (Span.text (escapedValue ∘ Mark.parameter (compile source).placeholders fun name =>
          (values.get? name).getD "")) := by
  have known : ∀ name, .marker name ∈ Span.ofText name? source.toList → name ∈ (compile source).placeholders :=
    fun name member => List.mem_eraseDups.2 (List.mem_filterMap.2 ⟨_, member, rfl⟩)
  have apart := Mark.ofText_numbered (fun name => (values.get? name).getD "") source.toList known
  rw [← Span.flatMap_map, ← apart, Request.filter, String.toList_ofList, Template.bind, Template.parameters]
  simp only [compile, String.toList_ofList]

theorem placedMarks_eq (source : String) (values : Dictionary String) :
    placedMarks (compile source) values = fun inside => (Mark.read (compile source).placeholders.length inside).map
      (escapedValue ∘ Mark.parameter (compile source).placeholders fun name => (values.get? name).getD "") := by
  funext inside
  unfold placedMarks placedNames Mark.read Request.parameterAt parameters
  cases name? inside with
  | some name => rfl
  | none =>
    rw [List.length_map]
    cases found : readNumeral (compile source).placeholders.length inside with
    | none => rfl
    | some place =>
      obtain ⟨_, _, _, _, _, below⟩ := digits_of_readNumeral found
      simp [Mark.parameter, below]

/-- Plain substitution of the names writes the same parts, and leaves the numbers as they are. -/
theorem substituted_placedNames {cs out : List Char} (bound : Nat) (values : Dictionary String) :
    Substituted (placedNames values) cs out ↔ out = (Span.ofText (Mark.read bound) cs).flatMap
      (Span.text (Mark.writeNames fun name => escapedValue ((values.get? name).getD ""))) := by
  have part (span : Span Mark) :
      (Mark.spans span).flatMap (Span.text fun name => escapedValue ((values.get? name).getD "")) =
        Span.text (Mark.writeNames fun name => escapedValue ((values.get? name).getD "")) span := by
    match span with
    | .plain c => rfl
    | .marker (.named name) => simp [Mark.spans, Span.text, Mark.writeNames]
    | .marker (.counted inside _) => exact FilterForm.flatMap_plain _ _
  have parts : (Span.ofText (placedNames values) cs).flatMap (Span.text id) =
      (Span.ofText (Mark.read bound) cs).flatMap
        (Span.text (Mark.writeNames fun name => escapedValue ((values.get? name).getD ""))) := by
    unfold placedNames
    rw [Span.ofText_map, Span.flatMap_map, Mark.ofText_name? bound, List.flatMap_assoc]
    exact List.flatMap_congr fun span _ => part span
  rw [substituted_iff, parts]

/-- A number is read in a text exactly where it stands between braces after a plus sign. -/
theorem marker_counted_mem {bound place : Nat} {inside cs : List Char} :
    .marker (.counted inside place) ∈ Span.ofText (Mark.read bound) cs ↔
      ∃ before digits after, cs = before ++ '{' :: '+' :: digits ++ '}' :: after ∧ inside = '+' :: digits ∧
        digits ≠ [] ∧ (∀ c ∈ digits, c.isDigit) ∧ digitsValue digits = place ∧ place < bound := by
  have noOpening : ∀ inside mark, Mark.read bound inside = some mark → '{' ∉ inside :=
    fun _ _ => Mark.noOpening_of_read
  constructor
  · intro member
    obtain ⟨before, written, after, rfl, -, reads⟩ := (Span.marker_mem_ofText noOpening).1 member
    obtain ⟨rfl, unnamed, found⟩ := Mark.counted_of_read reads
    obtain ⟨digits, rfl, filled, numeric, rfl, below⟩ := plusSign_of_readNumeral unnamed found
    exact ⟨before, digits, after, rfl, rfl, filled, numeric, rfl, below⟩
  · rintro ⟨before, digits, after, rfl, rfl, filled, numeric, rfl, below⟩
    have found := readNumeral_plusSign bound filled numeric below
    have unnamed : name? ('+' :: digits) = none := by simp [name?, isNameCharacter]
    have closed : '}' ∉ '+' :: digits := by
      intro member
      have digit := numeric '}' (by simpa using member)
      simp at digit
    have reads : Mark.read bound ('+' :: digits) = some (.counted ('+' :: digits) (digitsValue digits)) := by
      simp [Mark.read, unnamed, found]
    exact (Span.marker_mem_ofText noOpening).2 ⟨before, '+' :: digits, after, rfl, closed, reads⟩

theorem counted_mem_ofText {bound : Nat} {cs : List Char} :
    (∃ inside place, .marker (.counted inside place) ∈ Span.ofText (Mark.read bound) cs) ↔
      ∃ before digits after, cs = before ++ '{' :: '+' :: digits ++ '}' :: after ∧ digits ≠ [] ∧
        (∀ c ∈ digits, c.isDigit) ∧ digitsValue digits < bound := by
  constructor
  · rintro ⟨inside, place, member⟩
    obtain ⟨before, digits, after, split, -, filled, numeric, rfl, below⟩ := marker_counted_mem.1 member
    exact ⟨before, digits, after, split, filled, numeric, below⟩
  · rintro ⟨before, digits, after, split, filled, numeric, below⟩
    exact ⟨_, _, marker_counted_mem.2 ⟨before, digits, after, split, rfl, filled, numeric, rfl, below⟩⟩

/-- Without values the filter is shorter than the plain substitution as soon as one number is read in it. -/
theorem counted_notMem_of_eq {names : List String} {parts : List (Span Mark)}
    (same : parts.flatMap (Span.text (escapedValue ∘ Mark.parameter names fun _ => "")) =
      parts.flatMap (Span.text (Mark.writeNames fun _ => escapedValue ""))) (inside : List Char) (place : Nat) :
    .marker (.counted inside place) ∉ parts := by
  intro member
  have empty (written : List Char) (other : Nat) :
      Span.text (escapedValue ∘ Mark.parameter names fun _ => "") (.marker (.counted written other)) = [] := by
    have missing : ((names.map fun _ => "")[other]?).getD "" = "" := by
      rw [List.getElem?_map]
      cases names[other]? <;> rfl
    simp only [Span.text, Function.comp_apply, Mark.parameter, missing]
    rfl
  have atMost : ∀ part ∈ parts, (Span.text (escapedValue ∘ Mark.parameter names fun _ => "") part).length ≤
      (Span.text (Mark.writeNames fun _ => escapedValue "") part).length := by
    intro part _
    match part with
    | .plain c => exact Nat.le_refl _
    | .marker (.named name) => exact Nat.le_refl _
    | .marker (.counted written other) =>
      rw [empty]
      exact Nat.zero_le _
  have below : (Span.text (escapedValue ∘ Mark.parameter names fun _ => "") (.marker (.counted inside place))).length <
      (Span.text (Mark.writeNames fun _ => escapedValue "") (.marker (.counted inside place))).length := by
    rw [empty]
    simp [Span.text, Mark.writeNames]
  have shorter := List.sum_lt_sum _ _ atMost ⟨_, member, below⟩
  rw [← List.length_flatMap, ← List.length_flatMap, same] at shorter
  exact Nat.lt_irrefl _ shorter

/-- The filter of a bound template comes from its source in one pass, in which names give way to their values, and
numbers of parameters to the parameters. It is what plain substitution of the names alone gives, whatever the values
are, exactly when no such number stands between braces after a plus sign. -/
theorem filter_substituted (source : String) :
    (∀ baseDn values, Substituted (placedMarks (compile source) values) source.toList
      ((compile source).bind baseDn values).filter.toList) ∧
    ((∀ baseDn values, Substituted (placedNames values) source.toList
        ((compile source).bind baseDn values).filter.toList) ↔
      ¬ ∃ before digits after, source.toList = before ++ '{' :: '+' :: digits ++ '}' :: after ∧ digits ≠ [] ∧
        (∀ c ∈ digits, c.isDigit) ∧ digitsValue digits < (compile source).placeholders.length) := by
  refine ⟨fun baseDn values => ?_, ?_⟩
  · rw [substituted_iff, placedMarks_eq, Span.ofText_map, Span.flatMap_map, toList_filter_bind]
    rfl
  · rw [← counted_mem_ofText]
    constructor
    · rintro named ⟨inside, place, member⟩
      have same := (substituted_placedNames (compile source).placeholders.length .empty).1 (named "" .empty)
      rw [toList_filter_bind] at same
      exact counted_notMem_of_eq same inside place member
    · intro uncounted baseDn values
      rw [substituted_placedNames (compile source).placeholders.length, toList_filter_bind]
      refine List.flatMap_congr fun part member => ?_
      match part with
      | .plain c => rfl
      | .marker (.named name) => rfl
      | .marker (.counted inside place) => exact absurd ⟨inside, place, member⟩ uncounted

/-- A number after a plus sign is no name, and yet gives way: plain substitution would have kept it. -/
theorem filter_plusSign :
    ((compile "(cn={+0})(uid={login})").bind "" (.ofList [("login", "x")])).filter = "(cn=x)(uid=x)" ∧
      Substituted (placedNames (.ofList [("login", "x")])) "(cn={+0})(uid={login})".toList
        "(cn={+0})(uid=x)".toList ∧
      ¬ Substituted (placedNames (.ofList [("login", "x")])) "(cn={+0})(uid={login})".toList
        ((compile "(cn={+0})(uid={login})").bind "" (.ofList [("login", "x")])).filter.toList := by
  simp only [substituted_iff]
  decide +kernel

end Template

end DirectoryLogin
