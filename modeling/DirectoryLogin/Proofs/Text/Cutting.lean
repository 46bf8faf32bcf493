import DirectoryLogin.Text.Blank
import DirectoryLogin.Text.Split
import Mathlib.Data.List.TakeWhile

namespace DirectoryLogin.Text

theorem trim_eq_nil {cs : List Char} : trim cs = [] ↔ ∀ c ∈ cs, isBlank c := by
  rw [trim, trimEnd, List.reverse_eq_nil_iff, List.dropWhile_eq_nil_iff]
  constructor
  · intro blank c member
    rw [← List.takeWhile_append_dropWhile (p := isBlank) (l := cs)] at member
    obtain start | rest := List.mem_append.1 member
    · exact List.mem_takeWhile_imp start
    · exact blank c (List.mem_reverse.2 rest)
  · intro blank c member
    exact blank c ((List.dropWhile_suffix isBlank).subset (List.mem_reverse.1 member))

theorem trimStart_append {margin : List Char} (blank : ∀ c ∈ margin, isBlank c) (cs : List Char) :
    trimStart (margin ++ cs) = trimStart cs :=
  List.dropWhile_append_of_pos blank

theorem trimEnd_append (cs : List Char) {margin : List Char} (blank : ∀ c ∈ margin, isBlank c) :
    trimEnd (cs ++ margin) = trimEnd cs := by
  rw [trimEnd, trimEnd, List.reverse_append, List.dropWhile_append_of_pos fun c member => blank c (List.mem_reverse.1 member)]

/-- Trimming at the end goes no further than a character that stays. -/
theorem trimEnd_append_cons (before : List Char) {c : Char} (solid : isBlank c = false) (after : List Char) :
    trimEnd (before ++ c :: after) = before ++ c :: trimEnd after := by
  have stops : (c :: before.reverse).dropWhile isBlank = c :: before.reverse :=
    List.dropWhile_cons_of_neg (by simp [solid])
  rw [trimEnd, trimEnd, List.reverse_append, List.reverse_cons, List.append_assoc, List.singleton_append,
    List.dropWhile_append]
  split
  · rename_i none
    rw [stops, List.isEmpty_iff.1 none]
    simp
  · simp

/-- White space after a text is nothing to trim. -/
theorem trim_append (cs : List Char) {margin : List Char} (blank : ∀ c ∈ margin, isBlank c) :
    trim (cs ++ margin) = trim cs := by
  by_cases empty : ∀ c ∈ cs, isBlank c
  · rw [trim_eq_nil.2 empty, trim_eq_nil]
    exact List.forall_mem_append.2 ⟨empty, blank⟩
  · have filled : (cs.dropWhile isBlank).isEmpty = false := by
      rw [List.isEmpty_eq_false_iff, Ne, List.dropWhile_eq_nil_iff]
      exact empty
    rw [trim, trimStart, List.dropWhile_append, filled]
    exact trimEnd_append _ blank

theorem trim_trimEnd (cs : List Char) : trim (trimEnd cs) = trim cs := by
  have blank : ∀ c ∈ (cs.reverse.takeWhile isBlank).reverse, isBlank c := fun c member =>
    List.mem_takeWhile_imp (List.mem_reverse.1 member)
  have whole : trimEnd cs ++ (cs.reverse.takeWhile isBlank).reverse = cs := by
    rw [trimEnd, ← List.reverse_append, List.takeWhile_append_dropWhile, List.reverse_reverse]
  calc trim (trimEnd cs) = trim (trimEnd cs ++ (cs.reverse.takeWhile isBlank).reverse) := (trim_append _ blank).symm
    _ = trim cs := by rw [whole]

/-- No white space stands before a text that trimming does not change. -/
theorem trimStart_of_trim {cs : List Char} (bare : trim cs = cs) : trimStart cs = cs := by
  refine (List.dropWhile_suffix isBlank).eq_of_length_le ?_
  have shorter : (trim cs).length ≤ (trimStart cs).length := by
    have kept := (List.dropWhile_suffix isBlank (l := (trimStart cs).reverse)).length_le
    rwa [List.length_reverse, ← List.length_reverse] at kept
  rwa [bare] at shorter

theorem trim_dropReturn (line : List Char) : trim (dropReturn line) = trim line := by
  unfold dropReturn
  split
  · rename_i returns
    obtain ⟨before, rfl⟩ := List.getLast?_eq_some_iff.1 returns
    rw [List.dropLast_concat, trim_append before (List.forall_mem_singleton.2 (by decide))]
  · rfl

theorem trimmed_eq_self {s : String} : trimmed s = s ↔ trim s.toList = s.toList := by
  rw [trimmed, ← String.toList_inj, String.toList_ofList]

theorem hasContent_iff {s : String} : hasContent s ↔ trimmed s ≠ "" := by
  have empty : trimmed s = "" ↔ trim s.toList = [] := by
    rw [trimmed]
    simp
  rw [Ne, empty, trim_eq_nil]
  simp [hasContent]

theorem hasContent_append_left {a : String} (b : String) (filled : hasContent a) : hasContent (a ++ b) := by
  rw [hasContent, String.toList_append, List.any_append, Bool.or_eq_true]
  exact .inl filled

variable {cut : Char → Bool}

theorem cutAt_append {before : List Char} {c : Char} (after : List Char)
    (skips : ∀ x ∈ before, cut x = false) (cuts : cut c = true) :
    cutAt cut (before ++ c :: after) = some (before, after) := by
  induction before with
  | nil => simp [cutAt, cuts]
  | cons x before ih =>
    have skip : cut x = false := skips x (List.mem_cons_self ..)
    have later := ih fun y member => skips y (List.mem_cons_of_mem _ member)
    simp only [List.cons_append, cutAt, skip, later, Bool.false_eq_true, if_false, Option.map_some]

/-- A text is cut at a character, and at none before it. -/
theorem exists_split_of_cutAt {cs before after : List Char} (found : cutAt cut cs = some (before, after)) :
    ∃ c, cs = before ++ c :: after ∧ cut c = true ∧ ∀ d ∈ before, cut d = false := by
  induction cs generalizing before with
  | nil => cases found
  | cons c rest ih =>
    rw [cutAt] at found
    split at found
    · rename_i cuts
      cases found
      exact ⟨c, rfl, cuts, by simp⟩
    · rename_i skips
      obtain ⟨⟨front, back⟩, inner, same⟩ := Option.map_eq_some_iff.1 found
      cases same
      obtain ⟨d, split, cuts, plain⟩ := ih inner
      exact ⟨d, by rw [split, List.cons_append], cuts, List.forall_mem_cons.2 ⟨Bool.not_eq_true _ ▸ skips, plain⟩⟩

theorem cutAt_eq_none_iff {cs : List Char} : cutAt cut cs = none ↔ ∀ c ∈ cs, cut c = false := by
  induction cs with
  | nil => simp [cutAt]
  | cons c rest ih => by_cases cuts : cut c <;> simp [cutAt, cuts, ih]

theorem pieces_of_none {cs : List Char} (whole : ∀ c ∈ cs, cut c = false) : pieces cut cs = [cs] := by
  induction cs with
  | nil => rfl
  | cons c rest ih =>
    have later := ih fun d member => whole d (List.mem_cons_of_mem c member)
    rw [pieces, whole c (List.mem_cons_self ..), later]
    rfl

/-- The first piece ends at the first character that is cut at. -/
theorem pieces_append {piece : List Char} {c : Char} (rest : List Char) (whole : ∀ d ∈ piece, cut d = false)
    (cuts : cut c = true) : pieces cut (piece ++ c :: rest) = piece :: pieces cut rest := by
  induction piece with
  | nil => simp [pieces, cuts]
  | cons d piece ih =>
    have later := ih fun x member => whole x (List.mem_cons_of_mem d member)
    rw [List.cons_append, pieces, whole d (List.mem_cons_self ..), later]
    rfl

/-- Texts with a character between them are cut into these texts again. -/
theorem splitText_intercalate (c : Char) {parts : List String} (filled : parts ≠ [])
    (whole : ∀ part ∈ parts, c ∉ part.toList) :
    splitText (· == c) (String.intercalate (String.singleton c) parts) = parts := by
  induction parts with
  | nil => exact absurd rfl filled
  | cons part parts ih =>
    have first : ∀ d ∈ part.toList, (d == c) = false := fun d member =>
      beq_eq_false_iff_ne.2 fun same => whole part (List.mem_cons_self ..) (same ▸ member)
    cases parts with
    | nil => rw [String.intercalate_singleton, splitText, pieces_of_none first, List.map_singleton, String.ofList_toList]
    | cons next parts =>
      have later := ih (List.cons_ne_nil next parts) fun p member => whole p (List.mem_cons_of_mem part member)
      rw [splitText] at later ⊢
      rw [String.intercalate_cons_cons, String.append_assoc, String.toList_append, String.toList_append,
        String.toList_singleton, List.singleton_append, pieces_append _ first (beq_self_eq_true c), List.map_cons, later,
        String.ofList_toList]

theorem pieces_written {texts : List (List Char)} {last : List Char} (inline : ∀ text ∈ texts, '\n' ∉ text)
    (lastInline : '\n' ∉ last) :
    pieces (· == '\n') (texts.flatMap (· ++ ['\n']) ++ last) = texts ++ [last] := by
  have whole {text : List Char} (inline : '\n' ∉ text) : ∀ c ∈ text, (c == '\n') = false := fun c member =>
    beq_eq_false_iff_ne.2 fun same => inline (same ▸ member)
  induction texts with
  | nil => exact pieces_of_none (whole lastInline)
  | cons text texts ih =>
    have later := ih fun t member => inline t (List.mem_cons_of_mem text member)
    rw [List.flatMap_cons, List.append_assoc, List.append_assoc, List.singleton_append,
      pieces_append _ (whole (inline text (List.mem_cons_self ..))) (beq_self_eq_true '\n'), later, List.cons_append]

/-- A text written line by line is cut into these lines. -/
theorem lines_written {texts : List (List Char)} {last : List Char} (inline : ∀ text ∈ texts, '\n' ∉ text)
    (lastInline : '\n' ∉ last) :
    lines (texts.flatMap (· ++ ['\n']) ++ last) =
      (if last = [] then texts else texts ++ [last]).map dropReturn := by
  rw [lines, pieces_written inline lastInline, List.getLast?_concat, List.dropLast_concat]
  simp only [Option.some.injEq]

end DirectoryLogin.Text
