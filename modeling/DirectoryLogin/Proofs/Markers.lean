import DirectoryLogin.Proofs.Text.Cutting
import DirectoryLogin.Request

namespace DirectoryLogin

namespace Text

theorem readNumeral_digits (bound : Nat) {cs : List Char} (filled : cs ≠ [])
    (digits : ∀ c ∈ cs, c.isDigit) (below : digitsValue cs < bound) :
    readNumeral bound cs = some (digitsValue cs) := by
  have all : cs.all Char.isDigit = true := List.all_eq_true.2 digits
  unfold readNumeral
  split
  · have plus := digits '+' (List.mem_cons_self ..)
    simp at plus
  · simp only [List.isEmpty_iff, filled, all, below, Bool.not_true, Bool.or_false, if_false, if_true]

theorem isDigit_of_mem_numeral {n : Nat} {c : Char} (member : c ∈ numeral n) : c.isDigit :=
  Nat.isDigit_of_mem_toDigits (by decide) (by decide) member

theorem digitsValue_numeral (n : Nat) : digitsValue (numeral n) = n := by
  rw [digitsValue, numeral, ← Nat.ofDigitChars_eq_foldl]
  exact Nat.ofDigitChars_toDigits (by decide) (by decide)

/-- The numeral of a number reads as that number. -/
theorem readNumeral_numeral {bound n : Nat} (below : n < bound) :
    readNumeral bound (numeral n) = some n := by
  have filled : numeral n ≠ [] := Nat.toDigits_ne_nil
  have read := readNumeral_digits bound filled (fun _ => isDigit_of_mem_numeral)
    (by rwa [digitsValue_numeral])
  rwa [digitsValue_numeral] at read

/-- A lower bound keeps out the numbers above it and changes nothing else. -/
theorem readNumeral_of_le {bound greater : Nat} (le : bound ≤ greater) (cs : List Char) :
    readNumeral bound cs = (readNumeral greater cs).filter (· < bound) := by
  have below (refused : Bool) (n : Nat) :
      (if refused then none else if n < bound then some n else none) =
        (if refused then none else if n < greater then some n else none).filter (· < bound) := by
    by_cases small : n < bound
    · have under := Nat.lt_of_lt_of_le small le
      cases refused <;> simp [Option.filter, small, under]
    · by_cases under : n < greater <;> cases refused <;> simp [Option.filter, small, under]
  simp only [readNumeral]
  split <;> exact below _ _

end Text

namespace Span

open Text

variable {α β : Type}

def map (f : α → β) : Span α → Span β
  | plain c => plain c
  | marker a => marker (f a)

theorem map_id (spans : List (Span α)) : spans.map (map id) = spans := by
  have same : (map id : Span α → Span α) = id := by
    funext span
    cases span <;> rfl
  rw [same, List.map_id]

/-- Writing markers after a change of what they are. -/
theorem flatMap_map (f : α → β) (write : β → List Char) (spans : List (Span α)) :
    (spans.map (map f)).flatMap (text write) = spans.flatMap (text (write ∘ f)) := by
  rw [List.flatMap_map]
  congr
  funext span
  cases span <;> rfl

theorem ofText_plain (read : List Char → Option α) {c : Char} (cs : List Char) (ordinary : c ≠ '{') :
    ofText read (c :: cs) = plain c :: ofText read cs := by
  rw [ofText, if_neg ordinary]

theorem ofText_marker {read : List Char → Option α} {inside : List Char} {a : α} (cs : List Char)
    (closed : '}' ∉ inside) (reads : read inside = some a) :
    ofText read ('{' :: inside ++ '}' :: cs) = marker a :: ofText read cs := by
  have cut : cutAt (· == '}') (inside ++ '}' :: cs) = some (inside, cs) := by
    refine cutAt_append cs (fun x member => ?_) (by simp)
    exact beq_eq_false_iff_ne.2 fun same => closed (same ▸ member)
  rw [List.cons_append, ofText, if_pos rfl]
  split
  · rename_i inner after found
    cases cut.symm.trans found
    simp only [reads]
  · rename_i missing
    cases cut.symm.trans missing

/-- Characters other than opening braces and markers between braces are taken apart one by one. -/
theorem ofText_written {read : List Char → Option β} {inside : α → List Char} {value : α → β}
    (spans : List (Span α)) (ordinary : plain '{' ∉ spans)
    (reads : ∀ a, marker a ∈ spans → '}' ∉ inside a ∧ read (inside a) = some (value a)) :
    ofText read (spans.flatMap (text fun a => '{' :: inside a ++ ['}'])) = spans.map (map value) := by
  induction spans with
  | nil => simp [ofText]
  | cons span spans ih =>
    have later := ih (fun member => ordinary (List.mem_cons_of_mem _ member))
      (fun a member => reads a (List.mem_cons_of_mem _ member))
    cases span with
    | plain c =>
      have different : c ≠ '{' := fun same => ordinary (by simp [same])
      simp only [List.flatMap_cons, text, List.singleton_append, List.map_cons, map]
      rw [ofText_plain read _ different, later]
    | marker a =>
      obtain ⟨closed, value⟩ := reads a (List.mem_cons_self ..)
      simp only [List.flatMap_cons, text, List.map_cons, map, List.append_assoc,
        List.singleton_append]
      rw [ofText_marker _ closed value, later]

end Span

end DirectoryLogin
