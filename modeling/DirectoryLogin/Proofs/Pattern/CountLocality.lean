import DirectoryLogin.Pattern.Reader
import DirectoryLogin.Proofs.Pattern.Locality

namespace DirectoryLogin.Pattern

open DirectoryLogin.Text

theorem dropBlank_closing (cs : List Char) : (cs ++ closing).dropWhile isBlank = cs.dropWhile isBlank ++ closing := by
  rw [List.dropWhile_append]
  split
  · next none =>
    rw [List.isEmpty_iff.1 none]
    rfl
  · rfl

theorem readCountDigits_suffix (f : Flags) (fuel : Nat) (digits cs : List Char) :
    (readCountDigits f fuel digits cs).2 <:+ cs := by
  fun_induction readCountDigits f fuel digits cs with
  | case1 fuel digits c rest _ ih => exact suffix_cons (ih.trans (skip_suffix f rest))
  | case2 => exact List.suffix_rfl
  | case3 => exact List.suffix_rfl

theorem readCountDigits_closing (f : Flags) {fuel more : Nat} (digits : List Char) {cs : List Char}
    (enough : cs.length ≤ fuel) (enoughMore : cs.length ≤ more) :
    readCountDigits f more digits (cs ++ closing) =
        ((readCountDigits f fuel digits cs).1, (readCountDigits f fuel digits cs).2 ++ closing) ∨
      (readCountDigits f more digits (cs ++ closing)).2 = [] := by
  induction fuel generalizing more digits cs with
  | zero =>
    obtain rfl := List.length_eq_zero_iff.1 (Nat.le_zero.1 enough)
    cases more with
    | zero => exact .inl rfl
    | succ more => exact .inl rfl
  | succ fuel ih =>
    cases cs with
    | nil =>
      cases more with
      | zero => exact .inl rfl
      | succ more => exact .inl rfl
    | cons c cs =>
      rw [List.length_cons] at enough enoughMore
      obtain ⟨more, rfl⟩ : ∃ n, more = n + 1 := ⟨more - 1, by omega⟩
      rw [List.cons_append, readCountDigits, readCountDigits]
      by_cases digit : c.isDigit
      · rw [if_pos digit, if_pos digit]
        rcases skip_append_closing f cs with kept | ⟨swallowed, -⟩
        · have shorter := (skip_suffix f cs).length_le
          rw [kept]
          exact ih _ (by omega) (by omega)
        · rw [swallowed]
          exact .inr (List.suffix_nil.1 (readCountDigits_suffix f more _ []))
      · rw [if_neg digit, if_neg digit]
        exact .inl rfl

theorem readCount_local (f : Flags) : Local fun cs => .ok (readCount f cs) where
  suffix {cs rest count} took := by
    cases took
    have blanks := (List.dropWhile_suffix isBlank).trans
      (readCountDigits_suffix f (cs.dropWhile isBlank).length [] (cs.dropWhile isBlank))
    exact (skip_suffix f _).trans (blanks.trans (List.dropWhile_suffix isBlank))
  kept {cs rest count} _ took := by
    unfold readCount at took ⊢
    dsimp only at took ⊢
    rw [dropBlank_closing] at took
    generalize cs.dropWhile isBlank = text at took ⊢
    have longer : text.length ≤ (text ++ closing).length := by simp
    rcases readCountDigits_closing f [] (Nat.le_refl text.length) longer with kept | swallowed
    · rw [kept, dropBlank_closing] at took
      simp only [Except.ok.injEq, Prod.mk.injEq] at took ⊢
      exact ⟨took.1, skip_closing took.2⟩
    · rw [swallowed] at took
      simp only [Except.ok.injEq, Prod.mk.injEq] at took
      have none : rest ++ closing <:+ [] := took.2 ▸ skip_suffix f []
      simp [closing] at none

/-- What ends a repetition with a limit. -/
def limited (least : Nat) (most : Option Nat) (cs : List Char) : Except ReadError ((Nat × Option Nat) × List Char) :=
  match most, cs with
  | some most, '}' :: after => if most < least then .error .badCount else .ok ((least, some most), after)
  | _, _ => .error .badCount

/-- What follows the comma of a repetition. -/
def readMost (f : Flags) (least : Nat) (cs : List Char) : Except ReadError ((Nat × Option Nat) × List Char) :=
  match f.skip cs with
  | '}' :: after => .ok ((least, none), after)
  | more => limited least (readCount f more).1 (readCount f more).2

/-- What follows the first count of a repetition. -/
def counted (f : Flags) (least : Option Nat) (cs : List Char) : Except ReadError ((Nat × Option Nat) × List Char) :=
  match least, cs with
  | some least, '}' :: rest => .ok ((least, some least), rest)
  | some least, ',' :: rest => readMost f least rest
  | _, _ => .error .badCount

theorem readMost_eq (f : Flags) (least : Nat) (cs : List Char) : readMost f least cs =
    match f.skip cs with
    | '}' :: after => .ok ((least, none), after)
    | more =>
      match readCount f more with
      | (some most, '}' :: after) => do
        if most < least then throw .badCount
        return ((least, some most), after)
      | _ => throw .badCount := by
  unfold readMost
  generalize f.skip cs = text
  split
  · rfl
  · unfold limited
    rcases readCount f text with ⟨_ | most, _ | ⟨c, after⟩⟩
    · rfl
    · rfl
    · rfl
    · by_cases brace : c = '}'
      · subst brace
        by_cases fewer : most < least
        · simp only [if_pos fewer]
          rfl
        · simp only [if_neg fewer]
          rfl
      · simp [brace]
        rfl

theorem readCounts_eq (f : Flags) (cs : List Char) :
    readCounts f cs = counted f (readCount f (f.skip cs)).1 (readCount f (f.skip cs)).2 := by
  unfold readCounts counted
  rcases readCount f (f.skip cs) with ⟨_ | least, _ | ⟨c, rest⟩⟩
  · rfl
  · rfl
  · rfl
  · by_cases brace : c = '}'
    · subst brace
      rfl
    · by_cases comma : c = ','
      · subst comma
        exact (readMost_eq f least rest).symm
      · simp [brace, comma]
        rfl

theorem limited_local (least : Nat) (most : Option Nat) : Local (limited least most) := by
  cases most with
  | none => exact .error _
  | some most =>
    have ends (c : Char) (cs : List Char) : limited least (some most) (c :: cs) =
        if c = '}' then if most < least then .error .badCount else .ok ((least, some most), cs)
        else .error .badCount := by
      unfold limited
      split <;> simp_all
    refine .cons ends rfl fun c => ?_
    split
    · split
      · exact .error _
      · exact .ok _
    · exact .error _

theorem readMost_local (f : Flags) (least : Nat) : Local (readMost f least) := by
  have limit := Local.bind (readCount_local f) (limited_local least)
  refine .look f '}' (fun here => ?_) (fun absent => ?_) (.ok (least, none)) limit
  · unfold readMost
    rw [here]
    rfl
  · unfold readMost
    split
    · next here => exact absurd here (absent _)
    · rfl

theorem counted_local (f : Flags) (least : Option Nat) : Local (counted f least) := by
  cases least with
  | none => exact .error _
  | some least =>
    have ends (c : Char) (cs : List Char) : counted f (some least) (c :: cs) =
        if c = '}' then .ok ((least, some least), cs) else if c = ',' then readMost f least cs
        else .error .badCount := by
      unfold counted
      split <;> simp_all
    refine .cons ends rfl fun c => ?_
    split
    · exact .ok _
    · split
      · exact readMost_local f least
      · exact .error _

theorem readCounts_local (f : Flags) : Local (readCounts f) := by
  have first := Local.bind (LocalWhere.skip f (readCount_local f)) (counted_local f)
  have whole : readCounts f = fun cs => .ok (readCount f (f.skip cs)) >>= fun found => counted f found.1 found.2 :=
    funext (readCounts_eq f)
  rw [whole]
  exact first

/-- Reading flags stops at a colon or a parenthesis, be it the closing one. -/
theorem readFlags_local (negated dangling : Bool) (found : List (Char × Bool)) :
    LocalWhere (fun _ rest => rest ≠ []) (readFlags negated dangling found) where
  suffix {cs rest changes} took := by
    fun_induction readFlags negated dangling found cs with
    | case1 => cases took
    | case2 => cases took
    | case3 =>
      cases took
      exact List.suffix_rfl
    | case4 => cases took
    | case5 _ _ _ _ _ _ ih => exact suffix_cons (ih took)
    | case6 => cases took
    | case7 _ _ _ _ _ _ _ _ ih => exact suffix_cons (ih took)
  kept {cs rest changes} some took := by
    induction cs generalizing negated dangling found with
    | nil =>
      have closed : readFlags negated dangling found closing =
          if dangling then .error .badFlags else .ok (found.reverse, [] ++ closing) := rfl
      rw [List.nil_append, closed] at took
      split at took
      · cases took
      · obtain ⟨-, rfl⟩ := ok_closing _ took
        exact absurd rfl some
    | cons c cs ih =>
      rw [List.cons_append, readFlags] at took
      rw [readFlags]
      split at took
      · next stops =>
        rw [if_pos stops]
        split at took
        · cases took
        · next firm =>
          rw [if_neg firm]
          obtain ⟨rfl, rfl⟩ := ok_closing (c :: cs) took
          rfl
      · next goesOn =>
        rw [if_neg goesOn]
        split at took
        · next minus =>
          rw [if_pos minus]
          split at took
          · cases took
          · next once =>
            rw [if_neg once]
            exact ih _ _ _ took
        · next plus =>
          rw [if_neg plus]
          split at took
          · cases took
          · next known =>
            rw [if_neg known]
            exact ih _ _ _ took

end DirectoryLogin.Pattern
