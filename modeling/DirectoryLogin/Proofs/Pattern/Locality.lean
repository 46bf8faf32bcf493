import DirectoryLogin.Pattern.Reader
import Mathlib.Data.List.Infix

namespace DirectoryLogin.Pattern

open DirectoryLogin.Text

/-- What is put behind a pattern. -/
def closing : List Char := [')', '$']

variable {α β : Type}

theorem ok_of_bind {x : Except ReadError α} {f : α → Except ReadError β} {b : β} :
    x >>= f = .ok b ↔ ∃ a, x = .ok a ∧ f a = .ok b := by
  cases x with
  | error e => simp [bind, Except.bind]
  | ok a => simp [bind, Except.bind]

theorem suffix_cons {c : Char} {cs rest : List Char} (suffix : rest <:+ cs) : rest <:+ c :: cs :=
  suffix.trans (List.suffix_cons c cs)

/-- What the closing is left over of, it was behind before. -/
theorem exists_append_closing {cs rest : List Char} (suffix : rest ++ closing <:+ cs) :
    ∃ more, cs = more ++ closing := by
  obtain ⟨front, rfl⟩ := suffix
  exact ⟨front ++ rest, by rw [List.append_assoc]⟩

theorem not_suffix_dollar {rest : List Char} : ¬ rest ++ closing <:+ ['$'] := by
  intro suffix
  have short := suffix.length_le
  simp [closing] at short

theorem append_closing_inj {cs rest : List Char} : cs ++ closing = rest ++ closing ↔ cs = rest :=
  List.append_left_inj closing

/-- A character that does not begin a text does not begin it with the closing behind it either. -/
theorem absent_closing {c : Char} (parenthesis : c ≠ ')') {cs : List Char} (absent : ∀ more, cs ≠ c :: more)
    (more : List Char) : cs ++ closing ≠ c :: more := by
  intro here
  cases cs with
  | nil => exact parenthesis (List.cons.inj here).1.symm
  | cons d cs => exact absent cs (by rw [(List.cons.inj here).1])

/-- Two characters in a row are both in front of the closing, or neither is. -/
theorem absent_pair_closing {c d : Char} (first : c ≠ ')') (second : d ≠ ')') {cs : List Char}
    (absent : ∀ more, cs ≠ c :: d :: more) (more : List Char) : cs ++ closing ≠ c :: d :: more := by
  intro here
  rcases cs with _ | ⟨e, _ | ⟨g, cs⟩⟩
  · exact first (List.cons.inj here).1.symm
  · exact second (List.cons.inj (List.cons.inj here).2).1.symm
  · simp only [List.cons_append, List.cons.injEq] at here
    exact absent cs (by rw [here.1, here.2.1])

theorem ok_closing {a b : α} (cs : List Char) {rest : List Char}
    (same : (.ok (a, cs ++ closing) : Except ReadError (α × List Char)) = .ok (b, rest ++ closing)) : a = b ∧ cs = rest := by
  simpa only [Except.ok.injEq, Prod.mk.injEq, append_closing_inj] using same

mutual

theorem skipIdle_suffix : ∀ cs : List Char, skipIdle cs <:+ cs
  | [] => List.suffix_rfl
  | c :: rest => by
    rw [skipIdle]
    split
    · exact suffix_cons (skipIdle_suffix rest)
    · split
      · exact suffix_cons (skipComment_suffix rest)
      · exact List.suffix_rfl

theorem skipComment_suffix : ∀ cs : List Char, skipComment cs <:+ cs
  | [] => List.suffix_rfl
  | c :: rest => by
    rw [skipComment]
    split
    · exact suffix_cons (skipIdle_suffix rest)
    · exact suffix_cons (skipComment_suffix rest)

end

mutual

theorem skipIdle_closing : ∀ cs : List Char,
    skipIdle (cs ++ closing) = skipIdle cs ++ closing ∨ skipIdle (cs ++ closing) = [] ∧ skipIdle cs = []
  | [] => .inl (by decide)
  | c :: cs => by
    rw [List.cons_append, skipIdle, skipIdle]
    by_cases blank : isBlank c
    · rw [if_pos blank, if_pos blank]
      exact skipIdle_closing cs
    · rw [if_neg blank, if_neg blank]
      by_cases opens : c = '#'
      · rw [if_pos opens, if_pos opens]
        exact skipComment_closing cs
      · rw [if_neg opens, if_neg opens]
        exact .inl rfl

theorem skipComment_closing : ∀ cs : List Char,
    skipComment (cs ++ closing) = skipComment cs ++ closing ∨ skipComment (cs ++ closing) = [] ∧ skipComment cs = []
  | [] => .inr (by decide)
  | c :: cs => by
    rw [List.cons_append, skipComment, skipComment]
    by_cases ends : c = '\n'
    · rw [if_pos ends, if_pos ends]
      exact skipIdle_closing cs
    · rw [if_neg ends, if_neg ends]
      exact skipComment_closing cs

end

theorem skip_suffix (f : Flags) (cs : List Char) : f.skip cs <:+ cs := by
  unfold Flags.skip
  split
  · exact skipIdle_suffix cs
  · exact List.suffix_rfl

/-- A comment at the end swallows the closing; nothing else does. -/
theorem skip_append_closing (f : Flags) (cs : List Char) :
    f.skip (cs ++ closing) = f.skip cs ++ closing ∨ f.skip (cs ++ closing) = [] ∧ f.skip cs = [] := by
  unfold Flags.skip
  cases f.verbose with
  | true => exact skipIdle_closing cs
  | false => exact .inl rfl

theorem skip_closing {f : Flags} {cs rest : List Char} (left : f.skip (cs ++ closing) = rest ++ closing) :
    f.skip cs = rest := by
  rcases skip_append_closing f cs with kept | ⟨swallowed, -⟩
  · rwa [kept, append_closing_inj] at left
  · rw [swallowed] at left
    simp [closing] at left

/-- What is skipped in front of the closing, as long as the closing is left over. -/
theorem exists_skipped {f : Flags} {cs rest : List Char} (suffix : rest ++ closing <:+ f.skip (cs ++ closing)) :
    ∃ left, f.skip (cs ++ closing) = left ++ closing ∧ f.skip cs = left ∧ left.length ≤ cs.length := by
  obtain ⟨left, split⟩ := exists_append_closing suffix
  have skipped : f.skip cs = left := skip_closing split
  exact ⟨left, split, skipped, skipped ▸ (skip_suffix f cs).length_le⟩

/-- A reader that takes from the front, and does not mind the closing as long as it is left over, at least where a
condition on what is found and left over holds. -/
structure LocalWhere (P : α → List Char → Prop) (read : List Char → Except ReadError (α × List Char)) : Prop where
  suffix {cs rest : List Char} {a : α} : read cs = .ok (a, rest) → rest <:+ cs
  kept {cs rest : List Char} {a : α} : P a rest → read (cs ++ closing) = .ok (a, rest ++ closing) →
    read cs = .ok (a, rest)

/-- A reader that does not mind the closing at all as long as it is left over. -/
abbrev Local (read : List Char → Except ReadError (α × List Char)) : Prop :=
  LocalWhere (fun _ _ => True) read

theorem Local.same {read : List Char → Except ReadError (α × List Char)} (isLocal : Local read) {cs rest : List Char}
    {a : α} (took : read (cs ++ closing) = .ok (a, rest ++ closing)) : read cs = .ok (a, rest) :=
  isLocal.kept trivial took

namespace LocalWhere

variable {P : α → List Char → Prop} {Q : β → List Char → Prop}

theorem ok (a : α) : LocalWhere P fun cs => .ok (a, cs) where
  suffix took := by
    cases took
    exact List.suffix_rfl
  kept _ took := by
    obtain ⟨rfl, rfl⟩ := ok_closing _ took
    rfl

theorem error (e : ReadError) : LocalWhere P fun _ => .error e where
  suffix took := nomatch took
  kept _ took := nomatch took

/-- After what means nothing. -/
theorem skip (f : Flags) {read : List Char → Except ReadError (α × List Char)} (later : LocalWhere P read) :
    LocalWhere P fun cs => read (f.skip cs) where
  suffix took := (later.suffix took).trans (skip_suffix f _)
  kept {cs _ _} holds took := by
    obtain ⟨left, split, skipped, -⟩ := exists_skipped (later.suffix took)
    rw [skipped]
    exact later.kept holds (split ▸ took)

theorem bind {read : List Char → Except ReadError (α × List Char)}
    {next : α → List Char → Except ReadError (β × List Char)} (first : LocalWhere P read)
    (later : ∀ a, LocalWhere Q (next a))
    (before : ∀ {a cs rest b}, Q b rest → next a (cs ++ closing) = .ok (b, rest ++ closing) → P a cs) :
    LocalWhere Q fun cs => read cs >>= fun found => next found.1 found.2 where
  suffix took := by
    obtain ⟨⟨a, middle⟩, one, rest⟩ := ok_of_bind.1 took
    exact ((later a).suffix rest).trans (first.suffix one)
  kept holds took := by
    obtain ⟨⟨a, middle⟩, one, rest⟩ := ok_of_bind.1 took
    obtain ⟨more, rfl⟩ := exists_append_closing ((later a).suffix rest)
    exact ok_of_bind.2 ⟨(a, more), first.kept (before holds rest) one, (later a).kept holds rest⟩

/-- One character is taken. Without the pattern's own characters that would be the parenthesis. -/
theorem cons {read : List Char → Except ReadError (α × List Char)}
    {next : Char → List Char → Except ReadError (α × List Char)} (step : ∀ c cs, read (c :: cs) = next c cs)
    {e : ReadError} (none : read [] = .error e) (later : ∀ c, LocalWhere P (next c)) : LocalWhere P read where
  suffix {cs _ _} took := by
    cases cs with
    | nil =>
      rw [none] at took
      cases took
    | cons c cs =>
      rw [step] at took
      exact suffix_cons ((later c).suffix took)
  kept {cs _ _} holds took := by
    cases cs with
    | nil =>
      have closed : read (')' :: ['$']) = .ok _ := took
      rw [step] at closed
      exact absurd ((later ')').suffix closed) not_suffix_dollar
    | cons c cs =>
      rw [List.cons_append, step] at took
      rw [step]
      exact (later c).kept holds took

/-- After what means nothing, one character decides how to go on. -/
theorem look (f : Flags) (c : Char) {read taken other : List Char → Except ReadError (α × List Char)}
    (there : ∀ {cs more}, f.skip cs = c :: more → read cs = taken more)
    (absent : ∀ {cs}, (∀ more, f.skip cs ≠ c :: more) → read cs = other (f.skip cs))
    (first : LocalWhere P taken) (second : LocalWhere P other) : LocalWhere P read where
  suffix {cs _ _} took := by
    by_cases found : ∃ more, f.skip cs = c :: more
    · obtain ⟨more, here⟩ := found
      rw [there here] at took
      exact (suffix_cons (first.suffix took)).trans (here ▸ skip_suffix f cs)
    · rw [absent (not_exists.1 found)] at took
      exact (second.suffix took).trans (skip_suffix f cs)
  kept {cs rest a} holds took := by
    by_cases found : ∃ more, f.skip (cs ++ closing) = c :: more
    · obtain ⟨more, here⟩ := found
      rw [there here] at took
      obtain ⟨own, rfl⟩ := exists_append_closing (first.suffix took)
      rw [there (skip_closing here)]
      exact first.kept holds took
    · rw [absent (not_exists.1 found)] at took
      obtain ⟨left, split, skipped, -⟩ := exists_skipped (second.suffix took)
      rw [split] at took
      rw [absent, skipped]
      · exact second.kept holds took
      · rintro more here
        exact found ⟨more ++ closing, by rw [split, ← skipped, here, List.cons_append]⟩

end LocalWhere

theorem Local.bind {read : List Char → Except ReadError (α × List Char)}
    {next : α → List Char → Except ReadError (β × List Char)} (first : Local read) (later : ∀ a, Local (next a)) :
    Local fun cs => read cs >>= fun found => next found.1 found.2 :=
  LocalWhere.bind first later fun _ _ => trivial

theorem readHexDigits_local (f : Flags) (count value : Nat) : Local (readHexDigits f count value) := by
  induction count generalizing value with
  | zero => exact .ok value
  | succ count ih =>
    have step (c : Char) (cs : List Char) : readHexDigits f (count + 1) value (c :: cs) =
        (hexDigit? c).elim (.error .badEscape) fun d => readHexDigits f count (16 * value + d) (f.skip cs) := by
      rw [readHexDigits]
      cases hexDigit? c <;> rfl
    refine .cons step rfl fun c => ?_
    cases hexDigit? c with
    | some d => exact .skip f (ih _)
    | none => exact .error _

/-- A reader that goes on for as long as it has fuel is local where the fuel does for the text. -/
structure LocalWithin (read : Nat → List Char → Except ReadError (α × List Char)) : Prop where
  suffix {fuel : Nat} {cs rest : List Char} {a : α} : read fuel cs = .ok (a, rest) → rest <:+ cs
  same {fuel more : Nat} {cs rest : List Char} {a : α} : cs.length ≤ fuel →
    read more (cs ++ closing) = .ok (a, rest ++ closing) → read fuel cs = .ok (a, rest)

theorem LocalWithin.skipped {read : Nat → List Char → Except ReadError (α × List Char)} (within : LocalWithin read)
    (f : Flags) : Local fun cs => read cs.length (f.skip cs) where
  suffix {cs _ _} took := (within.suffix took).trans (skip_suffix f cs)
  kept {cs rest a} _ took := by
    obtain ⟨left, split, skipped, shorter⟩ := exists_skipped (within.suffix took)
    rw [split] at took
    rw [skipped]
    exact within.same shorter took

/-- A reader that goes from character to character, up to one where it ends. Where its fuel is short it says nothing else
than with more. -/
structure Running {σ : Type} (f : Flags) (read : σ → Nat → List Char → Except ReadError (α × List Char)) : Prop where
  none (s : σ) (fuel : Nat) : ∃ e, read s fuel [] = .error e
  bare {s : σ} {cs : List Char} {found : α × List Char} : read s 0 cs = .ok found → read s 1 cs = .ok found
  step (s : σ) (c : Char) : (∃ s', ∀ fuel cs, read s (fuel + 1) (c :: cs) = read s' fuel (f.skip cs)) ∨
    ∃ last, Local last ∧ ∀ fuel cs, read s (fuel + 1) (c :: cs) = last cs

namespace Running

variable {σ : Type} {f : Flags} {read : σ → Nat → List Char → Except ReadError (α × List Char)}

theorem fuelled (runs : Running f read) {s : σ} {fuel : Nat} {cs : List Char} {found : α × List Char}
    (took : read s fuel cs = .ok found) : ∃ more, read s (more + 1) cs = .ok found := by
  cases fuel with
  | zero => exact ⟨0, runs.bare took⟩
  | succ fuel => exact ⟨fuel, took⟩

theorem suffix (runs : Running f read) {s : σ} {fuel : Nat} {cs rest : List Char} {a : α}
    (took : read s fuel cs = .ok (a, rest)) : rest <:+ cs := by
  induction bound : cs.length using Nat.strong_induction_on generalizing s fuel cs with
  | h n ih =>
    obtain ⟨more, took⟩ := runs.fuelled took
    cases cs with
    | nil =>
      obtain ⟨e, empty⟩ := runs.none s (more + 1)
      rw [empty] at took
      cases took
    | cons c cs =>
      have shorter : (f.skip cs).length < n := by
        rw [← bound, List.length_cons]
        exact Nat.lt_succ_of_le (skip_suffix f cs).length_le
      rcases runs.step s c with ⟨s', goesOn⟩ | ⟨last, isLocal, ends⟩
      · rw [goesOn] at took
        exact suffix_cons ((ih _ shorter took rfl).trans (skip_suffix f cs))
      · rw [ends] at took
        exact suffix_cons (isLocal.suffix took)

/-- Where nothing of the pattern is left, the closing is looked at. -/
theorem own (runs : Running f read) {s : σ} {fuel : Nat} {cs rest : List Char} {a : α}
    (took : read s fuel (cs ++ closing) = .ok (a, rest ++ closing)) : cs ≠ [] := by
  rintro rfl
  obtain ⟨more, took⟩ := runs.fuelled took
  have closed : read s (more + 1) (')' :: ['$']) = .ok (a, rest ++ closing) := took
  rcases runs.step s ')' with ⟨s', goesOn⟩ | ⟨last, isLocal, ends⟩
  · rw [goesOn] at closed
    exact not_suffix_dollar ((runs.suffix closed).trans (skip_suffix f _))
  · rw [ends] at closed
    exact not_suffix_dollar (isLocal.suffix closed)

theorem same (runs : Running f read) {s : σ} {fuel more : Nat} {cs rest : List Char} {a : α}
    (enough : cs.length ≤ fuel) (took : read s more (cs ++ closing) = .ok (a, rest ++ closing)) :
    read s fuel cs = .ok (a, rest) := by
  induction fuel generalizing s more cs with
  | zero => exact absurd (List.length_eq_zero_iff.1 (Nat.le_zero.1 enough)) (runs.own took)
  | succ fuel ih =>
    obtain ⟨c, cs, rfl⟩ := List.exists_cons_of_ne_nil (runs.own took)
    obtain ⟨more, took⟩ := runs.fuelled took
    rw [List.cons_append] at took
    rcases runs.step s c with ⟨s', goesOn⟩ | ⟨last, isLocal, ends⟩
    · rw [goesOn] at took ⊢
      obtain ⟨left, split, skipped, shorter⟩ := exists_skipped (runs.suffix took)
      rw [split] at took
      rw [skipped]
      exact ih (shorter.trans (Nat.le_of_succ_le_succ enough)) took
    · rw [ends] at took ⊢
      exact isLocal.same took

theorem within (runs : Running f read) (s : σ) : LocalWithin (read s) :=
  ⟨runs.suffix, runs.same⟩

end Running

theorem readBracedHex_running (f : Flags) : Running f fun digits fuel cs => readBracedHex f fuel digits cs where
  none digits fuel := ⟨.badEscape, by cases fuel <;> rfl⟩
  bare {digits cs found} took := by
    unfold readBracedHex at took ⊢
    split at took
    · exact took
    · contradiction
    · cases took
  step digits c := by
    by_cases ends : c = '}'
    · subst ends
      refine .inr ⟨fun cs => if digits.isEmpty then .error .badEscape
        else .ok (digits.foldr (fun d n => 16 * n + d) 0, f.skip cs), ?_, fun fuel cs => rfl⟩
      cases digits.isEmpty with
      | true => exact .error _
      | false => exact .skip f (.ok _)
    · cases digit : hexDigit? c with
      | some d =>
        refine .inl ⟨d :: digits, fun fuel cs => ?_⟩
        rw [readBracedHex, digit]
        exact ends
      | none =>
        refine .inr ⟨fun _ => .error .badEscape, .error _, fun fuel cs => ?_⟩
        rw [readBracedHex, digit]
        exact ends

theorem readPropertyName_running (f : Flags) : Running f fun name fuel cs => readPropertyName f fuel name cs where
  none name fuel := ⟨.badEscape, by cases fuel <;> rfl⟩
  bare {name cs found} took := by
    unfold readPropertyName at took ⊢
    split at took
    · exact took
    · contradiction
    · cases took
  step name c := by
    by_cases ends : c = '}'
    · subst ends
      exact .inr ⟨fun cs => .ok (name.reverse, cs), .ok _, fun fuel cs => rfl⟩
    · refine .inl ⟨c :: name, fun fuel cs => ?_⟩
      rw [readPropertyName]
      exact ends

theorem readHex_local (f : Flags) (count : Nat) : Local (readHex f count) := by
  have valued (value : Nat) (braced : Bool) : Local fun cs =>
      (scalar? value).elim (.error .badEscape) fun c => .ok (Atom.literal c (!braced && count == 2), cs) := by
    cases scalar? value with
    | some c => exact .ok _
    | none => exact .error _
  have braces := (((readBracedHex_running f).within []).skipped f).bind fun value => valued value true
  have digits := (readHexDigits_local f count 0).bind fun value => valued value false
  refine .look f '{' (fun {cs inner} here => ?_) (fun {cs} absent => ?_) braces digits
  · unfold readHex
    rw [here]
    simp only [bind, Except.bind, pure, Except.pure, throw, throwThe, MonadExceptOf.throw]
    cases readBracedHex f inner.length [] (f.skip inner) with
    | error e => rfl
    | ok found =>
      dsimp only
      cases scalar? found.1 <;> rfl
  · unfold readHex
    split
    · next here => exact absurd here (absent _)
    · simp only [bind, Except.bind, pure, Except.pure, throw, throwThe, MonadExceptOf.throw]
      cases readHexDigits f count 0 (f.skip cs) with
      | error e => rfl
      | ok found =>
        dsimp only
        cases scalar? found.1 <;> rfl

/-- The class that a property comes to. -/
def propertyAtom (f : Flags) (negated : Bool) (accepted : CharSet) (cs : List Char) :
    Except ReadError (Atom × List Char) := do
  if !f.unicode then throw .notUtf8
  return (.set (← foldAndNegate f negated accepted), cs)

/-- What a name between braces stands for, and whether its opposite is meant. -/
def propertyNamed? (name : List Char) : Option CharSet × Bool :=
  match cutAtUnequal name with
  | some (key, value) => (Property.ofNameAndValue? key value, true)
  | none =>
    match (cutAt (· == ':') name).or (cutAt (· == '=') name) with
    | some (key, value) => (Property.ofNameAndValue? key value, false)
    | none => (Property.ofName? name, false)

theorem propertyAtom_local (f : Flags) (negated : Bool) (accepted : CharSet) :
    Local (propertyAtom f negated accepted) := by
  unfold propertyAtom
  cases f.unicode with
  | false => exact .error _
  | true =>
    cases foldAndNegate f negated accepted with
    | ok folded => exact .ok _
    | error e => exact .error e

theorem readProperty_braces {f : Flags} (negated : Bool) {cs inner : List Char} (here : f.skip cs = '{' :: inner) :
    readProperty f negated cs = readPropertyName f inner.length [] (f.skip inner) >>= fun found =>
      match (propertyNamed? found.1).1 with
      | some accepted => propertyAtom f (negated != (propertyNamed? found.1).2) accepted found.2
      | none => .error .unknownProperty := by
  unfold readProperty
  rw [here]
  simp only [bind, Except.bind, pure, Except.pure, throw, throwThe, MonadExceptOf.throw]
  cases readPropertyName f inner.length [] (f.skip inner) with
  | error e => rfl
  | ok found =>
    dsimp only
    change (match (propertyNamed? found.1).1 with
      | some accepted => _
      | none => _) = _
    cases (propertyNamed? found.1).1 with
    | none => rfl
    | some accepted => rfl

theorem readProperty_single {f : Flags} (negated : Bool) {cs : List Char} (absent : ∀ inner, f.skip cs ≠ '{' :: inner) :
    readProperty f negated cs = match f.skip cs with
      | [] => .error .badEscape
      | c :: rest => if c = '\\' then .error .badEscape else
        match Property.ofName? [c] with
        | some accepted => propertyAtom f negated accepted (f.skip rest)
        | none => .error .unknownProperty := by
  unfold readProperty
  simp only [bind, Except.bind, pure, Except.pure, throw, throwThe, MonadExceptOf.throw]
  generalize f.skip cs = text at absent
  cases text with
  | nil => rfl
  | cons c rest =>
    dsimp only
    split
    · contradiction
    · next head =>
      have brace := (List.cons.inj head).1
      exact absurd (brace ▸ rfl) (absent rest)
    · next head =>
      rw [if_pos (List.cons.inj head).1]
    · next d more brace backslash head =>
      obtain ⟨rfl, rfl⟩ := List.cons.inj head
      rw [if_neg backslash]
      cases Property.ofName? [c] with
      | none => rfl
      | some accepted => rfl

theorem readProperty_local (f : Flags) (negated : Bool) : Local (readProperty f negated) := by
  have named (name : List Char) : Local fun cs =>
      match (propertyNamed? name).1 with
      | some accepted => propertyAtom f (negated != (propertyNamed? name).2) accepted cs
      | none => .error .unknownProperty := by
    cases (propertyNamed? name).1 with
    | none => exact .error _
    | some accepted => exact propertyAtom_local f _ accepted
  have letter (c : Char) : Local fun cs => if c = '\\' then .error .badEscape else
      match Property.ofName? [c] with
      | some accepted => propertyAtom f negated accepted (f.skip cs)
      | none => .error .unknownProperty := by
    split
    · exact .error _
    · cases Property.ofName? [c] with
      | some accepted => exact .skip f (propertyAtom_local f negated accepted)
      | none => exact .error _
  have single : Local fun cs : List Char => match cs with
      | [] => .error .badEscape
      | c :: rest => if c = '\\' then .error .badEscape else
        match Property.ofName? [c] with
        | some accepted => propertyAtom f negated accepted (f.skip rest)
        | none => .error .unknownProperty :=
    .cons (fun _ _ => rfl) rfl letter
  have braces := (((readPropertyName_running f).within []).skipped f).bind named
  exact .look f '{' (readProperty_braces negated) (readProperty_single negated) braces single

/-- Whether a character may stand in the name of an edge. -/
def isEdgeName (c : Char) : Bool := c.isAlpha || c == '-'

/-- The name of an edge up to the brace that closes it. -/
def readEdgeName (f : Flags) (fuel : Nat) (found cs : List Char) : Except ReadError (List Char × List Char) :=
  match readWordEdge.name f isEdgeName fuel found cs with
  | (name, '}' :: after) => .ok (name, after)
  | _ => .error .badEscape

theorem readEdgeName_running (f : Flags) : Running f fun found fuel cs => readEdgeName f fuel found cs where
  none found fuel := ⟨.badEscape, by cases fuel <;> rfl⟩
  bare {found cs named} took := by
    unfold readEdgeName readWordEdge.name at took ⊢
    split at took
    · next same =>
      cases same
      exact took
    · cases took
  step found c := by
    by_cases goesOn : isEdgeName c
    · refine .inl ⟨c :: found, fun fuel cs => ?_⟩
      rw [readEdgeName, readWordEdge.name, if_pos goesOn, readEdgeName]
    · by_cases ends : c = '}'
      · refine .inr ⟨fun cs => .ok (found.reverse, cs), .ok _, fun fuel cs => ?_⟩
        rw [readEdgeName, readWordEdge.name, if_neg goesOn]
        subst ends
        rfl
      · refine .inr ⟨fun _ => .error .badEscape, .error _, fun fuel cs => ?_⟩
        rw [readEdgeName, readWordEdge.name, if_neg goesOn]
        split
        · next same => exact absurd (List.cons.inj (Prod.mk.inj same).2).1 ends
        · rfl

theorem readEscape_plain {f : Flags} {c : Char} (other : c ≠ 'b') : Local fun cs => readEscape f (c :: cs) := by
  by_cases meant : c ∈ ['x', 'u', 'U', 'p', 'P', 'd', 'D', 's', 'S', 'w', 'W', 'a', 'f', 't', 'n', 'r', 'v', 'A', 'z',
      'B', '<', '>']
  · have opposite (accepted : CharSet) : Local (shorthandOpposite f accepted) := by
      unfold shorthandOpposite
      cases f.unicode with
      | true => exact .ok _
      | false => exact .error _
    simp only [List.mem_cons, List.not_mem_nil, or_false] at meant
    rcases meant with rfl | rfl | rfl | rfl | rfl | rfl | rfl | rfl | rfl | rfl | rfl | meant
    · exact readHex_local f 2
    · exact readHex_local f 4
    · exact readHex_local f 8
    · exact readProperty_local f false
    · exact readProperty_local f true
    · exact .ok _
    · exact opposite _
    · exact .ok _
    · exact opposite _
    · exact .ok _
    · exact opposite _
    · rcases meant with rfl | rfl | rfl | rfl | rfl | rfl | rfl | rfl | rfl | rfl | rfl <;> exact .ok _
  · have plain (cs : List Char) : readEscape f (c :: cs) =
        if isEscapable c then .ok (.literal c false, cs) else .error .badEscape := by
      simp only [List.mem_cons, List.not_mem_nil, or_false, not_or] at meant
      unfold readEscape
      split <;> simp_all
    simp only [plain]
    cases isEscapable c with
    | true => exact .ok _
    | false => exact .error _

/-- The edge that a name stands for. -/
def edgeNamed (name : List Char) : Except ReadError WordEdge :=
  match String.ofList name with
  | "start" => .ok .start
  | "end" => .ok .finish
  | "start-half" => .ok .startHalf
  | "end-half" => .ok .finishHalf
  | _ => .error .badEscape

theorem edgeNamed_map (name after : List Char) : (match String.ofList name with
    | "start" => .ok (some (.start, after))
    | "end" => .ok (some (.finish, after))
    | "start-half" => .ok (some (.startHalf, after))
    | "end-half" => .ok (some (.finishHalf, after))
    | _ => .error .badEscape : Except ReadError (Option (WordEdge × List Char))) =
      (edgeNamed name).map fun edge => some (edge, after) := by
  unfold edgeNamed
  split <;> rfl

theorem readEscape_brace (f : Flags) (cs : List Char) : readEscape f ('b' :: '{' :: cs) = match f.skip cs with
    | [] => .error .badCount
    | c :: rest => if isEdgeName c then
        readEdgeName f (rest.length + 1) [] (c :: rest) >>= fun found =>
          edgeNamed found.1 >>= fun edge => .ok (.look (.word f.unicode edge), found.2)
      else .ok (.look (.word f.unicode .boundary), '{' :: cs) := by
  have test : (fun c : Char => c.isAlpha || c == '-') = isEdgeName := rfl
  rw [readEscape, readWordEdge, test]
  cases f.skip cs with
  | nil => rfl
  | cons c rest =>
    dsimp only
    cases isEdgeName c with
    | false => rfl
    | true =>
      unfold readEdgeName
      rcases readWordEdge.name f isEdgeName (rest.length + 1) [] (c :: rest) with ⟨name, _ | ⟨d, after⟩⟩
      · rfl
      · by_cases closed : d = '}'
        · subst closed
          refine (congrArg (· >>= _) (edgeNamed_map name after)).trans ?_
          simp only [if_true, bind, Except.bind]
          cases edgeNamed name <;> rfl
        · simp [closed, bind, Except.bind]

theorem readEscape_boundary {f : Flags} {d : Char} (other : d ≠ '{') (cs : List Char) :
    readEscape f ('b' :: d :: cs) = .ok (.look (.word f.unicode .boundary), d :: cs) := by
  unfold readEscape
  simp [other]

theorem readEscape_suffix {f : Flags} {cs rest : List Char} {atom : Atom} (took : readEscape f cs = .ok (atom, rest)) :
    rest <:+ cs := by
  cases cs with
  | nil => cases took
  | cons c cs =>
    by_cases boundary : c = 'b'
    · subst boundary
      cases cs with
      | nil =>
        cases took
        exact List.suffix_cons _ _
      | cons d cs =>
        by_cases brace : d = '{'
        · subst brace
          rw [readEscape_brace] at took
          split at took
          · cases took
          · next e more here =>
            split at took
            · obtain ⟨⟨name, left⟩, named, ends⟩ := ok_of_bind.1 took
              obtain ⟨edge, -, ends⟩ := ok_of_bind.1 ends
              cases ends
              have inner : left <:+ f.skip cs := here ▸ (readEdgeName_running f).suffix named
              exact suffix_cons (suffix_cons (inner.trans (skip_suffix f cs)))
            · cases took
              exact List.suffix_cons _ _
        · rw [readEscape_boundary brace] at took
          cases took
          exact List.suffix_cons _ _
    · exact suffix_cons ((readEscape_plain boundary).suffix took)

/-- A look with a brace behind it, and nothing more. -/
def Bare (f : Flags) (atom : Atom) (rest : List Char) : Prop :=
  (∃ condition, atom = .look condition) ∧ ∃ idle, rest = '{' :: idle ∧ f.skip idle = []

/-- The brace after `\b` at the end of a pattern is the one place where the closing is looked at and left over. -/
theorem readEscape_same {f : Flags} {cs rest : List Char} {atom : Atom}
    (took : readEscape f (cs ++ closing) = .ok (atom, rest ++ closing)) :
    readEscape f cs = .ok (atom, rest) ∨ Bare f atom rest := by
  cases cs with
  | nil =>
    have closed : readEscape f (')' :: ['$']) = .ok (atom, rest ++ closing) := took
    exact absurd ((readEscape_plain (by decide)).suffix closed) not_suffix_dollar
  | cons c cs =>
    by_cases boundary : c = 'b'
    · subst boundary
      cases cs with
      | nil =>
        have here := (readEscape_boundary (by decide) ['$']).symm.trans took
        obtain ⟨rfl, rfl⟩ := ok_closing [] here
        exact .inl rfl
      | cons d cs =>
        by_cases brace : d = '{'
        · subst brace
          rw [List.cons_append, List.cons_append, readEscape_brace] at took
          rw [readEscape_brace]
          rcases skip_append_closing f cs with kept | ⟨swallowed, -⟩
          · rw [kept] at took
            cases left : f.skip cs with
            | nil =>
              have parenthesis : ¬ isEdgeName ')' := by decide
              rw [left] at took
              obtain ⟨look, rfl⟩ := ok_closing ('{' :: cs) ((if_neg parenthesis).symm.trans took)
              exact .inr ⟨⟨_, look.symm⟩, cs, rfl, left⟩
            | cons e more =>
              rw [left, List.cons_append] at took
              refine .inl ?_
              dsimp only at took ⊢
              by_cases named : isEdgeName e
              · rw [if_pos named] at took ⊢
                obtain ⟨⟨name, after⟩, read, ends⟩ := ok_of_bind.1 took
                obtain ⟨edge, known, ends⟩ := ok_of_bind.1 ends
                obtain ⟨rfl, rfl⟩ : _ = atom ∧ after = rest ++ closing := by simpa using ends
                have own : readEdgeName f (more.length + 1) [] (e :: more) = .ok (name, rest) :=
                  (readEdgeName_running f).same (Nat.le_refl _) read
                exact ok_of_bind.2 ⟨_, own, ok_of_bind.2 ⟨edge, known, rfl⟩⟩
              · rw [if_neg named] at took ⊢
                obtain ⟨rfl, rfl⟩ := ok_closing ('{' :: cs) took
                rfl
          · rw [swallowed] at took
            cases took
        · rw [List.cons_append, List.cons_append, readEscape_boundary brace] at took
          obtain ⟨rfl, rfl⟩ := ok_closing (d :: cs) took
          exact .inl (readEscape_boundary brace cs)
    · exact .inl ((readEscape_plain boundary).same took)

end DirectoryLogin.Pattern
