import DirectoryLogin.Pattern.BracketClass
import DirectoryLogin.Proofs.Pattern.Locality
import DirectoryLogin.Proofs.Text.Cutting

namespace DirectoryLogin.Pattern

open DirectoryLogin.Text

theorem readHyphens_hyphen (f : Flags) (fuel : Nat) (o : OpenClass) (cs : List Char) :
    readHyphens f (fuel + 1) o ('-' :: cs) = readHyphens f fuel (o.add (ClassPart.only '-')) (f.skip cs) := rfl

theorem readHyphens_other (f : Flags) (fuel : Nat) (o : OpenClass) {cs : List Char} (other : ∀ rest, cs ≠ '-' :: rest) :
    readHyphens f fuel o cs = (o, cs) := by
  unfold readHyphens
  split
  · next rest => exact absurd rfl (other rest)
  · rfl

theorem readHyphens_suffix (f : Flags) (fuel : Nat) (o : OpenClass) (cs : List Char) :
    (readHyphens f fuel o cs).2 <:+ cs := by
  fun_induction readHyphens f fuel o cs with
  | case1 fuel o rest ih => exact suffix_cons (ih.trans (skip_suffix f rest))
  | case2 => exact List.suffix_rfl

theorem readHyphens_closing (f : Flags) {fuel more : Nat} (o : OpenClass) {cs : List Char}
    (enough : cs.length ≤ fuel) (enoughMore : cs.length ≤ more) :
    readHyphens f more o (cs ++ closing) = ((readHyphens f fuel o cs).1, (readHyphens f fuel o cs).2 ++ closing) ∨
      (readHyphens f more o (cs ++ closing)).2 = [] := by
  have ends {fuel more : Nat} {o : OpenClass} {cs : List Char} (other : ∀ rest, cs ≠ '-' :: rest) :
      readHyphens f more o (cs ++ closing) =
        ((readHyphens f fuel o cs).1, (readHyphens f fuel o cs).2 ++ closing) := by
    rw [readHyphens_other f fuel o other, readHyphens_other]
    exact absent_closing (by decide) other
  induction fuel generalizing more o cs with
  | zero =>
    obtain rfl := List.length_eq_zero_iff.1 (Nat.le_zero.1 enough)
    exact .inl (ends (by simp))
  | succ fuel ih =>
    by_cases hyphen : ∃ rest, cs = '-' :: rest
    · obtain ⟨rest, rfl⟩ := hyphen
      rw [List.length_cons] at enough enoughMore
      obtain ⟨more, rfl⟩ : ∃ n, more = n + 1 := ⟨more - 1, by omega⟩
      rw [List.cons_append, readHyphens_hyphen, readHyphens_hyphen]
      rcases skip_append_closing f rest with kept | ⟨swallowed, -⟩
      · have shorter := (skip_suffix f rest).length_le
        rw [kept]
        exact ih _ (by omega) (by omega)
      · rw [swallowed]
        exact .inr (List.suffix_nil.1 (readHyphens_suffix f more _ []))
    · exact .inl (ends (not_exists.1 hyphen))

/-- What follows the hyphens that stand for themselves, of a class that has been opened. -/
def openedClass (f : Flags) (o : OpenClass) (cs : List Char) : Except ReadError (OpenClass × List Char) :=
  match cs with
  | [] => .error .unclosedClass
  | ']' :: rest =>
    if o.parts.isEmpty then
      match f.skip rest with
      | [] => .error .unclosedClass
      | rest => .ok (o.add (ClassPart.only ']'), rest)
    else .ok (o, cs)
  | _ => .ok (o, cs)

/-- What follows the negation of a class, or would follow one. -/
def hyphenated (f : Flags) (negated : Bool) (cs : List Char) : Except ReadError (OpenClass × List Char) :=
  openedClass f (readHyphens f cs.length { negated } cs).1 (readHyphens f cs.length { negated } cs).2

theorem openedClass_local (f : Flags) (o : OpenClass) : LocalWhere (fun _ rest => rest ≠ []) (openedClass f o) where
  suffix {cs rest a} took := by
    unfold openedClass at took
    split at took
    · cases took
    · next more =>
      split at took
      · split at took
        · cases took
        · cases took
          exact suffix_cons (skip_suffix f more)
      · cases took
        exact List.suffix_rfl
    · cases took
      exact List.suffix_rfl
  kept {cs rest a} some took := by
    cases cs with
    | nil =>
      obtain ⟨-, rfl⟩ := ok_closing [] took
      exact absurd rfl some
    | cons c cs =>
      by_cases bracket : c = ']'
      · subst bracket
        rw [List.cons_append, openedClass] at took
        rw [openedClass]
        by_cases first : o.parts.isEmpty
        · rw [if_pos first] at took ⊢
          rcases skip_append_closing f cs with kept | ⟨swallowed, -⟩
          · rw [kept] at took
            cases left : f.skip cs with
            | nil =>
              rw [left] at took
              obtain ⟨-, rfl⟩ := ok_closing [] took
              exact absurd rfl some
            | cons d more =>
              rw [left] at took
              obtain ⟨rfl, rfl⟩ := ok_closing (d :: more) took
              rfl
          · rw [swallowed] at took
            cases took
        · rw [if_neg first] at took ⊢
          obtain ⟨rfl, rfl⟩ := ok_closing (']' :: cs) took
          rfl
      · have other (text : List Char) : openedClass f o (c :: text) = .ok (o, c :: text) := by
          unfold openedClass
          simp [bracket]
        rw [List.cons_append, other] at took
        obtain ⟨rfl, rfl⟩ := ok_closing (c :: cs) took
        exact other cs

theorem hyphenated_local (f : Flags) (negated : Bool) : LocalWhere (fun _ rest => rest ≠ []) (hyphenated f negated) where
  suffix took := ((openedClass_local f _).suffix took).trans (readHyphens_suffix f _ _ _)
  kept {cs rest a} some took := by
    unfold hyphenated at took ⊢
    have longer : cs.length ≤ (cs ++ closing).length := by simp
    rcases readHyphens_closing f { negated } (Nat.le_refl cs.length) longer with kept | swallowed
    · rw [kept] at took
      exact (openedClass_local f _).kept some took
    · rw [swallowed] at took
      cases took

theorem no_hat (next : List Char → List Char) (text : List Char) : (∀ rest, text ≠ '^' :: rest) →
    (match text with | '^' :: rest => (true, next rest) | _ => (false, text)) = (false, text) := by
  intro absent
  split
  · next rest => exact absurd rfl (absent rest)
  · rfl

theorem openClass_local (f : Flags) : LocalWhere (fun _ rest => rest ≠ []) (openClass f) := by
  have hat := LocalWhere.skip f (hyphenated_local f true)
  refine .look f '^' (fun here => ?_) (fun absent => ?_) hat (hyphenated_local f false)
  · unfold openClass
    rw [here]
    rfl
  · exact congrArg (fun hat : Bool × List Char => hyphenated f hat.1 hat.2) (no_hat f.skip _ absent)

theorem cutAt_closing {cut : Char → Bool} (parenthesis : cut ')' = false) (dollar : cut '$' = false) (cs : List Char) :
    cutAt cut (cs ++ closing) = (cutAt cut cs).map fun found => (found.1, found.2 ++ closing) := by
  induction cs with
  | nil => simp [cutAt, closing, parenthesis, dollar]
  | cons c cs ih =>
    rw [List.cons_append, cutAt, cutAt]
    by_cases here : cut c
    · rw [if_pos here, if_pos here]
      rfl
    · rw [if_neg here, if_neg here, ih, Option.map_map, Option.map_map]
      rfl

/-- The class of a name with a colon and a bracket behind it. -/
def posixNamed? (f : Flags) (negated : Bool) (cs : List Char) : Option (Except ReadError CharSet × List Char) :=
  match cutAt (· == ':') cs with
  | some (name, ']' :: after) =>
    (CharSet.posix? (String.ofList name)).map fun accepted => (foldAndNegate f negated accepted, after)
  | _ => none

theorem posixNamed?_closing (f : Flags) (negated : Bool) (cs : List Char) :
    posixNamed? f negated (cs ++ closing) =
      (posixNamed? f negated cs).map fun found => (found.1, found.2 ++ closing) := by
  unfold posixNamed?
  rw [cutAt_closing rfl rfl]
  rcases cutAt (· == ':') cs with _ | ⟨name, _ | ⟨c, after⟩⟩
  · rfl
  · rfl
  · by_cases bracket : c = ']'
    · subst bracket
      simp only [Option.map_some, List.cons_append, Option.map_map]
      rfl
    · simp [bracket]

theorem cutAt_suffix {cut : Char → Bool} {cs before after : List Char} (found : cutAt cut cs = some (before, after)) :
    after <:+ cs := by
  obtain ⟨c, rfl, -⟩ := exists_split_of_cutAt found
  exact (List.suffix_cons c after).trans (List.suffix_append before _)

theorem posixNamed?_suffix {f : Flags} {negated : Bool} {cs after : List Char} {accepted : Except ReadError CharSet}
    (found : posixNamed? f negated cs = some (accepted, after)) : after <:+ cs := by
  unfold posixNamed? at found
  split at found
  · next name rest cut =>
    obtain ⟨known, -, same⟩ := Option.map_eq_some_iff.1 found
    cases same
    exact (List.suffix_cons _ _).trans (cutAt_suffix cut)
  · cases found

theorem readPosix?_plain (f : Flags) {cs : List Char} (absent : ∀ rest, cs ≠ '^' :: rest) :
    readPosix? f (':' :: cs) = posixNamed? f false cs :=
  congrArg (fun hat : Bool × List Char => posixNamed? f hat.1 hat.2) (no_hat id cs absent)

theorem readPosix?_closing (f : Flags) (cs : List Char) :
    readPosix? f (cs ++ closing) = (readPosix? f cs).map fun found => (found.1, found.2 ++ closing) := by
  rcases cs with _ | ⟨c, cs⟩
  · rfl
  · by_cases colon : c = ':'
    · subst colon
      by_cases hat : ∃ rest, cs = '^' :: rest
      · obtain ⟨rest, rfl⟩ := hat
        exact posixNamed?_closing f true rest
      · have absent := not_exists.1 hat
        rw [List.cons_append, readPosix?_plain f absent, readPosix?_plain]
        · exact posixNamed?_closing f false cs
        · exact absent_closing (by decide) absent
    · simp [readPosix?, colon]

theorem readPosix?_suffix {f : Flags} {cs after : List Char} {accepted : Except ReadError CharSet}
    (found : readPosix? f cs = some (accepted, after)) : after <:+ cs := by
  rcases cs with _ | ⟨c, cs⟩
  · cases found
  · by_cases colon : c = ':'
    · subst colon
      by_cases hat : ∃ rest, cs = '^' :: rest
      · obtain ⟨rest, rfl⟩ := hat
        exact suffix_cons (suffix_cons (posixNamed?_suffix found))
      · rw [readPosix?_plain f (not_exists.1 hat)] at found
        exact suffix_cons (posixNamed?_suffix found)
    · simp [readPosix?, colon] at found

theorem readClassAtom_suffix {f : Flags} {c : Char} {cs rest : List Char} {atom : Atom}
    (took : readClassAtom f (c :: cs) = .ok (atom, rest)) : rest <:+ cs := by
  unfold readClassAtom at took
  split at took
  · next same =>
    obtain ⟨-, rfl⟩ := List.cons.inj same
    exact readEscape_suffix took
  · next same =>
    obtain ⟨-, rfl⟩ := List.cons.inj same
    cases took
    exact List.suffix_rfl
  · cases took

theorem readClassAtom_same {f : Flags} {cs rest : List Char} {atom : Atom}
    (took : readClassAtom f (cs ++ closing) = .ok (atom, rest ++ closing)) :
    readClassAtom f cs = .ok (atom, rest) ∨ ∃ condition, atom = .look condition := by
  cases cs with
  | nil => exact absurd (readClassAtom_suffix took) not_suffix_dollar
  | cons c cs =>
    by_cases backslash : c = '\\'
    · subst backslash
      exact (readEscape_same took).imp_right fun bare => bare.1
    · have plain (text : List Char) : readClassAtom f (c :: text) = .ok (.literal c false, text) := by
        unfold readClassAtom
        simp
      rw [List.cons_append, plain] at took
      obtain ⟨rfl, rfl⟩ := ok_closing cs took
      exact .inl (plain cs)

/-- One character or one escape as an element of a class. -/
def single (f : Flags) (first : Atom) (cs : List Char) : Except ReadError (ClassPart × List Char) :=
  match first with
  | .look _ => .error .badEscape
  | .set accepted => .ok (⟨accepted, 0⟩, cs)
  | .literal c isByte => (Atom.literal c isByte).character f >>= fun c => .ok (ClassPart.only c, cs)

/-- A range from one character to the next. -/
def rangeFrom (f : Flags) (first : Atom) (cs : List Char) : Except ReadError (ClassPart × List Char) :=
  readClassAtom f cs >>= fun found => do
    let low ← first.character f
    let high ← found.1.character f
    if high < low then throw .badRange
    return (⟨CharSet.between low high, 0⟩, found.2)

/-- What follows a hyphen. Where it ends no range, it has to be read again. -/
def afterHyphen (f : Flags) (first : Atom) (whole cs : List Char) : Except ReadError (ClassPart × List Char) :=
  match cs with
  | [] => .error .unclosedClass
  | ']' :: _ | '-' :: _ => single f first whole
  | second => rangeFrom f first second

/-- What follows the first atom of an element, which may begin a range. -/
def afterFirst (f : Flags) (first : Atom) (cs : List Char) : Except ReadError (ClassPart × List Char) :=
  match cs with
  | [] => .error .unclosedClass
  | '-' :: more => afterHyphen f first cs (f.skip more)
  | _ => single f first cs

theorem readClassPart_eq (f : Flags) (cs : List Char) : readClassPart f cs =
    readClassAtom f cs >>= fun found => afterFirst f found.1 (f.skip found.2) := by
  unfold readClassPart
  rcases readClassAtom f cs with e | ⟨_ | _ | _, rest⟩
  · rfl
  · rfl
  · rfl
  · rfl

theorem single_local (f : Flags) (first : Atom) : Local (single f first) := by
  rcases first with ⟨c, isByte⟩ | accepted | condition
  · have valued (read : Except ReadError Char) : Local fun cs => read >>= fun c => .ok (ClassPart.only c, cs) := by
      cases read with
      | error e => exact .error e
      | ok c => exact .ok _
    exact valued _
  · exact .ok _
  · exact .error _

theorem rangeFrom_suffix {f : Flags} {first : Atom} {c : Char} {cs rest : List Char} {part : ClassPart}
    (took : rangeFrom f first (c :: cs) = .ok (part, rest)) : rest <:+ cs := by
  obtain ⟨⟨last, after⟩, atom, ends⟩ := ok_of_bind.1 took
  obtain ⟨low, -, ends⟩ := ok_of_bind.1 ends
  obtain ⟨high, -, ends⟩ := ok_of_bind.1 ends
  split at ends
  · cases ends
  · cases ends
    exact readClassAtom_suffix atom

theorem rangeFrom_local (f : Flags) (first : Atom) : Local (rangeFrom f first) where
  suffix {cs _ _} took := by
    cases cs with
    | nil => cases took
    | cons c cs => exact suffix_cons (rangeFrom_suffix took)
  kept {cs rest part} _ took := by
    obtain ⟨⟨last, after⟩, atom, ends⟩ := ok_of_bind.1 took
    obtain ⟨low, lowest, ends⟩ := ok_of_bind.1 ends
    obtain ⟨high, highest, ends⟩ := ok_of_bind.1 ends
    split at ends
    · cases ends
    · next ordered =>
      cases ends
      rcases readClassAtom_same atom with own | ⟨condition, rfl⟩
      · refine ok_of_bind.2 ⟨(last, rest), own, ok_of_bind.2 ⟨low, lowest, ok_of_bind.2 ⟨high, highest, ?_⟩⟩⟩
        rw [if_neg ordered]
        rfl
      · cases highest

theorem afterFirst_hyphen (f : Flags) (first : Atom) (cs : List Char) :
    afterFirst f first ('-' :: cs) = afterHyphen f first ('-' :: cs) (f.skip cs) := rfl

theorem afterHyphen_other {f : Flags} {first : Atom} {c : Char} (bracket : c ≠ ']') (hyphen : c ≠ '-')
    (whole cs : List Char) : afterHyphen f first whole (c :: cs) = rangeFrom f first (c :: cs) := by
  unfold afterHyphen
  simp [bracket, hyphen]

theorem afterFirst_other {f : Flags} {first : Atom} {c : Char} (other : c ≠ '-') (cs : List Char) :
    afterFirst f first (c :: cs) = single f first (c :: cs) := by
  unfold afterFirst
  simp [other]

theorem afterHyphen_suffix {f : Flags} {first : Atom} {whole cs rest : List Char} {part : ClassPart}
    (suffix : cs <:+ whole) (took : afterHyphen f first whole cs = .ok (part, rest)) : rest <:+ whole := by
  unfold afterHyphen at took
  split at took
  · cases took
  · exact (single_local f first).suffix took
  · exact (single_local f first).suffix took
  · exact ((rangeFrom_local f first).suffix took).trans suffix

theorem afterHyphen_same {f : Flags} {first : Atom} {whole cs rest : List Char} {part : ClassPart}
    (took : afterHyphen f first (whole ++ closing) (cs ++ closing) = .ok (part, rest ++ closing)) :
    afterHyphen f first whole cs = .ok (part, rest) := by
  cases cs with
  | nil => exact absurd (rangeFrom_suffix took) not_suffix_dollar
  | cons c cs =>
    rw [List.cons_append] at took
    by_cases bracket : c = ']'
    · subst bracket
      exact (single_local f first).same took
    · by_cases hyphen : c = '-'
      · subst hyphen
        exact (single_local f first).same took
      · rw [afterHyphen_other bracket hyphen] at took ⊢
        exact (rangeFrom_local f first).same took

theorem afterFirst_local (f : Flags) (first : Atom) : LocalWhere (fun _ rest => rest ≠ []) (afterFirst f first) where
  suffix {cs rest part} took := by
    unfold afterFirst at took
    split at took
    · cases took
    · next more => exact afterHyphen_suffix (suffix_cons (skip_suffix f more)) took
    · exact (single_local f first).suffix took
  kept {cs rest part} some took := by
    cases cs with
    | nil =>
      have alone : single f first [] = .ok (part, rest) := (single_local f first).same took
      have none : rest <:+ [] := (single_local f first).suffix alone
      exact absurd (List.suffix_nil.1 none) some
    | cons c cs =>
      by_cases hyphen : c = '-'
      · subst hyphen
        rw [List.cons_append, afterFirst_hyphen] at took
        rw [afterFirst_hyphen]
        rcases skip_append_closing f cs with kept | ⟨swallowed, -⟩
        · rw [kept] at took
          exact afterHyphen_same took
        · rw [swallowed] at took
          cases took
      · rw [List.cons_append, afterFirst_other hyphen] at took
        rw [afterFirst_other hyphen]
        exact (single_local f first).same took

/-- A look is no element of a class, and no end of a range. -/
theorem afterFirst_look {f : Flags} {condition : Look} {cs : List Char} {found : ClassPart × List Char} :
    afterFirst f (.look condition) cs ≠ .ok found := by
  intro took
  unfold afterFirst at took
  split at took
  · cases took
  · unfold afterHyphen at took
    split at took
    · cases took
    · cases took
    · cases took
    · obtain ⟨last, -, ends⟩ := ok_of_bind.1 took
      obtain ⟨low, none, -⟩ := ok_of_bind.1 ends
      cases none
  · cases took

theorem readClassPart_suffix {f : Flags} {c : Char} {cs rest : List Char} {part : ClassPart}
    (took : readClassPart f (c :: cs) = .ok (part, rest)) : rest <:+ cs := by
  rw [readClassPart_eq] at took
  obtain ⟨⟨first, middle⟩, atom, ends⟩ := ok_of_bind.1 took
  exact ((LocalWhere.skip f (afterFirst_local f first)).suffix ends).trans (readClassAtom_suffix atom)

theorem readClassPart_local (f : Flags) : LocalWhere (fun _ rest => rest ≠ []) (readClassPart f) where
  suffix {cs rest part} took := by
    cases cs with
    | nil => cases took
    | cons c cs => exact suffix_cons (readClassPart_suffix took)
  kept {cs rest part} some took := by
    rw [readClassPart_eq] at took ⊢
    obtain ⟨⟨first, middle⟩, atom, ends⟩ := ok_of_bind.1 took
    have later := LocalWhere.skip f (afterFirst_local f first)
    obtain ⟨more, rfl⟩ := exists_append_closing (later.suffix ends)
    rcases readClassAtom_same atom with own | ⟨condition, rfl⟩
    · exact ok_of_bind.2 ⟨(first, more), own, later.kept some ends⟩
    · exact absurd ends afterFirst_look

/-- How one step of reading a class ends: with the whole class, or with the class that is being read now and those
around it. -/
inductive ClassMove
  | whole (part : ClassPart)
  | goesOn (o : OpenClass) (outer : List OpenClass)

/-- The bracket that closes a class. -/
def closesClass (f : Flags) (o : OpenClass) (outer : List OpenClass) (cs : List Char) :
    Except ReadError (ClassMove × List Char) :=
  o.close f >>= fun part =>
    match outer with
    | [] => .ok (.whole part, cs)
    | around :: more => .ok (.goesOn (around.add part) more, cs)

/-- The bracket that opens a class, or begins the name of one. -/
def opensClass (f : Flags) (o : OpenClass) (outer : List OpenClass) (cs : List Char) :
    Except ReadError (ClassMove × List Char) :=
  match readPosix? f cs with
  | some (accepted, after) => accepted >>= fun accepted => .ok (.goesOn (o.add ⟨accepted, 0⟩) outer, after)
  | none => openClass f cs >>= fun found => .ok (.goesOn found.1 (o :: outer), found.2)

/-- An operator between two classes. -/
def combinesClass (f : Flags) (o : OpenClass) (outer : List OpenClass) (op : ClassOp) (cs : List Char) :
    Except ReadError (ClassMove × List Char) :=
  o.operate f op >>= fun o => .ok (.goesOn o outer, cs)

/-- One element of a class. -/
def extendsClass (f : Flags) (o : OpenClass) (outer : List OpenClass) (cs : List Char) :
    Except ReadError (ClassMove × List Char) :=
  readClassPart f cs >>= fun found => .ok (.goesOn (o.add found.1) outer, found.2)

/-- One step of reading a class. -/
def classStep (f : Flags) (o : OpenClass) (outer : List OpenClass) (cs : List Char) :
    Except ReadError (ClassMove × List Char) :=
  match cs with
  | [] => .error .unclosedClass
  | ']' :: rest => closesClass f o outer rest
  | '[' :: rest => opensClass f o outer rest
  | '&' :: '&' :: rest => combinesClass f o outer .intersection rest
  | '-' :: '-' :: rest => combinesClass f o outer .difference rest
  | '~' :: '~' :: rest => combinesClass f o outer .symmetricDifference rest
  | cs => extendsClass f o outer cs

/-- The text is neither at its end nor at a bracket or an operator between classes. -/
structure Element (cs : List Char) : Prop where
  some : cs ≠ []
  shut (rest : List Char) : cs ≠ ']' :: rest
  opening (rest : List Char) : cs ≠ '[' :: rest
  intersection (rest : List Char) : cs ≠ '&' :: '&' :: rest
  difference (rest : List Char) : cs ≠ '-' :: '-' :: rest
  symmetricDifference (rest : List Char) : cs ≠ '~' :: '~' :: rest

theorem classStep_element (f : Flags) (o : OpenClass) (outer : List OpenClass) {cs : List Char} (element : Element cs) :
    classStep f o outer cs = extendsClass f o outer cs := by
  unfold classStep
  split
  · exact absurd rfl element.some
  · next rest => exact absurd rfl (element.shut rest)
  · next rest => exact absurd rfl (element.opening rest)
  · next rest => exact absurd rfl (element.intersection rest)
  · next rest => exact absurd rfl (element.difference rest)
  · next rest => exact absurd rfl (element.symmetricDifference rest)
  · rfl

theorem readClass_succ (f : Flags) (fuel : Nat) (o : OpenClass) (outer : List OpenClass) (cs : List Char) :
    readClass f (fuel + 1) o outer cs = classStep f o outer (f.skip cs) >>= fun found =>
      match found.1 with
      | .whole part => .ok (part, found.2)
      | .goesOn o outer => readClass f fuel o outer found.2 := by
  rw [readClass.eq_def]
  generalize f.skip cs = text
  split
  · contradiction
  · rfl
  · next fuelled =>
    cases fuelled
    unfold classStep closesClass
    cases o.close f with
    | error e => rfl
    | ok part => cases outer <;> rfl
  · next rest fuelled =>
    cases fuelled
    change _ = opensClass f o outer rest >>= _
    unfold opensClass
    rcases readPosix? f rest with _ | ⟨accepted, after⟩
    · cases openClass f rest <;> rfl
    · cases accepted <;> rfl
  · next fuelled =>
    cases fuelled
    unfold classStep combinesClass
    cases o.operate f .intersection <;> rfl
  · next fuelled =>
    cases fuelled
    unfold classStep combinesClass
    cases o.operate f .difference <;> rfl
  · next fuelled =>
    cases fuelled
    unfold classStep combinesClass
    cases o.operate f .symmetricDifference <;> rfl
  · next text _ _ _ fuelled some shut opening intersection difference symmetricDifference =>
    cases fuelled
    rw [classStep_element f o outer ⟨some, shut, opening, intersection, difference, symmetricDifference⟩]
    unfold extendsClass
    cases readClassPart f text <;> rfl

/-- Whether a class may end a pattern: only a whole one. -/
def Ends (move : ClassMove) (rest : List Char) : Prop :=
  rest = [] → ∃ part, move = .whole part

theorem closesClass_local (f : Flags) (o : OpenClass) (outer : List OpenClass) : Local (closesClass f o outer) := by
  unfold closesClass
  cases o.close f with
  | error e => exact .error e
  | ok part =>
    cases outer with
    | nil => exact .ok _
    | cons around more => exact .ok _

theorem combinesClass_local (f : Flags) (o : OpenClass) (outer : List OpenClass) (op : ClassOp) :
    Local (combinesClass f o outer op) := by
  unfold combinesClass
  cases o.operate f op with
  | error e => exact .error e
  | ok o => exact .ok _

theorem ends_of_goesOn {o : OpenClass} {outer : List OpenClass} {rest : List Char}
    (ends : Ends (.goesOn o outer) rest) : rest ≠ [] := by
  intro none
  obtain ⟨part, whole⟩ := ends none
  cases whole

theorem extendsClass_local (f : Flags) (o : OpenClass) (outer : List OpenClass) :
    LocalWhere Ends (extendsClass f o outer) :=
  LocalWhere.bind (readClassPart_local f) (fun part => .ok (ClassMove.goesOn (o.add part) outer))
    fun ends took => by
      obtain ⟨rfl, rfl⟩ := ok_closing _ took
      exact ends_of_goesOn ends

theorem opensClass_local (f : Flags) (o : OpenClass) (outer : List OpenClass) :
    LocalWhere Ends (opensClass f o outer) where
  suffix {cs rest move} took := by
    unfold opensClass at took
    split at took
    · next named =>
      obtain ⟨accepted, -, ends⟩ := ok_of_bind.1 took
      cases ends
      exact readPosix?_suffix named
    · obtain ⟨⟨inner, after⟩, opened, ends⟩ := ok_of_bind.1 took
      cases ends
      exact (openClass_local f).suffix opened
  kept {cs rest move} ends took := by
    unfold opensClass at took ⊢
    rw [readPosix?_closing] at took
    cases named : readPosix? f cs with
    | none =>
      rw [named] at took
      have inner := LocalWhere.bind (Q := Ends) (openClass_local f)
        (fun inner => .ok (ClassMove.goesOn inner (o :: outer))) fun ends took => by
          obtain ⟨rfl, rfl⟩ := ok_closing _ took
          exact ends_of_goesOn ends
      exact inner.kept ends took
    | some found =>
      rw [named] at took
      obtain ⟨accepted, valid, took⟩ := ok_of_bind.1 took
      obtain ⟨rfl, rfl⟩ := ok_closing _ took
      exact ok_of_bind.2 ⟨accepted, valid, rfl⟩

theorem classStep_suffix {f : Flags} {o : OpenClass} {outer : List OpenClass} {c : Char} {cs rest : List Char}
    {move : ClassMove} (took : classStep f o outer (c :: cs) = .ok (move, rest)) : rest <:+ cs := by
  unfold classStep at took
  split at took
  · cases took
  · next same =>
    obtain ⟨-, rfl⟩ := List.cons.inj same
    exact (closesClass_local f o outer).suffix took
  · next same =>
    obtain ⟨-, rfl⟩ := List.cons.inj same
    exact (opensClass_local f o outer).suffix took
  · next same =>
    obtain ⟨-, rfl⟩ := List.cons.inj same
    exact suffix_cons ((combinesClass_local f o outer _).suffix took)
  · next same =>
    obtain ⟨-, rfl⟩ := List.cons.inj same
    exact suffix_cons ((combinesClass_local f o outer _).suffix took)
  · next same =>
    obtain ⟨-, rfl⟩ := List.cons.inj same
    exact suffix_cons ((combinesClass_local f o outer _).suffix took)
  · obtain ⟨⟨part, after⟩, read, ends⟩ := ok_of_bind.1 took
    cases ends
    exact readClassPart_suffix read

theorem Element.append {cs : List Char} (element : Element cs) : Element (cs ++ closing) where
  some := by simp [closing]
  shut := absent_closing (by decide) element.shut
  opening := absent_closing (by decide) element.opening
  intersection := absent_pair_closing (by decide) (by decide) element.intersection
  difference := absent_pair_closing (by decide) (by decide) element.difference
  symmetricDifference := absent_pair_closing (by decide) (by decide) element.symmetricDifference

theorem classStep_local (f : Flags) (o : OpenClass) (outer : List OpenClass) :
    LocalWhere Ends (classStep f o outer) where
  suffix {cs rest move} took := by
    cases cs with
    | nil => cases took
    | cons c cs => exact suffix_cons (classStep_suffix took)
  kept {cs rest move} ends took := by
    rcases cs with _ | ⟨c, cs⟩
    · exact absurd (classStep_suffix took) not_suffix_dollar
    · by_cases element : Element (c :: cs)
      · rw [classStep_element f o outer element.append] at took
        rw [classStep_element f o outer element]
        exact (extendsClass_local f o outer).kept ends took
      · unfold classStep
        split
        · contradiction
        · next same =>
          rw [same] at took
          exact (closesClass_local f o outer).same took
        · next same =>
          rw [same] at took
          exact (opensClass_local f o outer).kept ends took
        · next same =>
          rw [same] at took
          exact (combinesClass_local f o outer _).same took
        · next same =>
          rw [same] at took
          exact (combinesClass_local f o outer _).same took
        · next same =>
          rw [same] at took
          exact (combinesClass_local f o outer _).same took
        · next text some shut opening intersection difference symmetricDifference =>
          exact absurd ⟨some, shut, opening, intersection, difference, symmetricDifference⟩ element

theorem readClass_suffix {f : Flags} {fuel : Nat} {o : OpenClass} {outer : List OpenClass} {cs rest : List Char}
    {part : ClassPart} (took : readClass f fuel o outer cs = .ok (part, rest)) : rest <:+ cs := by
  induction fuel generalizing o outer cs with
  | zero => cases took
  | succ fuel ih =>
    rw [readClass_succ] at took
    obtain ⟨⟨move, middle⟩, step, ends⟩ := ok_of_bind.1 took
    have after : middle <:+ cs := ((classStep_local f o outer).suffix step).trans (skip_suffix f cs)
    cases move with
    | whole part =>
      cases ends
      exact after
    | goesOn o outer => exact (ih ends).trans after

/-- Reading a class takes a character. -/
theorem readClass_own {f : Flags} {fuel : Nat} {o : OpenClass} {outer : List OpenClass} {cs rest : List Char}
    {part : ClassPart} (took : readClass f fuel o outer (cs ++ closing) = .ok (part, rest ++ closing)) :
    f.skip cs ≠ [] := by
  intro none
  cases fuel with
  | zero => cases took
  | succ fuel =>
    rw [readClass_succ] at took
    obtain ⟨⟨move, middle⟩, step, ends⟩ := ok_of_bind.1 took
    rcases skip_append_closing f cs with kept | ⟨swallowed, -⟩
    · rw [kept, none] at step
      have after : middle <:+ ['$'] := classStep_suffix step
      cases move with
      | whole part =>
        cases ends
        exact not_suffix_dollar after
      | goesOn o outer => exact not_suffix_dollar ((readClass_suffix ends).trans after)
    · rw [swallowed] at step
      cases step

theorem readClass_same (f : Flags) {fuel more : Nat} {o : OpenClass} {outer : List OpenClass} {cs rest : List Char}
    {part : ClassPart} (enough : cs.length < fuel)
    (took : readClass f more o outer (cs ++ closing) = .ok (part, rest ++ closing)) :
    readClass f fuel o outer cs = .ok (part, rest) := by
  induction fuel generalizing more o outer cs with
  | zero => exact absurd enough (Nat.not_lt_zero _)
  | succ fuel ih =>
    have some := readClass_own took
    cases more with
    | zero => cases took
    | succ more =>
      rw [readClass_succ] at took ⊢
      obtain ⟨⟨move, middle⟩, step, ends⟩ := ok_of_bind.1 took
      rcases skip_append_closing f cs with kept | ⟨swallowed, -⟩
      · rw [kept] at step
        cases move with
        | whole part =>
          cases ends
          have own := (classStep_local f o outer).kept (fun _ => ⟨part, rfl⟩) step
          exact ok_of_bind.2 ⟨_, own, rfl⟩
        | goesOn o' outer' =>
          -- The class is not over, so it is not the closing that the step ended in front of.
          have left : rest ++ closing <:+ middle := readClass_suffix ends
          obtain ⟨after, rfl⟩ := exists_append_closing left
          have goesOn : Ends (.goesOn o' outer') after := by
            rintro rfl
            exact absurd (List.suffix_nil.1 (skip_suffix f [])) (readClass_own ends)
          have own := (classStep_local f o outer).kept goesOn step
          obtain ⟨c, text, head⟩ := List.exists_cons_of_ne_nil some
          rw [head] at own
          have fewer := (classStep_suffix own).length_le
          have within := (head ▸ skip_suffix f cs).length_le
          rw [List.length_cons] at within
          have less : after.length < fuel := by omega
          rw [head]
          exact ok_of_bind.2 ⟨_, own, ih less ends⟩
      · rw [swallowed] at step
        cases step

/-- Reads what follows the bracket that opens the outermost class. -/
def readBracket (f : Flags) (cs : List Char) : Except ReadError (ClassPart × List Char) :=
  openClass f cs >>= fun opened => readClass f (cs.length + 1) opened.1 [] opened.2

theorem readBracket_local (f : Flags) : Local (readBracket f) where
  suffix took := by
    obtain ⟨⟨o, inner⟩, opened, ends⟩ := ok_of_bind.1 took
    exact (readClass_suffix ends).trans ((openClass_local f).suffix opened)
  kept {cs rest part} _ took := by
    obtain ⟨⟨o, inner⟩, opened, ends⟩ := ok_of_bind.1 took
    obtain ⟨more, rfl⟩ := exists_append_closing (readClass_suffix ends)
    have some : more ≠ [] := by
      rintro rfl
      exact absurd (List.suffix_nil.1 (skip_suffix f [])) (readClass_own ends)
    have own : openClass f cs = .ok (o, more) := (openClass_local f).kept some opened
    have shorter := ((openClass_local f).suffix own).length_le
    exact ok_of_bind.2 ⟨(o, more), own, readClass_same f (Nat.lt_succ_of_le shorter) ends⟩

end DirectoryLogin.Pattern
