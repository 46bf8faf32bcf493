import DirectoryLogin.Pattern.Reader
import DirectoryLogin.Proofs.Pattern.ClassLocality
import DirectoryLogin.Proofs.Pattern.CountLocality

namespace DirectoryLogin.Pattern

open DirectoryLogin.Text

/-- The group that stands open around the pattern, after the look at the start of the text. -/
def around : OpenGroup :=
  { parts := [⟨.look .textStart, 0, true⟩] }

/-- The same reading between the anchors. -/
def Reading.anchored (r : Reading) : Reading :=
  { r with rest := r.rest ++ closing, outer := r.outer ++ [({}, around)] }

theorem Reading.anchored_outer (r : Reading) : r.anchored.outer ≠ [] := by
  simp [Reading.anchored]

/-- However far it goes on, a group stays open. -/
def Lost (r : Reading) : Prop :=
  ∀ fuel found, readAll fuel r = .ok found → found.outer ≠ []

/-- A step between the anchors comes to the same as alone, where it leaves something of `text`. -/
def Follows (text : List Char) (alone inside : Except ReadError Reading) : Prop :=
  ∀ r', inside = .ok r' →
    (∃ r, alone = .ok r ∧ r.rest <:+ text ∧ r' = r.anchored) ∨ alone = .error .unopenedGroup ∨ Lost r'

theorem suffix_dollar {rest : List Char} (suffix : rest <:+ ['$']) : rest = [] ∨ rest = ['$'] := by
  rcases List.suffix_cons_iff.1 suffix with same | none
  · exact .inr same
  · exact .inl (List.suffix_nil.1 none)

/-- Once the parenthesis is taken, no group is closed any more. -/
theorem lost_of_dollar {r : Reading} (suffix : r.rest <:+ ['$']) (stays : r.outer ≠ []) : Lost r := by
  intro fuel
  induction fuel generalizing r with
  | zero =>
    rintro found ⟨⟩
    exact stays
  | succ fuel ih =>
    intro found took
    rw [readAll] at took
    rcases suffix_dollar ((skip_suffix r.flags r.rest).trans suffix) with none | dollar
    · rw [none] at took
      cases took
      exact stays
    · rw [dollar] at took
      obtain ⟨next, step, later⟩ := ok_of_bind.1 took
      cases step
      refine ih ?_ ?_ found later
      · exact List.nil_suffix
      · exact stays

/-- What is left between the anchors either has the closing at its end or no parenthesis any more. -/
theorem suffix_closing {cs rest : List Char} (suffix : rest <:+ cs ++ closing) :
    (∃ more, rest = more ++ closing) ∨ rest <:+ ['$'] := by
  induction cs with
  | nil =>
    rcases List.suffix_cons_iff.1 suffix with same | dollar
    · exact .inl ⟨[], same⟩
    · exact .inr dollar
  | cons c cs ih =>
    rcases List.suffix_cons_iff.1 suffix with same | shorter
    · exact .inl ⟨c :: cs, same⟩
    · exact ih shorter

namespace Follows

variable {text : List Char}

theorem ok {r : Reading} (suffix : r.rest <:+ text) : Follows text (.ok r) (.ok r.anchored) := by
  rintro r' ⟨⟩
  exact .inl ⟨r, rfl, suffix, rfl⟩

theorem error (alone : Except ReadError Reading) (e : ReadError) : Follows text alone (.error e) :=
  fun _ took => nomatch took

theorem mono {shorter : List Char} {alone inside : Except ReadError Reading} (follows : Follows shorter alone inside)
    (suffix : shorter <:+ text) : Follows text alone inside := by
  intro r' took
  rcases follows r' took with ⟨r, one, left, same⟩ | out
  · exact .inl ⟨r, one, left.trans suffix, same⟩
  · exact .inr out

theorem bind {α : Type} (x : Except ReadError α) {alone inside : α → Except ReadError Reading}
    (follows : ∀ a, Follows text (alone a) (inside a)) : Follows text (x >>= alone) (x >>= inside) := by
  cases x with
  | error e => exact error _ e
  | ok a => exact follows a

theorem read {α : Type} {read : List Char → Except ReadError (α × List Char)} (isLocal : Local read) {cs : List Char}
    (alone inside : α → List Char → Except ReadError Reading)
    (goesOn : ∀ a rest, rest <:+ cs → Follows cs (alone a rest) (inside a (rest ++ closing)))
    (lost : ∀ a rest r', rest <:+ ['$'] → inside a rest = .ok r' → Lost r') :
    Follows cs (read cs >>= fun found => alone found.1 found.2)
      (read (cs ++ closing) >>= fun found => inside found.1 found.2) := by
  intro r' took
  obtain ⟨⟨a, rest⟩, one, ends⟩ := ok_of_bind.1 took
  rcases suffix_closing (isLocal.suffix one) with ⟨more, rfl⟩ | dollar
  · have own := isLocal.same one
    rw [own]
    exact goesOn a more (isLocal.suffix own) r' ends
  · exact .inr (.inr (lost a rest r' dollar ends))

end Follows

theorem closeGroup_follows (r : Reading) (cs : List Char) :
    Follows cs (closeGroup r cs) (closeGroup r.anchored (cs ++ closing)) := by
  rcases r with ⟨rest, flags, group, _ | ⟨⟨before, outer⟩, more⟩, names, groups⟩
  · intro r' _
    exact .inr (.inl rfl)
  · exact .ok List.suffix_rfl

/-- Whether a question mark follows a repetition, and what is behind it. -/
def marked : List Char → Bool × List Char
  | '?' :: rest => (true, rest)
  | rest => (false, rest)

/-- The newest part repeated. -/
def repeats (r : Reading) (least : Nat) (most : Option Nat) (mark : Bool) (rest : List Char) : Except ReadError Reading :=
  match r.group.parts with
  | part :: before =>
    if part.repeatable then
      .ok { r with rest, group := { r.group with parts :=
        ⟨repeated part.pattern least most (mark != r.flags.reluctant), part.depth + 1, true⟩ :: before } }
    else .error .nothingToRepeat
  | [] => .error .nothingToRepeat

theorem repeatLast_eq (r : Reading) (least : Nat) (most : Option Nat) (rest : List Char) :
    repeatLast r least most rest = repeats r least most (marked rest).1 (marked rest).2 := by
  rcases rest with _ | ⟨c, rest⟩
  · rfl
  · by_cases question : c = '?'
    · subst question
      rfl
    · cases parts : r.group.parts with
      | nil => simp [repeatLast, repeats, parts]
      | cons part before => simp [repeatLast, repeats, marked, question, parts]

theorem marked_suffix (cs : List Char) : (marked cs).2 <:+ cs := by
  unfold marked
  split
  · exact List.suffix_cons _ _
  · exact List.suffix_rfl

theorem marked_closing (cs : List Char) : marked (cs ++ closing) = ((marked cs).1, (marked cs).2 ++ closing) := by
  rcases cs with _ | ⟨c, cs⟩
  · rfl
  · by_cases question : c = '?'
    · subst question
      rfl
    · simp [marked, question]

theorem repeats_follows (r : Reading) (least : Nat) (most : Option Nat) (mark : Bool) {text rest : List Char}
    (suffix : rest <:+ text) :
    Follows text (repeats r least most mark rest) (repeats r.anchored least most mark (rest ++ closing)) := by
  rcases r with ⟨_, flags, ⟨_ | ⟨part, before⟩, branches, number⟩, outer, names, groups⟩
  · exact .error _ _
  · unfold repeats
    dsimp only [Reading.anchored]
    cases part.repeatable with
    | true => exact .ok suffix
    | false => exact .error _ _

theorem repeatLast_follows (r : Reading) (least : Nat) (most : Option Nat) {text rest : List Char}
    (suffix : rest <:+ text) :
    Follows text (repeatLast r least most rest) (repeatLast r.anchored least most (rest ++ closing)) := by
  rw [repeatLast_eq, repeatLast_eq, marked_closing]
  exact repeats_follows r least most _ ((marked_suffix rest).trans suffix)

theorem repeatLast_lost {r r' : Reading} {least : Nat} {most : Option Nat} {rest : List Char} (suffix : rest <:+ ['$'])
    (took : repeatLast r.anchored least most rest = .ok r') : Lost r' := by
  rw [repeatLast_eq] at took
  unfold repeats at took
  split at took
  · split at took
    · cases took
      exact lost_of_dollar ((marked_suffix rest).trans suffix) r.anchored_outer
    · cases took
  · cases took

/-- The count of a repetition, after its brace. -/
theorem readCounts_follows (r : Reading) (f : Flags) (cs : List Char) :
    Follows cs (readCounts f cs >>= fun found => repeatLast r found.1.1 found.1.2 (f.skip found.2))
      (readCounts f (cs ++ closing) >>= fun found => repeatLast r.anchored found.1.1 found.1.2 (f.skip found.2)) := by
  refine .read (readCounts_local f) (fun counts rest => repeatLast r counts.1 counts.2 (f.skip rest))
    (fun counts rest => repeatLast r.anchored counts.1 counts.2 (f.skip rest)) (fun counts rest suffix => ?_)
    fun counts rest r' dollar took => ?_
  · rcases skip_append_closing f rest with kept | ⟨swallowed, -⟩
    · rw [kept]
      exact repeatLast_follows r _ _ ((skip_suffix f rest).trans suffix)
    · rw [swallowed]
      intro r' took
      exact .inr (.inr (repeatLast_lost List.nil_suffix took))
  · exact repeatLast_lost ((skip_suffix f rest).trans dollar) took

/-- The reading with one more part, and the text that is left after it. -/
def Reading.extend (r : Reading) (rest : List Char) (part : Part) : Reading :=
  { r with rest, group := r.group.add part }

theorem extend_follows (r : Reading) {text rest : List Char} (part : Part) (suffix : rest <:+ text) :
    Follows text (.ok (r.extend rest part)) (.ok (r.anchored.extend (rest ++ closing) part)) :=
  .ok suffix

/-- A class, after its bracket. -/
theorem readBracket_follows (r : Reading) (f : Flags) (cs : List Char) :
    Follows cs (readBracket f cs >>= fun found =>
        .ok (r.extend found.2 ⟨oneOf found.1.accepted, found.1.depth, true⟩))
      (readBracket f (cs ++ closing) >>= fun found =>
        .ok (r.anchored.extend found.2 ⟨oneOf found.1.accepted, found.1.depth, true⟩)) := by
  refine .read (readBracket_local f) (fun part rest => .ok (r.extend rest ⟨oneOf part.accepted, part.depth, true⟩))
    (fun part rest => .ok (r.anchored.extend rest ⟨oneOf part.accepted, part.depth, true⟩))
    (fun part rest suffix => extend_follows r _ suffix) fun part rest r' dollar took => ?_
  cases took
  exact lost_of_dollar dollar r.anchored_outer

/-- No count follows a brace at the end of a pattern. -/
theorem lost_of_brace {r : Reading} {idle : List Char} (left : r.rest = '{' :: idle ++ closing)
    (none : r.flags.skip idle = []) (stays : r.outer ≠ []) : Lost r := by
  intro fuel found took
  cases fuel with
  | zero =>
    cases took
    exact stays
  | succ fuel =>
    have head : r.flags.skip r.rest = '{' :: (idle ++ closing) := by
      rw [left]
      unfold Flags.skip
      split <;> rfl
    have uncounted : readCounts r.flags (idle ++ closing) = .error .badCount := by
      rw [readCounts_eq]
      rcases skip_append_closing r.flags idle with kept | ⟨swallowed, -⟩
      · rw [kept, none]
        rfl
      · rw [swallowed]
        rfl
    have refused (refusal : Reading) : step { r with rest := '{' :: (idle ++ closing) } ≠ .ok refusal := by
      simp only [step, uncounted]
      split <;> exact fun taken => nomatch taken
    rw [readAll, head] at took
    obtain ⟨next, step, -⟩ := ok_of_bind.1 took
    exact absurd step (refused next)

/-- An escape, after its backslash. -/
theorem readEscape_follows (r : Reading) (cs : List Char) :
    Follows cs (readEscape r.flags cs >>= fun found => found.1.pattern r.flags >>= fun pattern =>
        .ok (r.extend found.2 ⟨pattern, 0, true⟩))
      (readEscape r.flags (cs ++ closing) >>= fun found => found.1.pattern r.flags >>= fun pattern =>
        .ok (r.anchored.extend found.2 ⟨pattern, 0, true⟩)) := by
  intro r' took
  obtain ⟨⟨atom, rest⟩, escape, ends⟩ := ok_of_bind.1 took
  obtain ⟨pattern, valid, ends⟩ := ok_of_bind.1 ends
  cases ends
  rcases suffix_closing (readEscape_suffix escape) with ⟨more, rfl⟩ | dollar
  · rcases readEscape_same escape with own | ⟨-, idle, rfl, none⟩
    · refine .inl ⟨r.extend more ⟨pattern, 0, true⟩, ?_, readEscape_suffix own, rfl⟩
      exact ok_of_bind.2 ⟨_, own, ok_of_bind.2 ⟨pattern, valid, rfl⟩⟩
    · exact .inr (.inr (lost_of_brace rfl none r.anchored_outer))
  · exact .inr (.inr (lost_of_dollar dollar r.anchored_outer))

/-- What follows the flags of a group. -/
def flagged (r : Reading) (changes : List (Char × Bool)) (after : List Char) : Except ReadError Reading :=
  match after with
  | ')' :: after =>
    if changes.isEmpty then .error .nothingToRepeat
    else .ok { r with rest := after, flags := changes.foldl Flags.change r.flags, group := r.group.add ⟨.empty, 0, false⟩ }
  | _ => .ok (enter r (changes.foldl Flags.change r.flags) after.tail)

theorem flagged_follows (r : Reading) (changes : List (Char × Bool)) {text : List Char} {c : Char} {cs : List Char}
    (suffix : c :: cs <:+ text) :
    Follows text (flagged r changes (c :: cs)) (flagged r.anchored changes (c :: cs ++ closing)) := by
  have shorter : cs <:+ text := (List.suffix_cons c cs).trans suffix
  by_cases ends : c = ')'
  · subst ends
    unfold flagged
    cases changes.isEmpty with
    | true => exact .error _ _
    | false => exact .ok shorter
  · have other (r : Reading) (rest : List Char) :
        flagged r changes (c :: rest) = .ok (enter r (changes.foldl Flags.change r.flags) rest) := by
      unfold flagged
      simp [ends]
    rw [List.cons_append, other, other]
    exact .ok shorter

theorem flagged_lost {r r' : Reading} {changes : List (Char × Bool)} {after : List Char} (suffix : after.tail <:+ ['$'])
    (took : flagged r.anchored changes after = .ok r') : Lost r' := by
  unfold flagged at took
  split at took
  · split at took
    · cases took
    · cases took
      exact lost_of_dollar suffix r.anchored_outer
  · cases took
    exact lost_of_dollar suffix (List.cons_ne_nil _ _)

theorem flagged_eq (r : Reading) (changes : List (Char × Bool)) (after : List Char) : flagged r changes after =
    match after with
    | ')' :: after => do
      if changes.isEmpty then throw .nothingToRepeat
      return { r with rest := after, flags := changes.foldl Flags.change r.flags, group := r.group.add ⟨.empty, 0, false⟩ }
    | _ => return enter r (changes.foldl Flags.change r.flags) after.tail := by
  unfold flagged
  split
  · split <;> rfl
  · rfl

/-- A group that is opened with flags. -/
def openFlagged (r : Reading) (cs : List Char) : Except ReadError Reading :=
  readFlags false false [] cs >>= fun found => flagged r found.1 found.2

theorem openFlagged_follows (r : Reading) (cs : List Char) :
    Follows cs (openFlagged r cs) (openFlagged r.anchored (cs ++ closing)) := by
  intro r' took
  obtain ⟨⟨changes, after⟩, flags, ends⟩ := ok_of_bind.1 took
  have isLocal := readFlags_local false false []
  rcases suffix_closing (isLocal.suffix flags) with ⟨_ | ⟨c, more⟩, rfl⟩ | dollar
  · exact .inr (.inr (flagged_lost List.suffix_rfl ends))
  · have own := isLocal.kept (List.cons_ne_nil c more) flags
    unfold openFlagged
    rw [own]
    exact flagged_follows r changes (isLocal.suffix own) r' ends
  · exact .inr (.inr (flagged_lost ((List.tail_suffix after).trans dollar) ends))

theorem enterNamed_follows (r : Reading) (cs : List Char) :
    Follows cs (enterNamed r cs) (enterNamed r.anchored (cs ++ closing)) := by
  unfold enterNamed
  rw [cutAt_closing rfl rfl]
  cases cut : cutAt (· == '>') cs with
  | none => exact .error _ _
  | some found =>
    rcases found with ⟨_ | ⟨c, more⟩, rest⟩
    · exact .error _ _
    · have suffix : rest <:+ cs := cutAt_suffix cut
      have names : r.anchored.names = r.names := rfl
      dsimp only [Option.map_some]
      rw [names]
      split
      · exact .error _ _
      · exact .ok suffix

/-- A group that is opened, after what means nothing. -/
def opened (r : Reading) (cs : List Char) : Except ReadError Reading :=
  match cs with
  | '?' :: '=' :: _ | '?' :: '!' :: _ | '?' :: '<' :: '=' :: _ | '?' :: '<' :: '!' :: _ => .error .lookAround
  | '?' :: 'P' :: '<' :: rest => enterNamed r rest
  | '?' :: '<' :: rest => enterNamed r rest
  | '?' :: rest => openFlagged r rest
  | rest => .ok (enterNumbered r rest)

theorem opened_named (r : Reading) {cs : List Char} (equal : ∀ more, cs ≠ '=' :: more) (bang : ∀ more, cs ≠ '!' :: more) :
    opened r ('?' :: '<' :: cs) = enterNamed r cs := by
  unfold opened
  split <;> simp_all
  next angle same => exact absurd same.symm (angle cs)

/-- Behind the question mark there is neither a look around nor a name. -/
structure Plain (cs : List Char) : Prop where
  equal (more : List Char) : cs ≠ '=' :: more
  bang (more : List Char) : cs ≠ '!' :: more
  named (more : List Char) : cs ≠ 'P' :: '<' :: more
  angle (more : List Char) : cs ≠ '<' :: more

theorem Plain.append {cs : List Char} (plain : Plain cs) : Plain (cs ++ closing) where
  equal := absent_closing (by decide) plain.equal
  bang := absent_closing (by decide) plain.bang
  named := absent_pair_closing (by decide) (by decide) plain.named
  angle := absent_closing (by decide) plain.angle

theorem opened_flagged (r : Reading) {cs : List Char} (plain : Plain cs) : opened r ('?' :: cs) = openFlagged r cs := by
  obtain ⟨equal, bang, named, angle⟩ := plain
  unfold opened
  split <;> simp_all

theorem opened_numbered (r : Reading) {cs : List Char} (plain : ∀ more, cs ≠ '?' :: more) :
    opened r cs = .ok (enterNumbered r cs) := by
  unfold opened
  split <;> simp_all

theorem openGroup_eq (r : Reading) (cs : List Char) : openGroup r cs = opened r (r.flags.skip cs) := by
  unfold openGroup
  generalize r.flags.skip cs = text
  split
  · rfl
  · rfl
  · rfl
  · rfl
  · rfl
  · next equal bang => exact (opened_named r equal bang).symm
  · next rest equal bang _ _ named angle =>
    rw [opened_flagged r ⟨equal, bang, named, angle⟩]
    unfold openFlagged
    rcases readFlags false false [] rest with e | ⟨changes, after⟩
    · rfl
    · exact (flagged_eq r changes after).symm
  · next absent => exact (opened_numbered r absent).symm

theorem opened_follows (r : Reading) {text cs : List Char} (suffix : cs <:+ text) :
    Follows text (opened r cs) (opened r.anchored (cs ++ closing)) := by
  by_cases question : ∃ more, cs = '?' :: more
  · obtain ⟨more, rfl⟩ := question
    have inner : more <:+ text := (List.suffix_cons _ more).trans suffix
    by_cases angle : ∃ name, more = '<' :: name
    · obtain ⟨name, rfl⟩ := angle
      by_cases equal : ∃ rest, name = '=' :: rest
      · obtain ⟨rest, rfl⟩ := equal
        exact .error _ _
      · by_cases bang : ∃ rest, name = '!' :: rest
        · obtain ⟨rest, rfl⟩ := bang
          exact .error _ _
        · have equal := not_exists.1 equal
          have bang := not_exists.1 bang
          rw [List.cons_append, List.cons_append, opened_named r equal bang,
            opened_named r.anchored (absent_closing (by decide) equal) (absent_closing (by decide) bang)]
          exact (enterNamed_follows r name).mono ((List.suffix_cons _ name).trans inner)
    · by_cases named : ∃ name, more = 'P' :: '<' :: name
      · obtain ⟨name, rfl⟩ := named
        have left : name <:+ 'P' :: '<' :: name := suffix_cons (List.suffix_cons _ name)
        exact (enterNamed_follows r name).mono (left.trans inner)
      · by_cases equal : ∃ rest, more = '=' :: rest
        · obtain ⟨rest, rfl⟩ := equal
          exact .error _ _
        · by_cases bang : ∃ rest, more = '!' :: rest
          · obtain ⟨rest, rfl⟩ := bang
            exact .error _ _
          · have plain : Plain more :=
              ⟨not_exists.1 equal, not_exists.1 bang, not_exists.1 named, not_exists.1 angle⟩
            rw [List.cons_append, opened_flagged r plain, opened_flagged r.anchored plain.append]
            exact (openFlagged_follows r more).mono inner
  · have absent := not_exists.1 question
    rw [opened_numbered r absent, opened_numbered r.anchored (absent_closing (by decide) absent)]
    exact .ok suffix

/-- A parenthesis that opens a group. -/
theorem openGroup_follows (r : Reading) (cs : List Char) :
    Follows cs (openGroup r cs) (openGroup r.anchored (cs ++ closing)) := by
  have flags : r.anchored.flags = r.flags := rfl
  rw [openGroup_eq, openGroup_eq, flags]
  rcases skip_append_closing r.flags cs with kept | ⟨swallowed, -⟩
  · rw [kept]
    exact opened_follows r (skip_suffix r.flags cs)
  · rw [swallowed]
    rintro r' ⟨⟩
    exact .inr (.inr (lost_of_dollar List.nil_suffix (List.cons_ne_nil _ _)))

theorem step_bracket {r : Reading} {cs : List Char} (here : r.rest = '[' :: cs) : step r =
    readBracket r.flags cs >>= fun found => .ok (r.extend found.2 ⟨oneOf found.1.accepted, found.1.depth, true⟩) := by
  unfold step
  rw [here]
  change (openClass r.flags cs >>= fun opened => readClass r.flags (cs.length + 1) opened.1 [] opened.2 >>= fun found =>
    .ok (r.extend found.2 ⟨oneOf found.1.accepted, found.1.depth, true⟩)) = _
  unfold readBracket
  cases openClass r.flags cs with
  | error e => rfl
  | ok opened => rfl

theorem step_brace {r : Reading} {cs : List Char} (here : r.rest = '{' :: cs) : step r =
    if r.group.parts.head?.any (·.repeatable) then
      readCounts r.flags cs >>= fun found => repeatLast r found.1.1 found.1.2 (r.flags.skip found.2)
    else .error .nothingToRepeat := by
  unfold step
  rw [here]
  cases r.group.parts.head?.any (·.repeatable) with
  | false => rfl
  | true => rfl

theorem step_backslash {r : Reading} {cs : List Char} (here : r.rest = '\\' :: cs) : step r =
    readEscape r.flags cs >>= fun found => found.1.pattern r.flags >>= fun pattern =>
      .ok (r.extend found.2 ⟨pattern, 0, true⟩) := by
  unfold step
  rw [here]
  rfl

/-- The characters that do not stand for themselves. -/
def special : List Char :=
  ['(', ')', '|', '[', '?', '*', '+', '{', '.', '^', '$', '\\']

theorem step_literal {r : Reading} {c : Char} {cs : List Char} (here : r.rest = c :: cs) (plain : c ∉ special) :
    step r = (Atom.literal c false).pattern r.flags >>= fun pattern => .ok (r.extend cs ⟨pattern, 0, true⟩) := by
  unfold step
  rw [here]
  simp only [special, List.mem_cons, List.not_mem_nil, or_false, not_or] at plain
  split <;> simp_all
  generalize (Atom.literal _ false).pattern r.flags = read
  cases read with
  | error e => rfl
  | ok pattern => rfl

theorem step_follows {r : Reading} {c : Char} {cs : List Char} (here : r.rest = c :: cs) :
    Follows cs (step r) (step r.anchored) := by
  have inside : r.anchored.rest = c :: (cs ++ closing) := by
    simp [Reading.anchored, here]
  by_cases meant : c ∈ special
  · -- One case a character, in the order of `special`.
    simp only [special, List.mem_cons, List.not_mem_nil, or_false] at meant
    rcases meant with rfl | rfl | rfl | rfl | rfl | rfl | rfl | rfl | rfl | rfl | rfl | rfl
    · unfold step
      rw [here, inside]
      exact openGroup_follows r cs
    · unfold step
      rw [here, inside]
      exact closeGroup_follows r cs
    · unfold step
      rw [here, inside]
      exact .ok List.suffix_rfl
    · rw [step_bracket here, step_bracket inside]
      exact readBracket_follows r r.flags cs
    · unfold step
      rw [here, inside]
      exact repeatLast_follows r _ _ List.suffix_rfl
    · unfold step
      rw [here, inside]
      exact repeatLast_follows r _ _ List.suffix_rfl
    · unfold step
      rw [here, inside]
      exact repeatLast_follows r _ _ List.suffix_rfl
    · have parts : r.anchored.group = r.group := rfl
      rw [step_brace here, step_brace inside, parts]
      split
      · exact readCounts_follows r r.flags cs
      · exact .error _ _
    · unfold step
      rw [here, inside]
      exact .bind (dot r.flags) fun pattern => extend_follows r _ List.suffix_rfl
    · unfold step
      rw [here, inside]
      exact extend_follows r _ List.suffix_rfl
    · unfold step
      rw [here, inside]
      exact extend_follows r _ List.suffix_rfl
    · rw [step_backslash here, step_backslash inside]
      exact readEscape_follows r cs
  · rw [step_literal here meant, step_literal inside meant]
    exact .bind _ fun pattern => extend_follows r _ List.suffix_rfl

/-- The parts between the anchors, with the anchors themselves. -/
def OpenGroup.anchored (g : OpenGroup) : OpenGroup :=
  { parts := [⟨.look .textFinish, 0, true⟩, { g.close with depth := g.close.depth + 1 }, ⟨.look .textStart, 0, true⟩] }

theorem readAll_end {r : Reading} (fuel : Nat) (ends : r.flags.skip r.rest = []) :
    readAll (fuel + 1) r = .ok { r with rest := [] } := by
  rw [readAll, ends]

theorem readAll_step {r : Reading} (fuel : Nat) {c : Char} {cs : List Char} (head : r.flags.skip r.rest = c :: cs) :
    readAll (fuel + 1) r = step { r with rest := c :: cs } >>= readAll fuel := by
  rw [readAll, head]

/-- Where the pattern ends between its anchors, the group around it is closed and the end of the text looked for. -/
theorem closing_read {r found : Reading} {fuel : Nat} (enough : 2 ≤ fuel)
    (took : (step { r.anchored with rest := closing } >>= readAll fuel) = .ok found) (closed : found.outer = []) :
    r.outer = [] ∧ found.group = r.group.anchored := by
  obtain ⟨fuel, rfl⟩ : ∃ n, fuel = n + 2 := ⟨fuel - 2, by omega⟩
  obtain ⟨next, step, later⟩ := ok_of_bind.1 took
  rcases r with ⟨rest, flags, group, _ | ⟨⟨before, inner⟩, outer⟩, names, groups⟩
  · cases step
    cases later
    exact ⟨rfl, rfl⟩
  · cases step
    exact absurd closed (lost_of_dollar List.suffix_rfl (by simp) _ found later)

/-- Reading a pattern between its anchors up to the end, with all groups closed: the pattern alone has been read in the
same way, or it closes a group that it has not opened. -/
theorem readAll_anchored {r found : Reading} {fuel more : Nat} (enough : r.rest.length < fuel)
    (enoughMore : r.rest.length + 2 < more) (took : readAll more r.anchored = .ok found) (closed : found.outer = []) :
    (∃ last, readAll fuel r = .ok last ∧ last.outer = [] ∧ found.group = last.group.anchored) ∨
      readAll fuel r = .error .unopenedGroup := by
  -- Both readings take a step each time; the one between the anchors has its last two left when the pattern ends.
  induction fuel generalizing r more with
  | zero => exact absurd enough (Nat.not_lt_zero _)
  | succ fuel ih =>
    obtain ⟨more, rfl⟩ : ∃ n, more = n + 1 := ⟨more - 1, by omega⟩
    rcases skip_append_closing r.flags r.rest with kept | ⟨swallowed, -⟩
    · cases left : r.flags.skip r.rest with
      | nil =>
        rw [left] at kept
        rw [readAll_step more kept] at took
        obtain ⟨whole, same⟩ := closing_read (by omega) took closed
        exact .inl ⟨{ r with rest := [] }, readAll_end fuel left, whole, same⟩
      | cons c cs =>
        have shorter : cs.length < r.rest.length := (left ▸ skip_suffix r.flags r.rest).length_le
        rw [left] at kept
        rw [readAll_step more kept] at took
        rw [readAll_step fuel left]
        obtain ⟨next, step, later⟩ := ok_of_bind.1 took
        have follows : Follows cs _ _ := step_follows (r := { r with rest := c :: cs }) rfl
        rcases follows next step with ⟨alone, one, suffix, rfl⟩ | unopened | lost
        · have fewer := suffix.length_le
          rw [one]
          exact ih (by omega) (by omega) later
        · rw [unopened]
          exact .inr rfl
        · exact absurd closed (lost more found later)
    · rw [readAll_end more swallowed] at took
      cases took
      exact absurd closed r.anchored_outer

end DirectoryLogin.Pattern
