import DirectoryLogin.Proofs.Pattern.Anchored
import DirectoryLogin.Proofs.Pattern.Meaning
import DirectoryLogin.Proofs.Registered
import DirectoryLogin.ReferralPolicy

namespace DirectoryLogin

namespace Pattern

/-- The text is a pattern by itself, however much room it takes. -/
def Written (text : List Char) (p : Pattern) : Prop :=
  ∃ r, readAll (text.length + 1) { rest := text } = .ok r ∧ r.outer = [] ∧ r.group.close.depth ≤ maxDepth ∧
    r.group.close.pattern = p

theorem read_eq_ok_iff {text : List Char} {p : Pattern} : Pattern.read text = .ok p ↔ Written text p ∧ p.fits := by
  unfold Pattern.read Written
  cases readAll (text.length + 1) { rest := text } with
  | error e => simp [bind, Except.bind]
  | ok r =>
    simp only [bind, Except.bind, pure, Except.pure, throw, throwThe, MonadExceptOf.throw]
    by_cases closed : r.outer = []
    · by_cases deep : maxDepth < r.group.close.depth
      · simp [closed, deep]
      · by_cases fits : r.group.close.pattern.fits
        · have shallow : r.group.close.depth ≤ maxDepth := Nat.le_of_not_lt deep
          simp [closed, deep, fits, shallow]
          rintro rfl
          exact fits
        · simp [closed, deep, fits]
          rintro - rfl
          simpa using fits
    · simp [closed]

theorem read_of_written {text : List Char} {p : Pattern} (written : Written text p) :
    Pattern.read text = if p.fits then .ok p else .error .tooLarge := by
  obtain ⟨r, took, closed, shallow, rfl⟩ := written
  have firm : ¬ maxDepth < r.group.close.depth := Nat.not_lt.2 shallow
  unfold Pattern.read
  rw [took]
  simp only [bind, Except.bind, pure, Except.pure, throw, throwThe, MonadExceptOf.throw, closed, List.isEmpty_nil,
    Bool.not_true, Bool.false_eq_true, if_false, if_neg firm]
  cases r.group.close.pattern.fits with
  | true => rfl
  | false => rfl

theorem Written.unique {text : List Char} {p q : Pattern} (first : Written text p) (second : Written text q) : p = q := by
  obtain ⟨r, took, -, -, rfl⟩ := first
  obtain ⟨r', took', -, -, rfl⟩ := second
  rw [took] at took'
  cases took'
  rfl

/-- The text closes a group that it has not opened. -/
def Unopened (text : List Char) : Prop :=
  Pattern.read text = .error .unopenedGroup

theorem Written.not_unopened {text : List Char} {p : Pattern} (written : Written text p) : ¬ Unopened text := by
  unfold Unopened
  rw [read_of_written written]
  split <;> exact fun same => nomatch same

theorem readAll_opening (cs : List Char) (fuel : Nat) :
    readAll (fuel + 2) { rest := '^' :: '(' :: '?' :: ':' :: (cs ++ closing) } =
      readAll fuel ({ rest := cs } : Reading).anchored := rfl

theorem close_anchored (g : OpenGroup) : g.anchored.close =
    ⟨sequence [.look .textStart, g.close.pattern, .look .textFinish], g.close.depth + 2, true⟩ := by
  simp [OpenGroup.anchored, OpenGroup.close, Part.sequence]
  omega

theorem toList_anchored (source : String) :
    (ReferralFilter.anchored source).toList = '^' :: '(' :: '?' :: ':' :: (source.toList ++ closing) := by
  simp [ReferralFilter.anchored, closing]

/-- What is read between the anchors is a pattern by itself, unless it closes a group that it has not opened. -/
theorem read_anchored {source : String} {p : Pattern}
    (accepted : Pattern.read (ReferralFilter.anchored source).toList = .ok p) :
    (∃ inner, Written source.toList inner ∧ p = sequence [.look .textStart, inner, .look .textFinish]) ∨
      Unopened source.toList := by
  rw [toList_anchored] at accepted
  obtain ⟨⟨found, took, closed, shallow, rfl⟩, -⟩ := read_eq_ok_iff.1 accepted
  have length : ('^' :: '(' :: '?' :: ':' :: (source.toList ++ closing)).length + 1 = source.toList.length + 5 + 2 := by
    simp [closing]
  rw [length, readAll_opening] at took
  rcases readAll_anchored (Nat.lt_succ_self _) (by dsimp only; omega) took closed with ⟨last, alone, whole, same⟩ | unopened
  · rw [same, close_anchored] at shallow ⊢
    refine .inl ⟨last.group.close.pattern, ⟨last, alone, whole, ?_, rfl⟩, rfl⟩
    exact (Nat.le_add_right _ 2).trans shallow
  · refine .inr ?_
    unfold Unopened Pattern.read
    dsimp only at unopened
    rw [unopened]
    rfl

end Pattern

namespace ReferralFilter

/-- A pattern turns down what it matches as a whole. A text that closes a group which it has not opened turns down all
targets a stretch of which its anchored form matches. -/
def TurnsDown (source target : String) : Prop :=
  (∃ p, Pattern.Written source.toList p ∧ p.Spans target.toList 0 target.toList.length) ∨
    (Pattern.Unopened source.toList ∧ ∃ p i j, Pattern.read (anchored source).toList = .ok p ∧
      i ≤ target.toList.length ∧ p.Spans target.toList i j)

theorem read_eq_ok {source : String} {filter : ReferralFilter} (accepted : read source = .ok filter) :
    Pattern.read (anchored source).toList = .ok filter.pattern := by
  unfold read at accepted
  split at accepted
  · next taken =>
    cases accepted
    exact taken
  · cases accepted

theorem accepts_iff {source : String} {filter : ReferralFilter} (accepted : read source = .ok filter) (target : String) :
    filter.accepts target ↔ TurnsDown source target := by
  have taken := read_eq_ok accepted
  unfold accepts TurnsDown
  rcases Pattern.read_anchored taken with ⟨inner, written, same⟩ | unopened
  · rw [same, Pattern.occursIn_anchored]
    constructor
    · intro spans
      exact .inl ⟨inner, written, spans⟩
    · rintro (⟨p, other, spans⟩ | ⟨unopened, -⟩)
      · rw [written.unique other]
        exact spans
      · exact absurd unopened written.not_unopened
  · rw [Pattern.occursIn_iff]
    constructor
    · rintro ⟨i, j, within, spans⟩
      exact .inr ⟨unopened, filter.pattern, i, j, taken, within, spans⟩
    · rintro (⟨p, written, -⟩ | ⟨-, p, i, j, other, within, spans⟩)
      · exact absurd unopened written.not_unopened
      · rw [taken] at other
        cases other
        exact ⟨i, j, within, spans⟩

end ReferralFilter

namespace ReferralPolicy

theorem follows_denyByPattern (filters : List ReferralFilter) (target : String) :
    (denyByPattern filters).follows target = false ↔ ∃ filter ∈ filters, filter.accepts target := by
  simp [follows, refusing?]

theorem follows_singleton (filter : ReferralFilter) (target : String) :
    (denyByPattern [filter]).follows target = false ↔ filter.accepts target := by
  simp [follows_denyByPattern]

theorem ofPatterns_singleton {source : String} {p : Pattern}
    (taken : Pattern.read (ReferralFilter.anchored source).toList = .ok p) :
    ofPatterns [source] = .ok (.denyByPattern [⟨ReferralFilter.anchored source, p⟩]) := by
  simp [ofPatterns, ReferralFilter.read, taken, bind, Except.bind, pure, Except.pure]

/-- Where the patterns make a policy, each of them is a pattern by itself or closes a group that it has not opened, and
the policy does not follow exactly the targets that one of them turns down. -/
theorem ofPatterns_refuses {patterns : List String} {policy : ReferralPolicy} (accepted : ofPatterns patterns = .ok policy) :
    (∀ source ∈ patterns, (∃ p, Pattern.Written source.toList p) ∨ Pattern.Unopened source.toList) ∧
      ∀ target, policy.follows target = false ↔ ∃ source ∈ patterns, ReferralFilter.TurnsDown source target := by
  obtain ⟨filters, gathered, made⟩ := bind_eq_ok.1 accepted
  have each := mapM_eq_ok.1 gathered
  have ofSource {source : String} (listed : source ∈ patterns) :
      ∃ filter ∈ filters, ReferralFilter.read source = .ok filter :=
    exists_beside each.flip listed
  cases made
  constructor
  · intro source listed
    obtain ⟨filter, -, taken⟩ := ofSource listed
    rcases Pattern.read_anchored (ReferralFilter.read_eq_ok taken) with ⟨inner, written, -⟩ | unopened
    · exact .inl ⟨inner, written⟩
    · exact .inr unopened
  · intro target
    rw [follows_denyByPattern]
    constructor
    · rintro ⟨filter, member, accepts⟩
      obtain ⟨source, listed, taken⟩ := exists_beside each member
      exact ⟨source, listed, (ReferralFilter.accepts_iff taken target).1 accepts⟩
    · rintro ⟨source, listed, turnsDown⟩
      obtain ⟨filter, member, taken⟩ := ofSource listed
      exact ⟨filter, member, (ReferralFilter.accepts_iff taken target).2 turnsDown⟩

/-- Letters between two others, as many as there are. -/
theorem ofPatterns_refuses_repeated : ∃ policy, ofPatterns ["ab*c"] = .ok policy ∧
    (∃ p, Pattern.Written "ab*c".toList p) ∧
      ReferralFilter.TurnsDown "ab*c" "abbc" ∧ ¬ ReferralFilter.TurnsDown "ab*c" "abbcd" := by
  have taken : Pattern.read (ReferralFilter.anchored "ab*c").toList = .ok (.seq (.look .textStart) (.seq (.literal ['a'])
      (.seq (.times (.literal ['b']) 0 none false) (.seq (.literal ['c']) (.look .textFinish))))) := by
    decide +kernel
  have opened : ¬ Pattern.Unopened "ab*c".toList := by
    unfold Pattern.Unopened
    decide +kernel
  have accepted := ofPatterns_singleton taken
  obtain ⟨written, refuses⟩ := ofPatterns_refuses accepted
  refine ⟨_, accepted, (written _ List.mem_cons_self).resolve_right opened, ?_, fun turnsDown => ?_⟩
  · obtain ⟨source, listed, turnsDown⟩ := (refuses "abbc").1 ((follows_singleton _ _).2 (by decide +kernel))
    rwa [List.mem_singleton.1 listed] at turnsDown
  · have refused := (refuses "abbcd").2 ⟨_, List.mem_cons_self, turnsDown⟩
    exact absurd ((follows_singleton _ _).1 refused) (by decide +kernel)

/-- A text that is no pattern is taken for one, and a target is turned down that no pattern matches as a whole. -/
theorem ofPatterns_takes_unopened : ∃ policy, ofPatterns ["a)|(b"] = .ok policy ∧
    (¬ ∃ p, Pattern.Written "a)|(b".toList p) ∧ policy.follows "ax" = false ∧
      ¬ ∃ source ∈ ["a)|(b"], ∃ p, Pattern.Written source.toList p ∧ p.Spans "ax".toList 0 "ax".toList.length := by
  have taken : Pattern.read (ReferralFilter.anchored "a)|(b").toList = .ok (.alt
      (.seq (.look .textStart) (.literal ['a'])) (.seq (.group 1 (.literal ['b'])) (.look .textFinish))) := by
    decide +kernel
  have unopened : Pattern.Unopened "a)|(b".toList := by
    unfold Pattern.Unopened
    decide +kernel
  have unwritten : ¬ ∃ p, Pattern.Written "a)|(b".toList p := by
    rintro ⟨p, written⟩
    exact written.not_unopened unopened
  refine ⟨_, ofPatterns_singleton taken, unwritten, ?_, ?_⟩
  · exact (follows_singleton _ _).2 (by decide +kernel)
  · rintro ⟨source, listed, p, written, -⟩
    exact unwritten ⟨p, List.mem_singleton.1 listed ▸ written⟩

end ReferralPolicy

end DirectoryLogin
