import DirectoryLogin.Proofs.Markers
import DirectoryLogin.Proofs.Settings.Lines
import Mathlib.Data.Bool.AllAny
import Mathlib.Data.List.Forall2

namespace DirectoryLogin

open Text

namespace Settings

/-- The beginning of a line up to a key that ends in `bindPassword`. What comes after it may be a password, also without
a separator before it. -/
structure IsPasswordStart (start : List Char) : Prop where
  named : "bindPassword".toList <:+ start
  whole : ∀ c ∈ start, c ≠ '=' ∧ c ≠ ':'

def IsPasswordLine (line : List Char) : Prop :=
  ∃ start rest, line = start ++ rest ∧ IsPasswordStart start

/-- Lines that are the same, or the same up to the key of a password. -/
inductive SameLineButPassword : List Char → List Char → Prop
  | same (line : List Char) : SameLineButPassword line line
  | password {start : List Char} (isStart : IsPasswordStart start) (rest other : List Char) :
    SameLineButPassword (start ++ rest) (start ++ other)

/-- Texts that differ at most in what follows the keys of passwords. -/
def SameTextButPasswords (a b : String) : Prop :=
  List.Forall₂ SameLineButPassword (lines a.toList) (lines b.toList)

/-- The first faulty line of a text, counted from zero. -/
structure FirstFault (content : String) (n : Nat) (line : List Char) : Prop where
  here : (lines content.toList)[n]? = some line
  faulty : IsFaulty line
  sound : ∀ i < n, ∀ other, (lines content.toList)[i]? = some other → ¬IsFaulty other

/-- The text is refused for the line of a number, counted from one, which is about a password and lacks its
separator. -/
def Discloses (content : String) (number : Nat) (text : String) : Prop :=
  ∃ n line, number = n + 1 ∧ text = trimmed (String.ofList line) ∧ FirstFault content n line ∧ IsPasswordLine line ∧
    LacksSeparator line

theorem SameLineButPassword.symm {line other : List Char} (same : SameLineButPassword line other) :
    SameLineButPassword other line := by
  cases same with
  | same => exact .same line
  | password isStart rest more => exact .password isStart more rest

theorem SameTextButPasswords.symm {a b : String} (same : SameTextButPasswords a b) : SameTextButPasswords b a :=
  List.Forall₂.flip (same.imp fun _ _ line => line.symm)

theorem SameTextButPasswords.at {a b : String} (same : SameTextButPasswords a b) {n : Nat} {line : List Char}
    (here : (lines a.toList)[n]? = some line) :
    ∃ other, (lines b.toList)[n]? = some other ∧ SameLineButPassword line other := by
  obtain ⟨within, rfl⟩ := List.getElem?_eq_some_iff.1 here
  have bound : n < (lines b.toList).length := same.length_eq ▸ within
  exact ⟨_, List.getElem?_eq_getElem bound, same.get within bound⟩

/-- The line of a password begins with a character of its key. -/
theorem IsPasswordStart.trim_eq {start : List Char} (isStart : IsPasswordStart start) (rest : List Char) :
    ∃ c more, trim (start ++ rest) = c :: more ∧ isBlank c = false ∧ c ≠ '=' ∧ c ≠ ':' := by
  have letter : 'd' ∈ start := isStart.named.subset (by decide)
  have solid : start.dropWhile isBlank ≠ [] := by
    rw [Ne, List.dropWhile_eq_nil_iff]
    exact fun blank => absurd (blank 'd' letter) (by decide)
  obtain ⟨c, more, begins⟩ := List.exists_cons_of_ne_nil solid
  have whole : trimStart (start ++ rest) = c :: (more ++ rest) := by
    rw [trimStart, List.dropWhile_append, begins]
    rfl
  have first : isBlank c = false := by
    have head := List.head_dropWhile_not isBlank solid
    simpa only [begins, List.head_cons] using head
  have inside : c ∈ start := (List.dropWhile_suffix isBlank).subset (by rw [begins]; exact List.mem_cons_self)
  refine ⟨c, trimEnd (more ++ rest), ?_, first, isStart.whole c inside⟩
  rw [trim, whole]
  exact trimEnd_append_cons [] first _

/-- The line of a password has a key, so nothing but its separator can be missing. -/
theorem IsPasswordLine.lacksSeparator {line : List Char} (password : IsPasswordLine line) (faulty : IsFaulty line) :
    LacksSeparator line := by
  obtain ⟨start, rest, rfl, isStart⟩ := password
  obtain ⟨c, more, begins, solid, plain⟩ := isStart.trim_eq rest
  refine faulty.2.resolve_right ?_
  rintro ⟨margin, separator, after, split, separates, blank⟩
  rw [begins] at split
  cases margin with
  | nil =>
    obtain ⟨rfl, -⟩ := List.cons.inj split
    exact separates.elim plain.1 plain.2
  | cons d margin =>
    obtain ⟨rfl, -⟩ := List.cons.inj split
    exact absurd (blank c List.mem_cons_self) (by simp [solid])

/-- A text is refused for what is wrong with its first faulty line. -/
theorem ofProperties_error_iff {content : String} {e : Error} :
    ofProperties content = .error e ↔ ∃ n line, FirstFault content n line ∧ Fault (n + 1) line e := by
  rw [ofProperties_eq_error_iff, readLines_eq_error_iff]
  constructor
  · rintro ⟨before, line, after, split, sound, fault⟩
    refine ⟨before.length, line, ⟨by simp [split], (isFaulty_iff _ _).2 ⟨e, fault⟩, ?_⟩, Nat.add_comm 1 _ ▸ fault⟩
    intro i earlier other here
    rw [split, List.getElem?_append_left earlier] at here
    exact sound other (List.mem_of_getElem? here)
  · rintro ⟨n, line, first, fault⟩
    obtain ⟨within, rfl⟩ := List.getElem?_eq_some_iff.1 first.here
    refine ⟨(lines content.toList).take n, (lines content.toList)[n], (lines content.toList).drop (n + 1), ?_, ?_, ?_⟩
    · rw [← List.drop_eq_getElem_cons within, List.take_append_drop]
    · intro other member
      obtain ⟨i, small, rfl⟩ := List.mem_take_iff_getElem.1 member
      exact first.sound i (Nat.lt_of_lt_of_le small (Nat.min_le_left ..)) _ (List.getElem?_eq_getElem _)
    · rwa [List.length_take_of_le within.le, Nat.add_comm]

/-- What is said about a line begins with its number. -/
theorem Fault.reason {number : Nat} {line : List Char} {e : Error} (fault : Fault number line e) :
    ∃ text : String, e = .configuration text ∧
      ∃ more, text.toList = "line ".toList ++ (numeral number ++ ':' :: more) := by
  have spelled : (toString number).toList = numeral number := by
    simp [numeral, toString, Nat.repr]
  cases fault with
  | noSeparator => exact ⟨_, rfl, _, by simp only [String.toList_append, spelled, List.append_assoc]; rfl⟩
  | noKey => exact ⟨_, rfl, _, by simp only [String.toList_append, spelled, List.append_assoc]; rfl⟩

/-- The message tells the line and what is wrong with it. -/
theorem Fault.eq_of_message {n m : Nat} {line other : List Char} {e f : Error} (fault : Fault n line e)
    (fault' : Fault m other f) (same : e.message = f.message) : n = m ∧ e = f := by
  obtain ⟨text, rfl, more, begins⟩ := fault.reason
  obtain ⟨text', rfl, more', begins'⟩ := fault'.reason
  obtain rfl : text = text' := (String.append_right_inj _).1 same
  have digits (k : Nat) : ∀ c ∈ numeral k, (c == ':') = false := fun c member => by
    refine beq_eq_false_iff_ne.2 ?_
    rintro rfl
    exact absurd (isDigit_of_mem_numeral member) (by decide)
  have numbers : numeral n ++ ':' :: more = numeral m ++ ':' :: more' :=
    List.append_cancel_left (begins.symm.trans begins')
  have cut := cutAt_append more (digits n) (beq_self_eq_true ':')
  rw [numbers, cutAt_append more' (digits m) (beq_self_eq_true ':')] at cut
  have sameNumeral : numeral m = numeral n := (Prod.mk.inj (Option.some.inj cut)).1
  refine ⟨?_, rfl⟩
  rw [← digitsValue_numeral n, ← sameNumeral, digitsValue_numeral]

theorem Fault.unique {number : Nat} {line : List Char} {e f : Error} (fault : Fault number line e)
    (fault' : Fault number line f) : e = f :=
  Except.error.inj ((readLine_eq_error_iff.2 fault).symm.trans (readLine_eq_error_iff.2 fault'))

theorem Discloses.error {content : String} {number : Nat} {text : String} (discloses : Discloses content number text) :
    ofProperties content = .error (.configuration s!"line {number}: expected 'key=value', got '{text}'") := by
  obtain ⟨n, line, rfl, rfl, first, -, lacks⟩ := discloses
  rw [ofProperties_error_iff, trimmed, String.toList_ofList]
  exact ⟨n, line, first, .noSeparator first.faulty.1 lacks⟩

theorem FirstFault.discloses {content : String} {n : Nat} {line : List Char} (first : FirstFault content n line)
    (password : IsPasswordLine line) : Discloses content (n + 1) (trimmed (String.ofList line)) :=
  ⟨n, line, rfl, rfl, first, password, password.lacksSeparator first.faulty⟩

variable {a b : String} {n m : Nat} {line other : List Char} {e f : Error}

/-- A faulty line that is not about a password is in both texts. -/
theorem FirstFault.le (first : FirstFault a n line) (first' : FirstFault b m other) (same : SameTextButPasswords a b)
    (ordinary : ¬IsPasswordLine line) : m ≤ n := by
  obtain ⟨there, here, alike⟩ := same.at first.here
  by_contra later
  refine first'.sound n (Nat.lt_of_not_le later) there here ?_
  cases alike with
  | same => exact first.faulty
  | password isStart rest _ => exact absurd ⟨_, rest, rfl, isStart⟩ ordinary

theorem FirstFault.fault (first : FirstFault a n line) (failed : ofProperties a = .error e) : Fault (n + 1) line e := by
  obtain ⟨e', fault⟩ := (isFaulty_iff (n + 1) line).1 first.faulty
  have failed' := ofProperties_error_iff.2 ⟨n, line, first, fault⟩
  rw [failed] at failed'
  rwa [Except.error.inj failed']

theorem quoted_injective {number : Nat} {text other : String}
    (same : s!"line {number}: expected 'key=value', got '{text}'" =
      s!"line {number}: expected 'key=value', got '{other}'") : text = other := by
  simpa [toString] using same

/-- Texts that are refused in the same words disclose the same. -/
theorem Discloses.of_message (same : SameTextButPasswords a b) (failed : ofProperties a = .error e)
    (failed' : ofProperties b = .error f) (message : e.message = f.message) {number : Nat} {text : String}
    (discloses : Discloses a number text) : Discloses b number text := by
  obtain ⟨m, other, first', fault'⟩ := ofProperties_error_iff.1 failed'
  obtain ⟨n, line, rfl, rfl, first, password, lacks⟩ := discloses
  obtain ⟨numbers, rfl⟩ := (first.fault failed).eq_of_message fault' message
  obtain rfl : n = m := Nat.succ.inj numbers
  obtain ⟨there, here, alike⟩ := same.at first.here
  obtain rfl : other = there := Option.some.inj (first'.here.symm.trans here)
  have password' : IsPasswordLine other := by
    cases alike with
    | same => exact password
    | @password start isStart rest more => exact ⟨start, more, rfl, isStart⟩
  have discloses' := first'.discloses password'
  have quoted := (first.discloses password).error.symm.trans (failed.trans (failed'.symm.trans discloses'.error))
  rwa [quoted_injective (Error.configuration.inj (Except.error.inj quoted))]

/-- Only a line without a separator tells two texts apart that differ in their passwords. -/
theorem message_eq_iff (same : SameTextButPasswords a b) (failed : ofProperties a = .error e)
    (failed' : ofProperties b = .error f) :
    e.message = f.message ↔ ∀ number text, Discloses a number text ↔ Discloses b number text := by
  constructor
  · exact fun message number text =>
      ⟨.of_message same failed failed' message, .of_message same.symm failed' failed message.symm⟩
  · intro alike
    obtain ⟨n, line, first, fault⟩ := ofProperties_error_iff.1 failed
    obtain ⟨m, other, first', fault'⟩ := ofProperties_error_iff.1 failed'
    have equal {number : Nat} {text : String} (here : Discloses a number text) (there : Discloses b number text) :
        e = f :=
      Except.error.inj ((failed.symm.trans here.error).trans (there.error.symm.trans failed'))
    by_cases password : IsPasswordLine line
    · have here := first.discloses password
      rw [equal here ((alike ..).1 here)]
    by_cases password' : IsPasswordLine other
    · have there := first'.discloses password'
      rw [equal ((alike ..).2 there) there]
    obtain rfl : n = m := Nat.le_antisymm (first'.le first same.symm password') (first.le first' same password)
    obtain ⟨there, here, both⟩ := same.at first.here
    obtain rfl : other = there := Option.some.inj (first'.here.symm.trans here)
    cases both with
    | same => rw [fault.unique fault']
    | password isStart rest more => exact absurd ⟨_, rest, rfl, isStart⟩ password

/-- What errors tell about passwords. A line that is about a password and lacks its separator is quoted in full, if it is
the first faulty line. Apart from this the message is about the rest of the text alone: texts that differ in their
passwords are refused in the same words exactly if they disclose the same. -/
theorem ofProperties_discloses {a b : String} (same : SameTextButPasswords a b) {e f : Error}
    (failed : ofProperties a = .error e) (failed' : ofProperties b = .error f) :
    (∀ number text, Discloses a number text →
      e = .configuration s!"line {number}: expected 'key=value', got '{text}'") ∧
    (e.message = f.message ↔ ∀ number text, Discloses a number text ↔ Discloses b number text) := by
  refine ⟨fun number text discloses => ?_, message_eq_iff same failed failed'⟩
  exact Except.error.inj (failed.symm.trans discloses.error)

namespace PasswordFile

/-- A file with something after the key of a password. -/
def text (rest last : String) : String :=
  "ldap.url=ldap://a.example.org\nldap.bindPassword" ++ rest ++ "\n" ++ last

def texts (rest last : String) : List (List Char) :=
  ["ldap.url=ldap://a.example.org".toList, "ldap.bindPassword".toList ++ rest.toList, last.toList]

theorem isPasswordStart : IsPasswordStart "ldap.bindPassword".toList :=
  ⟨by decide, List.all_iff_forall_prop.1 (by decide)⟩

theorem sameText {rest other last : String} (here : lines (text rest last).toList = texts rest last)
    (there : lines (text other last).toList = texts other last) :
    SameTextButPasswords (text rest last) (text other last) := by
  rw [SameTextButPasswords, here, there]
  exact .cons (.same _) (.cons (.password isPasswordStart ..) (.cons (.same _) .nil))

theorem lines_bare : lines (text "" "ldap.bindDn=cn=admin").toList = texts "" "ldap.bindDn=cn=admin" := by
  decide +kernel

theorem lines_spaced :
    lines (text " hunter2" "ldap.bindDn=cn=admin").toList = texts " hunter2" "ldap.bindDn=cn=admin" := by
  decide +kernel

theorem lines_hunter : lines (text "=hunter2" "ldap.bindDn").toList = texts "=hunter2" "ldap.bindDn" := by
  decide +kernel

theorem lines_sword : lines (text ": swordfish" "ldap.bindDn").toList = texts ": swordfish" "ldap.bindDn" := by
  decide +kernel

theorem refused {rest last : String} (here : lines (text rest last).toList = texts rest last) {e : Error}
    (fails : readLines 1 (texts rest last) = .error e) : ofProperties (text rest last) = .error e := by
  rwa [ofProperties_eq_error_iff, here]

theorem discloses : Discloses (text " hunter2" "ldap.bindDn=cn=admin") 2 "ldap.bindPassword hunter2" := by
  have lacks : LacksSeparator ("ldap.bindPassword".toList ++ " hunter2".toList) :=
    List.all_iff_forall_prop.1 (by decide +kernel)
  refine ⟨1, "ldap.bindPassword".toList ++ " hunter2".toList, rfl, by decide +kernel, ⟨?_, ⟨?_, .inl lacks⟩, ?_⟩,
    ⟨_, _, rfl, isPasswordStart⟩, lacks⟩
  · rw [lines_spaced]
    rfl
  · exact ⟨'l', "dap.bindPassword hunter2".toList, by decide +kernel, by decide, by decide⟩
  · intro i first other here
    obtain rfl := Nat.lt_one_iff.1 first
    rw [lines_spaced] at here
    obtain rfl := Option.some.inj here
    rw [isFaulty_iff_readLine 1]
    rintro ⟨e, refused⟩
    cases refused

end PasswordFile

/-- A password without a separator is shown, in this file alone; two passwords behind separators are not. -/
theorem ofProperties_discloses_spaced :
    Discloses (PasswordFile.text " hunter2" "ldap.bindDn=cn=admin") 2 "ldap.bindPassword hunter2" ∧
    ¬Discloses (PasswordFile.text "" "ldap.bindDn=cn=admin") 2 "ldap.bindPassword hunter2" ∧
    ∀ number text, Discloses (PasswordFile.text "=hunter2" "ldap.bindDn") number text ↔
      Discloses (PasswordFile.text ": swordfish" "ldap.bindDn") number text := by
  refine ⟨PasswordFile.discloses, fun shown => ?_, ?_⟩
  · have bare : ofProperties (PasswordFile.text "" "ldap.bindDn=cn=admin") =
        .error (.configuration "line 2: expected 'key=value', got 'ldap.bindPassword'") :=
      PasswordFile.refused PasswordFile.lines_bare rfl
    have same := PasswordFile.sameText PasswordFile.lines_bare PasswordFile.lines_spaced
    have quoted := (ofProperties_discloses same bare PasswordFile.discloses.error).1 2 _ shown
    exact absurd (Error.configuration.inj quoted) (by decide)
  · have failed : ofProperties (PasswordFile.text "=hunter2" "ldap.bindDn") =
        .error (.configuration "line 3: expected 'key=value', got 'ldap.bindDn'") :=
      PasswordFile.refused PasswordFile.lines_hunter rfl
    have failed' : ofProperties (PasswordFile.text ": swordfish" "ldap.bindDn") =
        .error (.configuration "line 3: expected 'key=value', got 'ldap.bindDn'") :=
      PasswordFile.refused PasswordFile.lines_sword rfl
    have same := PasswordFile.sameText PasswordFile.lines_hunter PasswordFile.lines_sword
    exact (ofProperties_discloses same failed failed').2.1 rfl

/-- A password without a separator makes a message of its own. -/
theorem ofProperties_shows_password :
    SameTextButPasswords (PasswordFile.text "" "ldap.bindDn=cn=admin")
      (PasswordFile.text " hunter2" "ldap.bindDn=cn=admin") ∧
    ofProperties (PasswordFile.text "" "ldap.bindDn=cn=admin") =
      .error (.configuration "line 2: expected 'key=value', got 'ldap.bindPassword'") ∧
    ofProperties (PasswordFile.text " hunter2" "ldap.bindDn=cn=admin") =
      .error (.configuration "line 2: expected 'key=value', got 'ldap.bindPassword hunter2'") ∧
    Error.message (.configuration "line 2: expected 'key=value', got 'ldap.bindPassword'") ≠
      Error.message (.configuration "line 2: expected 'key=value', got 'ldap.bindPassword hunter2'") :=
  ⟨PasswordFile.sameText PasswordFile.lines_bare PasswordFile.lines_spaced,
    PasswordFile.refused PasswordFile.lines_bare rfl, PasswordFile.refused PasswordFile.lines_spaced rfl, by decide⟩

end Settings

end DirectoryLogin
