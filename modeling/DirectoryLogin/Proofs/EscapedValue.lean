import DirectoryLogin.Filter
import DirectoryLogin.Proofs.Text.Utf8
import DirectoryLogin.Request

namespace DirectoryLogin

open Text

namespace Filter

theorem unescapeBytes_cons {c : Char} (rest : List Char) (ordinary : c ≠ '\\') :
    unescapeBytes (c :: rest) = (unescapeBytes rest).map (String.utf8EncodeChar c ++ ·) := by
  rw [unescapeBytes.eq_def]
  split
  · rename_i empty
    cases empty
  · rename_i escape
    cases escape
    exact absurd rfl ordinary
  · rename_i same
    cases same
    rw [if_neg ordinary]
    cases unescapeBytes rest <;> rfl

theorem unescapeBytes_pair {a b : Char} {byte : UInt8} (rest : List Char)
    (pair : hexPair a b = some byte) :
    unescapeBytes ('\\' :: a :: b :: rest) = (unescapeBytes rest).map (byte :: ·) := by
  rw [unescapeBytes, pair]
  cases unescapeBytes rest <;> rfl

/-- An escaped character is read back as the bytes of the character. -/
theorem unescapeBytes_escape (c : Char) (rest : List Char) :
    unescapeBytes (escapeInFilter c ++ rest) =
      (unescapeBytes rest).map (String.utf8EncodeChar c ++ ·) := by
  unfold escapeInFilter
  split
  · subst c
    exact unescapeBytes_pair rest (by decide)
  split
  · subst c
    exact unescapeBytes_pair rest (by decide)
  split
  · subst c
    exact unescapeBytes_pair rest (by decide)
  split
  · subst c
    exact unescapeBytes_pair rest (by decide)
  split
  · subst c
    exact unescapeBytes_pair rest (by decide)
  · exact unescapeBytes_cons rest (by assumption)

/-- A text without backslashes stands for itself. -/
theorem unescapeBytes_ordinary {cs : List Char} (ordinary : ∀ c ∈ cs, c ≠ '\\') :
    unescapeBytes cs = some (utf8 cs) := by
  induction cs with
  | nil => rfl
  | cons c cs ih =>
    rw [unescapeBytes_cons cs (ordinary c (List.mem_cons_self ..)),
      ih fun x member => ordinary x (List.mem_cons_of_mem _ member)]
    rfl

theorem unescapeBytes_escapedValue (s : String) :
    unescapeBytes (escapedValue s) = some (utf8 s.toList) := by
  unfold escapedValue
  induction s.toList with
  | nil => rfl
  | cons c cs ih =>
    rw [List.flatMap_cons, unescapeBytes_escape, ih]
    rfl

theorem unescape_ordinary {s : String} (ordinary : ∀ c ∈ s.toList, c ≠ '\\') :
    unescape s.toList = some s := by
  rw [unescape, unescapeBytes_ordinary ordinary, Option.bind_some, ofUtf8?_utf8, Option.map_some,
    String.ofList_toList]

/-- Reading an escaped value gives the value back. -/
theorem unescape_escapedValue (s : String) : unescape (escapedValue s) = some s := by
  rw [unescape, unescapeBytes_escapedValue, Option.bind_some, ofUtf8?_utf8, Option.map_some,
    String.ofList_toList]

end Filter

/-- The characters that mean something in a filter by themselves. -/
def isFilterSyntax (c : Char) : Bool :=
  c == '(' || c == ')' || c == '*' || c == '\x00'

theorem isFilterSyntax_escapeInFilter (c : Char) :
    ∀ x ∈ escapeInFilter c, isFilterSyntax x = false := by
  unfold escapeInFilter
  split
  · simp [isFilterSyntax]
  split
  · simp [isFilterSyntax]
  split
  · simp [isFilterSyntax]
  split
  · simp [isFilterSyntax]
  split
  · simp [isFilterSyntax]
  · intro x member
    cases List.mem_singleton.1 member
    simp [isFilterSyntax, *]

/-- No character of an escaped value means anything in a filter by itself. -/
theorem isFilterSyntax_escapedValue (s : String) :
    ∀ x ∈ escapedValue s, isFilterSyntax x = false := by
  intro x member
  obtain ⟨c, _, inside⟩ := List.mem_flatMap.1 member
  exact isFilterSyntax_escapeInFilter c x inside

end DirectoryLogin
