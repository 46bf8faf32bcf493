namespace DirectoryLogin.Text

/-- The pieces between the characters that `cut` accepts; a text without any is one piece. -/
def pieces (cut : Char → Bool) : List Char → List (List Char)
  | [] => [[]]
  | c :: rest =>
    if cut c then [] :: pieces cut rest
    else match pieces cut rest with
      | [] => [[c]]
      | piece :: more => (c :: piece) :: more

/-- The text before and after the first character that `cut` accepts. -/
def cutAt (cut : Char → Bool) : List Char → Option (List Char × List Char)
  | [] => none
  | c :: rest =>
    if cut c then some ([], rest)
    else (cutAt cut rest).map fun (before, after) => (c :: before, after)

theorem cutAt_length {cut : Char → Bool} {cs before after : List Char}
    (found : cutAt cut cs = some (before, after)) : after.length < cs.length := by
  induction cs generalizing before with
  | nil => simp [cutAt] at found
  | cons c rest ih =>
    simp only [cutAt] at found
    split at found
    · simp only [Option.some.injEq, Prod.mk.injEq] at found
      simp [← found.2]
    · obtain ⟨⟨b, a⟩, inner, same⟩ := Option.map_eq_some_iff.1 found
      simp only [Prod.mk.injEq] at same
      have := ih (same.2 ▸ inner)
      simp only [List.length_cons]
      omega

/-- A line without the carriage return that may end it. -/
def dropReturn (line : List Char) : List Char :=
  if line.getLast? = some '\r' then line.dropLast else line

/-- The lines of a text. A line feed ends a line, so none follows the last line feed. -/
def lines (cs : List Char) : List (List Char) :=
  let cut := pieces (· == '\n') cs
  let kept := if cut.getLast? = some [] then cut.dropLast else cut
  kept.map dropReturn

/-- The pieces between the characters that `cut` accepts, as texts. -/
def splitText (cut : Char → Bool) (s : String) : List String :=
  (pieces cut s.toList).map String.ofList

end DirectoryLogin.Text
