import DirectoryLogin.Text.Split

namespace DirectoryLogin

open Text

inductive Span (α : Type)
  | plain (c : Char)
  | marker (a : α)
  deriving DecidableEq

namespace Span

variable {α : Type}

/-- Takes a text apart from left to right; `read` says what reads as a marker. What was read as a
marker is not looked at again. -/
def ofText (read : List Char → Option α) : List Char → List (Span α)
  | [] => []
  | c :: rest =>
    if c = '{' then
      match h : cutAt (· == '}') rest with
      | some (inside, after) =>
        match read inside with
        | some a =>
          have := cutAt_length h
          .marker a :: ofText read after
        | none => .plain c :: ofText read rest
      | none => .plain c :: ofText read rest
    else .plain c :: ofText read rest
termination_by cs => cs.length
decreasing_by all_goals (simp_wf <;> omega)

/-- The text of a part, when `write` gives the text of its marker. -/
def text (write : α → List Char) : Span α → List Char
  | plain c => [c]
  | marker a => write a

def marker? : Span α → Option α
  | plain _ => none
  | marker a => some a

end Span

end DirectoryLogin
