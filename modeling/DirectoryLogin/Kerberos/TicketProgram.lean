import DirectoryLogin.Service
import DirectoryLogin.Text.Blank

namespace DirectoryLogin

open Text

inductive Run
  | unstarted (reason : String)
  | ended (success : Bool) (complaint : String)
  /-- The program was still running when its time was up. -/
  | overdue
  deriving DecidableEq, Inhabited

/-- Runs a program with arguments and an input for at most so many milliseconds. -/
abbrev Shell (σ : Type) :=
  (program : String) → (arguments : List String) → (input : String) → (limit : Nat) → σ → Run × σ

structure TicketProgram where
  program : String := "kinit"
  timeout : Nat := 30000
  deriving DecidableEq, Inhabited

namespace TicketProgram

def spansLines (s : String) : Bool :=
  s.toList.any fun c => c == '\n' || c == '\r'

/-- The arguments for a principal; it is not taken for an option. -/
def arguments (principal : String) : List String := ["--", principal]

variable {σ : Type}

/-- Whether the program takes the password of a principal. One of several lines is refused at once,
because the program would read its first line alone. -/
def login (t : TicketProgram) (shell : Shell σ) : Kerberos σ := fun principal password => do
  if spansLines password then
    Act.note (.debug "Password spans several lines, refused" [("principal", principal)])
    return .ok false
  match ← Act.perform (shell t.program (arguments principal) (password ++ "\n") t.timeout) with
  | .unstarted reason => return .error (.kerberos s!"unable to run {t.program}: {reason}")
  | .overdue => return .error .timeout
  | .ended true _ => return .ok true
  | .ended false complaint =>
    Act.note (.debug "Password is not valid for principal"
      [("principal", principal), ("stderr", trimmed complaint)])
    return .ok false

end TicketProgram

end DirectoryLogin
