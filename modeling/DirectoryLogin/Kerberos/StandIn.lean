import DirectoryLogin.Decimal.Reader
import DirectoryLogin.Kerberos.TicketProgram
import DirectoryLogin.LineSearch.Reader
import DirectoryLogin.Machine
import DirectoryLogin.Text.Utf8

namespace DirectoryLogin.StandIn

open Text

/-- Why a program that is none of them does not start. A name without a slash is looked for where
programs are, and what is found there or elsewhere may not be run. -/
def refusal (program : String) : String :=
  let machine := Machine.usual [] []
  let path := if program.toList.contains '/' then program else "/usr/bin/" ++ program
  if program.isEmpty then PathError.notFound.message
  else match machine.find path with
    | .error e => e.message
    | .ok _ => "Permission denied (os error 13)"

/-- The bytes of a text, each as the character of its number. -/
def bytes (cs : List Char) : List Char :=
  (utf8 cs).map fun b => Char.ofNat b.toNat

/-- Looks for a pattern, or for one of the patterns on several lines, in the lines of the input. -/
def grep (pattern input : String) : Run :=
  match ((pieces (· == '\n') pattern.toList).mapM fun p => LineSearch.read (bytes p)) with
  | .error e => .ended false s!"grep: {e.message}"
  | .ok patterns =>
    .ended ((rows input.toList).any fun line => patterns.any (·.occursIn (bytes line))) ""
where
  /-- The lines of an input, each ended by a line feed or by a NUL. -/
  rows (cs : List Char) : List (List Char) :=
    let cut := pieces (fun c => c == '\n' || c == '\x00') cs
    if cut.getLast? = some [] then cut.dropLast else cut

def unitSeconds? : List Char → Option Nat
  | [] | ['s'] => some 1
  | ['m'] => some 60
  | ['h'] => some 3600
  | ['d'] => some 86400
  | _ => none

/-- Whether a number of seconds, minutes, hours or days is over before a number of milliseconds. There
is no negative duration. -/
def endsBefore? (limit : Nat) (argument : String) : Option Bool := do
  let (number, unit) ← Binary64.number argument.toList
  let seconds ← unitSeconds? unit
  match number with
  | .finite negative significand exponent =>
    if negative && significand != 0 then none
    let (n, d) := Binary64.fraction significand exponent
    return n * seconds * 1000 < limit * d
  | .infinite negative => if negative then none else return false
  | .notANumber => none

def sleep (argument : String) (limit : Nat) : Run :=
  match endsBefore? limit argument with
  | none => .ended false (s!"sleep: invalid time interval '{argument}'\n" ++
      "Try 'sleep --help' for more information.")
  | some true => .ended true ""
  | some false => .overdue

def baseName (program : String) : String :=
  if startsWith program "/usr/bin/" then String.ofList (program.toList.drop 9)
  else if startsWith program "/bin/" then String.ofList (program.toList.drop 5)
  else program

def inTime (limit : Nat) : Run → Run
  | .ended success complaint => if limit = 0 then .overdue else .ended success complaint
  | run => run

def shell {σ : Type} : Shell σ := fun program arguments input limit world =>
  let argument := arguments.getLastD ""
  let run := inTime limit <|
    if (program ++ argument).toList.contains '\x00' then .unstarted "nul byte found in provided data"
    else match baseName program with
      | "true" => .ended true ""
      | "false" => .ended false ""
      | "sleep" => sleep argument limit
      | "grep" => grep argument input
      | _ => .unstarted (refusal program)
  (run, world)

end DirectoryLogin.StandIn
