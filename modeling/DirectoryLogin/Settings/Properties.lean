import DirectoryLogin.Settings.Basic

namespace DirectoryLogin

open Text

namespace Settings

def isSeparator (c : Char) : Bool :=
  c == '=' || c == ':'

def isIdle (line : List Char) : Bool :=
  match line with
  | [] => true
  | c :: _ => c == '#' || c == '!'

/-- What the line with a number says: a key with its value, or nothing. -/
def readLine (number : Nat) (line : List Char) : Except Error (Option (String × String)) :=
  let line := trim line
  if isIdle line then .ok none
  else match cutAt isSeparator line with
    | none => .error (.configuration
        s!"line {number}: expected 'key=value', got '{String.ofList line}'")
    | some (key, value) =>
      if (trim key).isEmpty then .error (.configuration s!"line {number}: empty key")
      else .ok (some (String.ofList (trim key), String.ofList (trim value)))

/-- What the lines say, the first of them having the number `number`. -/
def readLines (number : Nat) : List (List Char) → Except Error (List (String × String))
  | [] => .ok []
  | line :: rest => do
    let pair ← readLine number line
    let pairs ← readLines (number + 1) rest
    return pair.toList ++ pairs

/-- Reads settings written line by line. A key written twice has its last value. -/
def ofProperties (content : String) : Except Error Settings := do
  return ofList (← readLines 1 (lines content.toList))

end Settings

end DirectoryLogin
