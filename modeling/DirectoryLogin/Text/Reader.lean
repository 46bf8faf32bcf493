namespace DirectoryLogin.Text

/-- Takes a value from the front of a text. -/
abbrev Reader (α : Type) := StateT (List Char) Option α

namespace Reader

variable {α β : Type}

def satisfying (accepts : Char → Bool) : Reader Char
  | [] => none
  | c :: rest => if accepts c then some (c, rest) else none

def char (c : Char) : Reader Char := satisfying (· == c)

def span (accepts : Char → Bool) : Reader (List Char) := fun cs =>
  some (cs.takeWhile accepts, cs.dropWhile accepts)

/-- The characters of a class, at least one. -/
def spanSome (accepts : Char → Bool) : Reader (List Char) := do
  let c ← satisfying accepts
  return c :: (← span accepts)

def count (accepts : Char → Bool) : Nat → Reader (List Char)
  | 0 => return []
  | n + 1 => do
    let c ← satisfying accepts
    return c :: (← count accepts n)

def exactly : List Char → Reader Unit
  | [] => return ()
  | c :: rest => do
    let _ ← char c
    exactly rest

def finish : Reader Unit
  | [] => some ((), [])
  | _ :: _ => none

def ahead (read : Reader α) : Reader α := fun cs =>
  (read cs).map fun (a, _) => (a, cs)

def maybe (read : Reader α) : Reader (Option α) := fun cs =>
  match read cs with
  | some (a, rest) => some (some a, rest)
  | none => some (none, cs)

/-- All values that the reader takes one after the other, and the rest. -/
def takeAll (read : Reader α) (cs : List Char) : List α × List Char :=
  match read cs with
  | none => ([], cs)
  | some (a, rest) =>
    if rest.length < cs.length then
      let (as, last) := takeAll read rest
      (a :: as, last)
    else ([], cs)
termination_by cs.length

def many (read : Reader α) : Reader (List α) := fun cs => some (takeAll read cs)

/-- At least one value, with something between each two. -/
def separatedSome (between : Reader β) (read : Reader α) : Reader (List α) := do
  let a ← read
  return a :: (← many do
    let _ ← between
    read)

/-- Any number of values with something between each two. -/
def separated (between : Reader β) (read : Reader α) : Reader (List α) := do
  return (← maybe (separatedSome between read)).getD []

def given (a : Option α) : Reader α := fun cs => a.map fun a => (a, cs)

end Reader

end DirectoryLogin.Text
