import DirectoryLogin.Pattern.Look

namespace DirectoryLogin

abbrev Places := Nat

namespace Places

/-- The places of a list whose members pass a test. -/
def marks {α : Type} (test : α → Bool) : List α → Places
  | [] => 0
  | a :: rest => (if test a then 1 else 0) + 2 * marks test rest

/-- The neighbours of every place in a text, from its start to its end. -/
def neighbours (before : Option Char) : List Char → List (Option Char × Option Char)
  | [] => [(before, none)]
  | c :: rest => (before, some c) :: neighbours (some c) rest

def all (text : List Char) : Places :=
  marks (fun _ => true) (neighbours none text)

def looking (text : List Char) (condition : Look) (s : Places) : Places :=
  s &&& marks (fun (before, after) => condition.holds before after) (neighbours none text)

/-- The places after a character that a test accepts, if it stands at a place of `s`. -/
def passing (text : List Char) (accepts : Char → Bool) (s : Places) : Places :=
  (s &&& marks accepts text) <<< 1

/-- The numbers of the places in a set, of those below `bound`. -/
def numbers (bound : Nat) (s : Places) : List Nat :=
  (List.range bound).filter s.testBit

end Places

/-- Applies `f` a number of times, no more often than it makes a difference. -/
def iterate {α : Type} [DecidableEq α] (f : α → α) : Nat → α → α
  | 0, a => a
  | n + 1, a =>
    let b := f a
    if b = a then a else iterate f n b

end DirectoryLogin
