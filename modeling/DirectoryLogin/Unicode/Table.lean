import DirectoryLogin.Text.Numeral
import DirectoryLogin.Text.Split
import DirectoryLogin.Unicode.CharSet

namespace DirectoryLogin.Unicode

open DirectoryLogin.Text

def tableWords (table : String) : List (List Char) :=
  (pieces (fun c => c == ' ' || c == '\n') table.toList).filter (!·.isEmpty)

/-- The number that hexadecimal digits write; a character that is none counts as zero. -/
def hexValue (digits : List Char) : Nat :=
  digits.foldl (fun n d => 16 * n + (hexDigit? d).getD 0) 0

/-- The two ends of a range, both in it. -/
def readRange (word : List Char) : Nat × Nat :=
  match cutAt (· == '-') word with
  | some (low, high) => (hexValue low, hexValue high)
  | none => (hexValue word, hexValue word)

def readRanges (table : String) : Array (Nat × Nat) :=
  ((tableWords table).map readRange).toArray

/-- The runs of a table: the first code point of each with its label of `width` characters. -/
def readRuns (width : Nat) (table : String) : Array (Nat × String) :=
  ((tableWords table).foldl (fun (runs, next) word =>
    (runs.push (next, String.ofList (word.take width)), next + digitsValue (word.drop width)))
    ((#[] : Array (Nat × String)), 0)).1

/-- The first and the last code point of each run, with its label. -/
def runRanges (runs : Array (Nat × String)) : List (Nat × Nat × String) :=
  let ends := (runs.toList.tail.map fun (start, _) => start - 1) ++ [CharSet.maxCode]
  (runs.toList.zip ends).map fun ((start, label), last) => (start, last, label)

/-- The last row, of those from `low` on and below `high`, that starts at `n` or before. -/
def lastUpTo {α : Type} (rows : Array (Nat × α)) (n low high : Nat) : Option (Nat × α) :=
  if low < high then
    let middle := (low + high) / 2
    match rows[middle]? with
    | none => none
    | some row =>
      if row.1 ≤ n then (lastUpTo rows n (middle + 1) high).or (some row)
      else lastUpTo rows n low middle
  else none
termination_by high - low

/-- The row that `n` falls into. -/
def rowOf {α : Type} (rows : Array (Nat × α)) (n : Nat) : Option (Nat × α) :=
  lastUpTo rows n 0 rows.size

def within (ranges : Array (Nat × Nat)) (n : Nat) : Bool :=
  match rowOf ranges n with
  | some (_, high) => n ≤ high
  | none => false

end DirectoryLogin.Unicode
