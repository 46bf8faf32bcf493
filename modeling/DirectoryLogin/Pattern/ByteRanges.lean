namespace DirectoryLogin

/-- A byte for each range, between its two ends. -/
abbrev ByteSequence := List (Nat × Nat)

namespace ByteSequence

/-- Where a range must be cut to be written by one sequence: between characters of different lengths, and
where the last bytes do not run through all that they can be. -/
def cut? (low high : Nat) : Option Nat :=
  match [0x80, 0x800, 0x10000].find? fun bound => low < bound && bound ≤ high with
  | some bound => some bound
  | none =>
    if high < 0x80 then none
    else [0x40, 0x1000, 0x40000].findSome? fun run =>
      if low / run = high / run then none
      else if low % run != 0 then some ((low / run + 1) * run)
      else if high % run != run - 1 then some (high / run * run)
      else none

def between (low high : Nat) : ByteSequence :=
  let bytes := fun n => (String.utf8EncodeChar (Char.ofNat n)).map UInt8.toNat
  (bytes low).zip (bytes high)

def ofScalars (low high : Nat) : List ByteSequence :=
  match cut? low high with
  | none => [between low high]
  | some middle =>
    if _ : low < middle ∧ middle ≤ high then
      ofScalars low (middle - 1) ++ ofScalars middle high
    else [between low high]
termination_by high - low
decreasing_by all_goals omega

def ofRange (low high : Nat) : List ByteSequence :=
  if low < 0xE000 && 0xD7FF < high then
    (if low ≤ 0xD7FF then ofScalars low 0xD7FF else []) ++
      (if 0xE000 ≤ high then ofScalars 0xE000 high else [])
  else ofScalars low high

end ByteSequence

end DirectoryLogin
