namespace DirectoryLogin

/-- A set of characters. Its ranges are in ascending order, and no two of them overlap or touch. -/
structure CharSet where
  ranges : List (Nat × Nat)
  deriving DecidableEq, Inhabited

namespace CharSet

def maxCode : Nat := 0x10FFFF

/-- The code point after one that belongs to a character. Surrogates belong to none. -/
def next (n : Nat) : Nat :=
  if n = 0xD7FF then 0xE000 else n + 1

/-- The code point before one that belongs to a character. -/
def previous (n : Nat) : Nat :=
  if n = 0xE000 then 0xD7FF else n - 1

/-- Joins ranges that overlap or touch, in ascending order of their first code points. -/
def join (current : Nat × Nat) : List (Nat × Nat) → List (Nat × Nat)
  | [] => [current]
  | after :: rest =>
    if after.1 ≤ current.2 + 1 then join (current.1, max current.2 after.2) rest
    else current :: join after rest

def ofRanges (ranges : List (Nat × Nat)) : CharSet :=
  match ranges.mergeSort (fun a b => a.1 ≤ b.1) with
  | [] => ⟨[]⟩
  | first :: rest => ⟨join first rest⟩

def empty : CharSet := ⟨[]⟩

def all : CharSet := ⟨[(0, maxCode)]⟩

def single (c : Char) : CharSet := ⟨[(c.toNat, c.toNat)]⟩

def between (low high : Char) : CharSet := ⟨[(low.toNat, high.toNat)]⟩

def ascii (accepts : Char → Bool) : CharSet :=
  ofRanges (((List.range 0x80).filter fun n => accepts (Char.ofNat n)).map fun n => (n, n))

def hasCode (s : CharSet) (n : Nat) : Bool :=
  s.ranges.any fun (low, high) => low ≤ n && n ≤ high

def contains (s : CharSet) (c : Char) : Bool :=
  s.hasCode c.toNat

def union (s t : CharSet) : CharSet :=
  ofRanges (s.ranges ++ t.ranges)

def meet : List (Nat × Nat) → List (Nat × Nat) → List (Nat × Nat)
  | a :: as, b :: bs =>
    let low := max a.1 b.1
    let high := min a.2 b.2
    let rest := if a.2 ≤ b.2 then meet as (b :: bs) else meet (a :: as) bs
    if low ≤ high then (low, high) :: rest else rest
  | _, _ => []
termination_by as bs => as.length + bs.length

def intersection (s t : CharSet) : CharSet :=
  ⟨meet s.ranges t.ranges⟩

/-- What is left of a row of ranges without those of another one. -/
def subtract : List (Nat × Nat) → List (Nat × Nat) → List (Nat × Nat)
  | [], _ => []
  | as, [] => as
  | a :: as, b :: bs =>
    if b.2 < a.1 then subtract (a :: as) bs
    else if a.2 < b.1 then a :: subtract as (b :: bs)
    else
      let before := if a.1 < b.1 then [(a.1, previous b.1)] else []
      if b.2 < a.2 then before ++ subtract ((next b.2, a.2) :: as) bs
      else before ++ subtract as (b :: bs)
termination_by as bs => as.length + bs.length

def difference (s t : CharSet) : CharSet :=
  ⟨subtract s.ranges t.ranges⟩

def symmetricDifference (s t : CharSet) : CharSet :=
  (s.union t).difference (s.intersection t)

/-- What lies between one range and the next one, and after the last one. Two ranges that meet around
the surrogates have their neighbouring characters between them. -/
def gaps : List (Nat × Nat) → List (Nat × Nat)
  | [] => []
  | [last] => if last.2 < maxCode then [(next last.2, maxCode)] else []
  | a :: b :: rest =>
    let after := next a.2
    let before := previous b.1
    (min after before, max after before) :: gaps (b :: rest)

def complement (s : CharSet) : CharSet :=
  match s.ranges with
  | [] => all
  | first :: _ =>
    let before := if 0 < first.1 then [(0, previous first.1)] else []
    ⟨before ++ gaps s.ranges⟩

end CharSet

end DirectoryLogin
