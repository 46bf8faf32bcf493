import DirectoryLogin.Pattern.Basic

namespace DirectoryLogin.Pattern

/-- One character of a class; the class of a single character is that character. -/
def oneOf (accepted : CharSet) : Pattern :=
  match accepted.ranges with
  | [(low, high)] => if low = high then literal [Char.ofNat low] else one accepted
  | _ => one accepted

/-- A repetition. Where nothing is repeated, once is as good as often. -/
def repeated (body : Pattern) (least : Nat) (most : Option Nat) (reluctant : Bool) : Pattern :=
  let (least, most) :=
    if body.takesNothing then (min least 1, some (min (most.getD 1) 1)) else (least, most)
  if most = some 0 then empty
  else if least = 1 && most = some 1 then body
  else times body least most reluctant

def joinTexts : List Pattern → List Pattern
  | [] => []
  | literal text :: rest =>
    match joinTexts rest with
    | literal more :: rest => literal (text ++ more) :: rest
    | rest => literal text :: rest
  | p :: rest => p :: joinTexts rest

def ofParts : List Pattern → Pattern
  | [] => empty
  | [p] => p
  | p :: rest => seq p (ofParts rest)

def sequence (ps : List Pattern) : Pattern :=
  ofParts (joinTexts (ps.flatMap parts))

def ofBranches : List Pattern → Pattern
  | [] => one CharSet.empty
  | [p] => p
  | p :: rest => alt p (ofBranches rest)

def characters? (ps : List Pattern) : Option (List Char) :=
  ps.mapM fun p => match p with
    | literal [c] => some c
    | _ => none

def classes? (ps : List Pattern) : Option (List CharSet) :=
  ps.mapM fun p => match p with
    | one accepted => some accepted
    | _ => none

def commonStart : List Pattern → List Pattern → List Pattern
  | a :: as, b :: bs => if a = b then a :: commonStart as bs else []
  | _, _ => []

/-- The parts that all branches begin with, if all of them are sequences. -/
def sharedParts : List Pattern → List Pattern
  | [] => []
  | first :: rest =>
    if (first :: rest).all (1 < ·.parts.length) then
      rest.foldl (fun shared p => commonStart shared p.parts) first.parts
    else []

def size : Pattern → Nat
  | group _ body | times body _ _ _ => size body + 1
  | seq first rest | alt first rest => size first + size rest + 1
  | _ => 1

/-- A choice, of which no more than `fuel` times a common beginning is taken out. -/
def choiceWithin (fuel : Nat) (ps : List Pattern) : Pattern :=
  let ps := ps.flatMap branches
  match ps, characters? ps, classes? ps, fuel with
  | [p], _, _, _ => p
  | _, some cs, _, _ => oneOf (CharSet.ofRanges (cs.map fun c => (c.toNat, c.toNat)))
  | _, none, some sets, _ => oneOf (sets.foldl CharSet.union CharSet.empty)
  | _, none, none, 0 => ofBranches ps
  | _, none, none, fuel + 1 =>
    match sharedParts ps with
    | [] => ofBranches ps
    | shared =>
      let rests := ps.map fun p => sequence (p.parts.drop shared.length)
      sequence (shared ++ [choiceWithin fuel rests])

def choice (ps : List Pattern) : Pattern :=
  choiceWithin ((ps.map size).foldl (· + ·) 0) ps

end DirectoryLogin.Pattern
