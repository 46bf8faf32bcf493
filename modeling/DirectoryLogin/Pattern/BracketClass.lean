import DirectoryLogin.Pattern.Escape
import DirectoryLogin.Text.Split

namespace DirectoryLogin.Pattern

open DirectoryLogin.Text

/-- Part of a class, with how deep it nests. -/
structure ClassPart where
  accepted : CharSet
  depth : Nat := 0

def ClassPart.only (c : Char) : ClassPart := ⟨CharSet.single c, 0⟩

inductive ClassOp
  | intersection
  | difference
  | symmetricDifference

/-- A class that is being read: its parts so far, newest first, and what stands left of them. -/
structure OpenClass where
  negated : Bool
  parts : List ClassPart := []
  left : Option (ClassPart × ClassOp) := none

namespace OpenClass

def union (parts : List ClassPart) : ClassPart :=
  match parts with
  | [part] => part
  | _ => ⟨CharSet.ofRanges (parts.flatMap (·.accepted.ranges)),
    if parts.isEmpty then 0 else 1 + (parts.map (·.depth)).foldl max 0⟩

def add (o : OpenClass) (part : ClassPart) : OpenClass :=
  { o with parts := part :: o.parts }

/-- The class read so far: what stands left combined with the parts. -/
def combined (f : Flags) (o : OpenClass) : Except ReadError ClassPart := do
  let right := union o.parts
  match o.left with
  | none => return right
  | some (left, op) =>
    let a ← foldAndNegate f false left.accepted
    let b ← foldAndNegate f false right.accepted
    let accepted := match op with
      | .intersection => a.intersection b
      | .difference => a.difference b
      | .symmetricDifference => a.symmetricDifference b
    return ⟨accepted, 1 + max left.depth right.depth⟩

def operate (f : Flags) (o : OpenClass) (op : ClassOp) : Except ReadError OpenClass := do
  return { o with parts := [], left := some (← o.combined f, op) }

def close (f : Flags) (o : OpenClass) : Except ReadError ClassPart := do
  let whole ← o.combined f
  return ⟨← foldAndNegate f o.negated whole.accepted, whole.depth + 1⟩

end OpenClass

def readHyphens (f : Flags) : Nat → OpenClass → List Char → OpenClass × List Char
  | fuel + 1, o, '-' :: rest =>
    readHyphens f fuel (o.add (ClassPart.only '-')) (f.skip rest)
  | _, o, cs => (o, cs)

/-- Reads what follows the bracket that opens a class: a negation, and hyphens or a closing bracket
that stand for themselves. -/
def openClass (f : Flags) (cs : List Char) : Except ReadError (OpenClass × List Char) :=
  let cs := f.skip cs
  let (negated, cs) := match cs with
    | '^' :: rest => (true, f.skip rest)
    | _ => (false, cs)
  let (o, cs) := readHyphens f cs.length { negated } cs
  match cs with
  | [] => .error .unclosedClass
  | ']' :: rest =>
    if o.parts.isEmpty then
      match f.skip rest with
      | [] => .error .unclosedClass
      | rest => .ok (o.add (ClassPart.only ']'), rest)
    else .ok (o, cs)
  | _ => .ok (o, cs)

/-- Reads `:name:]` or `:^name:]`. -/
def readPosix? (f : Flags) (cs : List Char) :
    Option (Except ReadError CharSet × List Char) :=
  match cs with
  | ':' :: rest =>
    let (negated, rest) := match rest with
      | '^' :: more => (true, more)
      | _ => (false, rest)
    match cutAt (· == ':') rest with
    | some (name, ']' :: after) =>
      (CharSet.posix? (String.ofList name)).map fun accepted =>
        (foldAndNegate f negated accepted, after)
    | _ => none
  | _ => none

def readClassAtom (f : Flags) (cs : List Char) : Except ReadError (Atom × List Char) :=
  match cs with
  | '\\' :: rest => readEscape f rest
  | c :: rest => .ok (.literal c false, rest)
  | [] => .error .unclosedClass

def Atom.character (f : Flags) : Atom → Except ReadError Char
  | literal c _ => if !f.unicode && 0x7F < c.toNat then .error .notUtf8 else .ok c
  | _ => .error .badRange

/-- Reads one element of a class: a character, an escape, or a range. -/
def readClassPart (f : Flags) (cs : List Char) : Except ReadError (ClassPart × List Char) := do
  let (first, rest) ← readClassAtom f cs
  let rest := f.skip rest
  let single : Except ReadError (ClassPart × List Char) := do
    match first with
    | .look _ => throw .badEscape
    | .set accepted => return (⟨accepted, 0⟩, rest)
    | .literal .. => return (ClassPart.only (← first.character f), rest)
  match rest with
  | [] => throw .unclosedClass
  | '-' :: more =>
    match f.skip more with
    | [] => throw .unclosedClass
    | ']' :: _ | '-' :: _ => single
    | second => do
      let (last, after) ← readClassAtom f second
      let low ← first.character f
      let high ← last.character f
      if high < low then throw .badRange
      return (⟨CharSet.between low high, 0⟩, after)
  | _ => single

/-- Reads a class up to the bracket that closes it; `outer` are the classes it stands in. -/
def readClass (f : Flags) (fuel : Nat) (o : OpenClass) (outer : List OpenClass)
    (cs : List Char) : Except ReadError (ClassPart × List Char) :=
  match fuel, f.skip cs with
  | 0, _ | _, [] => .error .unclosedClass
  | fuel + 1, ']' :: rest => do
    let part ← o.close f
    match outer with
    | [] => return (part, rest)
    | around :: more => readClass f fuel (around.add part) more rest
  | fuel + 1, '[' :: rest =>
    match readPosix? f rest with
    | some (accepted, after) => do
      readClass f fuel (o.add ⟨← accepted, 0⟩) outer after
    | none => do
      let (inner, after) ← openClass f rest
      readClass f fuel inner (o :: outer) after
  | fuel + 1, '&' :: '&' :: rest => do readClass f fuel (← o.operate f .intersection) outer rest
  | fuel + 1, '-' :: '-' :: rest => do readClass f fuel (← o.operate f .difference) outer rest
  | fuel + 1, '~' :: '~' :: rest => do
    readClass f fuel (← o.operate f .symmetricDifference) outer rest
  | fuel + 1, cs => do
    let (part, rest) ← readClassPart f cs
    readClass f fuel (o.add part) outer rest

end DirectoryLogin.Pattern
