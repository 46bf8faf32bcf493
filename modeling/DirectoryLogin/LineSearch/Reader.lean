import DirectoryLogin.LineSearch.Expression
import DirectoryLogin.Text.AsciiClass
import DirectoryLogin.Text.Split

namespace DirectoryLogin.LineSearch

open Text

inductive ReadError
  | unmatchedBracket
  | unmatchedOpen
  | unmatchedClose
  | unmatchedBrace
  | badCount
  | badClass
  | badCollation
  | badRange
  | trailingBackslash
  | badReference
  | tooBig
  deriving DecidableEq, Inhabited

namespace ReadError

def message : ReadError → String
  | unmatchedBracket => "Unmatched [, [^, [:, [., or [="
  | unmatchedOpen => "Unmatched ( or \\("
  | unmatchedClose => "Unmatched ) or \\)"
  | unmatchedBrace => "Unmatched \\\x7b"
  | badCount => "Invalid content of \\\x7b\\\x7d"
  | badClass => "Invalid character class name"
  | badCollation => "Invalid collation character"
  | badRange => "Invalid range end"
  | trailingBackslash => "Trailing backslash"
  | badReference => "Invalid back reference"
  | tooBig => "Regular expression too big"

end ReadError

inductive Sign
  | one (set : CharSet)
  | look (condition : Look)
  | caret
  | dollar
  /-- A repetition, or the character `self` where there is nothing to repeat. -/
  | repeated (self : Char) (least : Nat) (most : Option Nat)
  | reference (number : Nat)
  | opening
  | closing
  | choice

inductive Element
  | char (c : Char)
  /-- A character written between `[.` and `.]`. -/
  | collated (c : Char)
  /-- A named class, or the characters that are as good as one. -/
  | among (set : CharSet)

/-- The name before a mark with a closing bracket. It has fewer than 32 characters. -/
def readName (mark : Char) : Nat → List Char → Except ReadError (List Char × List Char)
  | fuel + 1, c :: next :: rest =>
    if c = mark ∧ next = ']' then .ok ([], rest)
    else do
      let (name, rest) ← readName mark fuel (next :: rest)
      return (c :: name, rest)
  | _, _ => .error .unmatchedBracket

/-- Reads an element. A hyphen is one at the start and the end of a bracket, and in the middle of three. -/
def readElement (hyphen : Bool) (cs : List Char) : Except ReadError (Element × List Char) :=
  match cs with
  | [] => .error .unmatchedBracket
  | '[' :: '.' :: rest => do
    match ← readName '.' 32 rest with
    | ([c], rest) => return (.collated c, rest)
    | _ => throw .badCollation
  | '[' :: '=' :: rest => do
    match ← readName '=' 32 rest with
    | ([c], rest) => return (.among (.single c), rest)
    | _ => throw .badCollation
  | '[' :: ':' :: rest => do
    let (name, rest) ← readName ':' 32 rest
    match asciiClass? (String.ofList name) with
    | some set => return (.among set, rest)
    | none => throw .badClass
  | '-' :: '-' :: '-' :: rest => .ok (.char '-', rest)
  | '-' :: rest =>
    if hyphen || rest.head? = some ']' then .ok (.char '-', rest) else .error .badRange
  | c :: rest => .ok (.char c, rest)

/-- Whether a hyphen that makes a range stands here, and what follows it. -/
def rangeEnd? : List Char → Option (List Char)
  | '-' :: '-' :: '-' :: _ => none
  | '-' :: rest => if rest.head? = some ']' then none else some rest
  | _ => none

namespace Element

/-- The character that can stand at an end of a range. -/
def char? : Element → Option Char
  | char c | collated c => some c
  | among _ => none

def set : Element → CharSet
  | char c | collated c => .single c
  | among set => set

end Element

structure Bracket where
  set : CharSet := .empty
  /-- The elements are all characters that stand for themselves. -/
  plain : Bool := true
  /-- Those characters, latest first. -/
  chars : List Char := []

namespace Bracket

def add (b : Bracket) (e : Element) : Bracket :=
  match e with
  | .char c => { b with set := b.set.union e.set, chars := c :: b.chars }
  | _ => { b with set := b.set.union e.set, plain := false }

/-- A class without the bracket around it, such as `[:alpha:]`, is not what was meant. -/
def isBareClass (b : Bracket) : Bool :=
  b.plain && b.chars.head? == some ':' && b.chars.getLast? == some ':' && b.chars.any (· != ':')

/-- Reads elements up to the closing bracket. A closing bracket that comes first is an element. -/
def readRest (fuel : Nat) (first : Bool) (b : Bracket) (cs : List Char) :
    Except ReadError (Bracket × List Char) :=
  match fuel, cs with
  | fuel + 1, cs => do
    if !first then
      if let ']' :: rest := cs then return (b, rest)
    let (low, rest) ← readElement first cs
    match low.char?, rangeEnd? rest with
    | some start, some after => do
      let (high, rest) ← readElement true after
      match high.char? with
      | some finish =>
        if finish < start then throw .badRange
        readRest fuel false { b with set := b.set.union (.between start finish), plain := false } rest
      | none => throw .badRange
    | _, _ => readRest fuel false (b.add low) rest
  | 0, _ => .error .unmatchedBracket

end Bracket

def readBracket (cs : List Char) : Except ReadError (CharSet × List Char) := do
  let (negated, cs) := match cs with
    | '^' :: rest => (true, rest)
    | _ => (false, cs)
  let (b, rest) ← Bracket.readRest (cs.length + 1) true {} cs
  if b.isBareClass then throw .badClass
  return (if negated then b.set.complement else b.set, rest)

def maxCount : Nat := 32767

def readCount (inside : List Char) : Except ReadError (Nat × Option Nat) := do
  let count := fun digits : List Char =>
    if digits.isEmpty || !digits.all Char.isDigit then none else some (digitsValue digits)
  let (least, most) ← match cutAt (· == ',') inside with
    | none =>
      match count inside with
      | some n => pure (n, some n)
      | none => throw .badCount
    | some (least, most) =>
      match (if least.isEmpty then some 0 else count least),
          (if most.isEmpty then some none else (count most).map some) with
      | some least, some most => pure (least, most)
      | _, _ => throw .badCount
  if most.any (· < least) then throw .badCount
  if maxCount < most.getD least then throw .tooBig
  return (least, most)

/-- The text before the next backslash with a closing brace, and the text after it. -/
def cutBrace : List Char → Option (List Char × List Char)
  | [] => none
  | '\\' :: '}' :: rest => some ([], rest)
  | c :: rest => (cutBrace rest).map fun (inside, after) => (c :: inside, after)

def escaped (c : Char) : Sign :=
  match c with
  | '(' => .opening
  | ')' => .closing
  | '|' => .choice
  | '+' => .repeated '+' 1 none
  | '?' => .repeated '?' 0 (some 1)
  | 'w' => .one asciiWord
  | 'W' => .one asciiWord.complement
  | 's' => .one asciiSpace
  | 'S' => .one asciiSpace.complement
  | 'b' => .look (.word false .boundary)
  | 'B' => .look (.word false .noBoundary)
  | '<' => .look (.word false .start)
  | '>' => .look (.word false .finish)
  | '\x60' => .look .textStart
  | '\'' => .look .textFinish
  | c => if '1' ≤ c ∧ c ≤ '9' then .reference (c.toNat - '0'.toNat) else .one (.single c)

/-- Takes the first sign off an expression. A count can stand only where there is something to repeat. -/
def readSign (fresh : Bool) (c : Char) (rest : List Char) :
    Except ReadError (Sign × List Char) :=
  match c, rest with
  | '\\', [] => .error .trailingBackslash
  | '\\', '{' :: more =>
    if fresh then .ok (.one (.single '{'), more)
    else match cutBrace more with
      | none => .error .unmatchedBrace
      | some (inside, after) => do
        let (least, most) ← readCount inside
        return (.repeated '{' least most, after)
  | '\\', e :: more => .ok (escaped e, more)
  | '[', _ => do
    let (set, after) ← readBracket rest
    return (.one set, after)
  | '.', _ => .ok (.one .all, rest)
  | '*', _ => .ok (.repeated '*' 0 none, rest)
  | '^', _ => .ok (.caret, rest)
  | '$', _ => .ok (.dollar, rest)
  | c, _ => .ok (.one (.single c), rest)

/-- An open group: the choices that are complete, and the parts of the last one, latest first. -/
structure OpenGroup where
  number : Nat := 0
  /-- The groups that could be referred to where this one was opened. -/
  known : List Nat := []
  /-- The groups that have been closed in the choices that are complete. -/
  met : List Nat := []
  choices : List Expression := []
  parts : List Expression := []
  /-- A choice begins here, so that an anchor may stand. -/
  begins : Bool := true
  /-- Nothing stands here yet that can be repeated. -/
  fresh : Bool := true

namespace OpenGroup

def sequence (parts : List Expression) : Expression :=
  parts.foldl (fun rest part => .seq part rest) .empty

def expression (g : OpenGroup) : Expression :=
  g.choices.foldr .alt (sequence g.parts)

def add (g : OpenGroup) (e : Expression) : OpenGroup :=
  { g with parts := e :: g.parts, begins := false, fresh := false }

/-- Adds a condition, after which repetitions stand for themselves if they did before it. -/
def look (g : OpenGroup) (condition : Look) : OpenGroup :=
  { g with parts := .look condition :: g.parts, begins := false }

/-- Ends a choice, in which the groups `closed` could be referred to. -/
def choose (g : OpenGroup) (closed : List Nat) : OpenGroup :=
  { number := g.number, known := g.known, met := closed ++ g.met
    choices := g.choices ++ [sequence g.parts] }

def repeatLast (g : OpenGroup) (least : Nat) (most : Option Nat) : OpenGroup :=
  match g.parts with
  | [] => g
  | last :: before => { g with parts := .times last least most :: before }

end OpenGroup

def atEnd : List Char → Bool
  | [] | '\\' :: ')' :: _ | '\\' :: '|' :: _ => true
  | _ => false

/-- An expression that is being read: the groups that are open, the innermost first and apart, how many
groups have been opened, and the numbers of those that can be referred to. One choice does not know the groups of another. -/
structure Reading where
  group : OpenGroup := {}
  outer : List OpenGroup := []
  count : Nat := 0
  closed : List Nat := []

namespace Reading

def add (r : Reading) (e : Expression) : Reading :=
  { r with group := r.group.add e }

def put (r : Reading) (rest : List Char) : Sign → Except ReadError Reading
  | .one set => .ok (r.add (.one set))
  | .look condition => .ok { r with group := r.group.look condition }
  | .repeated self least most =>
    if r.group.fresh then .ok (r.add (.one (.single self)))
    else .ok { r with group := r.group.repeatLast least most }
  | .reference number =>
    if r.closed.contains number then .ok (r.add (.reference number)) else .error .badReference
  | .caret =>
    if r.group.begins then .ok { r with group := r.group.look .textStart }
    else .ok (r.add (.one (.single '^')))
  | .dollar =>
    if atEnd rest then .ok { r with group := r.group.look .textFinish }
    else .ok (r.add (.one (.single '$')))
  | .opening =>
    .ok { r with group := { number := r.count + 1, known := r.closed }
                 outer := r.group :: r.outer, count := r.count + 1 }
  | .closing =>
    match r.outer with
    | [] => .error .unmatchedClose
    | around :: outer =>
      .ok { r with group := around.add (.group r.group.number r.group.expression), outer
                   closed := r.group.number :: r.closed ++ r.group.met }
  | .choice => .ok { r with group := r.group.choose r.closed, closed := r.group.known }

def readAll : Nat → Reading → List Char → Except ReadError Expression
  | _, r, [] => if r.outer.isEmpty then .ok r.group.expression else .error .unmatchedOpen
  | 0, _, _ => .error .unmatchedOpen
  | fuel + 1, r, c :: cs => do
    let (sign, rest) ← readSign r.group.fresh c cs
    readAll fuel (← r.put rest sign) rest

end Reading

def read (cs : List Char) : Except ReadError Expression :=
  Reading.readAll cs.length {} cs

end DirectoryLogin.LineSearch
