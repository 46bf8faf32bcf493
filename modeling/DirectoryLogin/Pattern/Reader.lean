import DirectoryLogin.Pattern.BracketClass
import DirectoryLogin.Pattern.Normal
import DirectoryLogin.Pattern.Room
import DirectoryLogin.Unicode.Property

namespace DirectoryLogin.Pattern

open DirectoryLogin.Text

def maxDepth : Nat := 250

def Atom.pattern (f : Flags) : Atom → Except ReadError Pattern
  | literal c isByte => do
    if isByte && !f.unicode && 0x7F < c.toNat then throw .notUtf8
    return oneOf (← foldAndNegate f false (CharSet.single c))
  | set accepted => .ok (oneOf accepted)
  | look condition => .ok (.look condition)

/-- Part of a sequence, with how deep it nests. A change of flags cannot be repeated. -/
structure Part where
  pattern : Pattern
  depth : Nat := 0
  repeatable : Bool := true

def Part.sequence (parts : List Part) : Part :=
  match parts with
  | [part] => { part with repeatable := true }
  | _ => ⟨Pattern.sequence (parts.reverse.map (·.pattern)),
    if parts.isEmpty then 0 else 1 + (parts.map (·.depth)).foldl max 0, true⟩

structure OpenGroup where
  parts : List Part := []
  /-- The branches before the one that is being read, newest first. -/
  branches : List Part := []
  /-- Its number, unless what it matches is of no interest. -/
  number : Option Nat := none

namespace OpenGroup

def add (g : OpenGroup) (part : Part) : OpenGroup :=
  { g with parts := part :: g.parts }

def branch (g : OpenGroup) : OpenGroup :=
  { g with parts := [], branches := Part.sequence g.parts :: g.branches }

def close (g : OpenGroup) : Part :=
  let last := Part.sequence g.parts
  let whole : Part := match g.branches with
    | [] => last
    | branches => ⟨choice ((last :: branches).reverse.map (·.pattern)),
        1 + (branches.map (·.depth)).foldl max last.depth, true⟩
  match g.number with
  | some number => { whole with pattern := .group number whole.pattern }
  | none => whole

end OpenGroup

structure Reading where
  rest : List Char
  flags : Flags := {}
  group : OpenGroup := {}
  /-- The groups around, with the flags to go back to. -/
  outer : List (Flags × OpenGroup) := []
  names : List (List Char) := []
  /-- How many groups with a number have been opened. -/
  groups : Nat := 0

/-- The most that a repetition may count to, plus one. -/
def countBound : Nat := Nat.pow 2 32

def readCountDigits (f : Flags) : Nat → List Char → List Char → List Char × List Char
  | fuel + 1, digits, c :: rest =>
    if c.isDigit then readCountDigits f fuel (c :: digits) (f.skip rest)
    else (digits.reverse, c :: rest)
  | _, digits, cs => (digits.reverse, cs)

def readCount (f : Flags) (cs : List Char) : Option Nat × List Char :=
  let cs := cs.dropWhile isBlank
  let (digits, rest) := readCountDigits f cs.length [] cs
  let count := if digits.isEmpty then none
    else if digitsValue digits < countBound then some (digitsValue digits) else none
  (count, f.skip (rest.dropWhile isBlank))

def readCounts (f : Flags) (cs : List Char) :
    Except ReadError ((Nat × Option Nat) × List Char) := do
  match readCount f (f.skip cs) with
  | (some least, '}' :: rest) => return ((least, some least), rest)
  | (some least, ',' :: rest) =>
    match f.skip rest with
    | '}' :: after => return ((least, none), after)
    | more =>
      match readCount f more with
      | (some most, '}' :: after) =>
        if most < least then throw .badCount
        return ((least, some most), after)
      | _ => throw .badCount
  | _ => throw .badCount

/-- Repeats the newest part. A question mark makes the repetition reluctant, or keeps it from being so. -/
def repeatLast (r : Reading) (least : Nat) (most : Option Nat) (rest : List Char) :
    Except ReadError Reading :=
  let (marked, rest) := match rest with
    | '?' :: rest => (true, rest)
    | _ => (false, rest)
  match r.group.parts with
  | part :: before =>
    if part.repeatable then
      let pattern := repeated part.pattern least most (marked != r.flags.reluctant)
      .ok { r with rest, group := { r.group with
        parts := ⟨pattern, part.depth + 1, true⟩ :: before } }
    else .error .nothingToRepeat
  | [] => .error .nothingToRepeat

/-- The flags that stand between `(?` and `:` or `)`, with whether each is switched on. -/
def readFlags (negated : Bool) (dangling : Bool) (found : List (Char × Bool)) :
    List Char → Except ReadError (List (Char × Bool) × List Char)
  | [] => .error .badFlags
  | c :: rest =>
    if c = ':' || c = ')' then
      if dangling then .error .badFlags else .ok (found.reverse, c :: rest)
    else if c = '-' then
      if negated then .error .badFlags else readFlags true true found rest
    else if !(['i', 'm', 's', 'U', 'u', 'R', 'x'].contains c) || found.any (·.1 == c) then
      .error .badFlags
    else readFlags negated false ((c, !negated) :: found) rest

def Flags.change (f : Flags) : Char × Bool → Flags
  | ('i', on) => { f with ignoreCase := on }
  | ('m', on) => { f with multiLine := on }
  | ('s', on) => { f with dotAll := on }
  | ('u', on) => { f with unicode := on }
  | ('R', on) => { f with crlf := on }
  | ('x', on) => { f with verbose := on }
  | ('U', on) => { f with reluctant := on }
  | _ => f

def enter (r : Reading) (flags : Flags) (rest : List Char) : Reading :=
  { r with rest, flags, group := {}, outer := (r.flags, r.group) :: r.outer }

def enterNumbered (r : Reading) (rest : List Char) : Reading :=
  let number := r.groups + 1
  { enter r r.flags rest with group := { number := some number }, groups := number }

/-- Reads the name of a group up to its closing angle bracket, and opens the group. -/
def enterNamed (r : Reading) (cs : List Char) : Except ReadError Reading :=
  match cutAt (· == '>') cs with
  | some (c :: more, rest) =>
    let isFirst := c == '_' || Unicode.isAlphabetic c.toNat
    let isNext := fun c : Char => ['_', '.', '[', ']'].contains c ||
      Unicode.isAlphabetic c.toNat || ["Nd", "Nl", "No"].contains (Unicode.category c.toNat)
    if !isFirst || !more.all isNext || r.names.contains (c :: more) then .error .badGroupName
    else .ok { enterNumbered r rest with names := (c :: more) :: r.names }
  | _ => .error .badGroupName

def openGroup (r : Reading) (cs : List Char) : Except ReadError Reading :=
  match r.flags.skip cs with
  | '?' :: '=' :: _ | '?' :: '!' :: _ | '?' :: '<' :: '=' :: _ | '?' :: '<' :: '!' :: _ =>
    .error .lookAround
  | '?' :: 'P' :: '<' :: rest => enterNamed r rest
  | '?' :: '<' :: rest => enterNamed r rest
  | '?' :: rest => do
    let (changes, after) ← readFlags false false [] rest
    let flags := changes.foldl Flags.change r.flags
    match after with
    | ')' :: after =>
      if changes.isEmpty then throw .nothingToRepeat
      return { r with rest := after, flags, group := r.group.add ⟨.empty, 0, false⟩ }
    | _ => return enter r flags after.tail
  | rest => .ok (enterNumbered r rest)

def closeGroup (r : Reading) (rest : List Char) : Except ReadError Reading :=
  match r.outer with
  | [] => .error .unopenedGroup
  | (flags, around) :: outer =>
    let part := r.group.close
    .ok { r with rest, flags, outer, group := around.add { part with depth := part.depth + 1 } }

def dot (f : Flags) : Except ReadError Pattern :=
  if !f.unicode then .error .notUtf8
  else if f.dotAll then .ok (.one CharSet.all)
  else if f.crlf then .ok (.one (CharSet.ascii fun c => c == '\n' || c == '\r').complement)
  else .ok (.one (CharSet.single '\n').complement)

def caret (f : Flags) : Look :=
  if !f.multiLine then .textStart else if f.crlf then .lineStartAfterReturn else .lineStart

def dollar (f : Flags) : Look :=
  if !f.multiLine then .textFinish else if f.crlf then .lineFinishAtReturn else .lineFinish

def step (r : Reading) : Except ReadError Reading :=
  let f := r.flags
  match r.rest with
  | [] => .ok r
  | '(' :: rest => openGroup r rest
  | ')' :: rest => closeGroup r rest
  | '|' :: rest => .ok { r with rest, group := r.group.branch }
  | '[' :: rest => do
    let (o, inner) ← openClass f rest
    let (part, after) ← readClass f (rest.length + 1) o [] inner
    return { r with rest := after, group := r.group.add ⟨oneOf part.accepted, part.depth, true⟩ }
  | '?' :: rest => repeatLast r 0 (some 1) rest
  | '*' :: rest => repeatLast r 0 none rest
  | '+' :: rest => repeatLast r 1 none rest
  | '{' :: rest => do
    if !(r.group.parts.head?.any (·.repeatable)) then throw .nothingToRepeat
    let ((least, most), after) ← readCounts f rest
    repeatLast r least most (f.skip after)
  | '.' :: rest => do return { r with rest, group := r.group.add ⟨← dot f, 0, true⟩ }
  | '^' :: rest => .ok { r with rest, group := r.group.add ⟨.look (caret f), 0, true⟩ }
  | '$' :: rest => .ok { r with rest, group := r.group.add ⟨.look (dollar f), 0, true⟩ }
  | '\\' :: rest => do
    let (atom, after) ← readEscape f rest
    return { r with rest := after, group := r.group.add ⟨← atom.pattern f, 0, true⟩ }
  | c :: rest => do
    let pattern ← (Atom.literal c false).pattern f
    return { r with rest, group := r.group.add ⟨pattern, 0, true⟩ }

def readAll : Nat → Reading → Except ReadError Reading
  | 0, r => .ok r
  | fuel + 1, r =>
    match r.flags.skip r.rest with
    | [] => .ok { r with rest := [] }
    | rest => do readAll fuel (← step { r with rest })

def read (text : List Char) : Except ReadError Pattern := do
  let r ← readAll (text.length + 1) { rest := text }
  if !r.outer.isEmpty then throw .unclosedGroup
  let whole := r.group.close
  if maxDepth < whole.depth then throw .tooDeep
  if !whole.pattern.fits then throw .tooLarge
  return whole.pattern

end DirectoryLogin.Pattern
