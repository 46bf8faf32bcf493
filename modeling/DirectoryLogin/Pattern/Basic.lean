import DirectoryLogin.Pattern.Places

namespace DirectoryLogin

inductive Pattern
  | empty
  | literal (text : List Char)
  /-- One character of a class; there is none if the class is empty. -/
  | one (accepted : CharSet)
  | look (condition : Look)
  | group (number : Nat) (body : Pattern)
  | seq (first rest : Pattern)
  | alt (first rest : Pattern)
  /-- At least `least` matches one after the other, and at most `most` if there is a limit; whether as
  few as will do are tried first tells two patterns apart, and not what they match. -/
  | times (body : Pattern) (least : Nat) (most : Option Nat) (reluctant : Bool)
  deriving DecidableEq, Inhabited

namespace Pattern

/-- The places where matches can end that begin at a place of `s`. -/
def run (text : List Char) : Pattern → Places → Places
  | empty, s => s
  | literal cs, s => cs.foldl (fun t c => Places.passing text (· == c) t) s
  | one accepted, s => Places.passing text accepted.contains s
  | look condition, s => Places.looking text condition s
  | group _ body, s => run text body s
  | seq first rest, s => run text rest (run text first s)
  | alt first rest, s => run text first s ||| run text rest s
  | times body least most _, s =>
    let reached := iterate (run text body) least s
    let more := match most with
      | some most => most - least
      | none => text.length + 1
    iterate (fun t => t ||| run text body t) more reached

/-- Whether the pattern matches some stretch of the text. -/
def occursIn (p : Pattern) (text : List Char) : Bool :=
  p.run text (Places.all text) != 0

def parts : Pattern → List Pattern
  | empty => []
  | seq first rest => first :: parts rest
  | p => [p]

def branches : Pattern → List Pattern
  | alt first rest => first :: branches rest
  | p => [p]

def takesNothing : Pattern → Bool
  | empty | look _ => true
  | literal text => text.isEmpty
  | one _ => false
  | group _ body | times body _ _ _ => takesNothing body
  | seq first rest | alt first rest => takesNothing first && takesNothing rest

/-- Whether every match takes a character, of a pattern without empty classes. -/
def takesSome : Pattern → Bool
  | empty | look _ => false
  | literal text => !text.isEmpty
  | one _ => true
  | group _ body => takesSome body
  | seq first rest => takesSome first || takesSome rest
  | alt first rest => takesSome first && takesSome rest
  | times body least _ _ => 0 < least && takesSome body

def hasEmptyClass : Pattern → Bool
  | empty | look _ | literal _ => false
  | one accepted => accepted.ranges.isEmpty
  | group _ body | times body _ _ _ => hasEmptyClass body
  | seq first rest | alt first rest => hasEmptyClass first || hasEmptyClass rest

def beginsWith (condition : Look) : Pattern → Bool
  | look c => c == condition
  | group _ body => beginsWith condition body
  | seq first rest =>
    beginsWith condition first || (first.takesNothing && beginsWith condition rest)
  | alt first rest => beginsWith condition first && beginsWith condition rest
  | times body least _ _ => 0 < least && beginsWith condition body
  | _ => false

def endsWith (condition : Look) : Pattern → Bool
  | look c => c == condition
  | group _ body => endsWith condition body
  | seq first rest => endsWith condition rest || (rest.takesNothing && endsWith condition first)
  | alt first rest => endsWith condition first && endsWith condition rest
  | times body least _ _ => 0 < least && endsWith condition body
  | _ => false

end Pattern

end DirectoryLogin
