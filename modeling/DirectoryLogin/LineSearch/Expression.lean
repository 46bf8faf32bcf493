import DirectoryLogin.Pattern.Places
import DirectoryLogin.Unicode.CharSet

namespace DirectoryLogin.LineSearch

inductive Expression
  | empty
  | one (set : CharSet)
  | look (condition : Look)
  /-- A part whose text can be referred to by its number. -/
  | group (number : Nat) (body : Expression)
  /-- The text that a group has matched last. -/
  | reference (number : Nat)
  | seq (first second : Expression)
  | alt (left right : Expression)
  /-- At least `least` matches one after the other, and at most `most` if there is a limit. -/
  | times (body : Expression) (least : Nat) (most : Option Nat)
  deriving Inhabited

abbrev Groups := List (Nat × List Char)

/-- Sets of places, each for one way in which the groups were matched. -/
abbrev Front := List (Groups × Places)

namespace Front

/-- Adds places for one way in which the groups were matched. -/
def add (groups : Groups) (places : Places) : Front → Front
  | [] => if places = 0 then [] else [(groups, places)]
  | (g, s) :: rest =>
    if g = groups then (g, s ||| places) :: rest else (g, s) :: add groups places rest

def union (f g : Front) : Front :=
  g.foldl (fun f (groups, places) => f.add groups places) f

def expand (step : Groups → Places → Front) (f : Front) : Front :=
  f.foldl (fun result (groups, places) => result.union (step groups places)) []

end Front

/-- The groups after one of them has matched a text. -/
def Groups.record (groups : Groups) (number : Nat) (text : List Char) : Groups :=
  (groups.filter (·.1 < number)) ++ (number, text) :: groups.filter (number < ·.1)

namespace Expression

def references : Expression → List Nat
  | reference number => [number]
  | group _ body => references body
  | seq first second => references first ++ references second
  | alt left right => references left ++ references right
  | times body _ _ => references body
  | empty | one _ | look _ => []

/-- The places where matches can end that begin at a place of the front. The texts of the groups
`kept` are recorded. -/
def run (line : List Char) (kept : List Nat) : Expression → Front → Front
  | empty, f => f
  | one set, f => f.expand fun groups s => [(groups, Places.passing line set.contains s)]
  | look condition, f => f.expand fun groups s => [(groups, Places.looking line condition s)]
  | group number body, f =>
    if kept.contains number then
      f.expand fun groups s =>
        (Places.numbers (line.length + 1) s).foldl (fun result start =>
          result.union ((run line kept body [(groups, 1 <<< start)]).expand fun inner ends =>
            (Places.numbers (line.length + 1) ends).map fun finish =>
              (inner.record number ((line.drop start).take (finish - start)), 1 <<< finish))) []
    else run line kept body f
  | reference number, f =>
    f.expand fun groups s =>
      match groups.lookup number with
      | none => []
      | some text =>
        let fits := (Places.numbers (line.length + 1) s).filter fun n =>
          text.isPrefixOf (line.drop n)
        fits.map fun n => (groups, 1 <<< (n + text.length))
  | seq first second, f => run line kept second (run line kept first f)
  | alt left right, f => (run line kept left f).union (run line kept right f)
  | times body least most, f =>
    let reached := iterate (run line kept body) least f
    let more := match most with
      | some most => most - least
      | none => line.length + 1
    iterate (fun g => g.union (run line kept body g)) more reached

def occursIn (e : Expression) (line : List Char) : Bool :=
  (e.run line e.references [([], Places.all line)]).any fun (_, places) => places != 0

end Expression

end DirectoryLogin.LineSearch
