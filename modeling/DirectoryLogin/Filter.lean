import DirectoryLogin.Entry
import DirectoryLogin.Text.Blank
import DirectoryLogin.Text.Numeral
import DirectoryLogin.Text.Split
import DirectoryLogin.Text.Utf8

namespace DirectoryLogin

open Text

inductive Filter
  | and (filters : List Filter)
  | or (filters : List Filter)
  | not (filter : Filter)
  | present (name : String)
  /-- One value of the attribute equals the text up to the case of ASCII letters. -/
  | equal (name value : String)
  deriving Inhabited

namespace Filter

/-- The number that two characters write in hexadecimal; a plus sign may stand for the first. -/
def hexPair (a b : Char) : Option UInt8 :=
  match hexDigit? a, hexDigit? b with
  | some high, some low => some (16 * high + low).toUInt8
  | none, some low => if a = '+' then some low.toUInt8 else none
  | _, _ => none

/-- The bytes of a value in which a backslash stands before two hexadecimal digits. -/
def unescapeBytes : List Char → Option (List UInt8)
  | [] => some []
  | '\\' :: a :: b :: rest => do
    let byte ← hexPair a b
    return byte :: (← unescapeBytes rest)
  | c :: rest =>
    if c = '\\' then none else do return String.utf8EncodeChar c ++ (← unescapeBytes rest)

/-- The text of an escaped value, if its bytes are UTF-8. -/
def unescape (value : List Char) : Option String :=
  ((unescapeBytes value).bind ofUtf8?).map String.ofList

/-- Reads `name=value`, where a value `*` asks for presence. -/
def readTest (inside : List Char) : Option Filter := do
  let (name, value) ← cutAt (· == '=') inside
  if value = ['*'] then return .present (String.ofList name)
  else return .equal (String.ofList name) (← unescape value)

mutual

/-- Reads one filter between parentheses and gives what follows it. The number bounds how deep and how
far reading goes; that of the characters is enough, since every filter takes some. -/
def readOne (fuel : Nat) (cs : List Char) : Option (Filter × List Char) :=
  match fuel, cs with
  | fuel + 1, '(' :: '&' :: rest => do
    let (filters, after) ← readMany fuel rest
    return (.and filters, after)
  | fuel + 1, '(' :: '|' :: rest => do
    let (filters, after) ← readMany fuel rest
    return (.or filters, after)
  | fuel + 1, '(' :: '!' :: rest => do
    match ← readOne fuel rest with
    | (filter, ')' :: after) => return (.not filter, after)
    | _ => none
  | _ + 1, '(' :: inner => do
    let (inside, after) ← cutAt (· == ')') inner
    return (← readTest inside, after)
  | _, _ => none

def readMany (fuel : Nat) (cs : List Char) : Option (List Filter × List Char) :=
  match fuel, cs with
  | _, ')' :: rest => some ([], rest)
  | fuel + 1, cs => do
    let (filter, after) ← readOne fuel cs
    let (filters, rest) ← readMany fuel after
    return (filter :: filters, rest)
  | 0, _ => none

end

def read (text : String) : Option Filter :=
  let cs := trim text.toList
  match readOne (cs.length + 1) cs with
  | some (filter, []) => some filter
  | _ => none

mutual

def holds (e : Entry) : Filter → Bool
  | and filters => holdsAll e filters
  | or filters => holdsAny e filters
  | not filter => !holds e filter
  | present name => e.hasAttribute name
  | equal name value =>
    match e.values? name with
    | some values => values.any (sameLetters · value)
    | none => false

def holdsAll (e : Entry) : List Filter → Bool
  | [] => true
  | f :: rest => holds e f && holdsAll e rest

def holdsAny (e : Entry) : List Filter → Bool
  | [] => false
  | f :: rest => holds e f || holdsAny e rest

end

end Filter

end DirectoryLogin
