import DirectoryLogin.Text.Numeral
import DirectoryLogin.Toml.Value

namespace DirectoryLogin.Toml

open Text

def isBareKeyCharacter (c : Char) : Bool :=
  c.isAlphanum || c == '-' || c == '_'

/-- A control character that only an escape can write. -/
def needsCode (c : Char) : Bool :=
  (c.toNat < 0x20 || c.toNat == 0x7F) && c != '\t' && c != '\n'

def longestRun (c : Char) (run longest : Nat) : List Char → Nat
  | [] => longest
  | d :: rest =>
    if d = c then longestRun c (run + 1) (max longest (run + 1)) rest else longestRun c 0 longest rest

def fourDigits (n : Nat) : List Char :=
  let digits := (hexNumeral n).map Char.toUpper
  List.replicate (4 - digits.length) '0' ++ digits

/-- How a character other than a quote is written between quotes; over several lines a line feed
stands for itself. -/
def escapedCharacter (lines : Bool) (c : Char) : List Char :=
  if c = '\x08' then ['\\', 'b']
  else if c = '\t' then ['\\', 't']
  else if c = '\n' then if lines then ['\n'] else ['\\', 'n']
  else if c = '\x0c' then ['\\', 'f']
  else if c = '\r' then ['\\', 'r']
  else if c = '\\' then ['\\', '\\']
  else if needsCode c then ['\\', 'u'] ++ fourDigits c.toNat
  else [c]

/-- The characters between quotes, of which at most `free` may follow each other without an escape. -/
def escapedBody (lines : Bool) (free run : Nat) : List Char → List Char
  | [] => []
  | c :: rest =>
    if c = '"' then
      if run < free then '"' :: escapedBody lines free (run + 1) rest
      else ['\\', '"'] ++ escapedBody lines free 0 rest
    else escapedCharacter lines c ++ escapedBody lines free 0 rest

def quotedLine (cs : List Char) : List Char :=
  ['"'] ++ escapedBody false 0 0 cs ++ ['"']

/-- A line feed right after the opening quotes does not belong to the string. -/
def opening (cs : List Char) : List Char :=
  if cs.contains '\n' then ['\n'] else []

def quotedLines (cs : List Char) : List Char :=
  ['"', '"', '"'] ++ opening cs ++ escapedBody true 2 0 cs ++ ['"', '"', '"']

def literalLine (cs : List Char) : List Char :=
  ['\''] ++ cs ++ ['\'']

def literalLines (cs : List Char) : List Char :=
  ['\'', '\'', '\''] ++ opening cs ++ cs ++ ['\'', '\'', '\'']

def stringText (s : String) : String :=
  let cs := s.toList
  let codes := cs.any needsCode
  let lines := cs.contains '\n'
  let escape := cs.contains '\\'
  let doubles := longestRun '"' 0 0 cs
  let singles := longestRun '\'' 0 0 cs
  String.ofList <|
    if !codes && !escape && doubles = 0 && !lines then quotedLine cs
    else if !codes && singles = 0 && !lines then literalLine cs
    else if !codes && !escape && doubles ≤ 2 then quotedLines cs
    else if !codes && singles ≤ 2 then literalLines cs
    else if lines then quotedLines cs
    else quotedLine cs

def keyText (key : String) : String :=
  let cs := key.toList
  let codes := cs.any fun c => needsCode c || c == '\n'
  if !cs.isEmpty && cs.all isBareKeyCharacter then key
  else String.ofList <|
    if !codes && !cs.contains '\\' && !cs.contains '"' then quotedLine cs
    else if !codes && !cs.contains '\'' then literalLine cs
    else quotedLine cs

def integerText (n : Int) : String :=
  String.ofList (if n < 0 then '-' :: numeral n.natAbs else numeral n.natAbs)

namespace Value

mutual

def inline : Value → String
  | string s => stringText s
  | integer n => integerText n
  | float x => x.text
  | boolean b => if b then "true" else "false"
  | dateTime spelling => spelling
  | array items => "[" ++ String.intercalate ", " (inlineItems items) ++ "]"
  | table [] => "\x7b\x7d"
  | table members => "\x7b " ++ String.intercalate ", " (inlineMembers members) ++ " \x7d"

def inlineItems : List Value → List String
  | [] => []
  | item :: rest => inline item :: inlineItems rest

def inlineMembers : List (String × Value) → List String
  | [] => []
  | (key, value) :: rest => (keyText key ++ " = " ++ inline value) :: inlineMembers rest

end

mutual

/-- A value by itself: a string as it is, the items of an array between commas. A date or time by itself
is shown as a table whose only member has a name of its own. -/
def text : Value → String
  | string s => s
  | array items => String.intercalate "," (itemTexts items)
  | dateTime spelling => "\x7b " ++ keyText dateTimeKey ++ " = " ++ stringText spelling ++ " \x7d"
  | integer n => integerText n
  | float x => x.text
  | boolean b => if b then "true" else "false"
  | table members => inline (table members)

def itemTexts : List Value → List String
  | [] => []
  | item :: rest => text item :: itemTexts rest

end

end Value

end DirectoryLogin.Toml
