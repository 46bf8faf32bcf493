import DirectoryLogin.Markers
import DirectoryLogin.Scope
import DirectoryLogin.Text.Numeral
import DirectoryLogin.Text.Quoted

namespace DirectoryLogin

open Text

structure Request where
  baseDn : String
  scope : Scope := .subtree
  /-- The filter with its numbered markers. -/
  positional : String
  parameters : List String
  /-- The attributes asked for; none of them when empty. -/
  attributes : List String := []
  deriving DecidableEq, Inhabited

/-- A character as it stands in the value of a filter: the ones that mean something in a filter
become a backslash with two hexadecimal digits. -/
def escapeInFilter (c : Char) : List Char :=
  if c = '\\' then ['\\', '5', 'c']
  else if c = '*' then ['\\', '2', 'a']
  else if c = '(' then ['\\', '2', '8']
  else if c = ')' then ['\\', '2', '9']
  else if c = '\x00' then ['\\', '0', '0']
  else [c]

def escapedValue (s : String) : List Char :=
  s.toList.flatMap escapeInFilter

namespace Request

/-- The attribute list that asks for no attribute at all. -/
def noAttributes : String := "1.1"

/-- The attribute list that is sent: an empty one would ask for all attributes. -/
def wireAttributes (r : Request) : List String :=
  if r.attributes.isEmpty then [noAttributes] else r.attributes

/-- The parameter that a marker stands for, if it is a number within the parameters. -/
def parameterAt (parameters : List String) (inside : List Char) : Option String :=
  (readNumeral parameters.length inside).bind (parameters[·]?)

def filter (r : Request) : String :=
  String.ofList ((Span.ofText (parameterAt r.parameters) r.positional.toList).flatMap
    (Span.text escapedValue))

def display (r : Request) : String :=
  "search\x7bbaseDn=" ++ r.baseDn ++ ", scope=" ++ r.scope.name ++ ", request=" ++ r.positional ++
    ", parameters=" ++ quotedList r.parameters ++ ", attributes=" ++ quotedList r.attributes ++
    "\x7d"

end Request

end DirectoryLogin
