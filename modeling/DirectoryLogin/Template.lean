import DirectoryLogin.Dictionary
import DirectoryLogin.Request

namespace DirectoryLogin

open Text

structure Template where
  source : String
  /-- The filter with its numbered markers. -/
  filter : String
  /-- The names; the marker `{i}` stands for the one at place `i`. -/
  placeholders : List String
  deriving DecidableEq, Inhabited

namespace Template

def isNameCharacter (c : Char) : Bool :=
  c.isAlphanum || c == '_' || c == '-' || c == '.'

/-- The name between two braces, if it is one. -/
def name? (inside : List Char) : Option String :=
  if !inside.isEmpty && inside.all isNameCharacter then some (String.ofList inside) else none

def numbered (i : Nat) : List Char :=
  '{' :: numeral i ++ ['}']

def compile (source : String) : Template :=
  let spans := Span.ofText name? source.toList
  let names := (spans.filterMap Span.marker?).eraseDups
  { source
    filter := String.ofList (spans.flatMap (Span.text fun name => numbered (names.idxOf name)))
    placeholders := names }

/-- The values of the placeholders in order; a name without a value has the empty one. -/
def parameters (t : Template) (values : Dictionary String) : List String :=
  t.placeholders.map fun name => (values.get? name).getD ""

/-- A search of the whole subtree below a base with the values put in. -/
def bind (t : Template) (baseDn : String) (values : Dictionary String) : Request :=
  { baseDn, positional := t.filter, parameters := t.parameters values }

def dump (t : Template) : String :=
  record "QueryTemplate" [("source", quoted t.source), ("filter", quoted t.filter),
    ("placeholders", quotedList t.placeholders)]

end Template

end DirectoryLogin
