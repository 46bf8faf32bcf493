import DirectoryLogin.Text.Numeral
import DirectoryLogin.Unicode.Property

namespace DirectoryLogin.Text

def escaped (c : Char) : List Char :=
  if c = '"' then ['\\', '"']
  else if c = '\\' then ['\\', '\\']
  else if c = '\n' then ['\\', 'n']
  else if c = '\r' then ['\\', 'r']
  else if c = '\t' then ['\\', 't']
  else if c.toNat = 0 then ['\\', '0']
  else if Unicode.isPrinting c.toNat && !Unicode.isDependent c.toNat then [c]
  else ['\\', 'u', '{'] ++ hexNumeral c.toNat ++ ['}']

def quoted (s : String) : String :=
  String.ofList ('"' :: s.toList.flatMap escaped ++ ['"'])

def bracketed (items : List String) : String :=
  "[" ++ String.intercalate ", " items ++ "]"

def optional : Option String → String
  | none => "None"
  | some s => "Some(" ++ s ++ ")"

def record (name : String) (fields : List (String × String)) : String :=
  name ++ " \x7b " ++ String.intercalate ", " (fields.map fun (n, v) => n ++ ": " ++ v) ++ " \x7d"

/-- A record that has more fields than it shows. -/
def openRecord (name : String) (fields : List (String × String)) : String :=
  name ++ " \x7b " ++ String.intercalate ", " (fields.map fun (n, v) => n ++ ": " ++ v) ++
    ", .. \x7d"

def quotedList (items : List String) : String :=
  bracketed (items.map quoted)

def quotedOption (s : Option String) : String :=
  optional (s.map quoted)

end DirectoryLogin.Text
