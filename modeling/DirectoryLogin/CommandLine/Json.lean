import DirectoryLogin.Text.Numeral

namespace DirectoryLogin.CommandLine

open Text

inductive Json
  | bool (b : Bool)
  | text (s : String)
  | list (items : List Json)
  | record (fields : List (String × Json))
  deriving Inhabited

namespace Json

/-- How a character is written between quotes. Only quotes, backslashes and control characters below
the space need more than themselves. -/
def escaped (c : Char) : List Char :=
  if c = '"' then ['\\', '"']
  else if c = '\\' then ['\\', '\\']
  else if c = '\x08' then ['\\', 'b']
  else if c = '\x0c' then ['\\', 'f']
  else if c = '\n' then ['\\', 'n']
  else if c = '\r' then ['\\', 'r']
  else if c = '\t' then ['\\', 't']
  else if c.toNat < 0x20 then
    ['\\', 'u', '0', '0'] ++ (if c.toNat < 0x10 then ['0'] else []) ++ hexNumeral c.toNat
  else [c]

def quoted (s : String) : String :=
  String.ofList (['"'] ++ s.toList.flatMap escaped ++ ['"'])

def line (level : Nat) : String :=
  "\n" ++ String.ofList (List.replicate (2 * level) ' ')

/-- Parts between brackets, each on lines of its own; brackets around nothing touch. -/
def bracketed (opens closes : String) (level : Nat) (parts : List String) : String :=
  if parts.isEmpty then opens ++ closes
  else opens ++ line (level + 1) ++ String.intercalate ("," ++ line (level + 1)) parts ++
    line level ++ closes

mutual

def written (level : Nat) : Json → String
  | bool b => if b then "true" else "false"
  | text s => quoted s
  | list items => bracketed "[" "]" level (writtenItems level items)
  | record fields => bracketed "\x7b" "\x7d" level (writtenFields level fields)

def writtenItems (level : Nat) : List Json → List String
  | [] => []
  | item :: rest => written (level + 1) item :: writtenItems level rest

def writtenFields (level : Nat) : List (String × Json) → List String
  | [] => []
  | (name, value) :: rest =>
    (quoted name ++ ": " ++ written (level + 1) value) :: writtenFields level rest

end

def pretty (value : Json) : String := written 0 value

end Json

end DirectoryLogin.CommandLine
