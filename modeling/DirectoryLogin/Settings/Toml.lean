import DirectoryLogin.Settings.Basic
import DirectoryLogin.Toml.Document
import DirectoryLogin.Toml.Printer

namespace DirectoryLogin

namespace Settings

/-- The key of a member of the table with a key; the outermost table has none. -/
def memberKey (table : Option String) (key : String) : String :=
  match table with
  | some table => table ++ "." ++ key
  | none => key

mutual

/-- The settings that a value with a key comes to. -/
def leaves (key : String) : Toml.Value → List (String × String)
  | .table members => memberLeaves (some key) members
  | .string s => [(key, s)]
  | .integer n => [(key, (Toml.Value.integer n).text)]
  | .float x => [(key, (Toml.Value.float x).text)]
  | .boolean b => [(key, (Toml.Value.boolean b).text)]
  | .dateTime spelling => [(key, (Toml.Value.dateTime spelling).text)]
  | .array items => [(key, (Toml.Value.array items).text)]

/-- The settings that the members of a table come to. -/
def memberLeaves (table : Option String) : List (String × Toml.Value) → List (String × String)
  | [] => []
  | (key, value) :: rest => leaves (memberKey table key) value ++ memberLeaves table rest

end

def ofTable (members : List (String × Toml.Value)) : Settings :=
  ofList (memberLeaves none members)

def ofToml (content : String) : Except Error Settings :=
  match Toml.read content with
  | some members => .ok (ofTable members)
  | none => .error (.configuration "failed to parse settings: TOML parse error")

end Settings

end DirectoryLogin
