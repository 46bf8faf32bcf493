import DirectoryLogin.Error
import DirectoryLogin.Text.Ascii
import DirectoryLogin.Text.Blank

namespace DirectoryLogin

open Text

inductive Scope
  | object
  /-- The entries right below the base. -/
  | oneLevel
  /-- The base and everything below it. -/
  | subtree
  deriving DecidableEq, Inhabited, Repr

namespace Scope

def name : Scope → String
  | object => "Object"
  | oneLevel => "OneLevel"
  | subtree => "Subtree"

/-- The name of the scope in the protocol between client and server. -/
def wireName : Scope → String
  | object => "Base"
  | oneLevel => "OneLevel"
  | subtree => "Subtree"

def read (text : String) : Except Error Scope :=
  match lowerCase (trimmed text) with
  | "subtree" | "sub" => .ok subtree
  | "onelevel" | "one" => .ok oneLevel
  | "object" | "base" => .ok object
  | other => .error (.configuration
      s!"unknown search scope '{other}', expected subtree, onelevel or object")

end Scope

inductive FindMode
  /-- At most one entry; a second one fails the search. -/
  | unique
  /-- The first entry ends the search. -/
  | first
  | all
  deriving DecidableEq, Inhabited, Repr

namespace FindMode

def name : FindMode → String
  | unique => "Unique"
  | first => "First"
  | all => "All"

def read (text : String) : Except Error FindMode :=
  match lowerCase (trimmed text) with
  | "unique" | "find_unique" => .ok unique
  | "first" | "find_first" => .ok first
  | "all" => .ok all
  | other => .error (.configuration s!"unknown find mode '{other}', expected unique or first")

end FindMode

end DirectoryLogin
