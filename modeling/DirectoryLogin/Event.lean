namespace DirectoryLogin

inductive Level
  | trace
  | debug
  | info
  | warn
  | error
  deriving DecidableEq, Inhabited, Repr

structure Event where
  level : Level
  message : String
  fields : List (String × String) := []
  deriving DecidableEq, Inhabited, Repr

namespace Event

def debug (message : String) (fields : List (String × String) := []) : Event :=
  ⟨.debug, message, fields⟩

def info (message : String) (fields : List (String × String) := []) : Event :=
  ⟨.info, message, fields⟩

def warn (message : String) (fields : List (String × String) := []) : Event :=
  ⟨.warn, message, fields⟩

def error (message : String) (fields : List (String × String) := []) : Event :=
  ⟨.error, message, fields⟩

end Event

end DirectoryLogin
