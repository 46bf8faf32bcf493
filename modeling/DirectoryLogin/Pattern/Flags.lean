import DirectoryLogin.Pattern.Class
import DirectoryLogin.Text.Blank

namespace DirectoryLogin.Pattern

open DirectoryLogin.Text

inductive ReadError
  | unclosedGroup
  | unopenedGroup
  | unclosedClass
  | lookAround
  | badGroupName
  | badFlags
  | nothingToRepeat
  | badCount
  | badEscape
  | badRange
  | unknownProperty
  | notUtf8
  | tooDeep
  | tooLarge
  deriving DecidableEq, Inhabited

namespace ReadError

def message : ReadError → String
  | unclosedGroup => "regex parse error: unclosed group"
  | unopenedGroup => "regex parse error: unopened group"
  | unclosedClass => "regex parse error: unclosed character class"
  | lookAround => "regex parse error: look-around is not supported"
  | badGroupName => "regex parse error: invalid capture group name"
  | badFlags => "regex parse error: invalid flags"
  | nothingToRepeat => "regex parse error: repetition operator missing expression"
  | badCount => "regex parse error: invalid repetition count"
  | badEscape => "regex parse error: invalid escape sequence"
  | badRange => "regex parse error: invalid character class range"
  | unknownProperty => "regex parse error: Unicode property not found"
  | notUtf8 => "regex parse error: pattern can match invalid UTF-8"
  | tooDeep => "regex parse error: exceeds the nest limit"
  | tooLarge => "Compiled regex exceeds size limit"

end ReadError

structure Flags where
  ignoreCase : Bool := false
  multiLine : Bool := false
  dotAll : Bool := false
  unicode : Bool := true
  crlf : Bool := false
  /-- A repetition is reluctant unless a question mark follows it. -/
  reluctant : Bool := false
  /-- White space and comments mean nothing. -/
  verbose : Bool := false

mutual

def skipIdle : List Char → List Char
  | [] => []
  | c :: rest => if isBlank c then skipIdle rest else if c = '#' then skipComment rest else c :: rest

/-- Leaves out the rest of a comment and what is idle after it. -/
def skipComment : List Char → List Char
  | [] => []
  | c :: rest => if c = '\n' then skipIdle rest else skipComment rest

end

namespace Flags

def skip (f : Flags) (cs : List Char) : List Char :=
  if f.verbose then skipIdle cs else cs

end Flags

/-- A class closed under change of case where the flags ask for it, then negated if asked for. -/
def foldAndNegate (f : Flags) (negated : Bool) (accepted : CharSet) : Except ReadError CharSet :=
  let folded := if !f.ignoreCase then accepted
    else if f.unicode then accepted.anyCase else accepted.anyAsciiCase
  if negated then
    if f.unicode then .ok folded.complement else .error .notUtf8
  else .ok folded

end DirectoryLogin.Pattern
