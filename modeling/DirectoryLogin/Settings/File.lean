import DirectoryLogin.Settings.Properties
import DirectoryLogin.Settings.Toml
import DirectoryLogin.Text.Utf8

namespace DirectoryLogin

open Text

namespace Settings

/-- The name of a file without the directories before it. -/
def fileName (path : String) : Option (List Char) :=
  match ((pieces (· == '/') path.toList).filter fun part => !part.isEmpty && part != ['.']).getLast? with
  | some ['.', '.'] => none
  | other => other

/-- What follows the last dot of a name, unless that dot begins it. -/
def extension (path : String) : Option String :=
  match fileName path with
  | none => none
  | some name =>
    let (backwards, before) := (name.reverse.takeWhile (· != '.'), name.reverse.dropWhile (· != '.'))
    match before with
    | '.' :: _ :: _ => some (String.ofList backwards.reverse)
    | _ => none

def ofContent (path content : String) : Except Error Settings :=
  if extension path = some "toml" then ofToml content else ofProperties content

/-- The settings of a file, given its bytes or the reason why it cannot be read. -/
def ofFile (path : String) (bytes : Except String (List UInt8)) : Except Error Settings :=
  let unreadable := fun reason : String =>
    .error (.configuration s!"unable to read settings {path}: {reason}")
  match bytes with
  | .error reason => unreadable reason
  | .ok bytes =>
    match ofUtf8? bytes with
    | none => unreadable "stream did not contain valid UTF-8"
    | some content => ofContent path (String.ofList content)

end Settings

end DirectoryLogin
