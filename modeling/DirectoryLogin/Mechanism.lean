import DirectoryLogin.Error
import DirectoryLogin.Text.Ascii
import DirectoryLogin.Text.Blank

namespace DirectoryLogin

open Text

inductive Mechanism
  | simple
  /-- The bare login, by challenge and response. -/
  | cramMd5
  /-- The bare login in a realm, by challenge and response. -/
  | digestMd5
  | gssapi
  deriving DecidableEq, Inhabited, Repr

namespace Mechanism

def name : Mechanism → String
  | simple => "simple"
  | cramMd5 => "CRAM-MD5"
  | digestMd5 => "DIGEST-MD5"
  | gssapi => "GSSAPI"

def dump : Mechanism → String
  | simple => "Simple"
  | cramMd5 => "CramMd5"
  | digestMd5 => "DigestMd5"
  | gssapi => "Gssapi"

/-- All mechanisms but the simple one authenticate the bare login instead of a name in the
directory. -/
def isSasl : Mechanism → Bool
  | simple => false
  | _ => true

def read (text : String) : Except Error Mechanism :=
  match upperCase (trimmed text) with
  | "SIMPLE" => .ok simple
  | "CRAM-MD5" => .ok cramMd5
  | "DIGEST-MD5" => .ok digestMd5
  | "GSSAPI" => .ok gssapi
  | _ => .error (.configuration ("unknown authentication method '" ++ trimmed text ++
      "', expected one of: simple, CRAM-MD5, DIGEST-MD5, GSSAPI"))

end Mechanism

end DirectoryLogin
