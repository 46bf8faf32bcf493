import DirectoryLogin.Url.Host
import DirectoryLogin.Url.Path

namespace DirectoryLogin

open Text

/-- A URL that was read. Host and path are in their written form, percent-encoding included. -/
structure Url where
  scheme : String
  /-- The host, unless there is none or it is empty. -/
  host : Option String
  /-- The port, unless it is missing or the usual one of the scheme. -/
  port : Option Nat
  path : String
  deriving DecidableEq, Inhabited

namespace Url

inductive SchemeKind
  /-- The web's schemes, where a backslash is a slash and a host is a domain. -/
  | web
  | file
  | plain
  deriving DecidableEq, Inhabited

def SchemeKind.of (scheme : String) : SchemeKind :=
  match scheme with
  | "http" | "https" | "ws" | "wss" | "ftp" => .web
  | "file" => .file
  | _ => .plain

def usualPort (scheme : String) : Option Nat :=
  match scheme with
  | "http" | "ws" => some 80
  | "https" | "wss" => some 443
  | "ftp" => some 21
  | _ => none

def isSlash (kind : SchemeKind) (c : Char) : Bool :=
  c == '/' || (kind != .plain && c == '\\')

/-- Ends the part of a URL that names a server. -/
def endsAuthority (kind : SchemeKind) (c : Char) : Bool :=
  isSlash kind c || c == '?' || c == '#'

/-- A text without the controls and spaces at its ends and without tabs and line breaks. -/
def tidy (cs : List Char) : List Char :=
  let idle := fun c : Char => c.toNat ≤ 0x20
  (((cs.dropWhile idle).reverse.dropWhile idle).reverse).filter fun c =>
    c != '\t' && c != '\n' && c != '\r'

/-- The scheme in lower case, and what follows its colon. -/
def readScheme (cs : List Char) : Option (String × List Char) :=
  match cutAt (· == ':') cs with
  | some (c :: more, rest) =>
    if c.isAlpha && more.all (fun c => c.isAlphanum || c == '+' || c == '-' || c == '.') then
      some (String.ofList ((c :: more).map Char.toLower), rest)
    else none
  | _ => none

def cutAtLastAt (cs : List Char) : Option (List Char × List Char) :=
  (cutAt (· == '@') cs.reverse).map fun (after, before) => (before.reverse, after.reverse)

/-- The user information names a user or a password. -/
def namesUser (info : List Char) : Bool :=
  info != [] && info != [':']

/-- Where the host ends: at the first colon that is not between brackets. -/
def cutHost (inside : Bool) : List Char → List Char × List Char
  | [] => ([], [])
  | c :: rest =>
    if c = ':' && !inside then ([], c :: rest)
    else
      let (host, after) := cutHost (c == '[' || (inside && c != ']')) rest
      (c :: host, after)

/-- Reads the digits of a port, which must be a number of 16 bits. -/
def readPort (scheme : String) (digits : List Char) : Except ParseError (Option Nat) :=
  if !digits.all Char.isDigit then .error .badPort
  else if Nat.pow 2 16 ≤ digitsValue digits then .error .badPort
  else if digits.isEmpty || usualPort scheme == some (digitsValue digits) then .ok none
  else .ok (some (digitsValue digits))

/-- The part of a URL before its query and its fragment. -/
def beforeQuery (cs : List Char) : List Char :=
  cs.takeWhile fun c => c != '?' && c != '#'

/-- The path after a server, which the web's schemes never leave empty. -/
def pathAfterAuthority (kind : SchemeKind) (cs : List Char) : String :=
  match beforeQuery cs with
  | [] => if kind = .plain then "" else "/"
  | c :: rest =>
    String.ofList (readPath (isSlash kind) (kind = .file)
      (if isSlash kind c then rest else c :: rest))

def splitAuthority (kind : SchemeKind) (authority : List Char) (atEnd : Bool) :
    Except ParseError (Bool × List Char) :=
  match cutAtLastAt authority with
  | none => .ok (false, authority)
  | some ([], server) =>
    if server.isEmpty && !atEnd then .error .emptyHost else .ok (false, server)
  | some (info, server) =>
    .ok (namesUser info && kind != .file, server)

/-- Reads what follows the two slashes. A backslash ends the digits of a port, whatever the scheme. -/
def readAuthority (scheme : String) (kind : SchemeKind) (cs : List Char) :
    Except ParseError Url := do
  let authority := cs.takeWhile (!endsAuthority kind ·)
  let rest := cs.drop authority.length
  let (hasUser, server) ← splitAuthority kind authority rest.isEmpty
  let (hostText, after) := cutHost false server
  if hostText.isEmpty && kind = .web then throw .emptyHost
  let host ← if kind = .web then webHost hostText else plainHost hostText
  let (port, left) ← match after with
    | ':' :: more => do
      if host.isEmpty then throw .emptyHost
      let digits := more.takeWhile (· != '\\')
      pure (← readPort scheme digits, more.drop digits.length)
    | _ => pure (none, [])
  if host.isEmpty && hasUser then throw .emptyHost
  return { scheme
           host := if host.isEmpty then none else some (String.ofList host)
           port
           path := pathAfterAuthority kind (left ++ rest) }

/-- Reads what follows `file:`. A drive letter at the start of the path does away with the host. -/
def readFile (cs : List Char) : Except ParseError Url := do
  let isSlash := isSlash .file
  match cs with
  | a :: b :: rest =>
    if isSlash a && isSlash b then
      let text := rest.takeWhile (!endsAuthority .file ·)
      if isDriveLetter text then
        return ⟨"file", none, none, String.ofList (readPath isSlash true (beforeQuery rest))⟩
      let host ← if text.isEmpty then pure [] else webHost text
      let path := pathAfterAuthority .file (rest.drop text.length)
      let first := (pieces (· == '/') (path.toList.drop 1)).headD []
      let dropped := host.isEmpty || host == "localhost".toList || isDriveLetter first
      return ⟨"file", if dropped then none else some (String.ofList host), none, path⟩
    else return ⟨"file", none, none, pathAfterAuthority .file cs⟩
  | _ => return ⟨"file", none, none, pathAfterAuthority .file cs⟩

def parse (text : String) : Except ParseError Url :=
  match readScheme (tidy text.toList) with
  | none => .error .noBase
  | some (scheme, rest) =>
    match SchemeKind.of scheme, rest with
    | .file, rest => readFile rest
    | .web, rest => readAuthority scheme .web (rest.dropWhile (isSlash .web))
    | .plain, '/' :: '/' :: rest => readAuthority scheme .plain rest
    | .plain, '/' :: rest =>
      .ok ⟨scheme, none, none, String.ofList (readPath (isSlash .plain) false (beforeQuery rest))⟩
    | .plain, rest =>
      .ok ⟨scheme, none, none, String.ofList (percentEncode isControl (beforeQuery rest))⟩

end Url

end DirectoryLogin
