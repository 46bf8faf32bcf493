import DirectoryLogin.Dictionary
import DirectoryLogin.Toml.Scalar

namespace DirectoryLogin.Toml

open Text Reader

/-- Something in a document that is not complete yet. -/
inductive Node
  | value (v : Value)
  | array (items : List Node)
  /-- A table that is written as a value, to which nothing is added afterwards. -/
  | inline (members : List (String × Node))
  /-- A table. It is `implied` until a header names it, and `dotted` if dotted keys made it. -/
  | table (implied dotted : Bool) (members : List (String × Node))
  /-- Tables under one header that occurs several times. -/
  | tables (elements : List (List (String × Node)))
  deriving Inhabited

namespace Node

/-- The date or time that a table's first member spells, if the member has the name that is kept for
it. -/
def dateTime? : Node → Option Value
  | value (.string s) => (spelledDateTime? s).map .dateTime
  | _ => none

mutual

def close : Node → Option Value
  | value v => some v
  | array items => (closeItems items).map .array
  | inline members => closeTable members
  | table _ _ members => closeTable members
  | tables elements => (closeElements elements).map .array

def closeItems : List Node → Option (List Value)
  | [] => some []
  | item :: rest => do
    let value ← close item
    return value :: (← closeItems rest)

/-- A table whose first member has the name that is kept for dates and times is one, and its other
members mean nothing. -/
def closeTable : List (String × Node) → Option Value
  | [] => some (.table [])
  | (key, node) :: rest =>
    if key = Value.dateTimeKey then dateTime? node
    else do
      let value ← close node
      return .table (Dictionary.ofList ((key, value) :: (← closeMembers rest))).pairs

def closeMembers : List (String × Node) → Option (List (String × Value))
  | [] => some []
  | (key, node) :: rest => do
    let value ← close node
    return (key, value) :: (← closeMembers rest)

def closeElements : List (List (String × Node)) → Option (List Value)
  | [] => some []
  | members :: rest => do
    let value ← closeTable members
    return value :: (← closeElements rest)

end

end Node

/-- The members of a table that is not complete yet, each key once, oldest first. -/
abbrev Members := List (String × Node)

namespace Members

def get? (members : Members) (key : String) : Option Node :=
  (members.find? (·.1 == key)).map (·.2)

def erase (members : Members) (key : String) : Members :=
  members.filter (·.1 != key)

/-- Puts a member in the place of the one with its key, or else at the end. -/
def put : Members → String → Node → Members
  | [], key, node => [(key, node)]
  | (k, old) :: rest, key, node =>
    if k = key then (key, node) :: rest else (k, old) :: put rest key node

/-- Changes the table at the end of a path; `dotted` tells a path of dotted keys from the path of a
header. Tables on the way come into being. A value ends no path, of tables under one header the last
one counts, and a dotted key leads into no table that a header has named. -/
def alter (dotted : Bool) (change : Bool → Members → Option Members) :
    List String → Bool → Members → Option Members
  | [], isDotted, members => change isDotted members
  | key :: path, _, members =>
    match members.get? key with
    | none => do
      let inner ← alter dotted change path dotted []
      return members.put key (.table true dotted inner)
    | some (.value _) | some (.array _) | some (.inline _) => none
    | some (.table implied isDotted inner) =>
      if dotted && !implied then none
      else do
        let inner ← alter dotted change path isDotted inner
        return members.put key (.table implied isDotted inner)
    | some (.tables elements) =>
      match elements.getLast? with
      | none => none
      | some last => do
        let last ← alter dotted change path false last
        return members.put key (.tables (elements.dropLast ++ [last]))

/-- Puts a value under a dotted key. A table made by dotted keys takes nothing else, and no other
table takes the parts of a dotted key. -/
def insertPair (path : List String) (key : String) (value : Node) : Members → Option Members :=
  alter true (fun isDotted members =>
    if isDotted == path.isEmpty then none
    else match members.get? key with
      | some _ => none
      | none => some (members.put key value)) path false

/-- Opens the table of a header. One that was implied before moves to the end of the table around it. -/
def openTable (path : List String) (key : String) : Members → Option Members :=
  alter false (fun _ members =>
    match members.get? key with
    | none => some (members.put key (.table false false []))
    | some (.table true false inner) => some ((members.erase key).put key (.table false false inner))
    | some _ => none) path false

/-- Opens one more of the tables of a header that occurs several times. -/
def openElement (path : List String) (key : String) : Members → Option Members :=
  alter false (fun _ members =>
    match members.get? key with
    | none => some (members.put key (.tables [[]]))
    | some (.tables elements) => some (members.put key (.tables (elements ++ [[]])))
    | some _ => none) path false

end Members

def lastPart (key : List String) : List String × String :=
  (key.dropLast, key.getLast?.getD "")

/-- White space, line ends and comments within an array. -/
def gap : Reader Unit := do
  let _ ← many (satisfying isSpace <|> newline <|> (do
    let _ ← char '#'
    let _ ← span isCommentCharacter
    newline))
  return ()

def array (value : Reader Node) : Reader Node := do
  let _ ← char '['
  let items ← separated (char ',') do
    gap
    let v ← value
    gap
    return v
  if !items.isEmpty then
    let _ ← maybe (char ',')
  gap
  let _ ← char ']'
  return .array items

def inlineTable (value : Reader Node) : Reader Node := do
  let _ ← char '{'
  let pairs ← separated (char ',') do
    let key ← dottedKey
    let _ ← char '='
    let _ ← spaces
    let v ← value
    let _ ← spaces
    return (key, v)
  let _ ← spaces
  let _ ← char '}'
  let members ← given (pairs.foldlM (fun members (key, v) =>
    let (path, key) := lastPart key
    Members.insertPair path key v members) [])
  return .inline members

/-- The deepest that arrays and tables nest within a value. -/
def maxDepth : Nat := 79

/-- A value in which arrays and tables nest no deeper than a bound. -/
def valueWithin : Nat → Reader Node
  | 0 => (do return .value (← scalar))
  | depth + 1 =>
    (do return .value (← scalar)) <|> array (valueWithin depth) <|> inlineTable (valueWithin depth)

inductive Statement
  | pair (path : List String) (key : String) (value : Node)
  /-- The pairs after it belong to a table. -/
  | header (path : List String) (key : String)
  /-- The pairs after it belong to one more of several tables. -/
  | element (path : List String) (key : String)
  /-- An empty line, or a comment. -/
  | idle

def lineEnd : Reader Unit := do
  let _ ← spaces
  let _ ← maybe do
    let _ ← char '#'
    span isCommentCharacter
  (do
    let _ ← newline
    return ()) <|> finish

def pair : Reader Statement := do
  let (path, key) := lastPart (← dottedKey)
  let _ ← char '='
  let _ ← spaces
  let v ← valueWithin maxDepth
  lineEnd
  return .pair path key v

def elementHeader : Reader Statement := do
  exactly ['[', '[']
  let (path, key) := lastPart (← dottedKey)
  exactly [']', ']']
  lineEnd
  return .element path key

def header : Reader Statement := do
  let _ ← char '['
  let (path, key) := lastPart (← dottedKey)
  let _ ← char ']'
  lineEnd
  return .header path key

def idle : Reader Statement := do
  let _ ← ahead (satisfying fun c => c == '#' || c == '\r' || c == '\n')
  lineEnd
  return .idle

/-- The statements of a document, which may begin with a byte order mark. -/
def statements : Reader (List Statement) := do
  let _ ← maybe (char '\uFEFF')
  let _ ← spaces
  let all ← many do
    let statement ← idle <|> elementHeader <|> header <|> pair
    let _ ← spaces
    return statement
  finish
  return all

/-- A document as far as its statements have been heard: its members, and the table that is open. -/
structure Draft where
  members : Members := []
  /-- The path of the open table; none is open at first. -/
  current : List String := []

namespace Draft

def insert (d : Draft) (path : List String) (key : String) (value : Node) : Option Draft := do
  let members ← Members.alter false (fun _ members => Members.insertPair path key value members)
    d.current false d.members
  return { d with members }

def add (d : Draft) : Statement → Option Draft
  | .idle => some d
  | .pair path key value => d.insert path key value
  | .header path key => do
    return { members := ← Members.openTable path key d.members, current := path ++ [key] }
  | .element path key => do
    return { members := ← Members.openElement path key d.members, current := path ++ [key] }

end Draft

/-- The members of a document's table in ascending order, if the document is one. -/
def read (content : String) : Option (List (String × Value)) := do
  let (statements, _) ← statements content.toList
  let draft ← statements.foldlM Draft.add {}
  return (Dictionary.ofList (← Node.closeMembers draft.members)).pairs

end DirectoryLogin.Toml
