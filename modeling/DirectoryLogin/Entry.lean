import DirectoryLogin.Text.Ascii

namespace DirectoryLogin

open Text

/-- An entry: its distinguished name, and attributes with any number of values each. -/
structure Entry where
  dn : String
  attributes : List (String × List String) := []
  deriving DecidableEq, Inhabited

namespace Entry

def setAttribute (attributes : List (String × List String)) (name : String)
    (values : List String) : List (String × List String) :=
  match attributes with
  | [] => [(name, values)]
  | (n, vs) :: rest =>
    if n = name then (name, values) :: rest else (n, vs) :: setAttribute rest name values

def withAttribute (e : Entry) (name : String) (values : List String) : Entry :=
  { e with attributes := setAttribute e.attributes name values }

/-- An entry of a row of attributes; a later one replaces an earlier one of the same name. -/
def ofAttributes (dn : String) (attributes : List (String × List String)) : Entry :=
  attributes.foldl (fun e (name, values) => e.withAttribute name values) { dn }

def values? (e : Entry) (name : String) : Option (List String) :=
  match e.attributes.find? (·.1 == name) with
  | some (_, values) => some values
  | none => (e.attributes.find? fun p => sameLetters p.1 name).map (·.2)

def first? (e : Entry) (name : String) : Option String :=
  (e.values? name).bind List.head?

def hasAttribute (e : Entry) (name : String) : Bool :=
  (e.values? name).isSome

/-- The first value of an attribute; `dn` names the distinguished name. -/
def value? (e : Entry) (name : String) : Option String :=
  if sameLetters name "dn" then some e.dn else e.first? name

end Entry

/-- What a running search hands out: an entry, or servers where the search goes on. -/
inductive Item
  | entry (entry : Entry)
  | referral (urls : List String)
  deriving DecidableEq, Inhabited

end DirectoryLogin
