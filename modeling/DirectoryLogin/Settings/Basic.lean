import DirectoryLogin.Dictionary
import DirectoryLogin.Error
import DirectoryLogin.Text.Ascii
import DirectoryLogin.Text.Blank
import DirectoryLogin.Text.Quoted
import DirectoryLogin.Text.Split

namespace DirectoryLogin

open Text

structure Settings where
  values : Dictionary String

namespace Settings

def empty : Settings := ⟨.empty⟩

/-- The settings of a row of pairs; a later pair replaces an earlier one with the same key. -/
def ofList (pairs : List (String × String)) : Settings :=
  ⟨.ofList pairs⟩

def insert (s : Settings) (key value : String) : Settings :=
  ⟨s.values.insert key value⟩

def erase (s : Settings) (key : String) : Settings :=
  ⟨s.values.erase key⟩

/-- The value of a key, unless it is blank. -/
def get? (s : Settings) (key : String) : Option String :=
  (s.values.get? key).filter hasContent

def getD (s : Settings) (key fallback : String) : String :=
  (s.get? key).getD fallback

def hasKey (s : Settings) (key : String) : Bool :=
  (s.get? key).isSome

/-- The items between the commas of a text, trimmed, without the empty ones. -/
def items (value : String) : List String :=
  ((splitText (· == ',') value).map trimmed).filter (!·.isEmpty)

/-- The items of a value that lists them between commas. -/
def getItems (s : Settings) (key : String) : List String :=
  match s.get? key with
  | some value => items value
  | none => []

/-- A value in milliseconds, which must fit into 64 bits. -/
def getMillis (s : Settings) (key : String) : Except Error (Option Nat) :=
  match s.get? key with
  | none => .ok none
  | some value =>
    match readNumeral wordBound (trim value.toList) with
    | some n => .ok (some n)
    | none => .error (.configuration
        s!"property '{key}' must be a number of milliseconds, got '{value}'")

/-- The keys that begin with a text and have a value, in ascending order. -/
def keysFrom (s : Settings) (start : String) : List String :=
  (s.values.filter fun key value => startsWith key start && hasContent value).keys

/-- Every pair of the bag, blank values too. -/
def dump (s : Settings) : String :=
  record "Settings" [("values",
    "\x7b" ++ String.intercalate ", " (s.values.pairs.map fun (key, value) =>
      quoted key ++ ": " ++ quoted value) ++ "\x7d")]

end Settings

end DirectoryLogin
