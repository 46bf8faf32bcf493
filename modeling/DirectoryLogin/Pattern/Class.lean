import DirectoryLogin.Text.AsciiClass
import DirectoryLogin.Unicode.Case
import DirectoryLogin.Unicode.NamedSet

namespace DirectoryLogin.CharSet

open DirectoryLogin.Text DirectoryLogin.Unicode

/-- Letters, marks, decimal digits, connectors and the two joiners. -/
def unicodeWord : CharSet :=
  ((ofCategories ["Mn", "Mc", "Me", "Nd", "Pc"]).union ((namedSet? "alphabetic").getD empty)).union
    ((namedSet? "joincontrol").getD empty)

def unicodeDigit : CharSet :=
  ofCategories ["Nd"]

def unicodeSpace : CharSet :=
  (namedSet? "whitespace").getD empty

/-- The ASCII classes that stand between `[:` and `:]`. -/
def posix? (name : String) : Option CharSet :=
  match name with
  | "ascii" => some (between '\x00' '\x7f')
  | "word" => some asciiWord
  | _ => asciiClass? name

/-- The orbits under change of case, of the characters that patterns know. -/
def caseOrbits : List (List Nat) :=
  Unicode.caseOrbits.map fun orbit => orbit.filter fun n => !newCharacters.hasCode n

/-- The characters that differ from one of the set in case alone, and the set. -/
def anyCase (s : CharSet) : CharSet :=
  let met := caseOrbits.filter fun orbit => orbit.any s.hasCode
  ofRanges (s.ranges ++ met.flatten.map fun n => (n, n))

def anyAsciiCase (s : CharSet) : CharSet :=
  s.union (ascii fun c => s.contains c.toLower || s.contains c.toUpper)

end DirectoryLogin.CharSet
