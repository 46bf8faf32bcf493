import DirectoryLogin.Text.Numeral
import DirectoryLogin.Unicode.CharSet

namespace DirectoryLogin.Text

def isAsciiSpace (c : Char) : Bool :=
  c == ' ' || ('\t' ≤ c && c ≤ '\r')

def asciiTest? (name : String) : Option (Char → Bool) :=
  match name with
  | "alnum" => some Char.isAlphanum
  | "alpha" => some Char.isAlpha
  | "blank" => some fun c => c == '\t' || c == ' '
  | "cntrl" => some fun c => c.toNat < 0x20 || c.toNat == 0x7F
  | "digit" => some Char.isDigit
  | "graph" => some fun c => '!' ≤ c && c ≤ '~'
  | "lower" => some Char.isLower
  | "print" => some fun c => ' ' ≤ c && c ≤ '~'
  | "punct" => some fun c => '!' ≤ c && c ≤ '~' && !c.isAlphanum
  | "space" => some isAsciiSpace
  | "upper" => some Char.isUpper
  | "xdigit" => some fun c => (hexDigit? c).isSome
  | _ => none

def asciiClass? (name : String) : Option CharSet :=
  (asciiTest? name).map CharSet.ascii

def asciiWord : CharSet :=
  CharSet.ascii fun c => c.isAlphanum || c == '_'

def asciiSpace : CharSet :=
  CharSet.ascii isAsciiSpace

def asciiDigit : CharSet :=
  CharSet.ascii Char.isDigit

end DirectoryLogin.Text
