import DirectoryLogin.Decimal.Binary64
import DirectoryLogin.Text.Reader

namespace DirectoryLogin

namespace Binary64

open Text Reader

def letters (word : List Char) : Reader Unit := fun cs =>
  if word.length ≤ cs.length ∧ (cs.take word.length).map Char.toLower = word then
    some ((), cs.drop word.length)
  else none

/-- Whether a minus sign stands in front; a plus sign may stand instead. -/
def minus : Reader Bool := do
  return (← maybe (satisfying fun c => c == '+' || c == '-')) == some '-'

/-- Digits with a point before, between or after them; how many of them follow the point. -/
def pointed (accepts : Char → Bool) : Reader (List Char × Nat) := do
  let whole ← span accepts
  let part ← maybe do
    let _ ← char '.'
    span accepts
  let digits := whole ++ part.getD []
  if digits.isEmpty then given none else return (digits, (part.getD []).length)

def exponentAfter (letter : Char) : Reader Int := do
  letters [letter]
  let negative ← minus
  let digits ← spanSome Char.isDigit
  return if negative then -(digitsValue digits : Int) else digitsValue digits

/-- The number nearest to `n * 2 ^ exponent`. Numbers far beyond the range need not be written out. -/
def ofBinary (negative : Bool) (n : Nat) (exponent : Int) : Binary64 :=
  let magnitude := (n.log2 : Int) + exponent
  if n = 0 || magnitude < -1100 then finite negative 0 minExponent
  else if 1100 < magnitude then infinite negative
  else if 0 ≤ exponent then nearest negative (n * Nat.pow 2 exponent.toNat) 1
  else nearest negative n (Nat.pow 2 (-exponent).toNat)

def hexadecimal (negative : Bool) : Reader Binary64 := do
  letters ['0', 'x']
  let (digits, places) ← pointed fun c => (hexDigit? c).isSome
  let exponent := (← maybe (exponentAfter 'p')).getD 0
  return ofBinary negative (digits.foldl (fun n d => 16 * n + (hexDigit? d).getD 0) 0)
    (exponent - 4 * places)

def decimalNumber (negative : Bool) : Reader Binary64 := do
  let (digits, places) ← pointed Char.isDigit
  let exponent := (← maybe (exponentAfter 'e')).getD 0
  return ofDecimal negative digits (exponent - places)

def infinity (negative : Bool) : Reader Binary64 := do
  letters ['i', 'n', 'f']
  let _ ← maybe (letters ['i', 'n', 'i', 't', 'y'])
  return infinite negative

/-- A number after white space and a sign, either of which may be missing. -/
def number : Reader Binary64 := do
  let _ ← span fun c => c == ' ' || ('\t' ≤ c && c ≤ '\r')
  let negative ← minus
  hexadecimal negative <|> decimalNumber negative <|> infinity negative

end Binary64

end DirectoryLogin
