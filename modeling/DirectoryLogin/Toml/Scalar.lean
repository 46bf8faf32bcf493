import DirectoryLogin.Text.Reader
import DirectoryLogin.Toml.Value

namespace DirectoryLogin.Toml

open Text Reader

def isSpace (c : Char) : Bool :=
  c == ' ' || c == '\t'

def spaces : Reader (List Char) := span isSpace

def newline : Reader Char :=
  char '\n' <|> (do
    let _ ← char '\r'
    char '\n')

def isCommentCharacter (c : Char) : Bool :=
  c == '\t' || (0x20 ≤ c.toNat && c.toNat != 0x7F)

def isLiteralCharacter (c : Char) : Bool :=
  c == '\t' || (0x20 ≤ c.toNat && c != '\'' && c.toNat != 0x7F)

def isPlainCharacter (c : Char) : Bool :=
  c == '\t' || (0x20 ≤ c.toNat && c != '"' && c != '\\' && c.toNat != 0x7F)

def scalar? (n : Nat) : Option Char :=
  if n < 0xD800 || (0xDFFF < n && n < 0x110000) then some (Char.ofNat n) else none

def isHexDigit (c : Char) : Bool := (hexDigit? c).isSome

def hexValue (digits : List Char) : Nat :=
  digits.foldl (fun n d => 16 * n + (hexDigit? d).getD 0) 0

def escape : Reader Char := do
  let _ ← char '\\'
  match ← satisfying fun _ => true with
  | 'b' => return '\x08'
  | 'f' => return '\x0c'
  | 'n' => return '\n'
  | 'r' => return '\r'
  | 't' => return '\t'
  | '"' => return '"'
  | '\\' => return '\\'
  | 'u' => given (scalar? (hexValue (← count isHexDigit 4)))
  | 'U' => given (scalar? (hexValue (← count isHexDigit 8)))
  | _ => given none

def quotedString : Reader (List Char) := do
  let _ ← char '"'
  let cs ← many (satisfying isPlainCharacter <|> escape)
  let _ ← char '"'
  return cs

def literalString : Reader (List Char) := do
  let _ ← char '\''
  let cs ← span isLiteralCharacter
  let _ ← char '\''
  return cs

/-- A backslash at the end of a line, with all white space up to the next line that has more. -/
def lineJoin : Reader Unit := do
  let _ ← char '\\'
  let _ ← spaces
  let _ ← newline
  let _ ← many (newline <|> satisfying isSpace)
  return ()

/-- One or two quotes that do not close a string. -/
def innerQuotes (quote : Char) (follows : Reader Unit) : Reader (List Char) :=
  (do
    exactly [quote, quote]
    ahead follows
    return [quote, quote]) <|> (do
    exactly [quote]
    ahead follows
    return [quote])

/-- The body of a string over several lines, with the quotes that close it. -/
def linesBody (quote : Char) (content : Reader (List Char)) : Reader (List Char) := do
  let _ ← maybe newline
  let other : Reader Unit := do
    let _ ← satisfying (· != quote)
    return ()
  let parts ← many (content <|> innerQuotes quote other)
  let last ← maybe (innerQuotes quote (exactly [quote, quote, quote]))
  exactly [quote, quote, quote]
  return parts.flatten ++ last.getD []

def quotedLinesString : Reader (List Char) := do
  exactly ['"', '"', '"']
  linesBody '"' <|
    (do return [← satisfying isPlainCharacter]) <|> (do
      lineJoin
      return []) <|> (do return [← escape]) <|> (do return [← newline])

def literalLinesString : Reader (List Char) := do
  exactly ['\'', '\'', '\'']
  linesBody '\'' <|
    (do return [← satisfying isLiteralCharacter]) <|> (do return [← newline])

def string : Reader String := do
  return String.ofList
    (← quotedLinesString <|> quotedString <|> literalLinesString <|> literalString)

def isBareCharacter (c : Char) : Bool :=
  c.isAlphanum || c == '-' || c == '_'

def simpleKey : Reader String := do
  return String.ofList (← quotedString <|> literalString <|> spanSome isBareCharacter)

def maxKeyParts : Nat := 79

/-- A key of one part, or of several between dots. -/
def dottedKey : Reader (List String) := do
  let parts ← separatedSome (char '.') do
    let _ ← spaces
    let key ← simpleKey
    let _ ← spaces
    return key
  if parts.length ≤ maxKeyParts then return parts else given none

/-- Digits of a class, between which single underscores may stand. -/
def digitGroups (accepts : Char → Bool) : Reader (List Char) := do
  let first ← satisfying accepts
  let more ← many (satisfying accepts <|> (do
    let _ ← char '_'
    satisfying accepts))
  return first :: more

def sign : Reader Bool := do
  return (← maybe (satisfying fun c => c == '+' || c == '-')) == some '-'

/-- Decimal digits that do not begin with a zero, unless there is nothing else. -/
def wholeDigits : Reader (List Char) :=
  (do
    let _ ← ahead (satisfying fun c => c.isDigit && c != '0')
    digitGroups Char.isDigit) <|> (do return [← satisfying Char.isDigit])

/-- The integers are those of 64 bits. -/
def integer? (negative : Bool) (n : Nat) : Option Int :=
  if negative then if n ≤ Nat.pow 2 63 then some (-(n : Int)) else none
  else if n < Nat.pow 2 63 then some n else none

def decimalInteger : Reader Int := do
  let negative ← sign
  let digits ← wholeDigits
  given (integer? negative (digitsValue digits))

def basedInteger (letter : Char) (base : Nat) : Reader Int := do
  exactly ['0', letter]
  let digits ← digitGroups fun c => (hexDigit? c).any (· < base)
  given (integer? false (digits.foldl (fun n d => base * n + (hexDigit? d).getD 0) 0))

def integer : Reader Int :=
  basedInteger 'x' 16 <|> basedInteger 'o' 8 <|> basedInteger 'b' 2 <|> decimalInteger

def exponent : Reader Int := do
  let _ ← satisfying fun c => c == 'e' || c == 'E'
  let negative ← sign
  let digits ← digitGroups Char.isDigit
  let n : Int := digitsValue digits
  return if negative then -n else n

def places : Reader (List Char) := do
  let _ ← char '.'
  digitGroups Char.isDigit

/-- A number with a point or an exponent. One too great for a finite number is refused, unless it is
negative. -/
def decimalFloat : Reader Binary64 := do
  let negative ← sign
  let whole ← wholeDigits
  let (behind, power) ← (do
    let behind ← places
    return (behind, (← maybe exponent).getD 0)) <|> (do return ([], ← exponent))
  let x := Binary64.ofDecimal negative (whole ++ behind) (power - behind.length)
  if x = .infinite false then given none else return x

def namedFloat : Reader Binary64 := do
  let negative ← sign
  (do
    exactly "inf".toList
    return .infinite negative) <|> (do
    exactly "nan".toList
    return .notANumber)

def boolean : Reader Bool :=
  (do
    exactly "true".toList
    return true) <|> (do
    exactly "false".toList
    return false)

/-- A number of exactly `n` digits within bounds, as it was written. -/
def numeralBetween (n low high : Nat) : Reader (List Char) := do
  let digits ← count Char.isDigit n
  let value := digitsValue digits
  if low ≤ value && value ≤ high then return digits else given none

def isLeapYear (year : Nat) : Bool :=
  year % 4 == 0 && (year % 100 != 0 || year % 400 == 0)

def daysIn (year month : Nat) : Nat :=
  match month with
  | 2 => if isLeapYear year then 29 else 28
  | 4 | 6 | 9 | 11 => 30
  | _ => 31

def date : Reader (List Char) := do
  let year ← count Char.isDigit 4
  let _ ← char '-'
  let month ← numeralBetween 2 1 12
  let _ ← char '-'
  let day ← numeralBetween 2 1 31
  if digitsValue day ≤ daysIn (digitsValue year) (digitsValue month) then
    return year ++ ['-'] ++ month ++ ['-'] ++ day
  else given none

/-- The digits behind a second's point: the first nine, without zeros at the end. -/
def secondPlaces (digits : List Char) : List Char :=
  match ((digits.take 9).reverse.dropWhile (· == '0')).reverse with
  | [] => []
  | kept => '.' :: kept

def time (maxHour : Nat) : Reader (List Char) := do
  let hour ← numeralBetween 2 0 maxHour
  let _ ← char ':'
  let minute ← numeralBetween 2 0 59
  let _ ← char ':'
  let second ← numeralBetween 2 0 60
  let part ← maybe do
    let _ ← char '.'
    spanSome Char.isDigit
  return hour ++ [':'] ++ minute ++ [':'] ++ second ++ secondPlaces (part.getD [])

/-- The distance of a local time from the universal one. None has a minus sign. -/
def offset : Reader (List Char) :=
  (do
    let _ ← satisfying fun c => c == 'Z' || c == 'z'
    return ['Z']) <|> (do
    let mark ← satisfying fun c => c == '+' || c == '-'
    let hour ← numeralBetween 2 0 23
    let _ ← char ':'
    let minute ← numeralBetween 2 0 59
    let nothing := digitsValue hour == 0 && digitsValue minute == 0
    return (if nothing then '+' else mark) :: hour ++ [':'] ++ minute)

/-- A date, a time or both, in its usual spelling. -/
def dayAndTime (maxHour : Nat) (offset : Reader (List Char)) : Reader String := do
  let spelling ← (do
    let day ← date
    let rest ← maybe do
      let _ ← satisfying fun c => c == 'T' || c == 't' || c == ' '
      let time ← time maxHour
      return 'T' :: time ++ (← maybe offset).getD []
    return day ++ rest.getD []) <|> time maxHour
  return String.ofList spelling

def dateTime : Reader String := dayAndTime 23 offset

def twoDigits (n : Nat) : List Char :=
  if n < 10 then '0' :: numeral n else numeral n

/-- The distance from the universal time, at most a day. More than 59 minutes are hours too. -/
def spelledOffset : Reader (List Char) :=
  (do
    let _ ← satisfying fun c => c == 'Z' || c == 'z'
    return ['Z']) <|> (do
    let mark ← satisfying fun c => c == '+' || c == '-'
    let hour ← count Char.isDigit 2
    let _ ← char ':'
    let minute ← count Char.isDigit 2
    let distance := 60 * digitsValue hour + digitsValue minute
    if 24 * 60 < distance then given none
    else return (if distance == 0 then '+' else mark) ::
      twoDigits (distance / 60) ++ [':'] ++ twoDigits (distance % 60))

/-- The date, time or both that a string spells. There the end of a day may be its hour 24. -/
def spelledDateTime? (s : String) : Option String := do
  let (spelling, _) ← (do
    let spelling ← dayAndTime 24 spelledOffset
    finish
    return spelling : Reader String) s.toList
  return spelling

def scalar : Reader Value :=
  (do return .string (← string)) <|> (do return .dateTime (← dateTime)) <|>
    (do return .float (← decimalFloat)) <|> (do return .float (← namedFloat)) <|>
    (do return .integer (← integer)) <|> (do return .boolean (← boolean))

end DirectoryLogin.Toml
