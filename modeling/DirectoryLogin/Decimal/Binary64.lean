import DirectoryLogin.Text.Numeral

namespace DirectoryLogin

open Text

/-- A floating-point number. A finite one is `significand * 2 ^ exponent` up to its sign. -/
inductive Binary64
  | finite (negative : Bool) (significand : Nat) (exponent : Int)
  | infinite (negative : Bool)
  | notANumber
  deriving DecidableEq, Inhabited, Repr

namespace Binary64

def precision : Nat := 53

def minExponent : Int := -1074

def maxExponent : Int := 971

/-- The quotient of two numbers, rounded to the nearest integer; a half goes to the even one. -/
def roundDiv (n d : Nat) : Nat :=
  let q := n / d
  let twice := 2 * (n % d)
  if twice < d then q
  else if d < twice then q + 1
  else q + q % 2

def scaled (n d : Nat) (exponent : Int) : Nat × Nat :=
  if 0 ≤ exponent then (n, d * Nat.pow 2 exponent.toNat) else (n * Nat.pow 2 (-exponent).toNat, d)

/-- The finite number nearest to a positive fraction, if there is one. -/
def nearest (negative : Bool) (n d : Nat) : Binary64 :=
  let low := max ((n.log2 : Int) - d.log2 - precision) minExponent
  let (a, b) := scaled n d low
  let exponent := if a / b < Nat.pow 2 precision then low else low + 1
  let (a, b) := scaled n d exponent
  let significand := roundDiv a b
  let (significand, exponent) :=
    if significand = Nat.pow 2 precision then (Nat.pow 2 (precision - 1), exponent + 1)
    else (significand, exponent)
  if exponent ≤ maxExponent then finite negative significand exponent else infinite negative

/-- The number nearest to a decimal `digits * 10 ^ exponent`. Decimals far beyond the range need not
be written out. -/
def ofDecimal (negative : Bool) (digits : List Char) (exponent : Int) : Binary64 :=
  let digits := digits.dropWhile (· == '0')
  let magnitude := (digits.length : Int) + exponent
  if digits.isEmpty || magnitude < -400 then finite negative 0 minExponent
  else if 400 < magnitude then infinite negative
  else
    let n := digitsValue digits
    if 0 ≤ exponent then nearest negative (n * Nat.pow 10 exponent.toNat) 1
    else nearest negative n (Nat.pow 10 (-exponent).toNat)

def fraction (significand : Nat) (exponent : Int) : Nat × Nat :=
  if 0 ≤ exponent then (significand * Nat.pow 2 exponent.toNat, 1)
  else (significand, Nat.pow 2 (-exponent).toNat)

/-- Whether a fraction lies among the numbers that have the given one for their nearest. -/
def roundsTo (significand : Nat) (exponent : Int) (n d : Nat) : Bool :=
  let below := if significand = Nat.pow 2 (precision - 1) ∧ minExponent < exponent then 1 else 2
  let (a, b) := scaled n d (exponent - 2)
  let low := (4 * significand - below) * b
  let high := (4 * significand + 2) * b
  if significand % 2 = 0 then low ≤ a && a ≤ high else low < a && a < high

def decimal (n : Nat) (exponent : Int) : Nat × Nat :=
  if 0 ≤ exponent then (n * Nat.pow 10 exponent.toNat, 1) else (n, Nat.pow 10 (-exponent).toNat)

/-- The neighbour of a number on the grid of multiples of a power of ten that rounds to it, if one
does: the nearer one of two, and the greater one of two that are equally near. -/
def onGrid (significand : Nat) (exponent : Int) (grid : Int) : Option Nat :=
  let (n, d) := fraction significand exponent
  let (a, b) := if 0 ≤ grid then (n, d * Nat.pow 10 grid.toNat) else (n * Nat.pow 10 (-grid).toNat, d)
  let below := a / b
  let fits := fun k =>
    let (x, y) := decimal k grid
    roundsTo significand exponent x y
  match fits below, fits (below + 1) with
  | true, true => some (if 2 * (a % b) < b then below else below + 1)
  | true, false => some below
  | false, true => some (below + 1)
  | false, false => none

def firstGrid (significand : Nat) (exponent : Int) : Nat → Int → Nat × Int
  | 0, grid => (0, grid)
  | fuel + 1, grid =>
    match onGrid significand exponent grid with
    | some k => (k, grid)
    | none => firstGrid significand exponent fuel (grid - 1)

/-- The shortest decimal that rounds to a positive finite number, with its power of ten. Seventeen
digits are always enough. -/
def shortest (significand : Nat) (exponent : Int) : Nat × Int :=
  let (n, d) := fraction significand exponent
  let size := (numeral (n / d)).length
  let top : Int := if n < d then (numeral n).length - (numeral d).length + 1 else size
  firstGrid significand exponent 24 top

/-- A decimal written out without an exponent, and with at least one digit behind the point. -/
def positional (n : Nat) (exponent : Int) : List Char :=
  let digits := numeral n
  if 0 ≤ exponent then digits ++ List.replicate exponent.toNat '0' ++ ['.', '0']
  else
    let places := (-exponent).toNat
    let padded := List.replicate (places + 1 - digits.length) '0' ++ digits
    padded.take (padded.length - places) ++ '.' :: padded.drop (padded.length - places)

def text : Binary64 → String
  | notANumber => "nan"
  | infinite negative => if negative then "-inf" else "inf"
  | finite negative significand exponent =>
    let digits :=
      if significand = 0 then ['0', '.', '0']
      else
        let (n, power) := shortest significand exponent
        positional n power
    String.ofList (if negative then '-' :: digits else digits)

end Binary64

end DirectoryLogin
