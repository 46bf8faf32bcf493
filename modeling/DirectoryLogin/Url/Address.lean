import DirectoryLogin.Text.Numeral
import DirectoryLogin.Text.Split

namespace DirectoryLogin.Url

open DirectoryLogin.Text

/-- The value of digits in a base, if all of them are digits of it. -/
def valueIn (base : Nat) (digits : List Char) : Option Nat :=
  digits.foldlM (fun n c => do
    let d ← hexDigit? c
    if d < base then some (base * n + d) else none) 0

/-- One number of an IPv4 address: octal after a zero, hexadecimal after `0x`. -/
def ipv4Number (part : List Char) : Option Nat :=
  match part with
  | [] => none
  | '0' :: 'x' :: digits | '0' :: 'X' :: digits => valueIn 16 digits
  | ['0'] => some 0
  | '0' :: digits => valueIn 8 digits
  | digits => valueIn 10 digits

/-- The parts between dots, without an empty one at the end. -/
def dottedParts (host : List Char) : List (List Char) :=
  let parts := pieces (· == '.') host
  if parts.getLast? = some [] then parts.dropLast else parts

/-- A host whose last part is a number is meant as an IPv4 address. -/
def endsInNumber (host : List Char) : Bool :=
  let parts := pieces (· == '.') host
  if parts.length == 1 && host.isEmpty then false
  else match (dottedParts host).getLast? with
    | some part => (!part.isEmpty && part.all Char.isDigit) || (ipv4Number part).isSome
    | none => false

/-- Reads an IPv4 address; the last number fills the bytes that the others leave. -/
def ipv4? (host : List Char) : Option Nat := do
  let parts := dottedParts host
  if 4 < parts.length then none
  let numbers ← parts.mapM ipv4Number
  let last ← numbers.getLast?
  let leading := numbers.dropLast
  let bound := Nat.pow 256 (4 - leading.length)
  if bound ≤ last then none
  if leading.any (255 < ·) then none
  let high := leading.foldl (fun n byte => 256 * n + byte) 0
  return high * bound + last

def ipv4Text (address : Nat) : List Char :=
  numeral (address / 0x1000000 % 256) ++ '.' :: numeral (address / 0x10000 % 256) ++
    '.' :: numeral (address / 0x100 % 256) ++ '.' :: numeral (address % 256)

/-- A decimal number of one to three digits without leading zeros, at most 255. -/
def ipv4Byte (part : List Char) : Option Nat :=
  if part.isEmpty || 3 < part.length || !part.all Char.isDigit then none
  else if part.head? == some '0' && part.length != 1 then none
  else if digitsValue part ≤ 255 then some (digitsValue part) else none

/-- The two last pieces of an IPv6 address, written as an IPv4 address. -/
def ipv4Pieces (cs : List Char) : Option (List Nat) := do
  match ← (pieces (· == '.') cs).mapM ipv4Byte with
  | [a, b, c, d] => return [256 * a + b, 256 * c + d]
  | _ => none

/-- Reads pieces of an IPv6 address. `found` are the pieces so far, newest first; a gap counts as a
piece of its own, and `gap` tells how many pieces there were with it. -/
def ipv6Pieces (fuel : Nat) (found : List Nat) (gap : Option Nat) (cs : List Char) :
    Option (List Nat × Option Nat) :=
  match fuel, cs with
  | _, [] => some (found.reverse, gap)
  | 0, _ => none
  | fuel + 1, ':' :: rest =>
    if found.length = 8 || gap.isSome then none
    else ipv6Pieces fuel (0 :: found) (some (found.length + 1)) rest
  | fuel + 1, cs =>
    if found.length = 8 then none
    else
      let digits := (cs.takeWhile fun c => (hexDigit? c).isSome).take 4
      let value := (valueIn 16 digits).getD 0
      match cs.drop digits.length with
      | [] => some ((value :: found).reverse, gap)
      | ':' :: [] => none
      | ':' :: rest => ipv6Pieces fuel (value :: found) gap rest
      | '.' :: _ =>
        if digits.isEmpty || 6 < found.length then none
        else (ipv4Pieces cs).map fun two => (found.reverse ++ two, gap)
      | _ => none

def ipv6? (cs : List Char) : Option (List Nat) := do
  let (found, gap) ← match cs with
    | ':' :: ':' :: rest => ipv6Pieces cs.length [0] (some 1) rest
    | ':' :: _ => none
    | _ => ipv6Pieces cs.length [] none cs
  match gap with
  | some k => return found.take k ++ List.replicate (8 - found.length) 0 ++ found.drop k
  | none => if found.length = 8 then some found else none

def zeroRun (address : List Nat) : Nat :=
  (address.takeWhile (· == 0)).length

/-- Where the longest row of zeros starts, the first of several, and its length. -/
def longestZeroRun (start : Nat) : List Nat → Nat × Nat
  | [] => (start, 0)
  | n :: rest =>
    let here := zeroRun (n :: rest)
    let later := longestZeroRun (start + 1) rest
    if later.2 ≤ here then (start, here) else later

def colonText (address : List Nat) : List Char :=
  List.intercalate [':'] (address.map hexNumeral)

/-- An IPv6 address with its longest row of two or more zeros left out. -/
def ipv6Text (address : List Nat) : List Char :=
  let (start, count) := longestZeroRun 0 address
  if count < 2 then colonText address
  else colonText (address.take start) ++ [':', ':'] ++ colonText (address.drop (start + count))

end DirectoryLogin.Url
