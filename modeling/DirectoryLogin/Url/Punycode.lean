import DirectoryLogin.Text.Numeral

namespace DirectoryLogin.Url

/-- How the thresholds adapt after a number `delta` for one of `points` places. -/
def adaptBias (delta points : Nat) (first : Bool) : Nat :=
  let start := if first then delta / 700 else delta / 2
  let rec settle (fuel delta k : Nat) : Nat :=
    match fuel with
    | fuel + 1 => if 455 < delta then settle fuel (delta / 35) (k + 36) else k + 36 * delta / (delta + 38)
    | 0 => k
  settle 64 (start + start / points) 0

def threshold (k bias : Nat) : Nat :=
  if k ≤ bias then 1 else if bias + 26 ≤ k then 26 else k - bias

def punyDigit (n : Nat) : Char :=
  if n < 26 then Char.ofNat ('a'.toNat + n) else Char.ofNat ('0'.toNat + (n - 26))

def punyValue? (c : Char) : Option Nat :=
  if 'a' ≤ c && c ≤ 'z' then some (c.toNat - 'a'.toNat)
  else if 'A' ≤ c && c ≤ 'Z' then some (c.toNat - 'A'.toNat)
  else if c.isDigit then some (c.toNat - '0'.toNat + 26)
  else none

def writeVariable (fuel q k bias : Nat) : List Char :=
  match fuel with
  | 0 => []
  | fuel + 1 =>
    let t := threshold k bias
    if q < t then [punyDigit q]
    else punyDigit (t + (q - t) % (36 - t)) ::
      writeVariable fuel ((q - t) / (36 - t)) (k + 36) bias

/-- One pass over the label: a number for each occurrence of the code point `n`. -/
def encodePass (n : Nat) (label : List Char) (delta handled basic bias : Nat) :
    List Char × Nat × Nat × Nat :=
  label.foldl (fun (out, delta, handled, bias) c =>
    if c.toNat < n then (out, delta + 1, handled, bias)
    else if c.toNat = n then
      (out ++ writeVariable 64 delta 36 bias, 0, handled + 1,
        adaptBias delta (handled + 1) (handled == basic))
    else (out, delta, handled, bias)) ([], delta, handled, bias)

/-- Numbers for all characters from the code point `n` on. -/
def encodeFrom (fuel n delta handled basic bias : Nat) (label : List Char) : List Char :=
  match fuel with
  | 0 => []
  | fuel + 1 =>
    match (label.filter (n ≤ ·.toNat)).map (·.toNat) with
    | [] => []
    | first :: others =>
      let m := others.foldl min first
      let (out, delta, handled, bias) :=
        encodePass m label (delta + (m - n) * (handled + 1)) handled basic bias
      out ++ encodeFrom fuel (m + 1) (delta + 1) handled basic bias label

def punyEncode (label : List Char) : List Char :=
  let basic := label.filter (·.toNat < 0x80)
  basic ++ (if basic.isEmpty then [] else ['-']) ++
    encodeFrom (label.length + 1) 0x80 0 basic.length basic.length 72 label

def readVariable (bias : Nat) : Nat → Nat → Nat → List Char → Option (Nat × List Char)
  | _, _, _, [] => none
  | k, weight, sum, c :: rest => do
    let digit ← punyValue? c
    let sum := sum + digit * weight
    if Nat.pow 2 32 ≤ sum then none
    let t := threshold k bias
    if digit < t then return (sum, rest)
    readVariable bias (k + 36) (weight * (36 - t)) sum rest

/-- Puts characters into the label, each where its number says. -/
def decodeFrom (fuel n place bias : Nat) (first : Bool) (label cs : List Char) :
    Option (List Char) :=
  match fuel, cs with
  | _, [] => some label
  | 0, _ => none
  | fuel + 1, cs => do
    let (delta, rest) ← readVariable bias 36 1 0 cs
    let size := label.length + 1
    let n := n + (place + delta) / size
    let here := (place + delta) % size
    if 0x10FFFF < n || (0xD800 ≤ n && n < 0xE000) then none
    decodeFrom fuel n (here + 1) (adaptBias delta size first) false
      (label.take here ++ Char.ofNat n :: label.drop here) rest

/-- The label that Punycode stands for. No hyphen ends an empty row of ASCII characters. -/
def punyDecode (cs : List Char) : Option (List Char) :=
  let tail := (cs.reverse.takeWhile (· != '-')).reverse
  let basic := (cs.take (cs.length - tail.length)).dropLast
  if basic.isEmpty && tail.length < cs.length then none
  else decodeFrom (cs.length + 1) 0x80 0 72 true basic tail

end DirectoryLogin.Url
