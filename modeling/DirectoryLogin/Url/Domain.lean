import DirectoryLogin.Unicode.Direction
import DirectoryLogin.Unicode.Joining
import DirectoryLogin.Unicode.Normalization
import DirectoryLogin.Url.DomainMapping
import DirectoryLogin.Url.Punycode

namespace DirectoryLogin.Url

open DirectoryLogin.Text DirectoryLogin.Unicode

/-- The ASCII characters that no domain name may have. -/
def isForbiddenInDomain (c : Char) : Bool :=
  c.toNat ≤ 0x20 || c.toNat == 0x7F ||
    ['%', '#', '/', ':', '<', '>', '?', '@', '[', '\\', ']', '^', '|'].contains c

def mapped? (text : List Char) : Option (List Char) := do
  let codes ← text.mapM fun c => mappedForDomain? c.toNat
  let composed := (normalized codes.flatten).map Char.ofNat
  if composed.any isForbiddenInDomain then none else some composed

structure Label where
  shown : List Char
  spelled : List Char

def punyPrefix : List Char := ['x', 'n', '-', '-']

def maxShown : Nat := 1000

/-- The most characters of a label in Punycode, without what begins it. -/
def maxSpelled : Nat := 2000

def isAscii (cs : List Char) : Bool :=
  cs.all (·.toNat < 0x80)

namespace Label

/-- The label that characters write. What Punycode stands for must not change when it is mapped. -/
def ofText? (cs : List Char) : Option Label :=
  match cs with
  | 'x' :: 'n' :: '-' :: '-' :: code => do
    if !isAscii code || cs.getLast? = some '-' || maxSpelled < code.length then none
    let shown ← punyDecode code
    if shown.contains '.' || (← mapped? shown) != shown then none
    return ⟨shown, cs⟩
  | _ => some ⟨cs, if isAscii cs then cs else punyPrefix ++ punyEncode cs⟩

/-- Whether letters that join on one side come next, perhaps after marks. -/
def joins (side : Joining) : List Nat → Bool
  | [] => false
  | n :: rest =>
    joining n == side || joining n == .both || (joining n == .transparent && joins side rest)

/-- Whether the joiners in a label stand where they show: after a mark that takes the vowel away, or, if
they part letters, between two that would join. `before` is what stands before, latest first. -/
def joinersFit (before : List Nat) : List Nat → Bool
  | [] => true
  | n :: rest =>
    (n != 0x200C && n != 0x200D ||
      (match before with
        | [] => false
        | last :: _ => combiningClass last == 9 ||
          (n == 0x200C && joins .left before && joins .right rest))) &&
    joinersFit (n :: before) rest

/-- The directions that may end a label in the direction of its first character. -/
def canEnd (first last : Direction) : Bool :=
  if first = .leftToRight then last == .leftToRight || last == .europeanNumber
  else [.rightToLeft, .arabicLetter, .europeanNumber, .arabicNumber].contains last

/-- The directions that may stand in a label in the direction of its first character. -/
def canStand (first d : Direction) : Bool :=
  [.europeanNumber, .europeanSeparator, .commonSeparator, .europeanTerminator, .neutral, .boundary,
    .mark].contains d ||
  if first = .leftToRight then d == .leftToRight
  else [.rightToLeft, .arabicLetter, .arabicNumber].contains d

/-- Whether a label keeps to one direction, and to one kind of numbers from right to left. -/
def keepsDirection (label : Label) : Bool :=
  match label.shown.map fun c => direction c.toNat with
  | [] => true
  | first :: rest =>
    let rest := (rest.reverse.dropWhile (· == .mark)).reverse
    [.leftToRight, .rightToLeft, .arabicLetter].contains first &&
      rest.getLast?.all (canEnd first) && rest.all (canStand first) &&
      (first == .leftToRight || !(rest.contains .europeanNumber && rest.contains .arabicNumber))

def isValid (label : Label) : Bool :=
  let codes := label.shown.map Char.toNat
  (isAscii label.shown || label.shown.length ≤ maxShown) &&
    !(codes.head?.any fun n => ["Mn", "Mc", "Me"].contains (category n)) && joinersFit [] codes

end Label

/-- Characters from right to left, which bring their rules to all labels of a domain name. -/
def runsLeft (c : Char) : Bool :=
  [.rightToLeft, .arabicLetter, .arabicNumber].contains (direction c.toNat)

/-- The form of a domain name in ASCII. -/
def domainToAscii? (domain : List Char) : Option (List Char) := do
  let text ← mapped? domain
  let labels ← (pieces (· == '.') text).mapM Label.ofText?
  if !labels.all (·.isValid) then none
  if labels.any (·.shown.any runsLeft) && !labels.all (·.keepsDirection) then none
  return List.intercalate ['.'] (labels.map (·.spelled))

end DirectoryLogin.Url
