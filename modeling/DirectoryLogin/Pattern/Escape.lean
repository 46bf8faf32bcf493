import DirectoryLogin.Pattern.Flags
import DirectoryLogin.Pattern.Look
import DirectoryLogin.Pattern.Property

namespace DirectoryLogin.Pattern

open DirectoryLogin.Text

/-- What one element of a pattern says before it becomes part of a sequence or a class. -/
inductive Atom
  /-- A character; `isByte` if it was written as a byte in two hexadecimal digits. -/
  | literal (c : Char) (isByte : Bool)
  | set (accepted : CharSet)
  | look (condition : Look)

def scalar? (n : Nat) : Option Char :=
  if n < 0xD800 || (0xDFFF < n && n < 0x110000) then some (Char.ofNat n) else none

def readHexDigits (f : Flags) : Nat → Nat → List Char → Except ReadError (Nat × List Char)
  | 0, value, cs => .ok (value, cs)
  | count + 1, value, c :: rest =>
    match hexDigit? c with
    | some d => readHexDigits f count (16 * value + d) (f.skip rest)
    | none => .error .badEscape
  | _ + 1, _, [] => .error .badEscape

def readBracedHex (f : Flags) (fuel : Nat) (digits : List Nat) (cs : List Char) :
    Except ReadError (Nat × List Char) :=
  match fuel, cs with
  | _, '}' :: rest =>
    if digits.isEmpty then .error .badEscape
    else .ok (digits.foldr (fun d n => 16 * n + d) 0, f.skip rest)
  | fuel + 1, c :: rest =>
    match hexDigit? c with
    | some d => readBracedHex f fuel (d :: digits) (f.skip rest)
    | none => .error .badEscape
  | _, _ => .error .badEscape

def readHex (f : Flags) (count : Nat) (cs : List Char) : Except ReadError (Atom × List Char) := do
  let (value, rest, braced) ← match f.skip cs with
    | '{' :: inner => do
      let (value, rest) ← readBracedHex f inner.length [] (f.skip inner)
      pure (value, rest, true)
    | digits => do
      let (value, rest) ← readHexDigits f count 0 digits
      pure (value, rest, false)
  match scalar? value with
  | some c => return (.literal c (!braced && count == 2), rest)
  | none => throw .badEscape

def readPropertyName (f : Flags) : Nat → List Char → List Char →
    Except ReadError (List Char × List Char)
  | _, name, '}' :: rest => .ok (name.reverse, rest)
  | fuel + 1, name, c :: rest => readPropertyName f fuel (c :: name) (f.skip rest)
  | _, _, _ => .error .badEscape

def cutAtUnequal : List Char → Option (List Char × List Char)
  | [] => none
  | '!' :: '=' :: rest => some ([], rest)
  | c :: rest => (cutAtUnequal rest).map fun (before, after) => (c :: before, after)

def readProperty (f : Flags) (negated : Bool) (cs : List Char) :
    Except ReadError (Atom × List Char) := do
  let (accepted, negated, rest) ← match f.skip cs with
    | [] => throw .badEscape
    | '{' :: inner => do
      let (name, rest) ← readPropertyName f inner.length [] (f.skip inner)
      let (found, unequal) := match cutAtUnequal name with
        | some (key, value) => (Property.ofNameAndValue? key value, true)
        | none =>
          match (cutAt (· == ':') name).or (cutAt (· == '=') name) with
          | some (key, value) => (Property.ofNameAndValue? key value, false)
          | none => (Property.ofName? name, false)
      match found with
      | some accepted => pure (accepted, negated != unequal, rest)
      | none => throw .unknownProperty
    | '\\' :: _ => throw .badEscape
    | c :: rest =>
      match Property.ofName? [c] with
      | some accepted => pure (accepted, negated, f.skip rest)
      | none => throw .unknownProperty
  if !f.unicode then throw .notUtf8
  return (.set (← foldAndNegate f negated accepted), rest)

/-- The characters that a backslash keeps from having a meaning. -/
def isEscapable (c : Char) : Bool :=
  c.toNat < 0x80 && !c.isAlphanum && c != '<' && c != '>'

/-- Reads the name in `\b\x7bstart\x7d`; without a letter after the brace there is none. -/
def readWordEdge (f : Flags) (cs : List Char) :
    Except ReadError (Option (WordEdge × List Char)) :=
  let isNameCharacter := fun c : Char => c.isAlpha || c == '-'
  match f.skip cs with
  | [] => .error .badCount
  | c :: rest =>
    if !isNameCharacter c then .ok none
    else
      let rec name (fuel : Nat) (found : List Char) (cs : List Char) : List Char × List Char :=
        match fuel, cs with
        | fuel + 1, c :: rest =>
          if isNameCharacter c then name fuel (c :: found) (f.skip rest) else (found.reverse, cs)
        | _, _ => (found.reverse, cs)
      match name (rest.length + 1) [] (c :: rest) with
      | (found, '}' :: after) =>
        match String.ofList found with
        | "start" => .ok (some (.start, after))
        | "end" => .ok (some (.finish, after))
        | "start-half" => .ok (some (.startHalf, after))
        | "end-half" => .ok (some (.finishHalf, after))
        | _ => .error .badEscape
      | _ => .error .badEscape

def shorthand (f : Flags) (ofUnicode ofAscii : CharSet) (rest : List Char) :
    Except ReadError (Atom × List Char) :=
  .ok (.set (if f.unicode then ofUnicode else ofAscii), rest)

/-- The opposite of such a class, which must not let broken UTF-8 in. -/
def shorthandOpposite (f : Flags) (ofUnicode : CharSet) (rest : List Char) :
    Except ReadError (Atom × List Char) :=
  if f.unicode then .ok (.set ofUnicode.complement, rest) else .error .notUtf8

def readEscape (f : Flags) (cs : List Char) : Except ReadError (Atom × List Char) :=
  match cs with
  | [] => .error .badEscape
  | 'x' :: rest => readHex f 2 rest
  | 'u' :: rest => readHex f 4 rest
  | 'U' :: rest => readHex f 8 rest
  | 'p' :: rest => readProperty f false rest
  | 'P' :: rest => readProperty f true rest
  | 'd' :: rest => shorthand f CharSet.unicodeDigit asciiDigit rest
  | 'D' :: rest => shorthandOpposite f CharSet.unicodeDigit rest
  | 's' :: rest => shorthand f CharSet.unicodeSpace asciiSpace rest
  | 'S' :: rest => shorthandOpposite f CharSet.unicodeSpace rest
  | 'w' :: rest => shorthand f CharSet.unicodeWord asciiWord rest
  | 'W' :: rest => shorthandOpposite f CharSet.unicodeWord rest
  | 'a' :: rest => .ok (.literal '\x07' false, rest)
  | 'f' :: rest => .ok (.literal '\x0c' false, rest)
  | 't' :: rest => .ok (.literal '\t' false, rest)
  | 'n' :: rest => .ok (.literal '\n' false, rest)
  | 'r' :: rest => .ok (.literal '\r' false, rest)
  | 'v' :: rest => .ok (.literal '\x0b' false, rest)
  | 'A' :: rest => .ok (.look .textStart, rest)
  | 'z' :: rest => .ok (.look .textFinish, rest)
  | 'B' :: rest => .ok (.look (.word f.unicode .noBoundary), rest)
  | '<' :: rest => .ok (.look (.word f.unicode .start), rest)
  | '>' :: rest => .ok (.look (.word f.unicode .finish), rest)
  | 'b' :: '{' :: rest => do
    match ← readWordEdge f rest with
    | some (edge, after) => return (.look (.word f.unicode edge), after)
    | none => return (.look (.word f.unicode .boundary), '{' :: rest)
  | 'b' :: rest => .ok (.look (.word f.unicode .boundary), rest)
  | c :: rest => if isEscapable c then .ok (.literal c false, rest) else .error .badEscape

end DirectoryLogin.Pattern
