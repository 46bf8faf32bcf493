import DirectoryLogin.Url.Percent
import DirectoryLogin.Text.Ascii
import DirectoryLogin.Text.Split

namespace DirectoryLogin.Url

open DirectoryLogin.Text

def isSingleDot (segment : List Char) : Bool :=
  [".", "%2e"].contains (String.ofList (segment.map Char.toLower))

def isDoubleDot (segment : List Char) : Bool :=
  ["..", "%2e.", ".%2e", "%2e%2e"].contains (String.ofList (segment.map Char.toLower))

/-- A letter with a colon or a bar after it, which names a drive in a file URL. -/
def isDriveLetter (segment : List Char) : Bool :=
  match segment with
  | [letter, mark] => letter.isAlpha && (mark == ':' || mark == '|')
  | _ => false

/-- Takes the newest segment away; a drive letter at the root of a file URL stays. -/
def shorten (isFile : Bool) (path : List (List Char)) : List (List Char) :=
  match path with
  | [root] => if isFile && isDriveLetter root then path else []
  | _ => path.tail

/-- Puts the segments one after the other, newest first in the result. Whatever the last segment is,
a path that it leaves open ends in an empty segment. -/
def placeSegments (isFile : Bool) (path : List (List Char)) :
    List (List Char) → List (List Char)
  | [] => path
  | segment :: rest =>
    let last := rest.isEmpty
    let path :=
      if isDoubleDot segment then
        let shorter := shorten isFile path
        if last then [] :: shorter else shorter
      else if isSingleDot segment then
        if last then [] :: path else path
      else if isFile && path.isEmpty && isDriveLetter segment then
        [segment.take 1 ++ [':']]
      else percentEncode isEncodedInPath segment :: path
    placeSegments isFile path rest

def readPath (isSlash : Char → Bool) (isFile : Bool) (cs : List Char) : List Char :=
  let segments := pieces isSlash cs
  ((placeSegments isFile [] segments).reverse).flatMap fun segment => '/' :: segment

end DirectoryLogin.Url
