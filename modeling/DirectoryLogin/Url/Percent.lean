import DirectoryLogin.Text.Numeral
import DirectoryLogin.Text.Utf8

namespace DirectoryLogin.Url

open DirectoryLogin.Text

def upperHexDigit (n : Nat) : Char :=
  if n < 10 then Char.ofNat ('0'.toNat + n) else Char.ofNat ('A'.toNat + (n - 10))

def percentByte (b : UInt8) : List Char :=
  ['%', upperHexDigit (b.toNat / 16), upperHexDigit (b.toNat % 16)]

/-- A text in which the characters that `mustEncode` accepts, and all outside ASCII, are encoded. -/
def percentEncode (mustEncode : Char → Bool) (cs : List Char) : List Char :=
  cs.flatMap fun c =>
    if c.toNat < 0x80 && !mustEncode c then [c]
    else (String.utf8EncodeChar c).flatMap percentByte

def percentDecode : List Char → List UInt8
  | [] => []
  | '%' :: a :: b :: rest =>
    match hexDigit? a, hexDigit? b with
    | some high, some low => (16 * high + low).toUInt8 :: percentDecode rest
    | _, _ => 0x25 :: percentDecode (a :: b :: rest)
  | c :: rest => String.utf8EncodeChar c ++ percentDecode rest

def isControl (c : Char) : Bool :=
  c.toNat < 0x20 || c.toNat == 0x7F

def isEncodedInPath (c : Char) : Bool :=
  isControl c || [' ', '"', '#', '<', '>', '?', '`', '{', '}'].contains c

end DirectoryLogin.Url
