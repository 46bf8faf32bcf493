import DirectoryLogin.Text.Numeral

namespace DirectoryLogin.Text

/-- The decimal digits behind the point of a number of thousandths, without zeros at the end. -/
def thousandths (n : Nat) : List Char :=
  let digits := [n / 100 % 10, n / 10 % 10, n % 10]
  ((digits.reverse.dropWhile (· == 0)).reverse).flatMap numeral

def duration (millis : Nat) : String :=
  if millis = 0 then "0ns"
  else if millis < 1000 then String.ofList (numeral millis) ++ "ms"
  else
    let part := thousandths (millis % 1000)
    String.ofList (numeral (millis / 1000) ++ (if part.isEmpty then [] else '.' :: part)) ++ "s"

end DirectoryLogin.Text
