namespace DirectoryLogin.Text

def lowerCase (s : String) : String :=
  String.ofList (s.toList.map Char.toLower)

def upperCase (s : String) : String :=
  String.ofList (s.toList.map Char.toUpper)

/-- Equality up to the case of ASCII letters. -/
def sameLetters (s t : String) : Bool :=
  s.toList.map Char.toLower == t.toList.map Char.toLower

def endsIn (s t : String) : Bool :=
  t.toList.isSuffixOf s.toList

def startsWith (s t : String) : Bool :=
  t.toList.isPrefixOf s.toList

end DirectoryLogin.Text
