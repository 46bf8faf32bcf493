import DirectoryLogin.Decimal.Binary64

namespace DirectoryLogin

namespace Toml

/-- A value. The members of a table are in ascending order of their keys, each of which occurs once. -/
inductive Value
  | string (s : String)
  | integer (n : Int)
  | float (x : Binary64)
  | boolean (b : Bool)
  /-- A date, a time or both, in its usual spelling. -/
  | dateTime (spelling : String)
  | array (items : List Value)
  | table (members : List (String × Value))
  deriving Inhabited

/-- The name that is kept for the only member of a table that shows a date or time. -/
def Value.dateTimeKey : String := "$__toml_private_datetime"

end Toml

end DirectoryLogin
