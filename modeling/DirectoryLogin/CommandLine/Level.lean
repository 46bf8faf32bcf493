namespace DirectoryLogin.CommandLine

inductive FlagKind
  | value
  | switch
  | help
  | version
  deriving DecidableEq, Inhabited

structure Flag where
  long : String
  short : Option Char := none
  kind : FlagKind
  about : String
  valueName : String := ""
  emptyAllowed : Bool := true
  /-- The only values that are allowed, each with what it means; any value if there are none. -/
  choices : List (String × String) := []
  usual : Option String := none
  environment : Option String := none
  /-- The value of the environment variable is not shown. -/
  secret : Bool := false

namespace Flag

def accepts (f : Flag) (value : String) : Bool :=
  (f.emptyAllowed || value != "") && (f.choices.isEmpty || f.choices.any (·.1 == value))

end Flag

/-- A level: its flags, the words that must follow, and the commands that may follow. -/
structure Level where
  /-- The name of the command; the first level has none. -/
  name : Option String
  about : String
  flags : List Flag := []
  words : List (String × String) := []
  commands : List (String × String) := []

namespace Level

def helpFlag : Flag :=
  { long := "help", short := some 'h', kind := .help, about := "Print help" }

def versionFlag : Flag :=
  { long := "version", short := some 'V', kind := .version, about := "Print version" }

def login : String × String := ("LOGIN", "User login")

def check : Level :=
  { name := some "check", flags := [helpFlag, versionFlag]
    about := "Lists the resolved servers and tests a bind connection to each" }

def auth : Level :=
  { name := some "auth", about := "Checks a user's password", words := [login]
    flags := [
      { long := "password", kind := .value, valueName := "PASSWORD"
        about := "Password; read from stdin when absent"
        environment := some "LDAP_REALM_PASSWORD", secret := true },
      helpFlag, versionFlag] }

def user : Level :=
  { name := some "user", about := "Prints a user's name and email", words := [login]
    flags := [helpFlag, versionFlag] }

def groups : Level :=
  { name := some "groups", about := "Prints a user's groups", words := [login]
    flags := [helpFlag, versionFlag] }

def all : List Level := [check, auth, user, groups]

def help : Level :=
  { name := some "help", about := "Print this message or the help of the given subcommand(s)" }

def first : Level :=
  { name := none, about := "Command-line checks for ldap-realm configurations"
    flags := [
      { long := "config", short := some 'c', kind := .value, valueName := "CONFIG"
        about := "Settings file, `.properties` or `.toml`", emptyAllowed := false
        usual := some "ldap.properties", environment := some "LDAP_REALM_CONFIG" },
      { long := "output", short := some 'o', kind := .value, valueName := "OUTPUT"
        about := "Output format", usual := some "text"
        choices := [("text", "Human-readable output"), ("json", "JSON output")] },
      { long := "verbose", short := some 'v', kind := .switch, about := "Enable verbose output" },
      helpFlag, versionFlag]
    commands := (all ++ [help]).map fun level => (level.name.getD "", level.about) }

def named? (name : String) : Option Level :=
  all.find? (·.name == some name)

end Level

end DirectoryLogin.CommandLine
