import DirectoryLogin.CommandLine.Level
import DirectoryLogin.Text.Split

namespace DirectoryLogin.CommandLine

inductive UsageError
  | nothing
  | missingCommand
  | unknownCommand (name : String)
  | unknownArgument (argument : String)
  | missingWord (name : String)
  | badValue (flag : String)
  /-- A flag stands twice. -/
  | repeated (flag : String)
  /-- A flag without a value has one. -/
  | unneededValue (flag : String)
  deriving DecidableEq, Inhabited

namespace UsageError

def message : UsageError → String
  | nothing => "a subcommand is required"
  | missingCommand => "a subcommand is required"
  | unknownCommand name => s!"unrecognized subcommand '{name}'"
  | unknownArgument argument => s!"unexpected argument '{argument}' found"
  | missingWord name => s!"the required argument <{name}> was not provided"
  | badValue flag => s!"invalid or missing value for '--{flag}'"
  | repeated flag => s!"the argument '--{flag}' cannot be used multiple times"
  | unneededValue flag => s!"unexpected value for '--{flag}' found; no more were expected"

end UsageError

/-- Why there is nothing to run. -/
inductive Stop
  /-- Help about the program or one of its commands is asked for, at length if possible. -/
  | help (command : Option String) (atLength : Bool)
  | version (command : Option String)
  | usage (e : UsageError)
  deriving DecidableEq, Inhabited

/-- The arguments of a level as far as they were read. -/
structure Scan where
  /-- The values of flags by their long names. -/
  values : List (String × String) := []
  /-- A flag that waits for its value, or has one that was not looked at yet. -/
  waiting : Option (Flag × Option String) := none
  words : List String := []

namespace Scan

def value? (s : Scan) (flag : String) : Option String :=
  (s.values.find? (·.1 == flag)).map (·.2)

/-- Gives a flag its value, which it must accept. -/
def record (s : Scan) (flag : Flag) (value : String) : Except Stop Scan :=
  if (s.value? flag.long).isSome then .error (.usage (.repeated flag.long))
  else if flag.accepts value then .ok { s with values := s.values ++ [(flag.long, value)] }
  else .error (.usage (.badValue flag.long))

def settle (s : Scan) : Except Stop Scan :=
  match s.waiting with
  | none => .ok s
  | some (flag, none) => .error (.usage (.badValue flag.long))
  | some (flag, some value) => record { s with waiting := none } flag value

def attach (s : Scan) (flag : Flag) (value : String) : Except Stop Scan := do
  record (← s.settle) flag value

def await (s : Scan) (flag : Flag) : Except Stop Scan := do
  return { ← s.settle with waiting := some (flag, none) }

def raise (s : Scan) (level : Level) (flag : Flag) (long : Bool) : Except Stop Scan := do
  let s ← s.settle
  match flag.kind with
  | .help => throw (.help level.name long)
  | .version => throw (.version level.name)
  | _ => s.record flag "true"

/-- Gives the flags that have none the values of environment variables. -/
def fillIn (environment : String → Option String) (s : Scan) (flag : Flag) : Except Stop Scan :=
  if (s.value? flag.long).isSome then .ok s
  else match flag.environment.bind environment with
    | some value => s.record flag value
    | none => .ok s

end Scan

namespace Level

/-- Reads a row of short flags; the last may have a value. Says whether one is to come. -/
def readShort (level : Level) (s : Scan) : List Char → Except Stop (Scan × Bool)
  | [] => .ok (s, false)
  | c :: rest =>
    match level.flags.find? (·.short == some c) with
    | none => .error (.usage (.unknownArgument ("-" ++ String.ofList [c])))
    | some flag =>
      if flag.kind = .value then do
        match rest with
        | [] => return (← s.await flag, true)
        | '=' :: value => return (← s.attach flag (String.ofList value), false)
        | value => return (← s.attach flag (String.ofList value), false)
      else do
        readShort level (← s.raise level flag false) rest

def readLong (level : Level) (s : Scan) (body : List Char) : Except Stop (Scan × Bool) :=
  let (name, value) := match Text.cutAt (· == '=') body with
    | some (name, value) => (name, some (String.ofList value))
    | none => (body, none)
  match level.flags.find? (·.long.toList == name), value with
  | none, _ => .error (.usage (.unknownArgument ("--" ++ String.ofList name)))
  | some flag, some value =>
    if flag.kind = .value then do return (← s.attach flag value, false)
    else .error (.usage (.unneededValue flag.long))
  | some flag, none =>
    if flag.kind = .value then do return (← s.await flag, true)
    else do return (← s.raise level flag true, false)

def readWord (level : Level) (s : Scan) (trailing : Bool) (word : String) : Except Stop Scan :=
  if s.words.length < level.words.length then do
    let s ← s.settle
    return { s with words := s.words ++ [word] }
  else if level.commands.isEmpty || (trailing && level.commands.any (·.1 == word)) then
    .error (.usage (.unknownArgument word))
  else .error (.usage (.unknownCommand word))

/-- Reads the arguments of a level up to the name of a command, and gives the name with what follows
it. `awaiting` says that the next word is a value, `trailing` that two hyphens have ended the flags. -/
def readArguments (level : Level) (awaiting trailing : Bool) (s : Scan) :
    List String → Except Stop (Scan × Option (String × List String))
  | [] => .ok (s, none)
  | argument :: rest =>
    if trailing then do
      readArguments level awaiting true (← level.readWord s true argument) rest
    else if !awaiting && level.commands.any (·.1 == argument) then .ok (s, some (argument, rest))
    else match argument.toList with
      | ['-', '-'] => readArguments level awaiting true s rest
      | '-' :: '-' :: body => do
        let (s, awaiting) ← level.readLong s body
        readArguments level awaiting false s rest
      | '-' :: c :: body => do
        let (s, awaiting) ← level.readShort s (c :: body)
        readArguments level awaiting false s rest
      | _ =>
        match awaiting, s.waiting with
        | true, some (flag, _) =>
          readArguments level false false { s with waiting := some (flag, some argument) } rest
        | _, _ => do
          readArguments level false false (← level.readWord s false argument) rest

def complete (level : Level) (environment : String → Option String) (s : Scan) :
    Except Stop Scan := do
  level.flags.foldlM (Scan.fillIn environment) (← s.settle)

end Level

inductive OutputFormat
  | text
  | json
  deriving DecidableEq, Inhabited

inductive Command
  | check
  | auth (login : String) (password : Option String)
  | user (login : String)
  | groups (login : String)
  deriving DecidableEq, Inhabited

structure Arguments where
  config : String
  output : OutputFormat
  verbose : Bool
  command : Command
  deriving DecidableEq, Inhabited

namespace Arguments

/-- Help about the command that words name one after the other. No command has commands of its own. -/
def readHelp : List String → Stop
  | [] => .help none true
  | [name] =>
    if Level.first.commands.any (·.1 == name) then .help (some name) true
    else .usage (.unknownCommand name)
  | name :: next :: _ =>
    if Level.first.commands.any (·.1 == name) then .usage (.unknownCommand next)
    else .usage (.unknownCommand name)

def readCommand (environment : String → Option String) (level : Level) (arguments : List String) :
    Except Stop Command := do
  let (s, _) ← level.readArguments false false {} arguments
  let s ← level.complete environment s
  match level.name, s.words with
  | some "check", _ => return .check
  | some "auth", login :: _ => return .auth login (s.value? "password")
  | some "user", login :: _ => return .user login
  | some "groups", login :: _ => return .groups login
  | _, _ => throw (.usage (.missingWord "LOGIN"))

def read (environment : String → Option String) (arguments : List String) :
    Except Stop Arguments := do
  let (s, named) ← Level.first.readArguments false false {} arguments
  let command ← match named with
    | none => pure none
    | some (name, rest) =>
      match Level.named? name with
      | some level => some <$> readCommand environment level rest
      | none => throw (readHelp rest)
  let s ← Level.first.complete environment s
  match command with
  | none => throw (.usage (if s.values.isEmpty then .nothing else .missingCommand))
  | some command =>
    return {
      config := (s.value? "config").getD "ldap.properties"
      output := if s.value? "output" = some "json" then .json else .text
      verbose := (s.value? "verbose").isSome
      command }

end Arguments

end DirectoryLogin.CommandLine
