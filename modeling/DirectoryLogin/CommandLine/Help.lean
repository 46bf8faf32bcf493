import DirectoryLogin.CommandLine.Level

namespace DirectoryLogin.CommandLine

def programName : String := "ldap-realm"

def programVersion : String := "0.1.0"

namespace Help

def padded (width : Nat) (s : String) : String :=
  s ++ String.ofList (List.replicate (width - s.length) ' ')

def longest (labels : List String) : Nat :=
  labels.foldl (fun n label => max n label.length) 0

/-- A flag's long name with the name of its value. -/
def label (f : Flag) : String :=
  "--" ++ f.long ++ if f.kind = .value then " <" ++ f.valueName ++ ">" else ""

def shortLabel (f : Flag) : String :=
  match f.short with
  | some c => String.ofList ['-', c, ',', ' ']
  | none => "    "

/-- What is known about the value of a flag apart from what it means. -/
def notes (environment : String → Option String) (f : Flag) : List String :=
  let variableNote := match f.environment with
    | some name =>
      if f.secret then ["[env: " ++ name ++ "]"]
      else ["[env: " ++ name ++ "=" ++ (environment name).getD "" ++ "]"]
    | none => []
  let usualNote := match f.usual with
    | some value => ["[default: " ++ value ++ "]"]
    | none => []
  variableNote ++ usualNote

def choiceNote (f : Flag) : List String :=
  if f.choices.isEmpty then []
  else ["[possible values: " ++ String.intercalate ", " (f.choices.map (·.1)) ++ "]"]

/-- Whether there is more to say about a level at length. -/
def hasMore (level : Level) : Bool :=
  level.flags.any (!·.choices.isEmpty)

/-- What a flag means; help itself says where there is more of it. -/
def meaning (level : Level) (atLength : Bool) (f : Flag) : String :=
  if f.kind = .help && hasMore level then
    if atLength then f.about ++ " (see a summary with '-h')"
    else f.about ++ " (see more with '--help')"
  else f.about

def margin : String := "          "

def flagLine (environment : String → Option String) (level : Level) (width : Nat) (f : Flag) :
    String :=
  "  " ++ shortLabel f ++ padded width (label f) ++ "  " ++
    String.intercalate " " (meaning level false f :: notes environment f ++ choiceNote f)

def flagParagraph (environment : String → Option String) (level : Level) (f : Flag) : String :=
  let notes := notes environment f
  let lines := [meaning level true f] ++ (if notes.isEmpty then [] else "" :: notes)
  let choices := if f.choices.isEmpty then "" else
    "\n\n" ++ margin ++ "Possible values:" ++ String.join (f.choices.map fun (value, about) =>
      "\n" ++ margin ++ "- " ++ value ++ ": " ++ about)
  "  " ++ shortLabel f ++ label f ++ String.join (lines.map fun line => "\n" ++ margin ++ line) ++
    choices

def table (title : String) (rows : List (String × String)) : List String :=
  if rows.isEmpty then []
  else
    let width := longest (rows.map (·.1))
    [title ++ String.join (rows.map fun (name, about) => "\n  " ++ padded width name ++ "  " ++ about)]

def usage (level : Level) : String :=
  let own := level.flags.any fun f => f.kind = .value || f.kind = .switch
  "Usage: " ++ String.intercalate " " ([programName] ++ level.name.toList ++
    (if own then ["[OPTIONS]"] else []) ++ level.words.map (fun (name, _) => "<" ++ name ++ ">") ++
    if level.commands.isEmpty then [] else ["<COMMAND>"])

def flagSection (environment : String → Option String) (level : Level) (atLength : Bool) :
    List String :=
  if level.flags.isEmpty then []
  else if atLength && hasMore level then
    ["Options:\n" ++ String.intercalate "\n\n" (level.flags.map (flagParagraph environment level))]
  else
    let width := longest (level.flags.map label)
    ["Options:\n" ++ String.intercalate "\n" (level.flags.map (flagLine environment level width))]

def ofLevel (environment : String → Option String) (level : Level) (atLength : Bool) : String :=
  String.intercalate "\n\n" ([level.about, usage level] ++ table "Commands:" level.commands ++
    table "Arguments:" (level.words.map fun (name, about) => ("<" ++ name ++ ">", about)) ++
    flagSection environment level atLength) ++ "\n"

def ofHelp : String :=
  String.intercalate "\n\n" ([Level.help.about, "Usage: " ++ programName ++ " help [COMMAND]..."] ++
    table "Arguments:" [("[COMMAND]...", "Print help for the subcommand(s)")]) ++ "\n"

def text (environment : String → Option String) (command : Option String) (atLength : Bool) :
    String :=
  match command with
  | none => ofLevel environment .first atLength
  | some name =>
    match Level.named? name with
    | some level => ofLevel environment level atLength
    | none => ofHelp

def version (command : Option String) : String :=
  let name := match command with
    | some command => programName ++ "-" ++ command
    | none => programName
  name ++ " " ++ programVersion ++ "\n"

end Help

end DirectoryLogin.CommandLine
