import DirectoryLogin.CommandLine.Program

namespace DirectoryLogin.CommandLine.Program

def readFile (path : String) : IO (Except String (List UInt8)) := do
  try
    return .ok (← IO.FS.readBinFile path).toList
  catch
    | .noFileOrDirectory .. => return .error PathError.notFound.message
    | e => return .error (toString e)

def readLine : IO (Except String String) := do
  try
    return .ok (← (← IO.getStdin).getLine)
  catch e => return .error (toString e)

def readEnvironment : IO (String → Option String) := do
  let config ← IO.getEnv "LDAP_REALM_CONFIG"
  let password ← IO.getEnv "LDAP_REALM_PASSWORD"
  return fun name =>
    if name = "LDAP_REALM_CONFIG" then config
    else if name = "LDAP_REALM_PASSWORD" then password
    else none

def isShown (verbose : Bool) (e : Event) : Bool :=
  match e.level with
  | .trace => false
  | .debug | .info => verbose
  | .warn | .error => true

def eventLine (e : Event) : String :=
  String.intercalate " " (e.message :: e.fields.map fun (name, value) => name ++ "=" ++ value)

def finish (p : Printout) : IO UInt32 := do
  (← IO.getStderr).putStr p.remarks
  (← IO.getStdout).putStr p.output
  return p.exitCode.toUInt32

end DirectoryLogin.CommandLine.Program

open DirectoryLogin.CommandLine in
def main (arguments : List String) : IO UInt32 := do
  let environment ← Program.readEnvironment
  match Arguments.read environment arguments with
  | .error stop => Program.finish (stop.printout environment)
  | .ok arguments =>
    let line ← if arguments.command.readsLine then Program.readLine else pure (.ok "")
    let file ← Program.readFile arguments.config
    let (printout, log) := Program.runOffline arguments (.usual [] []) file line
    for e in log.filter (Program.isShown arguments.verbose) do
      (← IO.getStderr).putStrLn (Program.eventLine e)
    Program.finish printout
