import DirectoryLogin.CommandLine.Commands
import DirectoryLogin.CommandLine.Help
import DirectoryLogin.Directory.Offline
import DirectoryLogin.Kerberos.StandIn
import DirectoryLogin.Settings.File

namespace DirectoryLogin.CommandLine

structure Printout where
  output : String := ""
  remarks : String := ""
  exitCode : UInt8 := 0
  deriving DecidableEq, Inhabited

def Report.printout (r : Report) : Printout :=
  ⟨r.output, r.remarks, r.exitCode⟩

/-- Help and the version are answers. A program without any arguments is given help as a remark. -/
def Stop.printout (environment : String → Option String) : Stop → Printout
  | .help command atLength => { output := Help.text environment command atLength }
  | .version command => { output := Help.version command }
  | .usage .nothing => { remarks := Help.text environment none false, exitCode := 2 }
  | .usage e =>
    { remarks := "error: " ++ e.message ++ "\n\nFor more information, try '--help'.\n"
      exitCode := 2 }

namespace Command

def readsLine : Command → Bool
  | auth _ none => true
  | _ => false

end Command

namespace Program

/-- The domain name system of a machine that reaches no other one. -/
def offlineDns {σ : Type} : Dns σ := fun name w =>
  (.error (.discovery s!"SRV lookup of {name} failed: io error: Network is unreachable (os error 101)"), w)

/-- What commands use on a machine that reaches no other one, and has no program for Kerberos logins. -/
def offlineSession (machine : Machine) (settings : Except Error Settings)
    (line : Except String String) : Session (Clients Unit) Nat where
  service := Clients.service (Wire.offline machine)
  dns := offlineDns
  kerberos := ({} : TicketProgram).login StandIn.shell
  settings
  line

/-- Runs a command on a machine, given its settings file and the first line of the input, each perhaps
with the reason why it cannot be read. Gives what was logged as well. -/
def runOffline (arguments : Arguments) (machine : Machine) (file : Except String (List UInt8))
    (line : Except String String) : Printout × List Event :=
  let session := offlineSession machine (Settings.ofFile arguments.config file) line
  let (report, trace) := session.run arguments.output arguments.command { world := { wire := () } }
  (report.printout, trace.log)

/-- The most bytes that are taken off the input to read a line of it. -/
def lineRoom : Nat := 8192

def firstLine (s : String) : String :=
  match Text.cutAt (· == '\n') s.toList with
  | some (line, _) => String.ofList line ++ "\n"
  | none => s

/-- Runs a command in a directory with files. The settings may be read from the input, of which little
is left after the command has read its line. -/
def runAmong (arguments : Arguments) (files : List (String × List UInt8)) (input : String) :
    Printout × List Event :=
  let bytes := Text.utf8 input.toList
  let left := if arguments.command.readsLine then bytes.drop lineRoom else bytes
  let machine := Machine.usual files left
  runOffline arguments machine ((machine.read arguments.config).mapError PathError.message)
    (.ok (firstLine input))

end Program

end DirectoryLogin.CommandLine
