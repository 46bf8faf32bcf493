import DirectoryLogin.CommandLine.Arguments
import DirectoryLogin.CommandLine.Json
import DirectoryLogin.Realm

namespace DirectoryLogin.CommandLine

inductive Failure
  | directory (e : Error)
  /-- No server takes the password. -/
  | refused (login : String)
  | unreachable (failed total : Nat)
  | invalidArgument (reason : String)
  | input (reason : String)
  deriving DecidableEq, Inhabited

def Failure.message : Failure → String
  | directory e => e.message
  | refused login => s!"authentication failed for '{login}'"
  | unreachable failed total => s!"{failed} of {total} LDAP servers failed the connection test"
  | invalidArgument reason => "invalid argument: " ++ reason
  | input reason => "IO error: " ++ reason

/-- A line to print, as part of the answer or as a remark about it. -/
inductive Line
  | answer (s : String)
  | remark (s : String)
  deriving DecidableEq, Inhabited

namespace Line

def success (s : String) : Line := answer ("✓ " ++ s)

def failure (s : String) : Line := remark ("✗ " ++ s)

def warning (s : String) : Line := remark ("⚠ " ++ s)

def information (s : String) : Line := answer ("ℹ " ++ s)

end Line

structure Report where
  lines : List Line := []
  failure : Option Failure := none
  deriving DecidableEq, Inhabited

namespace Report

def allLines (r : Report) : List Line :=
  r.lines ++ (r.failure.map fun f => Line.failure f.message).toList

def output (r : Report) : String :=
  String.join (r.allLines.map fun
    | .answer s => s ++ "\n"
    | .remark _ => "")

def remarks (r : Report) : String :=
  String.join (r.allLines.map fun
    | .answer _ => ""
    | .remark s => s ++ "\n")

def exitCode (r : Report) : UInt8 := if r.failure.isSome then 1 else 0

def ofError (e : Error) : Report := { failure := some (.directory e) }

end Report

structure ServerStatus where
  server : Server
  problem : Option String
  deriving Inhabited

namespace ServerStatus

def line (s : ServerStatus) : Line :=
  let about := s!"{s.server.key} {s.server.url} ({s.server.mechanism.name})"
  match s.problem with
  | none => .success about
  | some problem => .failure s!"{about}: {problem}"

def json (s : ServerStatus) : Json :=
  .record ([("server", .text s.server.key), ("url", .text s.server.url),
    ("authentication", .text s.server.mechanism.name), ("ok", .bool s.problem.isNone)] ++
    (s.problem.map fun problem => ("error", .text problem)).toList)

end ServerStatus

def reportStatuses (output : OutputFormat) (statuses : List ServerStatus) : Report :=
  let failed := (statuses.filter (·.problem.isSome)).length
  { lines := match output with
      | .json => [.answer (Json.list (statuses.map (·.json))).pretty]
      | .text => statuses.map (·.line)
    failure := if failed = 0 then none else some (.unreachable failed statuses.length) }

def reportAuthentication (output : OutputFormat) (login : String) (authenticated : Bool) : Report :=
  { lines := match output with
      | .json =>
        [.answer (Json.record [("login", .text login), ("authenticated", .bool authenticated)]).pretty]
      | .text => if authenticated then [.success s!"'{login}' authenticated"] else []
    failure := if authenticated then none else some (.refused login) }

def reportUser (output : OutputFormat) (login : String) (details : Option UserDetails) : Report :=
  match details with
  | none => .ofError (.notFound s!"user '{login}'")
  | some d =>
    { lines := match output with
        | .json => [.answer (Json.record [("name", .text d.name), ("email", .text d.email)]).pretty]
        | .text => [.answer ("email: " ++ d.email), .answer ("name: " ++ d.name)] }

def reportGroups (output : OutputFormat) (login : String) (groups : List String) : Report :=
  { lines := match output with
      | .json =>
        [.answer (Json.record [("login", .text login), ("groups", .list (groups.map .text))]).pretty]
      | .text =>
        if groups.isEmpty then [.information s!"No groups found for '{login}'."]
        else groups.map .answer }

/-- The password on the first line of an input. -/
def passwordOf (line : String) : String :=
  String.ofList (line.toList.reverse.dropWhile fun c => c == '\r' || c == '\n').reverse

/-- The password of a command, or the line that brings it; that line may be missing. Says what is
remarked about it. -/
def choosePassword (given : Option String) (line : Except String String) :
    List Line × Except Failure String :=
  match given with
  | some password => ([], .ok password)
  | none =>
    let password := match line with
      | .error reason => .error (.input reason)
      | .ok line =>
        if passwordOf line = "" then .error (.invalidArgument "empty password")
        else .ok (passwordOf line)
    ([.warning "No password given, reading it from stdin"], password)

/-- What commands use: directories, names, Kerberos logins, the settings and the input. -/
structure Session (σ κ : Type) where
  service : Service σ κ
  dns : Dns σ
  kerberos : Kerberos σ
  settings : Except Error Settings
  /-- The first line of the input, or why it cannot be read. -/
  line : Except String String

namespace Session

variable {σ κ : Type}

def check (g : Session σ κ) (output : OutputFormat) : Act σ Report := do
  match g.settings with
  | .error e => return .ofError e
  | .ok settings =>
    match ← Registry.resolve settings g.dns with
    | .error e => return .ofError e
    | .ok registry =>
      let (results, resolver) ← (Resolver.ofRegistry registry).testConnections g.service
      let _ ← resolver.close g.service
      return reportStatuses output (results.filterMap fun (key, result) =>
        (registry.get? key).map fun server =>
          { server, problem := match result with
              | .ok _ => none
              | .error e => some e.message })

/-- Runs a question on a realm that is closed afterwards. -/
def inRealm (g : Session σ κ) (ask : Resolver κ → Act σ (Report × Resolver κ)) : Act σ Report := do
  match g.settings with
  | .error e => return .ofError e
  | .ok settings =>
    match ← Realm.start g.service g.dns settings with
    | .error e => return .ofError e
    | .ok realm =>
      let (report, realm) ← ask realm
      let _ ← realm.close g.service
      return report

def authenticate (g : Session σ κ) (output : OutputFormat) (login : String)
    (password : Option String) : Act σ Report := do
  let (remarks, password) := choosePassword password g.line
  let report ← match password with
    | .error failure => pure { failure := some failure }
    | .ok password => g.inRealm fun realm => do
      let (authenticated, realm) ← realm.authenticate g.service g.kerberos login password
      return (reportAuthentication output login authenticated, realm)
  return { report with lines := remarks ++ report.lines }

def user (g : Session σ κ) (output : OutputFormat) (login : String) : Act σ Report :=
  g.inRealm fun realm => do
    let (found, realm) ← realm.userDetails g.service login
    return (match found with
      | .error e => .ofError e
      | .ok details => reportUser output login details, realm)

def groups (g : Session σ κ) (output : OutputFormat) (login : String) : Act σ Report :=
  g.inRealm fun realm => do
    let (found, realm) ← realm.groups g.service login
    return (match found with
      | .error e => .ofError e
      | .ok groups => reportGroups output login groups, realm)

def run (g : Session σ κ) (output : OutputFormat) : Command → Act σ Report
  | .check => g.check output
  | .auth login password => g.authenticate output login password
  | .user login => g.user output login
  | .groups login => g.groups output login

end Session

end DirectoryLogin.CommandLine
