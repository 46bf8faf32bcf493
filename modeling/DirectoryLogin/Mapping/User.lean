import DirectoryLogin.Event
import DirectoryLogin.Settings.Basic
import DirectoryLogin.Template

namespace DirectoryLogin

open Text

/-- A domain such as `example.org` as the name of a directory entry: `dc=example,dc=org`. -/
def domainDn (domain : String) : String :=
  String.intercalate "," (((splitText (· == '.') domain).filter (!·.isEmpty)).map ("dc=" ++ ·))

structure UserMapping where
  baseDn : String
  /-- The request, in which the placeholder `login` stands for the login. -/
  request : Template
  realNameAttribute : String := "cn"
  emailAttribute : String := "mail"
  findMode : FindMode := .unique
  deriving DecidableEq, Inhabited

namespace UserMapping

def defaultRequest : String :=
  "(|(&(objectClass=inetOrgPerson)(uid=\x7blogin\x7d))" ++
    "(&(objectClass=user)(sAMAccountName=\x7blogin\x7d)))"

def ofRequest (baseDn request : String) : UserMapping :=
  { baseDn, request := .compile request }

/-- The base below which a server's users are: the one that is set, or the realm's. -/
def baseDn? (s : Settings) (server : String) : Option String :=
  (s.get? (server ++ ".user.baseDn")).or ((s.get? (server ++ ".realm")).map domainDn)

/-- The request that two older settings, one of which is enough, say together. -/
def deprecatedRequest? (s : Settings) (server : String) : Option String :=
  let objectClass := s.get? (server ++ ".user.objectClass")
  let login := s.get? (server ++ ".user.loginAttribute")
  if objectClass.isSome || login.isSome then
    some ("(&(objectClass=" ++ objectClass.getD "inetOrgPerson" ++ ")(" ++ login.getD "uid" ++
      "=\x7blogin\x7d))")
  else none

/-- The request for users: the older settings go before the newer one. -/
def requestText (s : Settings) (server : String) : String :=
  match deprecatedRequest? s server with
  | some request => request
  | none => s.getD (server ++ ".user.request") defaultRequest

/-- A lookup of users finds one entry or the first one. -/
def readFindMode (s : Settings) (server : String) : Except Error FindMode :=
  match s.get? (server ++ ".user.findMode") with
  | none => .ok .unique
  | some word =>
    match FindMode.read word with
    | .ok .all => .error (.configuration
        s!"property '{server}.user.findMode' must be unique or first")
    | other => other

/-- The user mapping of the server whose settings begin with `server`; none without a base. -/
def ofSettings (s : Settings) (server : String) : Except Error (Option UserMapping) :=
  match baseDn? s server with
  | none => .ok none
  | some baseDn => do
    return some {
      baseDn
      request := .compile (requestText s server)
      realNameAttribute := s.getD (server ++ ".user.realNameAttribute") "cn"
      emailAttribute := s.getD (server ++ ".user.emailAttribute") "mail"
      findMode := ← readFindMode s server }

def notices (s : Settings) (server : String) : List Event :=
  match baseDn? s server, deprecatedRequest? s server with
  | some _, some request => [.warn (s!"Properties '{server}.user.objectClass' and " ++
      s!"'{server}.user.loginAttribute' are deprecated and should be replaced by single " ++
      s!"property '{server}.user.request' with value: {request}")]
  | _, _ => []

def search (m : UserMapping) (login : String) : Request :=
  m.request.bind m.baseDn (.ofList [("login", login)])

def dump (m : UserMapping) : String :=
  record "UserMapping" [("base_dn", quoted m.baseDn), ("request", m.request.dump),
    ("real_name_attribute", quoted m.realNameAttribute),
    ("email_attribute", quoted m.emailAttribute), ("find_mode", m.findMode.name)]

end UserMapping

end DirectoryLogin
