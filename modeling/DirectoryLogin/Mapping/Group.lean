import DirectoryLogin.Entry
import DirectoryLogin.Event
import DirectoryLogin.Settings.Basic
import DirectoryLogin.Template

namespace DirectoryLogin

open Text

structure GroupMapping where
  baseDn : String
  /-- The request, whose placeholders name attributes of the user. -/
  request : Template
  /-- The attribute whose values name a group. -/
  idAttribute : String := "cn"
  deriving DecidableEq, Inhabited

namespace GroupMapping

def defaultRequest : String :=
  "(|(&(objectClass=groupOfUniqueNames)(uniqueMember=\x7bdn\x7d))" ++
    "(&(objectClass=group)(member=\x7bdn\x7d)))"

def ofRequest (baseDn request : String) : GroupMapping :=
  { baseDn, request := .compile request }

/-- The request that two older settings, one of which is enough, say together. -/
def deprecatedRequest? (s : Settings) (server : String) : Option String :=
  let objectClass := s.get? (server ++ ".group.objectClass")
  let member := s.get? (server ++ ".group.memberAttribute")
  if objectClass.isSome || member.isSome then
    some ("(&(objectClass=" ++ objectClass.getD "groupOfUniqueNames" ++ ")(" ++
      member.getD "uniqueMember" ++ "=\x7bdn\x7d))")
  else none

/-- The request for groups: the older settings go before the newer one. -/
def requestText (s : Settings) (server : String) : String :=
  match deprecatedRequest? s server with
  | some request => request
  | none => s.getD (server ++ ".group.request") defaultRequest

/-- The group mapping of the server whose settings begin with `server`; none without a base. -/
def ofSettings (s : Settings) (server : String) : Option GroupMapping :=
  (s.get? (server ++ ".group.baseDn")).map fun baseDn =>
    { baseDn
      request := .compile (requestText s server)
      idAttribute := s.getD (server ++ ".group.idAttribute") "cn" }

def notices (s : Settings) (server : String) : List Event :=
  match s.get? (server ++ ".group.baseDn"), deprecatedRequest? s server with
  | some _, some request => [.warn (s!"Properties '{server}.group.objectClass' and " ++
      s!"'{server}.group.memberAttribute' are deprecated and should be replaced by single " ++
      s!"property '{server}.group.request' with value: {request}")]
  | _, _ => []

/-- The attributes of a user that the request needs; the distinguished name is always at hand. -/
def requiredAttributes (m : GroupMapping) : List String :=
  m.request.placeholders.filter (!sameLetters · "dn")

/-- The values of the placeholders for a user; an attribute that is missing has none. -/
def valuesOf (m : GroupMapping) (user : Entry) : Dictionary String :=
  .ofList (m.request.placeholders.filterMap fun name =>
    (user.value? name).map fun value => (name, value))

def search (m : GroupMapping) (user : Entry) : Request :=
  { m.request.bind m.baseDn (m.valuesOf user) with attributes := [m.idAttribute] }

def dump (m : GroupMapping) : String :=
  record "GroupMapping" [("base_dn", quoted m.baseDn), ("request", m.request.dump),
    ("id_attribute", quoted m.idAttribute)]

end GroupMapping

end DirectoryLogin
