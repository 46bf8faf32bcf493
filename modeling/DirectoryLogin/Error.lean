namespace DirectoryLogin

inductive Error
  | configuration (reason : String)
  | invalidUrl (url reason : String)
  | unsupportedMechanism (mechanism : String)
  | connection (reason : String)
  | bind (reason : String)
  | search (reason : String)
  /-- The subject is not on the server. -/
  | notFound (subject : String)
  /-- More than one entry matched where at most one may. -/
  | nonUniqueResult (request : String)
  | referral (reason : String)
  | kerberos (reason : String)
  | discovery (reason : String)
  | timeout
  /-- The directory client broke off by itself. -/
  | client (reason : String)
  deriving DecidableEq, Inhabited, Repr

namespace Error

def message : Error → String
  | configuration reason => "LDAP configuration error: " ++ reason
  | invalidUrl url reason => "Invalid LDAP URL '" ++ url ++ "': " ++ reason
  | unsupportedMechanism mechanism =>
    "Authentication mechanism " ++ mechanism ++ " is not supported by the directory client"
  | connection reason => "LDAP connection failed: " ++ reason
  | bind reason => "LDAP bind failed: " ++ reason
  | search reason => "LDAP search failed: " ++ reason
  | notFound subject => "Not found: " ++ subject
  | nonUniqueResult request => "Non unique result for " ++ request
  | referral reason => "LDAP referral error: " ++ reason
  | kerberos reason => "Kerberos error: " ++ reason
  | discovery reason => "LDAP server discovery failed: " ++ reason
  | timeout => "LDAP operation timed out"
  | client reason => "LDAP error: " ++ reason

/-- The connection on which this happened is not to be trusted again. -/
def isConnectionError : Error → Bool
  | connection _ | timeout | client _ | referral _ => true
  | _ => false

def isNotFound : Error → Bool
  | notFound _ => true
  | _ => false

def isConfigurationError : Error → Bool
  | configuration _ | invalidUrl .. | unsupportedMechanism _ => true
  | _ => false

end Error

end DirectoryLogin
