import DirectoryLogin.Error
import DirectoryLogin.Event
import DirectoryLogin.Pattern.Reader
import DirectoryLogin.Text.Ascii
import DirectoryLogin.Text.Blank
import DirectoryLogin.Text.Quoted

namespace DirectoryLogin

open Text

/-- A pattern that turns referrals down, as it was written with its anchors, and read. -/
structure ReferralFilter where
  source : String
  pattern : Pattern
  deriving Inhabited

namespace ReferralFilter

/-- The pattern that a text must match from its first to its last character. -/
def anchored (source : String) : String :=
  "^(?:" ++ source ++ ")$"

def read (source : String) : Except Error ReferralFilter :=
  match Pattern.read (anchored source).toList with
  | .ok pattern => .ok ⟨anchored source, pattern⟩
  | .error e => .error (.configuration
      ("invalid referral filter '" ++ source ++ "': " ++ e.message))

def accepts (f : ReferralFilter) (target : String) : Bool :=
  f.pattern.occursIn target.toList

end ReferralFilter

inductive ReferralPolicy
  | allowAll
  | denyAll
  /-- All but those that one of the filters matches. -/
  | denyByPattern (filters : List ReferralFilter)
  deriving Inhabited

namespace ReferralPolicy

def ofPatterns (patterns : List String) : Except Error ReferralPolicy := do
  return .denyByPattern (← patterns.mapM ReferralFilter.read)

/-- The policy that a word names; one with patterns has none yet. -/
def read (text : String) : Except Error ReferralPolicy :=
  match lowerCase (trimmed text) with
  | "allow" | "follow" | "allow_all" => .ok .allowAll
  | "deny" | "ignore" | "deny_all" => .ok .denyAll
  | "filtered" | "deny_regex" => .ok (.denyByPattern [])
  | other => .error (.configuration
      s!"unknown referral handling '{other}', expected one of: allow, deny, filtered")

/-- The policy of a word, if there is one, and of the patterns that go with it. -/
def ofSettings (selector : Option String) (patterns : List String) :
    Except Error ReferralPolicy := do
  let policy ← match selector with
    | none => pure .allowAll
    | some word => read word
  match policy with
  | .denyByPattern _ =>
    if patterns.isEmpty then
      throw (.configuration
        "referral handling 'filtered' requires a non-empty referralFilterList")
    ofPatterns patterns
  | other => return other

/-- The filter that turns a target down, if one does. -/
def refusing? (p : ReferralPolicy) (target : String) : Option ReferralFilter :=
  match p with
  | .denyByPattern filters => filters.find? (·.accepts target)
  | _ => none

def follows (p : ReferralPolicy) (target : String) : Bool :=
  match p with
  | .allowAll => true
  | .denyAll => false
  | .denyByPattern _ => (p.refusing? target).isNone

def notices (p : ReferralPolicy) (target : String) : List Event :=
  match p.refusing? target with
  | some filter => [.debug "Ignoring referral" [("referral", target), ("pattern", filter.source)]]
  | none => []

def name : ReferralPolicy → String
  | .allowAll => "allow"
  | .denyAll => "deny"
  | .denyByPattern _ => "filtered"

def dump : ReferralPolicy → String
  | .allowAll => "AllowAll"
  | .denyAll => "DenyAll"
  | .denyByPattern filters => "DenyByPattern(" ++ quotedList (filters.map (·.source)) ++ ")"

end ReferralPolicy

end DirectoryLogin
