import DirectoryLogin.Service

namespace DirectoryLogin

open Text

def maxReferralHops : Nat := 10

/-- The base at which a search goes on: the name in the referral's path, or the base it had. -/
def referralBase (url fallback : String) : Except Error String := do
  let parsed ← readUrl url
  match parsed.path.toList.dropWhile (· == '/') with
  | [] => return fallback
  | dn => return String.ofList (ofUtf8Lossy (Url.percentDecode dn))

namespace Search

structure Findings where
  entries : List Entry := []
  pending : List String := []

inductive Ending
  | exhausted
  /-- The mode has what it wants. -/
  | satisfied

variable {σ κ : Type}

/-- Gives a search up; that this fails is only logged. -/
def abandonQuietly (svc : Service σ κ) (c : κ) : Act σ Unit := do
  match ← Act.perform (svc.abandon c) with
  | .ok _ => return
  | .error e => Act.note (.debug "Unable to abandon search" [("error", e.message)])

def closeQuietly (svc : Service σ κ) (c : κ) : Act σ Unit := do
  match ← Act.perform (svc.close c) with
  | .ok _ => return
  | .error e => Act.note (.debug "Unable to close referral connection" [("error", e.message)])

def drain (svc : Service σ κ) (c : κ) (r : Request) (mode : FindMode) (f : Findings)
    (t : Trace σ) : (Except Error Ending × Findings) × Trace σ :=
  match h : svc.next c t.world with
  | (.ok (some item), world) =>
    have := svc.next_lt h
    let t := { t with world }
    match item with
    | .referral urls => drain svc c r mode { f with pending := f.pending ++ urls } t
    | .entry e =>
      if mode = .unique && !f.entries.isEmpty then
        ((.error (.nonUniqueResult r.display), f), (abandonQuietly svc c t).2)
      else
        let f := { f with entries := f.entries ++ [e] }
        if mode = .first then ((.ok .satisfied, f), (abandonQuietly svc c t).2)
        else drain svc c r mode f t
  | (.ok none, world) => ((.ok .exhausted, f), { t with world })
  | (.error e, world) => ((.error e, f), (abandonQuietly svc c { t with world }).2)
termination_by svc.remaining c t.world

def enumerate (svc : Service σ κ) (c : κ) (r : Request) (base : String) (mode : FindMode)
    (f : Findings) : Act σ (Except Error Ending × Findings) := do
  match ← Act.perform (svc.search c base r.scope r.filter r.wireAttributes) with
  | .error e => return (.error e, f)
  | .ok _ => drain svc c r mode f

/-- The next referral that has not been looked at and that the policy follows, with what is left to
look at, what has been looked at, and what is logged about it. -/
def nextReferral (policy : ReferralPolicy) (visited : List String) :
    List String → Option (String × List String) × List String × List Event
  | [] => (none, visited, [])
  | url :: pending =>
    if visited.contains url then
      let (found, visited, events) := nextReferral policy visited pending
      (found, visited,
        .debug "Skipping already visited referral" [("referral", url)] :: events)
    else if policy.follows url then (some (url, pending), url :: visited, policy.notices url)
    else
      let (found, visited, events) := nextReferral policy (url :: visited) pending
      (found, visited, policy.notices url ++
        .debug "Referral not followed" [("referral", url), ("policy", policy.name)] :: events)

def openReferral (svc : Service σ κ) (server : Server) (referral : String) :
    Act σ (Except Error κ) := do
  match Environment.referralUrl referral with
  | .error e => return .error e
  | .ok url =>
    let env := Environment.referral server url
    Act.note (.debug "Opening referral connection" [("server", server.key), ("env", env.dump)])
    match ← Act.perform (svc.connect env) with
    | .ok c => return .ok c
    | .error e => return .error (.referral s!"{referral}: {e.message}")

def enumerateReferral (svc : Service σ κ) (server : Server) (r : Request) (mode : FindMode)
    (url : String) (f : Findings) : Act σ (Except Error Ending × Findings) := do
  Act.note (.debug "Following referral" [("referral", url)])
  match referralBase url r.baseDn with
  | .error e => return (.error e, f)
  | .ok base =>
    match ← openReferral svc server url with
    | .error e => return (.error e, f)
    | .ok c =>
      let ended ← enumerate svc c r base mode f
      closeQuietly svc c
      return ended

/-- Goes on after one server: at the next referral, as long as any of the `hops` are left. -/
def chase (svc : Service σ κ) (server : Server) (r : Request) (mode : FindMode) (hops : Nat)
    (visited : List String) : Except Error Ending × Findings → Act σ (Except Error (List Entry))
  | (.error e, _) => return .error e
  | (.ok .satisfied, f) => return .ok f.entries
  | (.ok .exhausted, f) => do
    let (found, visited, events) := nextReferral server.referralPolicy visited f.pending
    Act.noteAll events
    match found, hops with
    | none, _ => return .ok f.entries
    | some _, 0 => return .error (.referral
        s!"more than {maxReferralHops} referrals chased for {r.display}")
    | some (url, pending), hops + 1 =>
      let ended ← enumerateReferral svc server r mode url { f with pending }
      chase svc server r mode hops visited ended

/-- Runs a request on a connection, which stays open, and at the servers that it is referred to. -/
def find (svc : Service σ κ) (server : Server) (c : κ) (r : Request) (mode : FindMode) :
    Act σ (Except Error (List Entry)) := do
  Act.note (.debug "Search" [("server", server.key), ("search", r.display), ("mode", mode.name)])
  let ended ← enumerate svc c r r.baseDn mode {}
  chase svc server r mode maxReferralHops [] ended

end Search

end DirectoryLogin
