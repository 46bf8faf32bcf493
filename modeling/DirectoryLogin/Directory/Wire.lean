import DirectoryLogin.Service
import DirectoryLogin.Text.Utf8

namespace DirectoryLogin

open Text

inductive Message
  | entry (dn : String) (attributes : List (String × List (List UInt8)))
  | referral (urls : List String)
  /-- Says something about the search and is not part of its outcome. -/
  | intermediate

structure Outcome where
  code : Nat := 0
  matched : String := ""
  text : String := ""
  referrals : List String := []

namespace Outcome

def success : Nat := 0

def referral : Nat := 10

def noSuchObject : Nat := 32

def word (code : Nat) : String :=
  match code with
  | 0 => "success"
  | 1 => "operationsError"
  | 2 => "protocolError"
  | 3 => "timeLimitExceeded"
  | 4 => "sizeLimitExceeded"
  | 5 => "compareFalse"
  | 6 => "compareTrue"
  | 7 => "authMethodNotSupported"
  | 8 => "strongerAuthRequired"
  | 10 => "referral"
  | 11 => "adminLimitExceeded"
  | 12 => "unavailableCriticalExtension"
  | 13 => "confidentialityRequired"
  | 14 => "saslBindInProgress"
  | 16 => "noSuchAttribute"
  | 17 => "undefinedAttributeType"
  | 18 => "inappropriateMatching"
  | 19 => "constraintViolation"
  | 20 => "attributeOrValueExists"
  | 21 => "invalidAttributeSyntax"
  | 32 => "noSuchObject"
  | 33 => "aliasProblem"
  | 34 => "invalidDNSyntax"
  | 36 => "aliasDereferencingProblem"
  | 48 => "inappropriateAuthentication"
  | 49 => "invalidCredentials"
  | 50 => "insufficientAccessRights"
  | 51 => "busy"
  | 52 => "unavailable"
  | 53 => "unwillingToPerform"
  | 54 => "loopDetect"
  | 64 => "namingViolation"
  | 65 => "objectClassViolation"
  | 66 => "notAllowedOnNonLeaf"
  | 67 => "notAllowedOnRDN"
  | 68 => "entryAlreadyExists"
  | 69 => "objectClassModsProhibited"
  | 71 => "affectsMultipleDSAs"
  | 80 => "other"
  | 88 => "abandoned"
  | 118 => "canceled"
  | 119 => "noSuchOperation"
  | 120 => "tooLate"
  | 121 => "cannotCancel"
  | 122 => "assertionFailed"
  | 123 => "authorizationDenied"
  | 4096 => "e-syncRefreshRequired"
  | 16654 => "noOperation"
  | _ => "unknown"

def display (r : Outcome) : String :=
  s!"LDAP operation result: rc={r.code} ({word r.code}), dn: \"{r.matched}\", text: \"{r.text}\""

/-- What the result of a search means: the end of it, one more referral, or an error. -/
def ending (r : Outcome) : Except Error (Option Item) :=
  if r.code = success then .ok none
  else if r.code = referral then .ok (some (.referral r.referrals))
  else if r.code = noSuchObject then .error (.notFound s!"search base: {r.text}")
  else .error (.search s!"rc={r.code}: {r.text}")

end Outcome

/-- The attributes whose values are all texts; the others are dropped. -/
def textAttributes (attributes : List (String × List (List UInt8))) :
    List (String × List String) :=
  attributes.filterMap fun (name, values) =>
    (values.mapM ofUtf8?).map fun texts => (name, texts.map String.ofList)

/-- A protocol library over a world `σ` with numbered connections, and with numbered searches on each of them. Its
errors are texts. -/
structure Wire (σ : Type) where
  /-- Opens a connection; both its opening and each answer later on have a time limit in
  milliseconds. -/
  dial : (url : String) → (connectTimeout readTimeout : Nat) → σ → Except String Nat × σ
  bind : Nat → (dn password : String) → σ → Except String Outcome × σ
  search : Nat → (base : String) → Scope → (filter : String) → (attributes : List String) → σ →
    Except String Nat × σ
  next : Nat → (number : Nat) → σ → Except String (Option Message) × σ
  finish : Nat → (number : Nat) → σ → Outcome × σ
  abandon : Nat → (number : Nat) → σ → Except String Unit × σ
  unbind : Nat → σ → Except String Unit × σ
  isClosed : Nat → σ → Bool
  /-- A bound on the messages of a search that are still to come. -/
  remaining : Nat → (number : Nat) → σ → Nat
  next_lt : ∀ {c number w message w'}, next c number w = (.ok (some message), w') →
    remaining c number w' < remaining c number w

/-- The world of a protocol library, and the search that is read on each connection. -/
structure Clients (σ : Type) where
  wire : σ
  running : Nat → Option Nat := fun _ => none

namespace Clients

variable {σ : Type}

/-- From now on the search is read on the connection, or none. -/
def read (c : Nat) (number : Option Nat) (s : Clients σ) : Clients σ :=
  { s with running := fun other => if other = c then number else s.running other }

@[simp] theorem read_running (c : Nat) (number : Option Nat) (s : Clients σ) : (s.read c number).running c = number :=
  if_pos rfl

theorem read_running_of_ne {c other : Nat} (elsewhere : other ≠ c) (number : Option Nat) (s : Clients σ) :
    (s.read other number).running c = s.running c :=
  if_neg elsewhere.symm

/-- Binds with a name and a password; without a name nothing is sent. -/
def bind (w : Wire σ) (env : Environment) (c : Nat) (s : Clients σ) :
    Except Error Unit × Clients σ :=
  match env.mechanism, env.principal with
  | .simple, none => (.ok (), s)
  | .simple, some principal =>
    let (answer, wire) := w.bind c principal (env.credential.getD "") s.wire
    (match answer with
      | .error e => .error (.connection s!"{env.url}: {e}")
      | .ok r =>
        if r.code = Outcome.success then .ok () else .error (.bind s!"{principal}: {r.display}"),
      { s with wire })
  | .gssapi, _ => (.error (.unsupportedMechanism "GSSAPI (enable the `gssapi` feature)"), s)
  | other, _ => (.error (.unsupportedMechanism other.name), s)

/-- Opens a connection and binds; the connection is closed again if the bind fails. -/
def connect (w : Wire σ) (env : Environment) (s : Clients σ) : Except Error Nat × Clients σ :=
  if env.mechanism = .cramMd5 || env.mechanism = .digestMd5 then
    (.error (.unsupportedMechanism env.mechanism.name), s)
  else
    match w.dial env.url env.connectTimeout env.readTimeout s.wire with
    | (.error e, wire) => (.error (.connection s!"{env.url}: {e}"), { s with wire })
    | (.ok c, wire) =>
      match bind w env c ({ s with wire }.read c none) with
      | (.ok _, s) => (.ok c, s)
      | (.error e, s) => (.error e, { s with wire := (w.unbind c s.wire).2 })

def abandon (w : Wire σ) (c : Nat) (s : Clients σ) : Except Error Unit × Clients σ :=
  match s.running c with
  | none => (.ok (), s)
  | some number =>
    let (answer, wire) := w.abandon c number s.wire
    (answer.mapError .client, { s with wire }.read c none)

/-- Starts a search in place of the running one. -/
def search (w : Wire σ) (c : Nat) (base : String) (scope : Scope) (filter : String)
    (attributes : List String) (s : Clients σ) : Except Error Unit × Clients σ :=
  match abandon w c s with
  | (.error e, s) => (.error e, s)
  | (.ok _, s) =>
    match w.search c base scope filter attributes s.wire with
    | (.error e, wire) => (.error (.search e), { s with wire })
    | (.ok number, wire) => (.ok (), { s with wire }.read c (some number))

/-- The next item among the messages of a search, and whether it is to be read on. -/
def nextItem (w : Wire σ) (c number : Nat) (wire : σ) : (Except Error (Option Item) × Bool) × σ :=
  match h : w.next c number wire with
  | (.ok (some (.entry dn attributes)), wire) =>
    ((.ok (some (.entry (.ofAttributes dn (textAttributes attributes)))), true), wire)
  | (.ok (some (.referral urls)), wire) => ((.ok (some (.referral urls)), true), wire)
  | (.ok (some .intermediate), wire') =>
    have := w.next_lt h
    nextItem w c number wire'
  | (.ok none, wire) =>
    let (outcome, wire) := w.finish c number wire
    ((outcome.ending, false), wire)
  | (.error e, wire) => ((.error (.search e), false), wire)
termination_by w.remaining c number wire

theorem nextItem_lt {w : Wire σ} {c number : Nat} {wire wire' : σ} {result : Except Error (Option Item)}
    (took : nextItem w c number wire = ((result, true), wire')) :
    w.remaining c number wire' < w.remaining c number wire := by
  fun_induction nextItem w c number wire with
  | case1 wire dn attributes left step =>
    simp only [Prod.mk.injEq] at took
    exact took.2 ▸ w.next_lt step
  | case2 wire urls left step =>
    simp only [Prod.mk.injEq] at took
    exact took.2 ▸ w.next_lt step
  | case3 wire left step less ih => exact Nat.lt_trans (ih took) less
  | case4 => simp at took
  | case5 => simp at took

def next (w : Wire σ) (c : Nat) (s : Clients σ) : Except Error (Option Item) × Clients σ :=
  match s.running c with
  | none => (.ok none, s)
  | some number =>
    match nextItem w c number s.wire with
    | ((result, true), wire) => (result, { s with wire })
    | ((result, false), wire) => (result, { s with wire }.read c none)

def close (w : Wire σ) (c : Nat) (s : Clients σ) : Except Error Unit × Clients σ :=
  let (answer, wire) := w.unbind c s.wire
  (answer.mapError .client, { s with wire }.read c none)

/-- The messages that are still to come, and one item for the result. -/
def remaining (w : Wire σ) (c : Nat) (s : Clients σ) : Nat :=
  match s.running c with
  | none => 0
  | some number => w.remaining c number s.wire + 1

theorem next_lt {w : Wire σ} {c : Nat} {s s' : Clients σ} {item : Item}
    (took : next w c s = (.ok (some item), s')) : remaining w c s' < remaining w c s := by
  unfold next at took
  split at took
  · cases took
  · rename_i number runs
    have here : remaining w c s = w.remaining c number s.wire + 1 := by rw [remaining, runs]
    split at took
    · rename_i result wire step
      have less := nextItem_lt step
      cases took
      rw [here, remaining, runs]
      exact Nat.add_lt_add_right less 1
    · cases took
      rw [here, remaining, read_running]
      exact Nat.succ_pos _

def service (w : Wire σ) : Service (Clients σ) Nat where
  supports mechanism := mechanism = .simple
  connect := connect w
  search := search w
  next := next w
  abandon := abandon w
  close := close w
  isClosed c s := w.isClosed c s.wire
  remaining := remaining w
  next_lt := next_lt

end Clients

end DirectoryLogin
