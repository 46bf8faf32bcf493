import DirectoryLogin.Environment
import DirectoryLogin.Proofs.Abreast
import DirectoryLogin.Proofs.Resolution

namespace DirectoryLogin

open Text

namespace Same

variable {α β γ δ : Type} {together : α → β → Prop} {after : γ → δ → Prop}

theorem bind {x : Except Error α} {y : Except Error β} {f : α → Except Error γ} {g : β → Except Error δ}
    (first : Same together x y) (second : ∀ a b, together a b → Same after (f a) (g b)) :
    Same after (x >>= f) (y >>= g) := by
  cases first with
  | failed => exact .failed
  | done paired => exact second _ _ paired

theorem bind_self (x : Except Error α) {f : α → Except Error γ} {g : α → Except Error δ}
    (second : ∀ a, Same after (f a) (g a)) : Same after (x >>= f) (x >>= g) := by
  cases x with
  | error e => exact .failed
  | ok a => exact second a

theorem mapM {ι : Type} {f : ι → Except Error α} {g : ι → Except Error β} (each : ∀ i, Same together (f i) (g i))
    (is : List ι) : Same (List.Forall₂ together) (is.mapM f) (is.mapM g) := by
  induction is with
  | nil => exact .done .nil
  | cons i rest ih =>
    rw [List.mapM_cons, List.mapM_cons]
    refine (each i).bind fun a b paired => ?_
    exact ih.bind fun _ _ others => .done (.cons paired others)

end Same

namespace Settings

/-- Two settings of one key. They are equal, or else passwords of bind principals, and neither of them is blank. -/
def Veiled (p q : String × String) : Prop :=
  p = q ∨ p.1 = q.1 ∧ endsIn p.1 ".bindPassword" ∧ hasContent p.2 ∧ hasContent q.2

instance (p q : String × String) : Decidable (Veiled p q) :=
  inferInstanceAs (Decidable (p = q ∨ p.1 = q.1 ∧ endsIn p.1 ".bindPassword" ∧ hasContent p.2 ∧ hasContent q.2))

namespace Veiled

variable {p q : String × String}

theorem key (veiled : Veiled p q) : p.1 = q.1 := by
  obtain same | ⟨key, -⟩ := veiled
  · rw [same]
  · exact key

theorem hasContent_eq (veiled : Veiled p q) : hasContent q.2 = hasContent p.2 := by
  obtain same | ⟨-, -, filled, filled'⟩ := veiled
  · rw [same]
  · rw [filled, filled']

theorem eq_of_plain (veiled : Veiled p q) (plain : ¬ endsIn p.1 ".bindPassword") : p = q := by
  obtain same | ⟨-, secret, -⟩ := veiled
  · exact same
  · exact absurd secret plain

/-- What stands first under a key in the one list stands first under it in the other. -/
theorem find? {ps qs : List (String × String)} (each : List.Forall₂ Veiled ps qs) (key : String) :
    (ps.find? (·.1 == key) = none ∧ qs.find? (·.1 == key) = none) ∨
      ∃ p q, ps.find? (·.1 == key) = some p ∧ qs.find? (·.1 == key) = some q ∧ p.1 = key ∧ Veiled p q := by
  induction each with
  | nil => exact .inl ⟨rfl, rfl⟩
  | @cons p q _ _ first _ ih =>
    rw [List.find?_cons, List.find?_cons, ← first.key]
    by_cases here : p.1 = key
    · rw [beq_iff_eq.2 here]
      exact .inr ⟨p, q, rfl, rfl, here, first⟩
    · rw [beq_eq_false_iff_ne.2 here]
      exact ih

/-- The keys that have a value are the same ones. -/
theorem filter_keys {ps qs : List (String × String)} (each : List.Forall₂ Veiled ps qs) (test : String → Bool) :
    (qs.filter fun q => test q.1 && hasContent q.2).map (·.1) =
      (ps.filter fun p => test p.1 && hasContent p.2).map (·.1) := by
  induction each with
  | nil => rfl
  | @cons p q _ _ first _ ih =>
    rw [List.filter_cons, List.filter_cons, ← first.key, first.hasContent_eq]
    split
    · rw [List.map_cons, List.map_cons, ih, first.key]
    · exact ih

end Veiled

/-- A name that becomes the name of a password under no server. -/
def OtherName (name : String) : Prop :=
  ¬ endsIn name ".bindPassword" ∧ ¬ endsIn ".bindPassword" name

instance (name : String) : Decidable (OtherName name) :=
  inferInstanceAs (Decidable (¬ endsIn name ".bindPassword" ∧ ¬ endsIn ".bindPassword" name))

/-- The bags have the same keys, and differ in bind passwords alone. -/
def SameButPasswords (s s' : Settings) : Prop :=
  List.Forall₂ Veiled s.values.pairs s'.values.pairs

namespace SameButPasswords

variable {s s' : Settings}

/-- A setting that is no password is the same. -/
theorem get?_eq (same : s.SameButPasswords s') {key : String} (plain : ¬ endsIn key ".bindPassword") :
    s'.get? key = s.get? key := by
  rw [Settings.get?, Settings.get?, Dictionary.get?, Dictionary.get?]
  obtain ⟨missing, missing'⟩ | ⟨p, q, known, known', named, veiled⟩ := Veiled.find? same key
  · rw [missing, missing']
  · rw [known, known', veiled.eq_of_plain (named.symm ▸ plain)]

/-- Whatever the settings are, the same ones have a value. -/
theorem isSome_get? (same : s.SameButPasswords s') (key : String) : (s'.get? key).isSome = (s.get? key).isSome := by
  rw [Settings.get?, Settings.get?, Dictionary.get?, Dictionary.get?]
  obtain ⟨missing, missing'⟩ | ⟨p, q, known, known', -, veiled⟩ := Veiled.find? same key
  · rw [missing, missing']
  · rw [known, known', Option.map_some, Option.map_some, Option.filter_some, Option.filter_some, veiled.hasContent_eq]
    split <;> rfl

theorem keysFrom_eq (same : s.SameButPasswords s') (start : String) : s'.keysFrom start = s.keysFrom start :=
  Veiled.filter_keys same (startsWith · start)

theorem under (same : s.SameButPasswords s') (server : String) {name : String} (other : OtherName name) :
    s'.get? (server ++ name) = s.get? (server ++ name) := by
  refine same.get?_eq fun secret => ?_
  rw [endsIn, List.isSuffixOf_iff_suffix, String.toList_append] at secret
  simp only [OtherName, endsIn, List.isSuffixOf_iff_suffix] at other
  rcases List.suffix_or_suffix_of_suffix secret (List.suffix_append _ _) with inside | around
  · exact other.1 inside
  · exact other.2 around

theorem getItems (same : s.SameButPasswords s') (server : String) {name : String}
    (other : OtherName name) :
    s'.getItems (server ++ name) = s.getItems (server ++ name) := by
  rw [Settings.getItems, Settings.getItems, same.under server other]

theorem getD (same : s.SameButPasswords s') (server : String) {name : String}
    (other : OtherName name) (fallback : String) :
    s'.getD (server ++ name) fallback = s.getD (server ++ name) fallback := by
  rw [Settings.getD, Settings.getD, same.under server other]

theorem getMillis (same : s.SameButPasswords s') (server : String) {name : String}
    (other : OtherName name) :
    s'.getMillis (server ++ name) = s.getMillis (server ++ name) := by
  rw [Settings.getMillis, Settings.getMillis, same.under server other]

/-- Users are found alike, and the same is logged about their older settings. -/
theorem userMapping (same : s.SameButPasswords s') (server : String) :
    UserMapping.ofSettings s' server = UserMapping.ofSettings s server ∧
      UserMapping.notices s' server = UserMapping.notices s server := by
  have base : UserMapping.baseDn? s' server = UserMapping.baseDn? s server := by
    rw [UserMapping.baseDn?, UserMapping.baseDn?, same.under server (by decide), same.under server (by decide)]
  have older : UserMapping.deprecatedRequest? s' server = UserMapping.deprecatedRequest? s server := by
    rw [UserMapping.deprecatedRequest?, UserMapping.deprecatedRequest?, same.under server (by decide),
      same.under server (by decide)]
  have request : UserMapping.requestText s' server = UserMapping.requestText s server := by
    rw [UserMapping.requestText, UserMapping.requestText, older, same.getD server (by decide)]
  have mode : UserMapping.readFindMode s' server = UserMapping.readFindMode s server := by
    rw [UserMapping.readFindMode, UserMapping.readFindMode, same.under server (by decide)]
  constructor
  · rw [UserMapping.ofSettings, UserMapping.ofSettings, base, request, mode, same.getD server (by decide),
      same.getD server (by decide)]
  · rw [UserMapping.notices, UserMapping.notices, base, older]

theorem groupMapping (same : s.SameButPasswords s') (server : String) :
    GroupMapping.ofSettings s' server = GroupMapping.ofSettings s server ∧
      GroupMapping.notices s' server = GroupMapping.notices s server := by
  have older : GroupMapping.deprecatedRequest? s' server = GroupMapping.deprecatedRequest? s server := by
    rw [GroupMapping.deprecatedRequest?, GroupMapping.deprecatedRequest?, same.under server (by decide),
      same.under server (by decide)]
  have request : GroupMapping.requestText s' server = GroupMapping.requestText s server := by
    rw [GroupMapping.requestText, GroupMapping.requestText, older, same.getD server (by decide)]
  constructor
  · rw [GroupMapping.ofSettings, GroupMapping.ofSettings, request, same.under server (by decide),
      same.getD server (by decide)]
  · rw [GroupMapping.notices, GroupMapping.notices, older, same.under server (by decide)]

theorem readMechanism (same : s.SameButPasswords s') (server : String) :
    Server.readMechanism s' server = Server.readMechanism s server := by
  rw [Server.readMechanism, Server.readMechanism, same.under server (by decide)]

theorem readReferralPolicy (same : s.SameButPasswords s') (server : String) :
    Server.readReferralPolicy s' server = Server.readReferralPolicy s server := by
  rw [Server.readReferralPolicy, Server.readReferralPolicy, same.under server (by decide),
    same.getItems server (by decide)]

theorem readScope (same : s.SameButPasswords s') (server : String) :
    Server.readScope s' server = Server.readScope s server := by
  rw [Server.readScope, Server.readScope, same.under server (by decide)]

end SameButPasswords

end Settings

namespace Server

/-- The servers differ in their passwords at most, and either has one if the other has. -/
def SameButPassword (a b : Server) : Prop :=
  ∃ password, b = { a with bindPassword := password } ∧ password.isSome = a.bindPassword.isSome

/-- The servers are the same in every field but the password, and nothing that is written out of the servers, or of
the environments of their connections, tells one from the other. -/
structure Indistinct (a b : Server) : Prop where
  fields : b = { a with bindPassword := b.bindPassword }
  dump : b.dump = a.dump
  bind : Environment.bind b = { Environment.bind a with credential := b.bindPassword }
  bind_dump : (Environment.bind b).dump = (Environment.bind a).dump
  user : ∀ principal credential, Environment.user b principal credential = Environment.user a principal credential
  referral_dump : ∀ url, (Environment.referral b url).dump = (Environment.referral a url).dump

namespace SameButPassword

variable {a b : Server}

theorem indistinct (same : a.SameButPassword b) : a.Indistinct b := by
  obtain ⟨password, rfl, given⟩ := same
  have masked : (password.map fun _ => "***") = a.bindPassword.map fun _ => "***" := by
    cases hidden : a.bindPassword with
    | none =>
      rw [hidden, Option.isSome_none, Option.isSome_eq_false_iff, Option.isNone_iff_eq_none] at given
      rw [given]
    | some old =>
      rw [hidden, Option.isSome_some, Option.isSome_iff_exists] at given
      obtain ⟨new, present⟩ := given
      rw [present]
      rfl
  refine ⟨rfl, ?_, rfl, ?_, fun _ _ => rfl, fun url => ?_⟩
  · simp only [Server.dump, masked]
  · simp only [Environment.dump, Environment.bind, Environment.forServer, masked]
  · simp only [Environment.dump, Environment.referral, Environment.bind, Environment.forServer, masked]
    rfl

/-- A check does not look at the password. -/
theorem checked (same : a.SameButPassword b) : Same SameButPassword a.checked b.checked := by
  obtain ⟨password, rfl, given⟩ := same
  have valid : { a with bindPassword := password }.validate = a.validate := rfl
  rw [Server.checked, Server.checked, valid]
  exact .bind_self _ fun _ => .done ⟨password, rfl, given⟩

end SameButPassword

variable {s s' : Settings}

theorem ofSettings_same (same : s.SameButPasswords s') (server key url : String) :
    Same SameButPassword (ofSettings s server key url) (ofSettings s' server key url) := by
  have connect : s'.getMillis (server ++ ".connectTimeout") = s.getMillis (server ++ ".connectTimeout") :=
    same.getMillis server (by decide)
  have read : s'.getMillis (server ++ ".readTimeout") = s.getMillis (server ++ ".readTimeout") :=
    same.getMillis server (by decide)
  have bindDn : s'.get? (server ++ ".bindDn") = s.get? (server ++ ".bindDn") := same.under server (by decide)
  have realm : s'.get? (server ++ ".realm") = s.get? (server ++ ".realm") := same.under server (by decide)
  rw [ofSettings, ofSettings, same.readMechanism, same.readReferralPolicy, same.readScope, (same.userMapping server).1,
    (same.groupMapping server).1, connect, read, bindDn, realm]
  -- all that is left of the second bag is the password, which is read last and not checked
  refine .bind_self _ fun mechanism => ?_
  refine .bind_self _ fun policy => ?_
  refine .bind_self _ fun scope => ?_
  refine .bind_self _ fun userMapping => ?_
  refine .bind_self _ fun connectTimeout => ?_
  refine .bind_self _ fun readTimeout => ?_
  exact SameButPassword.checked ⟨_, rfl, same.isSome_get? _⟩

theorem notices_eq (same : s.SameButPasswords s') (server : String) : notices s' server = notices s server := by
  rw [notices, notices, same.readMechanism, same.readReferralPolicy, same.readScope, (same.userMapping server).1,
    (same.userMapping server).2, (same.groupMapping server).2]

end Server

namespace Registry

variable {s s' : Settings} {σ : Type}

namespace Source

theorem listed_eq (same : s.SameButPasswords s') (key : String) : listed s' key = listed s key := by
  rw [listed, listed, same.under _ (by decide)]

theorem read_same (same : s.SameButPasswords s') (source : Source) :
    Same Server.SameButPassword (source.read s) (source.read s') := by
  rw [read, read]
  cases source.url with
  | none => exact .failed
  | some url => exact Server.ofSettings_same same source.start source.key url

theorem notices_eq (same : s.SameButPasswords s') (source : Source) : source.notices s' = source.notices s := by
  rw [notices, notices, Server.notices_eq same]

/-- Reading stops at the same source, and the same is logged until then. -/
theorem allNotices_eq (same : s.SameButPasswords s') (found : List Source) :
    allNotices s' found = allNotices s found := by
  induction found with
  | nil => rfl
  | cons source rest ih =>
    have both := source.read_same same
    rw [allNotices, allNotices, source.notices_eq same, ih]
    generalize source.read s = outcome, source.read s' = outcome' at both
    cases both with
    | failed => rfl
    | done _ => rfl

end Source

theorem shape_eq (same : s.SameButPasswords s') : Shape.of s' = Shape.of s := by
  have servers : s'.getItems "ldap.servers" = s.getItems "ldap.servers" := by
    rw [Settings.getItems, Settings.getItems, same.get?_eq (by decide)]
  have url : s'.get? "ldap.url" = s.get? "ldap.url" := same.get?_eq (by decide)
  have realm : s'.get? "ldap.realm" = s.get? "ldap.realm" := same.get?_eq (by decide)
  rw [Shape.of, Shape.of, servers, url, realm]

/-- The servers are looked for in the same places. -/
theorem sources_eq (same : s.SameButPasswords s') (dns : Dns σ) : sources s' dns = sources s dns := by
  have unlinked (keys : List String) : rejectUnlinked s' keys = rejectUnlinked s keys := by
    rw [rejectUnlinked, rejectUnlinked, unlinked?, unlinked?, same.keysFrom_eq]
  have listed : Source.listed s' = Source.listed s := funext (Source.listed_eq same)
  simp only [sources, shape_eq same, unlinked, listed]

theorem keys_eq {servers servers' : List Server} (each : List.Forall₂ Server.SameButPassword servers servers') :
    servers'.map (·.key) = servers.map (·.key) := by
  refine (map_eq_map_of_each each ?_).symm
  rintro a _ ⟨password, rfl, -⟩
  rfl

theorem ofServers_same {servers servers' : List Server}
    (each : List.Forall₂ Server.SameButPassword servers servers') :
    Same (fun r r' => List.Forall₂ Server.SameButPassword r.servers r'.servers) (ofServers servers)
      (ofServers servers') := by
  have keys := keys_eq each
  have nonempty : servers' ≠ [] ↔ servers ≠ [] := by
    rw [← List.length_pos_iff, ← List.length_pos_iff, each.length_eq]
  rw [ofServers, ofServers]
  by_cases some_ : servers ≠ []
  · rw [dif_pos some_, dif_pos (nonempty.2 some_)]
    by_cases distinct : (servers.map (·.key)).Nodup
    · rw [dif_pos distinct, dif_pos (keys ▸ distinct)]
      exact .done each
    · rw [dif_neg distinct, dif_neg (keys ▸ distinct), keys]
      exact .failed
  · rw [dif_neg some_, dif_neg (nonempty.not.2 some_)]
    exact .failed

theorem ofSources_same (same : s.SameButPasswords s') (found : List Source) :
    Same (fun r r' => List.Forall₂ Server.SameButPassword r.servers r'.servers) (ofSources s found)
      (ofSources s' found) := by
  rw [ofSources, ofSources]
  exact (Same.mapM (Source.read_same same) found).bind fun _ _ each => ofServers_same each

/-- The same is announced of servers that differ in their passwords alone. -/
theorem announcements_eq {servers servers' : List Server}
    (each : List.Forall₂ Server.SameButPassword servers servers') :
    servers'.flatMap announcement = servers.flatMap announcement := by
  have same : servers.map announcement = servers'.map announcement := by
    refine map_eq_map_of_each each ?_
    rintro a _ ⟨password, rfl, -⟩
    rfl
  rw [List.flatMap_def, List.flatMap_def, same]

theorem dump_eq {r r' : Registry} (each : List.Forall₂ Server.Indistinct r.servers r'.servers) : r'.dump = r.dump := by
  have same : r.servers.map (·.dump) = r'.servers.map (·.dump) :=
    map_eq_map_of_each each fun _ _ indistinct => indistinct.dump.symm
  rw [dump, dump, same]

/-- Bind passwords influence nothing but what connections are opened with. Settings that differ in bind passwords alone
resolve with the same error or both to a registry, after the same questions and with the same log; the registries are
written out alike, and their servers, one by one, are the same but for the password, which shows neither in a server nor
in the environment of a connection when it is written out. -/
theorem resolve_passwords (same : s.SameButPasswords s') (dns : Dns σ) (t : Trace σ) :
    (resolve s' dns t).2 = (resolve s dns t).2 ∧
      Same (fun r r' => r'.dump = r.dump ∧ List.Forall₂ Server.Indistinct r.servers r'.servers)
        (resolve s dns t).1 (resolve s' dns t).1 := by
  rw [resolve, resolve, sources_eq same, Act.bind_apply, Act.bind_apply]
  cases (sources s dns t).1 with
  | error e => exact ⟨rfl, .failed⟩
  | ok found =>
    dsimp only
    rw [Source.allNotices_eq same, Act.bind_apply, Act.bind_apply]
    have both := ofSources_same same found
    generalize ofSources s found = outcome, ofSources s' found = outcome' at both
    cases both with
    | failed => exact ⟨rfl, .failed⟩
    | @done r r' each =>
      have indistinct : List.Forall₂ Server.Indistinct r.servers r'.servers :=
        each.imp fun _ _ server => server.indistinct
      dsimp only
      rw [Act.bind_apply, Act.bind_apply, announcements_eq each]
      exact ⟨rfl, .done ⟨dump_eq indistinct, indistinct⟩⟩

namespace Rotated

/-- A server that is named after the setting of passwords, and one that is named after the setting of URLs. Next to
their passwords there is one that belongs to no listed server, and a blank one. -/
def settings (first second other : String) : Settings := .ofList [
  ("ldap.servers", "bindPassword,url"),
  ("ldap.bindPassword", other),
  ("ldap.bindPassword.url", "ldap://north.example.org"),
  ("ldap.bindPassword.bindDn", "cn=reader"),
  ("ldap.bindPassword.bindPassword", first),
  ("ldap.bindPassword.user.bindPassword", " "),
  ("ldap.url.url", "ldaps://south.example.org"),
  ("ldap.url.bindPassword", second)]

def before : Settings := settings "winter" "rain" "frost"

def after : Settings := settings "summer" "ldap://sun" "rain, wind"

def dns : Dns Unit :=
  fun _ w => (.ok [], w)

end Rotated

/-- New passwords for servers with names that are themselves names of settings. -/
theorem resolve_passwords_rotated : Rotated.before.SameButPasswords Rotated.after ∧
    (resolve Rotated.before Rotated.dns ⟨(), []⟩).1.isOk ∧
    ((resolve Rotated.after Rotated.dns ⟨(), []⟩).1.toOption.map fun registry =>
      registry.servers.map (·.bindPassword)) = some [some "summer", some "ldap://sun"] ∧
    (resolve Rotated.after Rotated.dns ⟨(), []⟩).2 = (resolve Rotated.before Rotated.dns ⟨(), []⟩).2 ∧
    Same (fun r r' => r'.dump = r.dump ∧ List.Forall₂ Server.Indistinct r.servers r'.servers)
      (resolve Rotated.before Rotated.dns ⟨(), []⟩).1 (resolve Rotated.after Rotated.dns ⟨(), []⟩).1 := by
  have same : Rotated.before.SameButPasswords Rotated.after := by
    unfold Settings.SameButPasswords
    decide +kernel
  have built : (resolve Rotated.before Rotated.dns ⟨(), []⟩).1.isOk := by decide +kernel
  exact ⟨same, built, by decide +kernel, resolve_passwords same Rotated.dns ⟨(), []⟩⟩

end Registry

end DirectoryLogin
