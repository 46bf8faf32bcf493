import DirectoryLogin.Proofs.Promise
import DirectoryLogin.Registry
import Mathlib.Data.List.Forall2

namespace DirectoryLogin

open Text

theorem bind_eq_ok {α β : Type} {x : Except Error α} {f : α → Except Error β} {b : β} :
    x >>= f = .ok b ↔ ∃ a, x = .ok a ∧ f a = .ok b := by
  cases x with
  | error e => simp [bind, Except.bind]
  | ok a => simp [bind, Except.bind]

theorem mapM_eq_ok {α β : Type} {f : α → Except Error β} {xs : List α} {ys : List β} :
    xs.mapM f = .ok ys ↔ List.Forall₂ (fun x y => f x = .ok y) xs ys := by
  induction xs generalizing ys with
  | nil => simp [pure, Except.pure, eq_comm]
  | cons x rest ih =>
    rw [List.mapM_cons, bind_eq_ok, List.forall₂_cons_left_iff]
    simp only [bind_eq_ok, ih]
    simp [pure, Except.pure, eq_comm]

/-- Lists that agree, one by one, in what is read off them. -/
theorem map_eq_map_of_each {α β γ : Type} {together : α → β → Prop} {f : α → γ} {g : β → γ} {xs : List α} {ys : List β}
    (each : List.Forall₂ together xs ys) (equal : ∀ x y, together x y → f x = g y) : xs.map f = ys.map g := by
  have both : List.Forall₂ (fun a b => a = b) (xs.map f) (ys.map g) := by
    rw [List.forall₂_map_left_iff, List.forall₂_map_right_iff]
    exact each.imp equal
  exact List.forall₂_eq_eq_eq ▸ both

/-- What kind of error it is: the error without its texts. -/
def Error.kind : Error → Error
  | .configuration _ => .configuration ""
  | .invalidUrl .. => .invalidUrl "" ""
  | .unsupportedMechanism _ => .unsupportedMechanism ""
  | .connection _ => .connection ""
  | .bind _ => .bind ""
  | .search _ => .search ""
  | .notFound _ => .notFound ""
  | .nonUniqueResult _ => .nonUniqueResult ""
  | .referral _ => .referral ""
  | .kerberos _ => .kerberos ""
  | .discovery _ => .discovery ""
  | .timeout => .timeout
  | .client _ => .client ""

/-- Two outcomes of one kind: both are errors, of one kind, or neither is. -/
inductive Kindred {α β : Type} (together : α → β → Prop) : Except Error α → Except Error β → Prop
  | ok {a b} (paired : together a b) : Kindred together (.ok a) (.ok b)
  | error {e f} (same : e.kind = f.kind) : Kindred together (.error e) (.error f)

namespace Kindred

variable {α β γ δ : Type}

theorem refl (x : Except Error α) : Kindred Eq x x := by
  cases x with
  | ok a => exact .ok rfl
  | error e => exact .error rfl

theorem bind {together : α → β → Prop} {after : γ → δ → Prop} {x : Except Error α} {y : Except Error β}
    {f : α → Except Error γ} {g : β → Except Error δ} (first : Kindred together x y)
    (second : ∀ a b, together a b → Kindred after (f a) (g b)) : Kindred after (x >>= f) (y >>= g) := by
  cases first with
  | ok paired => exact second _ _ paired
  | error same => exact .error same

theorem bind_eq {after : γ → δ → Prop} {x y : Except Error α} {f : α → Except Error γ} {g : α → Except Error δ}
    (first : Kindred Eq x y) (second : ∀ a, Kindred after (f a) (g a)) : Kindred after (x >>= f) (y >>= g) := by
  refine first.bind fun a b same => ?_
  subst same
  exact second a

theorem of_ok {together : α → β → Prop} {a : α} {y : Except Error β} (kindred : Kindred together (.ok a) y) :
    ∃ b, y = .ok b ∧ together a b := by
  cases kindred with
  | ok paired => exact ⟨_, rfl, paired⟩

end Kindred

namespace Settings

theorem get?_of_not_hasKey {s : Settings} {key : String} (missing : ¬ s.hasKey key) : s.get? key = none := by
  simpa [hasKey] using missing

theorem getItems_of_not_hasKey {s : Settings} {key : String} (missing : ¬ s.hasKey key) : s.getItems key = [] := by
  rw [Settings.getItems, get?_of_not_hasKey missing]

/-- The settings of two servers agree, but for the URL. -/
def SameUnder (s s' : Settings) (server server' : String) : Prop :=
  ∀ name : String, name.toList.head? = some '.' ∧ name ≠ ".url" →
    s'.get? (server' ++ name) = s.get? (server ++ name)

namespace SameUnder

variable {s s' : Settings} {server server' : String}

theorem refl (s : Settings) (server : String) : s.SameUnder s server server :=
  fun _ _ => rfl

theorem getItems (same : s.SameUnder s' server server') {name : String}
    (other : name.toList.head? = some '.' ∧ name ≠ ".url") :
    s'.getItems (server' ++ name) = s.getItems (server ++ name) := by
  rw [Settings.getItems, Settings.getItems, same name other]

theorem getD (same : s.SameUnder s' server server') {name : String}
    (other : name.toList.head? = some '.' ∧ name ≠ ".url") (fallback : String) :
    s'.getD (server' ++ name) fallback = s.getD (server ++ name) fallback := by
  rw [Settings.getD, Settings.getD, same name other]

/-- A number of milliseconds is named by its key where it cannot be read. -/
theorem getMillis (same : s.SameUnder s' server server') {name : String}
    (other : name.toList.head? = some '.' ∧ name ≠ ".url") :
    Kindred Eq (s.getMillis (server ++ name)) (s'.getMillis (server' ++ name)) := by
  rw [Settings.getMillis, Settings.getMillis, same name other]
  cases s.get? (server ++ name) with
  | none => exact .refl _
  | some value =>
    cases read : readNumeral wordBound (trim value.toList) with
    | some n => simpa only [read] using .ok rfl
    | none => simpa only [read] using .error rfl

theorem userMapping (same : s.SameUnder s' server server') :
    Kindred Eq (UserMapping.ofSettings s server) (UserMapping.ofSettings s' server') := by
  have base : UserMapping.baseDn? s' server' = UserMapping.baseDn? s server := by
    rw [UserMapping.baseDn?, UserMapping.baseDn?, same ".user.baseDn" (by decide), same ".realm" (by decide)]
  have older : UserMapping.deprecatedRequest? s' server' = UserMapping.deprecatedRequest? s server := by
    rw [UserMapping.deprecatedRequest?, UserMapping.deprecatedRequest?, same ".user.objectClass" (by decide),
      same ".user.loginAttribute" (by decide)]
  have request : UserMapping.requestText s' server' = UserMapping.requestText s server := by
    rw [UserMapping.requestText, UserMapping.requestText, older, same.getD (by decide)]
  have mode : Kindred Eq (UserMapping.readFindMode s server) (UserMapping.readFindMode s' server') := by
    rw [UserMapping.readFindMode, UserMapping.readFindMode, same ".user.findMode" (by decide)]
    cases s.get? (server ++ ".user.findMode") with
    | none => exact .refl _
    | some word =>
      dsimp only
      split
      · exact .error rfl
      · exact .refl _
  rw [UserMapping.ofSettings, UserMapping.ofSettings, base, request, same.getD (by decide), same.getD (by decide)]
  cases UserMapping.baseDn? s server with
  | none => exact .refl _
  | some baseDn =>
    exact mode.bind_eq fun found => .refl _

theorem groupMapping (same : s.SameUnder s' server server') :
    GroupMapping.ofSettings s' server' = GroupMapping.ofSettings s server := by
  have older : GroupMapping.deprecatedRequest? s' server' = GroupMapping.deprecatedRequest? s server := by
    rw [GroupMapping.deprecatedRequest?, GroupMapping.deprecatedRequest?, same ".group.objectClass" (by decide),
      same ".group.memberAttribute" (by decide)]
  have request : GroupMapping.requestText s' server' = GroupMapping.requestText s server := by
    rw [GroupMapping.requestText, GroupMapping.requestText, older, same.getD (by decide)]
  rw [GroupMapping.ofSettings, GroupMapping.ofSettings, request, same ".group.baseDn" (by decide),
    same.getD (by decide)]

end SameUnder

end Settings

namespace Server

variable {s s' : Settings} {server server' key key' : String}

/-- A check asks nothing of a server's name but that it has one. -/
theorem checked_kindred (x : Server) (named : hasContent x.key) (named' : hasContent key) :
    Kindred (fun a b => b = { a with key }) x.checked { x with key }.checked := by
  have valid : Kindred (fun _ _ => True) x.validate { x with key }.validate := by
    simp only [validate, named, named', Bool.not_true]
    refine .bind (.refl _) fun _ _ _ => ?_
    split
    · exact .error rfl
    · exact .ok trivial
  exact valid.bind fun _ _ _ => .ok rfl

/-- Servers with the same settings, up to the URL that both are given, are read alike. -/
theorem ofSettings_kindred (url : String) (same : s.SameUnder s' server server') (named : hasContent key)
    (named' : hasContent key') :
    Kindred (fun a b => b = { a with key := key' }) (ofSettings s server key url)
      (ofSettings s' server' key' url) := by
  have mechanism : readMechanism s' server' = readMechanism s server := by
    rw [readMechanism, readMechanism, same ".authentication" (by decide)]
  have policy : readReferralPolicy s' server' = readReferralPolicy s server := by
    rw [readReferralPolicy, readReferralPolicy, same ".referralHandling" (by decide), same.getItems (by decide)]
  have scope : readScope s' server' = readScope s server := by
    rw [readScope, readScope, same ".searchScope" (by decide)]
  rw [ofSettings, ofSettings, mechanism, policy, scope, same.groupMapping, same ".bindDn" (by decide),
    same ".bindPassword" (by decide), same ".realm" (by decide)]
  -- both readings come to the same settings in the same order, so it is the same one that fails first
  refine .bind_eq (.refl _) fun mechanism => ?_
  refine .bind_eq (.refl _) fun policy => ?_
  refine .bind_eq (.refl _) fun scope => ?_
  refine .bind_eq same.userMapping fun userMapping => ?_
  refine .bind_eq (same.getMillis (by decide)) fun connectTimeout => ?_
  refine .bind_eq (same.getMillis (by decide)) fun readTimeout => ?_
  exact checked_kindred _ named named'

/-- A server that has been read has the name that it was to have. -/
theorem ofSettings_key {url : String} {x : Server} (named : hasContent key)
    (found : ofSettings s server key url = .ok x) : x.key = key := by
  have itself := ofSettings_kindred url (.refl s server) named named
  rw [found] at itself
  obtain ⟨y, same, paired⟩ := itself.of_ok
  cases same
  exact congrArg (·.key) paired

end Server

namespace Registry

variable {s : Settings} {σ : Type}

/-- What is logged on the way has no part in the outcome. -/
theorem resolve_eq (s : Settings) (dns : Dns σ) (t : Trace σ) :
    (resolve s dns t).1 = (sources s dns t).1 >>= ofSources s := by
  rw [resolve, Act.bind_apply]
  cases (sources s dns t).1 with
  | error e => rfl
  | ok found =>
    have read : (Except.ok found >>= ofSources s : Except Error Registry) = ofSources s found := rfl
    dsimp only
    rw [Act.bind_apply, read]
    cases ofSources s found with
    | error e => rfl
    | ok registry => rfl

theorem ofServers_single (server : Server) :
    ∃ registry, ofServers [server] = .ok registry ∧ registry.servers = [server] := by
  refine ⟨⟨[server], by simp, by simp⟩, ?_, rfl⟩
  simp [ofServers]

theorem ofServers_eq_ok {servers : List Server} {registry : Registry} (made : ofServers servers = .ok registry) :
    registry.servers = servers := by
  rw [ofServers] at made
  split at made
  · split at made
    · cases made
      rfl
    · cases made
  · cases made

theorem shape_single {url : String} (unlisted : ¬ s.hasKey "ldap.servers") (given : s.get? "ldap.url" = some url) :
    Shape.of s = .single url := by
  rw [Shape.of, Settings.getItems_of_not_hasKey unlisted, given]

theorem shape_discovered {realm : String} (unlisted : ¬ s.hasKey "ldap.servers") (unset : ¬ s.hasKey "ldap.url")
    (given : s.get? "ldap.realm" = some realm) : Shape.of s = .discovered realm := by
  rw [Shape.of, Settings.getItems_of_not_hasKey unlisted, Settings.get?_of_not_hasKey unset, given]

theorem ofSources_single (s : Settings) (source : Source) :
    ofSources s [source] = source.read s >>= fun server => ofServers [server] := by
  rw [ofSources, List.mapM_cons]
  cases source.read s with
  | error e => rfl
  | ok server => rfl

theorem resolve_single {url : String} (unlisted : ¬ s.hasKey "ldap.servers") (given : s.get? "ldap.url" = some url)
    (dns : Dns σ) (t : Trace σ) :
    (resolve s dns t).1 = Server.ofSettings s root defaultKey url >>= fun server => ofServers [server] := by
  have found : (sources s dns t).1 = .ok [⟨root, defaultKey, some url⟩] := by
    rw [sources, shape_single unlisted given]
    rfl
  rw [resolve_eq, found]
  exact ofSources_single ..

theorem ofSources_eq_ok {found : List Source} {registry : Registry} (made : ofSources s found = .ok registry) :
    List.Forall₂ (fun source server => source.read s = .ok server) found registry.servers := by
  obtain ⟨servers, read, gathered⟩ := bind_eq_ok.1 made
  rw [ofServers_eq_ok gathered]
  exact mapM_eq_ok.1 read

theorem discover_eq (dns : Dns σ) (realm : String) (t : Trace σ) :
    (discover dns realm t).1 = (dns (serviceName realm) t.world).1.map SrvRecord.order := by
  rw [discover, Act.bind_apply]
  have performed : (Act.perform (dns (serviceName realm)) t).1 = (dns (serviceName realm) t.world).1 := rfl
  rw [performed]
  cases (dns (serviceName realm) t.world).1 with
  | error e => rfl
  | ok records => rfl

/-- The sources of a realm are the records that the domain name system has for it. -/
theorem sources_discovered {realm : String} (shape : Shape.of s = .discovered realm) (dns : Dns σ) (t : Trace σ) :
    (sources s dns t).1 = (dns (serviceName realm) t.world).1 >>= fun records =>
      if SrvRecord.order records = [] then .error (missingUrl root)
      else .ok ((SrvRecord.order records).map Source.discovered) := by
  rw [sources, shape]
  dsimp only
  rw [Act.bind_apply, Act.bind_apply, discover_eq]
  have world (e : Event) : (Act.note (σ := σ) e t).2.world = t.world := rfl
  rw [world]
  cases (dns (serviceName realm) t.world).1 with
  | error e => rfl
  | ok records =>
    simp only [Except.map, bind, Except.bind]
    cases ordered : SrvRecord.order records with
    | nil => rfl
    | cons record rest => rfl

/-- Every server that was discovered is read from its record, in the order in which the records are preferred. -/
theorem resolve_discovered {realm : String} (unlisted : ¬ s.hasKey "ldap.servers") (unset : ¬ s.hasKey "ldap.url")
    (given : s.get? "ldap.realm" = some realm) {dns : Dns σ} {t : Trace σ} {registry : Registry}
    (resolved : (resolve s dns t).1 = .ok registry) :
    ∃ records, (dns (serviceName realm) t.world).1 = .ok records ∧
      List.Forall₂ (fun (record : SrvRecord) server => Server.ofSettings s root record.key record.url = .ok server)
        (SrvRecord.order records) registry.servers := by
  rw [resolve_eq, sources_discovered (shape_discovered unlisted unset given), bind_assoc] at resolved
  obtain ⟨records, answer, rest⟩ := bind_eq_ok.1 resolved
  obtain ⟨found, nonempty, made⟩ := bind_eq_ok.1 rest
  split at nonempty
  · cases nonempty
  · cases nonempty
    have each := ofSources_eq_ok made
    rw [List.forall₂_map_left_iff] at each
    exact ⟨records, answer, each⟩

end Registry

end DirectoryLogin
