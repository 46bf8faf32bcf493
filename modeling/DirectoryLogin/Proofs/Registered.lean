import DirectoryLogin.Proofs.Shapes
import Mathlib.Data.List.Nodup

namespace DirectoryLogin

open Text

/-- What stands in the one of two lists side by side has its like in the other. -/
theorem exists_beside {α β : Type} {together : α → β → Prop} {xs : List α} {ys : List β}
    (each : List.Forall₂ together xs ys) {y : β} (member : y ∈ ys) : ∃ x ∈ xs, together x y := by
  induction each with
  | nil => cases member
  | cons first _ ih =>
    rcases List.mem_cons.1 member with same | later
    · rw [same]
      exact ⟨_, List.mem_cons_self, first⟩
    · obtain ⟨x, inside, found⟩ := ih later
      exact ⟨x, List.mem_cons_of_mem _ inside, found⟩

theorem exists_each {α β : Type} {together : α → β → Prop} {xs : List α} (some_ : ∀ x ∈ xs, ∃ y, together x y) :
    ∃ ys, List.Forall₂ together xs ys := by
  induction xs with
  | nil => exact ⟨[], .nil⟩
  | cons x rest ih =>
    obtain ⟨y, first⟩ := some_ x List.mem_cons_self
    obtain ⟨ys, others⟩ := ih fun z member => some_ z (List.mem_cons_of_mem _ member)
    exact ⟨y :: ys, .cons first others⟩

section Guards

variable {α : Type} {p : Prop} [Decidable p] {e : Error}

/-- A step that may give up goes on exactly if it does not. -/
theorem guard_eq_ok {rest : Except Error α} {a : α} :
    (if p then (do throw e; rest) else rest) = .ok a ↔ ¬ p ∧ rest = .ok a := by
  by_cases fails : p
  · simp [fails, throw, throwThe, MonadExceptOf.throw, bind, Except.bind]
  · simp [fails]

theorem lastGuard_eq_ok {u : Unit} : (if p then throw e else pure ()) = (.ok u : Except Error Unit) ↔ ¬ p := by
  by_cases fails : p
  · simp [fails, throw, throwThe, MonadExceptOf.throw]
  · simp [fails, pure, Except.pure]

theorem check_eq_ok {check : Except Error Unit} {rest : Except Error α} {a : α} :
    (do check; rest) = .ok a ↔ check = .ok () ∧ rest = .ok a := by
  rw [bind_eq_ok]
  exact ⟨fun ⟨_, passed, same⟩ => ⟨passed, same⟩, fun ⟨passed, same⟩ => ⟨(), passed, same⟩⟩

end Guards

/-- A URL that leads to a directory; over the network it names a host. -/
def IsDirectoryUrl (text : String) : Prop :=
  ∃ url, Url.parse text = .ok url ∧
    (url.scheme = "ldapi" ∨ (url.scheme = "ldap" ∨ url.scheme = "ldaps") ∧ url.host.isSome)

theorem readUrl_eq_ok_iff {text : String} {url : Url} : readUrl text = .ok url ↔ Url.parse text = .ok url := by
  rw [readUrl]
  cases Url.parse text with
  | error e => simp
  | ok found => simp

theorem validateUrl_eq_ok_iff {text : String} : validateUrl text = .ok () ↔ IsDirectoryUrl text := by
  rw [validateUrl, bind_eq_ok, IsDirectoryUrl]
  refine exists_congr fun url => and_congr readUrl_eq_ok_iff ?_
  have known : ["ldap", "ldaps", "ldapi"].contains url.scheme ↔
      url.scheme = "ldapi" ∨ url.scheme = "ldap" ∨ url.scheme = "ldaps" := by
    simp only [List.contains_cons, List.contains_nil, Bool.or_eq_true, beq_iff_eq]
    tauto
  have hosted : ¬ ((url.scheme != "ldapi" && url.host.isNone) = true) ↔
      url.scheme = "ldapi" ∨ url.host.isSome := by
    cases url.host with
    | none => simp
    | some host => simp
  rw [guard_eq_ok, lastGuard_eq_ok, Bool.not_eq_true', Bool.not_eq_false, known, hosted]
  tauto

namespace ReferralPolicy

variable {selector : Option String} {patterns : List String} {filters : List ReferralFilter}

/-- A policy that is read from settings turns down by at least one pattern if it turns down by patterns. -/
theorem filters_ne_nil (read : ofSettings selector patterns = .ok (.denyByPattern filters)) : filters ≠ [] := by
  cases selector with
  | none => cases read
  | some word =>
    obtain ⟨policy, -, rest⟩ := bind_eq_ok.1 read
    cases policy with
    | allowAll => cases rest
    | denyAll => cases rest
    | denyByPattern _ =>
      obtain ⟨filled, compiled⟩ := guard_eq_ok.1 rest
      obtain ⟨found, each, same⟩ := bind_eq_ok.1 compiled
      cases same
      have length := (mapM_eq_ok.1 each).length_eq
      intro empty
      rw [empty, List.length_nil, List.length_eq_zero_iff] at length
      exact filled (List.isEmpty_iff.2 length)

end ReferralPolicy

namespace UserMapping

variable {s : Settings} {server : String}

theorem readFindMode_ne_all {mode : FindMode} (read : readFindMode s server = .ok mode) :
    mode = .unique ∨ mode = .first := by
  rw [readFindMode] at read
  split at read
  · cases read
    exact .inl rfl
  · next word _ =>
    cases found : FindMode.read word with
    | error e =>
      rw [found] at read
      cases read
    | ok other =>
      rw [found] at read
      cases other with
      | unique =>
        cases read
        exact .inl rfl
      | first =>
        cases read
        exact .inr rfl
      | all => cases read

theorem findMode_of_settings {mapping : UserMapping} (read : ofSettings s server = .ok (some mapping)) :
    mapping.findMode = .unique ∨ mapping.findMode = .first := by
  rw [ofSettings] at read
  split at read
  · cases read
  · obtain ⟨mode, found, same⟩ := bind_eq_ok.1 read
    cases same
    exact readFindMode_ne_all found

end UserMapping

namespace Server

/-- A server that can be used as it is. -/
structure Sound (x : Server) : Prop where
  named : hasContent x.key
  located : IsDirectoryUrl x.url
  realm : x.mechanism = .digestMd5 → x.realm.isSome
  /-- A lookup of a user never gathers all entries. -/
  mode : ∀ mapping, x.userMapping = some mapping → mapping.findMode = .unique ∨ mapping.findMode = .first
  filters : ∀ filters, x.referralPolicy = .denyByPattern filters → filters ≠ []

theorem validate_eq_ok_iff {x : Server} : x.validate = .ok () ↔
    hasContent x.key ∧ IsDirectoryUrl x.url ∧ (x.mechanism = .digestMd5 → x.realm.isSome) := by
  rw [validate, guard_eq_ok, check_eq_ok, lastGuard_eq_ok, validateUrl_eq_ok_iff]
  simp [Option.isSome_iff_ne_none]

variable {s : Settings} {server key url : String} {x : Server}

/-- What is read from settings has passed every check on the way. -/
theorem ofSettings_eq_ok (read : ofSettings s server key url = .ok x) :
    x.key = key ∧ x.url = url ∧ readReferralPolicy s server = .ok x.referralPolicy ∧
      UserMapping.ofSettings s server = .ok x.userMapping ∧ x.validate = .ok () := by
  obtain ⟨mechanism, -, rest⟩ := bind_eq_ok.1 read
  obtain ⟨policy, policyRead, rest⟩ := bind_eq_ok.1 rest
  obtain ⟨scope, -, rest⟩ := bind_eq_ok.1 rest
  obtain ⟨mapping, mappingRead, rest⟩ := bind_eq_ok.1 rest
  obtain ⟨connectTimeout, -, rest⟩ := bind_eq_ok.1 rest
  obtain ⟨readTimeout, -, rest⟩ := bind_eq_ok.1 rest
  obtain ⟨passed, same⟩ := check_eq_ok.1 rest
  cases same
  exact ⟨rfl, rfl, policyRead, mappingRead, passed⟩

theorem sound_of_settings (read : ofSettings s server key url = .ok x) : x.Sound := by
  obtain ⟨-, -, policyRead, mappingRead, passed⟩ := ofSettings_eq_ok read
  obtain ⟨named, located, realm⟩ := validate_eq_ok_iff.1 passed
  refine ⟨named, located, realm, ?_, ?_⟩
  · intro mapping same
    rw [same] at mappingRead
    exact UserMapping.findMode_of_settings mappingRead
  · intro filters same
    rw [same] at policyRead
    exact ReferralPolicy.filters_ne_nil policyRead

end Server

namespace SrvRecord

/-- The one record goes before the other: by its priority, or by its weight among records of one priority. -/
def GoesBefore (a b : SrvRecord) : Prop :=
  a.priority < b.priority ∨ a.priority = b.priority ∧ b.weight ≤ a.weight

theorem preferred_iff {a b : SrvRecord} : a.preferred b ↔ a.GoesBefore b := by
  simp [preferred, GoesBefore]

theorem order_sorted (records : List SrvRecord) : (order records).Pairwise GoesBefore := by
  have sorted : (order records).Pairwise fun a b => a.preferred b := by
    refine List.pairwise_mergeSort ?_ ?_ records
    · intro a b c first second
      rw [preferred_iff, GoesBefore] at *
      omega
    · intro a b
      rw [Bool.or_eq_true, preferred_iff, preferred_iff, GoesBefore, GoesBefore]
      omega
  exact sorted.imp fun before => preferred_iff.1 before

end SrvRecord

/-- A look-up of service records that keeps the names it was asked for. -/
def Dns.recording {σ : Type} (dns : Dns σ) : Dns (List String × σ) := fun name w =>
  ((dns name w.2).1, (w.1 ++ [name], (dns name w.2).2))

namespace Registry

variable {s : Settings} {σ : Type} {registry : Registry}

theorem ofServers_eq_ok_iff {servers : List Server} :
    ofServers servers = .ok registry ↔
      servers ≠ [] ∧ (servers.map (·.key)).Nodup ∧ registry.servers = servers := by
  rw [ofServers]
  by_cases some_ : servers ≠ []
  · by_cases distinct : (servers.map (·.key)).Nodup
    · rw [dif_pos some_, dif_pos distinct]
      constructor
      · intro made
        cases made
        exact ⟨some_, distinct, rfl⟩
      · rintro ⟨-, -, same⟩
        obtain ⟨servers', _, _⟩ := registry
        cases same
        rfl
    · simp [some_, distinct]
  · simp [some_]

/-- A server is found by its name. -/
theorem get?_of_getElem? {i : Nat} {server : Server} (at_ : registry.servers[i]? = some server) :
    registry.get? server.key = some server := by
  have member := List.mem_of_getElem? at_
  have found : (registry.servers.find? (·.key == server.key)).isSome :=
    List.find?_isSome.2 ⟨server, member, beq_self_eq_true _⟩
  obtain ⟨other, same⟩ := Option.isSome_iff_exists.1 found
  have named := List.find?_some same
  have inside := List.mem_of_find?_eq_some same
  have only := List.inj_on_of_nodup_map registry.keys_nodup inside member (beq_iff_eq.1 named)
  rw [get?, same, only]

/-- A registry comes of settings if its servers were read, one from each source. -/
theorem resolve_eq_ok_iff {dns : Dns σ} {t : Trace σ} : (resolve s dns t).1 = .ok registry ↔
    ∃ found, (sources s dns t).1 = .ok found ∧
      List.Forall₂ (fun source server => source.read s = .ok server) found registry.servers := by
  rw [resolve_eq, bind_eq_ok]
  refine exists_congr fun found => and_congr_right fun _ => ?_
  rw [ofSources, bind_eq_ok]
  constructor
  · rintro ⟨servers, read, made⟩
    obtain ⟨-, -, same⟩ := ofServers_eq_ok_iff.1 made
    rw [same]
    exact mapM_eq_ok.1 read
  · intro each
    have made := ofServers_eq_ok_iff.2 ⟨registry.servers_ne, registry.keys_nodup, rfl⟩
    exact ⟨registry.servers, mapM_eq_ok.2 each, made⟩

/-- A server has the name of its source. -/
theorem key_of_read {source : Source} {server : Server} (read : source.read s = .ok server) :
    server.key = source.key ∧ server.validate = .ok () ∧ server.Sound := by
  rw [Source.read] at read
  split at read
  · cases read
  · obtain ⟨key, -, -, -, passed⟩ := Server.ofSettings_eq_ok read
    exact ⟨key, passed, Server.sound_of_settings read⟩

/-- Where the names of servers come from, when `answer` is what the domain name system says. -/
inductive NamedBy (s : Settings) (answer : String → Except Error (List SrvRecord)) : List String → Prop
  | list (listed : s.getItems "ldap.servers" ≠ []) : NamedBy s answer (s.getItems "ldap.servers")
  | alone (unlisted : s.getItems "ldap.servers" = []) (located : s.hasKey "ldap.url") :
    NamedBy s answer ["<default>"]
  | realm {realm : String} {records ordered : List SrvRecord} (unlisted : s.getItems "ldap.servers" = [])
    (unlocated : ¬ s.hasKey "ldap.url") (given : s.get? "ldap.realm" = some realm)
    (answered : answer ("_ldap._tcp." ++ realm) = .ok records) (same : ordered.Perm records)
    (sorted : ordered.Pairwise SrvRecord.GoesBefore) : NamedBy s answer (ordered.map (·.key))

/-- The list of servers holds no name twice, whether it is used or not. -/
theorem NamedBy.items_nodup {answer : String → Except Error (List SrvRecord)} {keys : List String}
    (named : NamedBy s answer keys) (distinct : keys.Nodup) : (s.getItems "ldap.servers").Nodup := by
  cases named with
  | list listed => exact distinct
  | alone unlisted _ =>
    rw [unlisted]
    exact List.nodup_nil
  | realm unlisted _ _ _ _ _ =>
    rw [unlisted]
    exact List.nodup_nil

theorem shape_cases (s : Settings) :
    (s.getItems "ldap.servers" ≠ [] ∧ Shape.of s = .listed (s.getItems "ldap.servers")) ∨
    (s.getItems "ldap.servers" = [] ∧ ∃ url, s.get? "ldap.url" = some url ∧ Shape.of s = .single url) ∨
    (s.getItems "ldap.servers" = [] ∧ s.get? "ldap.url" = none ∧
      ∃ realm, s.get? "ldap.realm" = some realm ∧ Shape.of s = .discovered realm) ∨
    Shape.of s = .none := by
  rw [Shape.of]
  cases s.getItems "ldap.servers" with
  | cons key rest => simp
  | nil =>
    cases s.get? "ldap.url" with
    | some url => simp
    | none => cases s.get? "ldap.realm" <;> simp

theorem discover_world (dns : Dns σ) (realm : String) (t : Trace σ) :
    (discover dns realm t).2.world = (dns ("_ldap._tcp." ++ realm) t.world).2 := by
  have performed : (Act.perform (dns (serviceName realm)) t).2.world = (dns (serviceName realm) t.world).2 := rfl
  rw [discover, Act.bind_apply]
  cases (Act.perform (dns (serviceName realm)) t).1 with
  | error e => exact performed
  | ok records => exact performed

/-- A realm is asked for, and nothing else. -/
theorem sources_world (s : Settings) (dns : Dns σ) (t : Trace σ) :
    (sources s dns t).2.world = match Shape.of s with
      | .discovered realm => (dns ("_ldap._tcp." ++ realm) t.world).2
      | _ => t.world := by
  rw [sources]
  cases Shape.of s with
  | listed keys =>
    dsimp only
    cases rejectUnlinked s keys <;> rfl
  | single url => rfl
  | none => rfl
  | discovered realm =>
    dsimp only
    rw [Act.bind_apply, Act.bind_apply]
    have asked := discover_world dns realm
      (Act.note (.info "No LDAP URL configured, discovering servers" [("realm", realm)]) t).2
    cases (discover dns realm _).1 with
    | error e => exact asked
    | ok records => cases records <;> exact asked

theorem resolve_world (s : Settings) (dns : Dns σ) (t : Trace σ) :
    (resolve s dns t).2.world = (sources s dns t).2.world := by
  rw [resolve, Act.bind_apply]
  cases (sources s dns t).1 with
  | error e => rfl
  | ok found =>
    dsimp only
    rw [Act.bind_apply]
    cases ofSources s found <;> rfl

/-- Where the settings of servers are: in the places of a list, in one place, or in those of service records. -/
theorem sources_eq_ok {dns : Dns σ} {t : Trace σ} {found : List Source} (located : (sources s dns t).1 = .ok found) :
    (s.getItems "ldap.servers" ≠ [] ∧ found = (s.getItems "ldap.servers").map (Source.listed s)) ∨
    (s.getItems "ldap.servers" = [] ∧ ∃ url, s.get? "ldap.url" = some url ∧ found = [⟨root, defaultKey, some url⟩]) ∨
    (s.getItems "ldap.servers" = [] ∧ s.get? "ldap.url" = none ∧
      ∃ realm records, s.get? "ldap.realm" = some realm ∧ (dns (serviceName realm) t.world).1 = .ok records ∧
        SrvRecord.order records ≠ [] ∧ found = (SrvRecord.order records).map Source.discovered) := by
  obtain ⟨listed, shape⟩ | ⟨unlisted, url, given, shape⟩ | ⟨unlisted, unset, realm, given, shape⟩ | shape :=
    shape_cases s
  · rw [sources, shape] at located
    dsimp only at located
    cases linked : rejectUnlinked s (s.getItems "ldap.servers") with
    | error e =>
      rw [linked] at located
      cases located
    | ok _ =>
      rw [linked] at located
      cases located
      exact .inl ⟨listed, rfl⟩
  · rw [sources, shape] at located
    cases located
    exact .inr (.inl ⟨unlisted, url, given, rfl⟩)
  · rw [sources_discovered shape] at located
    obtain ⟨records, answered, rest⟩ := bind_eq_ok.1 located
    split at rest
    · cases rest
    · next some_ =>
      cases rest
      exact .inr (.inr ⟨unlisted, unset, realm, records, given, answered, some_, rfl⟩)
  · rw [sources, shape] at located
    cases located

theorem sources_ne_nil {dns : Dns σ} {t : Trace σ} {found : List Source} (located : (sources s dns t).1 = .ok found) :
    found ≠ [] := by
  obtain ⟨listed, rfl⟩ | ⟨-, url, -, rfl⟩ | ⟨-, -, realm, records, -, -, some_, rfl⟩ := sources_eq_ok located
  · exact fun empty => listed (List.map_eq_nil_iff.1 empty)
  · exact List.cons_ne_nil _ _
  · exact fun empty => some_ (List.map_eq_nil_iff.1 empty)

theorem sources_named {dns : Dns σ} {t : Trace σ} {found : List Source} (located : (sources s dns t).1 = .ok found) :
    NamedBy s (fun name => (dns name t.world).1) (found.map (·.key)) := by
  obtain ⟨listed, rfl⟩ | ⟨unlisted, url, given, rfl⟩ | ⟨unlisted, unset, realm, records, given, answered, -, rfl⟩ :=
    sources_eq_ok located
  · have keys : ((s.getItems "ldap.servers").map (Source.listed s)).map (·.key) = s.getItems "ldap.servers" := by
      rw [List.map_map]
      exact List.map_id _
    rw [keys]
    exact .list listed
  · have hasUrl : s.hasKey "ldap.url" := by rw [Settings.hasKey, given, Option.isSome_some]
    exact .alone unlisted hasUrl
  · have hasNoUrl : ¬ s.hasKey "ldap.url" := by simp [Settings.hasKey, unset]
    have perm : (SrvRecord.order records).Perm records := List.mergeSort_perm records SrvRecord.preferred
    rw [List.map_map]
    exact .realm unlisted hasNoUrl given answered perm (SrvRecord.order_sorted records)

theorem keys_eq_of_read {found : List Source}
    (each : List.Forall₂ (fun source server => source.read s = .ok server) found registry.servers) :
    registry.keys = found.map (·.key) :=
  (map_eq_map_of_each each fun _ _ read => (key_of_read read).1.symm).symm

/-- What holds of a registry that settings were resolved to, when `answer` is what the domain name system says. -/
structure Registered (s : Settings) (answer : String → Except Error (List SrvRecord)) (registry : Registry) :
    Prop where
  filled : registry.servers ≠ []
  distinct : registry.keys.Nodup
  found : ∀ (i : Nat) (server : Server), registry.servers[i]? = some server → registry.get? server.key = some server
  sound : ∀ server ∈ registry.servers, server.validate = .ok () ∧ server.Sound
  named : NamedBy s answer registry.keys

theorem registered_of_resolve {dns : Dns σ} {t : Trace σ} (resolved : (resolve s dns t).1 = .ok registry) :
    Registered s (fun name => (dns name t.world).1) registry := by
  obtain ⟨found, located, each⟩ := resolve_eq_ok_iff.1 resolved
  refine ⟨registry.servers_ne, registry.keys_nodup, fun _ _ at_ => get?_of_getElem? at_, fun server member => ?_, ?_⟩
  · obtain ⟨source, -, read⟩ := exists_beside each member
    exact (key_of_read read).2
  · rw [keys_eq_of_read each]
    exact sources_named located

/-- The names that the domain name system is asked for. -/
theorem asked_eq (s : Settings) (dns : Dns σ) (t : Trace (List String × σ)) :
    (resolve s dns.recording t).2.world.1 = match Shape.of s with
      | .discovered realm => t.world.1 ++ ["_ldap._tcp." ++ realm]
      | _ => t.world.1 := by
  rw [resolve_world, sources_world]
  cases Shape.of s <;> rfl

/-- Nobody is asked, or the domain name system is, once and for a realm that has neither a list nor a URL beside it. -/
theorem asked_cases (s : Settings) (dns : Dns σ) (t : Trace σ) {asked : List String}
    (same : (resolve s dns.recording ⟨([], t.world), t.log⟩).2.world.1 = asked) :
    asked = [] ∨ s.getItems "ldap.servers" = [] ∧ ¬ s.hasKey "ldap.url" ∧
      ∃ realm, s.get? "ldap.realm" = some realm ∧ asked = ["_ldap._tcp." ++ realm] := by
  rw [← same, asked_eq]
  obtain ⟨_, shape⟩ | ⟨_, url, _, shape⟩ | ⟨unlisted, unset, realm, given, shape⟩ | shape := shape_cases s
  · exact .inl (by rw [shape])
  · exact .inl (by rw [shape])
  · have hasNoUrl : ¬ s.hasKey "ldap.url" := by simp [Settings.hasKey, unset]
    exact .inr ⟨unlisted, hasNoUrl, realm, given, by rw [shape]; rfl⟩
  · exact .inl (by rw [shape])

theorem resolve_of_repeated {dns : Dns σ} {t : Trace σ} (repeated : ¬ (s.getItems "ldap.servers").Nodup) :
    ∃ e, (resolve s dns t).1 = .error e := by
  cases outcome : (resolve s dns t).1 with
  | error e => exact ⟨e, rfl⟩
  | ok registry =>
    have registered := registered_of_resolve outcome
    exact absurd (registered.named.items_nodup registered.distinct) repeated

/-- The servers of a registry are those of the sources, one from each. -/
theorem read_of_resolve {dns : Dns σ} {t : Trace σ} {found : List Source} (located : (sources s dns t).1 = .ok found)
    (resolved : (resolve s dns t).1 = .ok registry) :
    List.Forall₂ (fun source server => source.read s = .ok server) found registry.servers := by
  obtain ⟨found', located', each⟩ := resolve_eq_ok_iff.1 resolved
  rw [located] at located'
  cases located'
  exact each

/-- Settings resolve to a registry exactly if no name comes twice and every server can be read. -/
theorem exists_registry_iff {dns : Dns σ} {t : Trace σ} {found : List Source}
    (located : (sources s dns t).1 = .ok found) :
    (∃ registry, (resolve s dns t).1 = .ok registry) ↔
      (found.map (·.key)).Nodup ∧ ∀ source ∈ found, ∃ server, source.read s = .ok server := by
  constructor
  · rintro ⟨registry, resolved⟩
    have each := read_of_resolve located resolved
    have distinct : registry.keys.Nodup := registry.keys_nodup
    rw [keys_eq_of_read each] at distinct
    refine ⟨distinct, fun source member => ?_⟩
    obtain ⟨server, -, read⟩ := exists_beside each.flip member
    exact ⟨server, read⟩
  · rintro ⟨distinct, readable⟩
    obtain ⟨servers, each⟩ := exists_each readable
    have keys : found.map (·.key) = servers.map (·.key) :=
      map_eq_map_of_each each fun _ _ read => (key_of_read read).1.symm
    have some_ : servers ≠ [] := by
      intro empty
      rw [empty] at each
      cases each
      exact sources_ne_nil located rfl
    exact ⟨⟨servers, some_, keys ▸ distinct⟩, resolve_eq_ok_iff.2 ⟨found, located, each⟩⟩

/-- A registry that was resolved is well-formed and faithful to its settings: it has servers, all sound, with names of
their own under which they are found; the names are the items of the list, the usual name of a server that stands
alone, or those of the service records in the order in which they are preferred; and every server was read from its
source. The domain name system is asked once for the realm where there is neither a list nor a URL, and otherwise not
at all. A name that comes twice in the list, or one server that cannot be read, fails the whole resolution, and nothing
else does once it is known where the servers are. -/
theorem resolve_registered (s : Settings) (dns : Dns σ) (t : Trace σ) :
    (∀ registry, (resolve s dns t).1 = .ok registry → Registered s (fun name => (dns name t.world).1) registry) ∧
    (∀ asked, (resolve s dns.recording ⟨([], t.world), t.log⟩).2.world.1 = asked →
      asked = [] ∨ s.getItems "ldap.servers" = [] ∧ ¬ s.hasKey "ldap.url" ∧
        ∃ realm, s.get? "ldap.realm" = some realm ∧ asked = ["_ldap._tcp." ++ realm]) ∧
    (¬ (s.getItems "ldap.servers").Nodup → ∃ e, (resolve s dns t).1 = .error e) ∧
    ∀ found, (sources s dns t).1 = .ok found →
      (∀ registry, (resolve s dns t).1 = .ok registry →
        List.Forall₂ (fun source server => source.read s = .ok server) found registry.servers) ∧
      ((∃ registry, (resolve s dns t).1 = .ok registry) ↔
        (found.map (·.key)).Nodup ∧ ∀ source ∈ found, ∃ server, source.read s = .ok server) := by
  refine ⟨fun registry resolved => registered_of_resolve resolved, fun asked same => asked_cases s dns t same,
    fun repeated => resolve_of_repeated repeated, fun found located => ⟨fun registry resolved => ?_, ?_⟩⟩
  · exact read_of_resolve located resolved
  · exact exists_registry_iff located

namespace Coasts

/-- Two listed servers: one with a realm to authenticate in, one with patterns for referrals and a mode for users. -/
def both : Settings := .ofList [
  ("ldap.servers", " west, east"),
  ("ldap.east.url", "LDAPS://east.example.org:636"),
  ("ldap.east.authentication", "DIGEST-MD5"),
  ("ldap.east.realm", "example.org"),
  ("ldap.west.url", "ldap://west.example.org"),
  ("ldap.west.referralHandling", "filtered"),
  ("ldap.west.referralFilterList", "ldap://(old|older)/"),
  ("ldap.west.user.baseDn", "ou=people"),
  ("ldap.west.user.findMode", "first")]

/-- A list that names its only server twice. -/
def twice : Settings := .ofList [
  ("ldap.servers", "east,east"),
  ("ldap.east.url", "ldap://east.example.org")]

end Coasts

/-- A list of two servers, a list with a name that comes twice, and a realm that has two servers. -/
theorem resolve_registered_coasts :
    (∃ registry, (resolve Coasts.both Northern.dns ⟨(), []⟩).1 = .ok registry ∧ registry.keys = ["west", "east"] ∧
      Registered Coasts.both (fun name => (Northern.dns name ()).1) registry) ∧
    (¬ (Coasts.twice.getItems "ldap.servers").Nodup ∧
      ∃ e, (resolve Coasts.twice Northern.dns ⟨(), []⟩).1 = .error e) ∧
    (∃ registry, (resolve Northern.advertised Northern.dns ⟨(), []⟩).1 = .ok registry ∧
      Registered Northern.advertised (fun name => (Northern.dns name ()).1) registry) ∧
    (resolve Northern.advertised Northern.dns.recording ⟨([], ()), []⟩).2.world.1 = ["_ldap._tcp.example.org"] := by
  refine ⟨?_, ?_, ?_, ?_⟩
  · have keys : (resolve Coasts.both Northern.dns ⟨(), []⟩).1.toOption.map Registry.keys = some ["west", "east"] := by
      decide +kernel
    cases outcome : (resolve Coasts.both Northern.dns ⟨(), []⟩).1 with
    | error e =>
      rw [outcome] at keys
      cases keys
    | ok registry =>
      rw [outcome] at keys
      exact ⟨registry, rfl, Option.some.inj keys, (resolve_registered _ _ _).1 registry outcome⟩
  · have repeated : ¬ (Coasts.twice.getItems "ldap.servers").Nodup := by decide +kernel
    exact ⟨repeated, (resolve_registered _ _ _).2.2.1 repeated⟩
  · obtain ⟨registry, resolved⟩ := Northern.resolve_advertised
    exact ⟨registry, resolved, (resolve_registered _ _ _).1 registry resolved⟩
  · obtain ⟨unlisted, unset, given⟩ := Northern.advertised_realm
    rw [asked_eq, shape_discovered unlisted unset given]
    rfl

end Registry

end DirectoryLogin
