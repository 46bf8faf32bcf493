import DirectoryLogin.Proofs.Authentication
import DirectoryLogin.Proofs.Resolution
import Mathlib.Data.List.Nodup

namespace DirectoryLogin

open Text

namespace Dictionary

variable {α : Type}

theorem get?_ofList_iff {pairs : List (String × α)} (distinct : (pairs.map (·.1)).Nodup) {key : String}
    {value : α} : (ofList pairs).get? key = some value ↔ (key, value) ∈ pairs := by
  refine get?_ofList_iff_of_agree fun v w first second => ?_
  have same := List.inj_on_of_nodup_map distinct first second rfl
  exact congrArg Prod.snd same

end Dictionary

namespace Settings

open Registry (root)

/-- The key that a setting has under a server where it had another one under the root. -/
def moved (server key : String) : String :=
  server ++ String.ofList (key.toList.drop root.length)

def listedPairs (s : Settings) (key : String) : List (String × String) :=
  ("ldap.servers", key) :: s.values.pairs.map fun p => (moved (root ++ "." ++ key) p.1, p.2)

/-- The settings of a single server as those of a server that is the only one of a list. -/
def listedUnder (s : Settings) (key : String) : Settings :=
  .ofList (s.listedPairs key)

/-- What a list of servers may call one of them: a text that is an item by itself, and a part of a key. -/
def MemberName (key : String) : Prop :=
  key ≠ "" ∧ trimmed key = key ∧ ',' ∉ key.toList ∧ '.' ∉ key.toList

instance (key : String) : Decidable (MemberName key) :=
  inferInstanceAs (Decidable (_ ∧ _))

/-- Every setting is one of directory servers. -/
def Rooted (s : Settings) : Prop :=
  ∀ key ∈ s.values.keys, startsWith key (root ++ ".")

instance (s : Settings) : Decidable s.Rooted :=
  inferInstanceAs (Decidable (∀ key ∈ s.values.keys, startsWith key (root ++ ".") = true))

variable {s : Settings} {key : String}

theorem moved_root (server name : String) : moved server (root ++ name) = server ++ name := by
  rw [moved, String.toList_append, root, ← String.length_toList, List.drop_left, String.ofList_toList]

/-- What follows the root in the key of a setting. -/
theorem Rooted.name (rooted : s.Rooted) {p : String × String} (member : p ∈ s.values.pairs) :
    ∃ name : String, name.toList.head? = some '.' ∧ p.1 = root ++ name := by
  have begins := rooted p.1 (List.mem_map_of_mem member)
  obtain ⟨rest, whole⟩ := List.isPrefixOf_iff_prefix.1 begins
  refine ⟨"." ++ String.ofList rest, by simp, String.toList_injective ?_⟩
  rw [← whole]
  simp

/-- The list itself is in no server's place. -/
theorem under_ne_servers (key : String) {name : String} (dotted : name.toList.head? = some '.') :
    root ++ "." ++ key ++ name ≠ "ldap.servers" := by
  intro same
  obtain ⟨rest, spelled⟩ := List.head?_eq_some_iff.1 dotted
  have letters := congrArg String.toList same
  simp only [root, String.toList_append, spelled] at letters
  have tail : key.toList ++ '.' :: rest = "servers".toList := @List.append_cancel_left _ "ldap.".toList _ _ letters
  have member : '.' ∈ "servers".toList := by
    rw [← tail]
    simp
  exact absurd member (by decide)

theorem Rooted.distinct (rooted : s.Rooted) (key : String) : ((s.listedPairs key).map (·.1)).Nodup := by
  rw [listedPairs, List.map_cons, List.nodup_cons, List.map_map]
  constructor
  · intro member
    obtain ⟨p, inside, same⟩ := List.mem_map.1 member
    obtain ⟨name, dotted, spelled⟩ := rooted.name inside
    rw [Function.comp_apply, spelled, moved_root] at same
    exact under_ne_servers key dotted same
  · refine List.pairwise_map.2 (s.values.ascending.imp_of_mem ?_)
    intro p q inside inside' less same
    obtain ⟨name, -, spelled⟩ := rooted.name inside
    obtain ⟨name', -, spelled'⟩ := rooted.name inside'
    simp only [Function.comp_apply, spelled, spelled', moved_root, String.append_right_inj] at same
    rw [spelled, spelled', same] at less
    exact String.lt_irrefl _ less

/-- The list's settings hold the list and what was under the root, and nothing else. -/
theorem Rooted.get?_listedUnder_iff (rooted : s.Rooted) {k value : String} :
    (s.listedUnder key).values.get? k = some value ↔ k = "ldap.servers" ∧ value = key ∨
      ∃ name : String, name.toList.head? = some '.' ∧ k = root ++ "." ++ key ++ name ∧
        s.values.get? (root ++ name) = some value := by
  rw [listedUnder, ofList, Dictionary.get?_ofList_iff (rooted.distinct key), listedPairs, List.mem_cons,
    List.mem_map, Prod.mk.injEq]
  refine or_congr_right ⟨?_, ?_⟩
  · rintro ⟨p, inside, same⟩
    obtain ⟨name, dotted, spelled⟩ := rooted.name inside
    rw [spelled, moved_root, Prod.mk.injEq] at same
    refine ⟨name, dotted, same.1.symm, ?_⟩
    rw [Dictionary.get?_eq_some_iff, ← spelled, ← same.2]
    exact inside
  · rintro ⟨name, -, rfl, known⟩
    refine ⟨_, Dictionary.get?_eq_some_iff.1 known, ?_⟩
    rw [moved_root]

theorem Rooted.get?_under (rooted : s.Rooted) (key : String) {name : String} (dotted : name.toList.head? = some '.') :
    (s.listedUnder key).values.get? (root ++ "." ++ key ++ name) = s.values.get? (root ++ name) := by
  refine Option.ext fun value => ?_
  rw [rooted.get?_listedUnder_iff]
  constructor
  · rintro (⟨servers, -⟩ | ⟨other, -, same, known⟩)
    · exact absurd servers (under_ne_servers key dotted)
    · rw [(String.append_right_inj _).1 same]
      exact known
  · intro known
    exact .inr ⟨name, dotted, rfl, known⟩

theorem Rooted.sameUnder (rooted : s.Rooted) (key : String) :
    s.SameUnder (s.listedUnder key) root (root ++ "." ++ key) := by
  intro name other
  rw [get?, get?, rooted.get?_under key other.1]

theorem get?_insert_self (s : Settings) (key : String) {value : String} (some_ : hasContent value) :
    (s.insert key value).get? key = some value := by
  rw [get?, insert, Dictionary.get?_insert, if_pos rfl, Option.filter_some, if_pos some_]

theorem get?_insert_of_ne {key other value : String} (apart : key ≠ other) :
    (s.insert key value).get? other = s.get? other := by
  rw [get?, get?, insert, Dictionary.get?_insert, if_neg apart]

theorem MemberName.hasContent (member : MemberName key) : hasContent key :=
  hasContent_iff.2 (by rw [member.2.1]; exact member.1)

/-- A name is the only item of the list that it makes. -/
theorem MemberName.items (member : MemberName key) : items key = [key] := by
  obtain ⟨some_, bare, whole, -⟩ := member
  have uncut : ∀ c ∈ key.toList, (c == ',') = false := by
    intro c inside
    refine beq_eq_false_iff_ne.2 fun same => ?_
    subst same
    exact whole inside
  have one : splitText (· == ',') key = [key] := by
    rw [splitText, pieces_of_none uncut]
    simp
  rw [Settings.items, one]
  simp [bare, some_]

end Settings

namespace SrvRecord

theorem hasContent_key (record : SrvRecord) : hasContent record.key := by
  simp only [hasContent, key, String.toList_append, List.any_append]
  simp [isBlank]

theorem hasContent_url (record : SrvRecord) : hasContent record.url := by
  simp only [hasContent, url, String.toList_append, List.any_append]
  simp [isBlank]

end SrvRecord

namespace Registry

variable {s : Settings} {key : String}

theorem shape_listedUnder (rooted : s.Rooted) (member : Settings.MemberName key) :
    Shape.of (s.listedUnder key) = .listed [key] := by
  have servers : (s.listedUnder key).getItems "ldap.servers" = [key] := by
    have value : (s.listedUnder key).get? "ldap.servers" = some key := by
      rw [Settings.get?, rooted.get?_listedUnder_iff.2 (.inl ⟨rfl, rfl⟩), Option.filter_some,
        if_pos member.hasContent]
    rw [Settings.getItems, value]
    exact member.items
  rw [Shape.of, servers]

theorem firstPart_under (undotted : '.' ∉ key.toList) {name : String} (dotted : name.toList.head? = some '.') :
    firstPart (root ++ "." ++ key ++ name) = key := by
  obtain ⟨rest, spelled⟩ := List.head?_eq_some_iff.1 dotted
  have whole : ∀ c ∈ key.toList, (c != '.') = true := by
    intro c inside
    refine bne_iff_ne.2 fun same => ?_
    subst same
    exact undotted inside
  have after : (root ++ "." ++ key ++ name).toList.drop (root.length + 1) = key.toList ++ '.' :: rest := by
    rw [String.toList_append, spelled, String.toList_append, List.append_assoc]
    exact List.drop_left' rfl
  rw [firstPart, after, List.takeWhile_append_of_pos whole]
  simp

/-- Nothing in the list's settings is without a server. -/
theorem rejectUnlinked_listedUnder (rooted : s.Rooted) (undotted : '.' ∉ key.toList) :
    rejectUnlinked (s.listedUnder key) [key] = .ok () := by
  have linked : unlinked? (s.listedUnder key) [key] = none := by
    refine List.find?_eq_none.2 fun k known => ?_
    obtain ⟨p, inside, rfl⟩ := List.mem_map.1 known
    have value := Dictionary.get?_eq_some_iff.2 (List.mem_filter.1 inside).1
    rcases rooted.get?_listedUnder_iff.1 value with ⟨servers, -⟩ | ⟨name, dotted, under, -⟩
    · have unknown : firstPart "ldap.servers" ∉ serverSettings := by decide
      simp [servers, unknown]
    · simp [under, firstPart_under undotted dotted]
  rw [rejectUnlinked, linked]

variable {σ τ : Type}

theorem resolve_listedUnder {url : String} (rooted : s.Rooted) (member : Settings.MemberName key)
    (given : s.get? "ldap.url" = some url) (dns : Dns σ) (t : Trace σ) :
    (resolve (s.listedUnder key) dns t).1 =
      Server.ofSettings (s.listedUnder key) (root ++ "." ++ key) key url >>= fun server => ofServers [server] := by
  have found : (sources (s.listedUnder key) dns t).1 = .ok [Source.listed (s.listedUnder key) key] := by
    rw [sources, shape_listedUnder rooted member]
    dsimp only
    rw [rejectUnlinked_listedUnder rooted member.2.2.2]
    rfl
  have place : (s.listedUnder key).get? (root ++ "." ++ key ++ ".url") = some url := by
    rw [Settings.get?, rooted.get?_under key (by decide)]
    exact given
  have reading : (Source.listed (s.listedUnder key) key).read (s.listedUnder key) =
      Server.ofSettings (s.listedUnder key) (root ++ "." ++ key) key url := by
    rw [Source.read, Source.listed, place]
  rw [resolve_eq, found, ← reading]
  exact ofSources_single ..

/-- A server alone, and the same server as the only one of a list. -/
theorem resolve_listed_kindred (rooted : s.Rooted) (given : s.hasKey "ldap.url") (unlisted : ¬ s.hasKey "ldap.servers")
    (member : Settings.MemberName key) (dns : Dns σ) (dns' : Dns τ) (t : Trace σ) (t' : Trace τ) :
    Kindred (fun r r' => ∃ server, r.servers = [server] ∧ r'.servers = [{ server with key }])
      (resolve s dns t).1 (resolve (s.listedUnder key) dns' t').1 := by
  obtain ⟨url, value⟩ := Option.isSome_iff_exists.1 given
  rw [resolve_single unlisted value, resolve_listedUnder rooted member value]
  refine .bind (Server.ofSettings_kindred url (rooted.sameUnder key) (by decide) member.hasContent) ?_
  rintro server - rfl
  obtain ⟨registry, made, one⟩ := ofServers_single server
  obtain ⟨registry', made', one'⟩ := ofServers_single { server with key }
  rw [made, made']
  exact .ok ⟨server, one, one'⟩

/-- The server is, but for its name, the one that stands alone when the URL of the record is set. -/
def AloneAt (s : Settings) (record : SrvRecord) (server : Server) : Prop :=
  ∀ (τ : Type) (dns : Dns τ) (t : Trace τ), ∃ registry,
    (resolve (s.insert "ldap.url" record.url) dns t).1 = .ok registry ∧
      registry.servers = [{ server with key := defaultKey }]

/-- A server that was discovered is read like the one that stands alone, since they share all settings but the URL. -/
theorem aloneAt_of_discovered (unlisted : ¬ s.hasKey "ldap.servers") {record : SrvRecord} {server : Server}
    (read : Server.ofSettings s root record.key record.url = .ok server) : AloneAt s record server := by
  intro τ dns t
  have same : s.SameUnder (s.insert "ldap.url" record.url) root root := by
    intro name other
    have apart : "ldap.url" ≠ root ++ name := by
      intro equal
      have spelled : root ++ ".url" = root ++ name := equal
      exact other.2 ((String.append_right_inj _).1 spelled).symm
    rw [Settings.get?_insert_of_ne apart]
  have unlisted' : ¬ (s.insert "ldap.url" record.url).hasKey "ldap.servers" := by
    rw [Settings.hasKey, Settings.get?_insert_of_ne (by decide)]
    exact unlisted
  have kindred := Server.ofSettings_kindred record.url same record.hasContent_key (by decide : hasContent defaultKey)
  rw [resolve_single unlisted' (s.get?_insert_self _ record.hasContent_url)]
  rw [read] at kindred
  obtain ⟨alone, found, rfl⟩ := kindred.of_ok
  obtain ⟨registry, made, one⟩ := ofServers_single { server with key := defaultKey }
  rw [found]
  exact ⟨registry, made, one⟩

/-- The three shapes of settings build the same server. A bag that describes a server alone is read like the bag in
which the server is the only one of a list, or fails with an error of the same kind; and a server that is discovered
is the one that stands alone at the URL of its record. Only the names differ. -/
theorem resolve_shapes :
    (∀ (s : Settings) (key : String), s.Rooted → s.hasKey "ldap.url" → ¬ s.hasKey "ldap.servers" →
      Settings.MemberName key → ∀ (dns : Dns σ) (dns' : Dns τ) (t : Trace σ) (t' : Trace τ),
        Kindred (fun r r' => ∃ server, r.servers = [server] ∧ r'.servers = [{ server with key }])
          (resolve s dns t).1 (resolve (s.listedUnder key) dns' t').1) ∧
    ∀ (s : Settings) (realm : String), ¬ s.hasKey "ldap.servers" → ¬ s.hasKey "ldap.url" →
      s.get? "ldap.realm" = some realm → ∀ (dns : Dns σ) (t : Trace σ) (registry : Registry),
        (resolve s dns t).1 = .ok registry →
          ∃ records, (dns (serviceName realm) t.world).1 = .ok records ∧
            List.Forall₂ (fun record server => server.key = record.key ∧ AloneAt s record server)
              (SrvRecord.order records) registry.servers := by
  constructor
  · intro s key rooted given unlisted member dns dns' t t'
    exact resolve_listed_kindred rooted given unlisted member dns dns' t t'
  · intro s realm unlisted unset given dns t registry resolved
    obtain ⟨records, answer, read⟩ := resolve_discovered unlisted unset given resolved
    refine ⟨records, answer, read.imp ?_⟩
    intro record server found
    exact ⟨Server.ofSettings_key record.hasContent_key found, aloneAt_of_discovered unlisted found⟩

namespace Northern

def alone : Settings := .ofList [
  ("ldap.url", "ldap://north.example.org"),
  ("ldap.realm", "example.org"),
  ("ldap.authentication", "DIGEST-MD5"),
  ("ldap.referralHandling", "ignore"),
  ("ldap.readTimeout", "250"),
  ("ldap.user.loginAttribute", "login"),
  ("ldap.group.baseDn", "ou=groups,dc=example,dc=org")]

/-- The same settings without a URL. -/
def advertised : Settings :=
  alone.erase "ldap.url"

def north : SrvRecord :=
  { priority := 10, weight := 60, port := 389, target := "north.example.org" }

def south : SrvRecord :=
  { priority := 5, weight := 0, port := 3389, target := "south.example.org" }

def dns : Dns Unit :=
  fun _ w => (.ok [north, south], w)

theorem advertised_realm : ¬ advertised.hasKey "ldap.servers" ∧ ¬ advertised.hasKey "ldap.url" ∧
    advertised.get? "ldap.realm" = some "example.org" := by
  decide +kernel

theorem order_records : SrvRecord.order [north, south] = [south, north] := by
  simp [SrvRecord.order, List.mergeSort, SrvRecord.preferred, north, south]

theorem resolve_advertised : ∃ registry, (resolve advertised dns ⟨(), []⟩).1 = .ok registry := by
  obtain ⟨unlisted, unset, given⟩ := advertised_realm
  have answer : (dns (serviceName "example.org") ()).1 = .ok [north, south] := rfl
  have found : (sources advertised dns ⟨(), []⟩).1 = .ok [.discovered south, .discovered north] := by
    simp [sources_discovered (shape_discovered unlisted unset given), answer, order_records, bind, Except.bind]
  have read : (ofSources advertised [.discovered south, .discovered north]).isOk := by decide +kernel
  rw [resolve_eq, found]
  cases whole : ofSources advertised [.discovered south, .discovered north] with
  | error e =>
    rw [whole] at read
    cases read
  | ok registry => exact ⟨registry, whole⟩

end Northern

/-- A server whose name is itself the name of a setting, and two servers that are discovered. -/
theorem resolve_shapes_northern :
    (Northern.alone.Rooted ∧ Northern.alone.hasKey "ldap.url" ∧ ¬ Northern.alone.hasKey "ldap.servers" ∧
      Settings.MemberName "url" ∧ (resolve Northern.alone Northern.dns ⟨(), []⟩).1.isOk ∧
      Kindred (fun r r' => ∃ server, r.servers = [server] ∧ r'.servers = [{ server with key := "url" }])
        (resolve Northern.alone Northern.dns ⟨(), []⟩).1
        (resolve (Northern.alone.listedUnder "url") Northern.dns ⟨(), []⟩).1) ∧
    (¬ Northern.advertised.hasKey "ldap.servers" ∧ ¬ Northern.advertised.hasKey "ldap.url" ∧
        Northern.advertised.get? "ldap.realm" = some "example.org") ∧
      ∃ registry, (resolve Northern.advertised Northern.dns ⟨(), []⟩).1 = .ok registry ∧
        List.Forall₂ (fun record server => server.key = record.key ∧ AloneAt Northern.advertised record server)
          [Northern.south, Northern.north] registry.servers := by
  constructor
  · have rooted : Northern.alone.Rooted := by decide +kernel
    have given : Northern.alone.hasKey "ldap.url" := by decide +kernel
    have unlisted : ¬ Northern.alone.hasKey "ldap.servers" := by decide +kernel
    have member : Settings.MemberName "url" := by decide +kernel
    have built : (resolve Northern.alone Northern.dns ⟨(), []⟩).1.isOk := by decide +kernel
    exact ⟨rooted, given, unlisted, member, built, resolve_shapes.1 _ _ rooted given unlisted member _ _ _ _⟩
  · obtain ⟨unlisted, unset, given⟩ := Northern.advertised_realm
    obtain ⟨registry, resolved⟩ := Northern.resolve_advertised
    obtain ⟨records, answer, each⟩ := (resolve_shapes (τ := Unit)).2 _ _ unlisted unset given _ _ registry resolved
    cases answer
    rw [Northern.order_records] at each
    exact ⟨⟨unlisted, unset, given⟩, registry, resolved, each⟩

end Registry

end DirectoryLogin
