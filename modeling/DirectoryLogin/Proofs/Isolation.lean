import DirectoryLogin.Proofs.Namespaces
import DirectoryLogin.Proofs.Registered

namespace DirectoryLogin

open Text

theorem Dictionary.mem_keys_of_get? {α : Type} {d : Dictionary α} {key : String} {value : α}
    (known : d.get? key = some value) : key ∈ d.keys :=
  List.mem_map.2 ⟨(key, value), Dictionary.get?_eq_some_iff.1 known, rfl⟩

theorem Kindred.imp {α β : Type} {together after : α → β → Prop} {x : Except Error α} {y : Except Error β}
    (kindred : Kindred together x y) (closer : ∀ a b, x = .ok a → together a b → after a b) : Kindred after x y := by
  cases kindred with
  | ok paired => exact .ok (closer _ _ rfl paired)
  | error same => exact .error same

namespace Settings

/-- Two bags of settings agree on every key in the namespace of a server. -/
def AgreeUnder (s s' : Settings) (k : String) : Prop :=
  ∀ key, startsWith key ("ldap." ++ k ++ ".") → s'.values.get? key = s.values.get? key

/-- It takes no more than the keys that stand in one of the bags. -/
theorem agreeUnder_iff {s s' : Settings} {k : String} :
    s.AgreeUnder s' k ↔ ∀ key ∈ s.values.keys ++ s'.values.keys, startsWith key ("ldap." ++ k ++ ".") = true →
      s'.values.get? key = s.values.get? key := by
  refine ⟨fun agree key _ => agree key, fun agree key begins => ?_⟩
  by_cases member : key ∈ s.values.keys ++ s'.values.keys
  · exact agree key member begins
  · rw [List.mem_append, not_or] at member
    rw [Option.eq_none_iff_forall_ne_some.2 fun _ known => member.1 (Dictionary.mem_keys_of_get? known),
      Option.eq_none_iff_forall_ne_some.2 fun _ known => member.2 (Dictionary.mem_keys_of_get? known)]

instance (s s' : Settings) (k : String) : Decidable (s.AgreeUnder s' k) :=
  decidable_of_iff _ agreeUnder_iff.symm

variable {s s' : Settings} {k : String}

theorem AgreeUnder.get? (agree : s.AgreeUnder s' k) {name : String} (dotted : name.toList.head? = some '.') :
    s'.get? ("ldap." ++ k ++ name) = s.get? ("ldap." ++ k ++ name) := by
  have begins : startsWith ("ldap." ++ k ++ name) ("ldap." ++ k ++ ".") := by
    obtain ⟨rest, spelled⟩ := List.head?_eq_some_iff.1 dotted
    have split : name = "." ++ String.ofList rest := String.toList_injective (by simp [spelled])
    exact startsWith_iff.2 ⟨String.ofList rest, by rw [split, String.append_assoc, String.append_assoc,
      String.append_assoc]⟩
  rw [Settings.get?, Settings.get?, agree _ begins]

theorem AgreeUnder.sameUnder (agree : s.AgreeUnder s' k) : s.SameUnder s' ("ldap." ++ k) ("ldap." ++ k) :=
  fun _ other => agree.get? other.1

end Settings

namespace Registry

variable {σ σ' : Type} {s s' : Settings} {k : String}

/-- A listed server is read alike from all settings that agree in its namespace. -/
theorem read_isolated (agree : s.AgreeUnder s' k) (named : hasContent k) :
    Kindred Eq ((Source.listed s k).read s) ((Source.listed s' k).read s') := by
  have located : s'.get? ("ldap." ++ k ++ ".url") = s.get? ("ldap." ++ k ++ ".url") := agree.get? (by decide)
  have start : root ++ "." ++ k = "ldap." ++ k := rfl
  simp only [Source.read, Source.listed, start, located]
  cases s.get? ("ldap." ++ k ++ ".url") with
  | none => exact .error rfl
  | some url =>
    have alike := Server.ofSettings_kindred url agree.sameUnder named named
    refine alike.imp fun server server' read same => ?_
    have key : server.key = k := Server.ofSettings_key named read
    rw [same, ← key]

/-- What is found under a listed name is what was read from its namespace. -/
theorem get?_of_listed {dns : Dns σ} {t : Trace σ} {registry : Registry} (listed : k ∈ s.listed)
    (resolved : (resolve s dns t).1 = .ok registry) :
    ∃ server, registry.get? k = some server ∧ (Source.listed s k).read s = .ok server := by
  obtain ⟨found, located, each⟩ := resolve_eq_ok_iff.1 resolved
  have sources : found = s.listed.map (Source.listed s) := by
    obtain ⟨-, same⟩ | ⟨unlisted, -⟩ | ⟨unlisted, -⟩ := sources_eq_ok located
    · exact same
    · rw [Settings.listed, unlisted] at listed
      cases listed
    · rw [Settings.listed, unlisted] at listed
      cases listed
  have member : Source.listed s k ∈ found := by
    rw [sources]
    exact List.mem_map_of_mem listed
  obtain ⟨server, inside, read⟩ := exists_beside each.flip member
  obtain ⟨i, at_⟩ := List.mem_iff_getElem?.1 inside
  have key : server.key = k := (key_of_read read).1
  have known := get?_of_getElem? at_
  rw [key] at known
  exact ⟨server, known, read⟩

/-- Listed servers are isolated from each other. Whenever two bags of settings agree in the namespace of a name that
both list, and both resolve, the same server stands under that name in the one registry and in the other; the other
servers, their number and their order, every other setting and the domain name system have no part in it. -/
theorem resolve_isolated {dns : Dns σ} {dns' : Dns σ'} {t : Trace σ} {t' : Trace σ'} {registry registry' : Registry}
    (agree : s.AgreeUnder s' k) (listed : k ∈ s.listed) (listed' : k ∈ s'.listed)
    (resolved : (resolve s dns t).1 = .ok registry) (resolved' : (resolve s' dns' t').1 = .ok registry') :
    ∃ server : Server, server.key = k ∧ registry.get? k = some server ∧ registry'.get? k = some server := by
  obtain ⟨server, known, read⟩ := get?_of_listed listed resolved
  obtain ⟨server', known', read'⟩ := get?_of_listed listed' resolved'
  have key : server.key = k := (key_of_read read).1
  have named : hasContent k := key ▸ (key_of_read read).2.2.named
  have alike := read_isolated agree named
  rw [read, read'] at alike
  cases alike with
  | ok same => exact ⟨server, key, known, same ▸ known'⟩

namespace Suburbs

/-- Two servers, one with its namespace in that of the other. -/
def near : Settings := .ofList [
  ("ldap.servers", "east,east.far"),
  ("ldap.east.url", "ldap://east.example.org"),
  ("ldap.east.user.baseDn", "ou=people"),
  ("ldap.east.connectTimeout", "100"),
  ("ldap.east.far.url", "ldaps://far.example.org"),
  ("ldap.east.far.referralHandling", "filtered"),
  ("ldap.east.far.referralFilterList", "ldap://(old|older)/"),
  ("ldap.east.far.user.baseDn", "ou=guests"),
  ("ldap.east.far.group.baseDn", "ou=groups")]

/-- The inner one again, after a third server and before the outer one, which has other settings now. -/
def wide : Settings := .ofList [
  ("ldap.servers", " west, east.far , east"),
  ("ldap.west.url", "ldap://west.example.org"),
  ("ldap.west.authentication", "GSSAPI"),
  ("ldap.east.url", "ldap://10.0.0.1"),
  ("ldap.east.realm", "example.org"),
  ("ldap.east.far.url", "ldaps://far.example.org"),
  ("ldap.east.far.referralHandling", "filtered"),
  ("ldap.east.far.referralFilterList", "ldap://(old|older)/"),
  ("ldap.east.far.user.baseDn", "ou=guests"),
  ("ldap.east.far.group.baseDn", "ou=groups"),
  ("mail.host", "mail.example.org")]

def dns : Dns Unit :=
  fun _ w => (.ok [], w)

end Suburbs

/-- The server whose namespace lies in that of another one is the same, while the other one is not. -/
theorem resolve_isolated_suburbs : Suburbs.near.AgreeUnder Suburbs.wide "east.far" ∧
    ¬ Suburbs.near.AgreeUnder Suburbs.wide "east" ∧
    ∃ registry registry' : Registry, (resolve Suburbs.near Suburbs.dns ⟨(), []⟩).1 = .ok registry ∧
      (resolve Suburbs.wide Suburbs.dns ⟨(), []⟩).1 = .ok registry' ∧
      ∃ server : Server, server.key = "east.far" ∧ registry.get? "east.far" = some server ∧
        registry'.get? "east.far" = some server := by
  have agree : Suburbs.near.AgreeUnder Suburbs.wide "east.far" := by decide +kernel
  have listed : "east.far" ∈ Suburbs.near.listed := by decide +kernel
  have listed' : "east.far" ∈ Suburbs.wide.listed := by decide +kernel
  have resolves : (resolve Suburbs.near Suburbs.dns ⟨(), []⟩).1.toOption.isSome := by decide +kernel
  have resolves' : (resolve Suburbs.wide Suburbs.dns ⟨(), []⟩).1.toOption.isSome := by decide +kernel
  refine ⟨agree, by decide +kernel, ?_⟩
  cases outcome : (resolve Suburbs.near Suburbs.dns ⟨(), []⟩).1 with
  | error e =>
    rw [outcome] at resolves
    cases resolves
  | ok registry =>
    cases outcome' : (resolve Suburbs.wide Suburbs.dns ⟨(), []⟩).1 with
    | error e =>
      rw [outcome'] at resolves'
      cases resolves'
    | ok registry' =>
      exact ⟨registry, registry', rfl, rfl, resolve_isolated agree listed listed' outcome outcome'⟩

end Registry

end DirectoryLogin
