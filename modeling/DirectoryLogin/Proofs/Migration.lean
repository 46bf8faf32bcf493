import DirectoryLogin.Mapping.Group
import DirectoryLogin.Mapping.User
import DirectoryLogin.Proofs.Text.Cutting

namespace DirectoryLogin

open Text

/-- The names of two older settings of a server, and of the one that has taken their place. -/
structure Deprecation where
  objectClass : String
  attributeName : String
  request : String

def UserMapping.deprecation : Deprecation :=
  ⟨".user.objectClass", ".user.loginAttribute", ".user.request"⟩

def GroupMapping.deprecation : Deprecation :=
  ⟨".group.objectClass", ".group.memberAttribute", ".group.request"⟩

namespace Deprecation

/-- One of the older settings of the server has a value. -/
def Concerns (d : Deprecation) (s : Settings) (server : String) : Prop :=
  s.hasKey (server ++ d.objectClass) ∨ s.hasKey (server ++ d.attributeName)

instance (d : Deprecation) (s : Settings) (server : String) : Decidable (d.Concerns s server) :=
  inferInstanceAs (Decidable (_ ∨ _))

/-- What is logged about the older settings of the server, with the request to write in their place. -/
def warning (d : Deprecation) (server request : String) : Event :=
  .warn (s!"Properties '{server}{d.objectClass}' and " ++
    s!"'{server}{d.attributeName}' are deprecated and should be replaced by single " ++
    s!"property '{server}{d.request}' with value: {request}")

/-- The settings once the warning has been followed. -/
def migrate (d : Deprecation) (s : Settings) (server request : String) : Settings :=
  ((s.erase (server ++ d.objectClass)).erase (server ++ d.attributeName)).insert (server ++ d.request) request

variable {d : Deprecation} {s : Settings} {server request : String}

/-- A warning tells one request. -/
theorem warning_inj {other : String} (same : d.warning server request = d.warning server other) : request = other := by
  have messages := (Event.mk.inj same).2.1
  simpa only [String.append_right_inj, toString, id] using messages

theorem concerns_iff : d.Concerns s server ↔
    ¬ (s.get? (server ++ d.objectClass) = none ∧ s.get? (server ++ d.attributeName) = none) := by
  unfold Concerns Settings.hasKey
  cases s.get? (server ++ d.objectClass) <;> cases s.get? (server ++ d.attributeName) <;> simp

theorem values_get?_migrate (name : String) : (d.migrate s server request).values.get? (server ++ name) =
    if d.request = name then some request
    else if d.attributeName = name then none
    else if d.objectClass = name then none
    else s.values.get? (server ++ name) := by
  simp only [migrate, Settings.insert, Settings.erase, Dictionary.get?_insert, Dictionary.get?_erase,
    String.append_right_inj]

/-- No other setting of the server changes. -/
theorem get?_migrate_of_ne {name : String} (apart : d.objectClass ≠ name ∧ d.attributeName ≠ name ∧ d.request ≠ name) :
    (d.migrate s server request).get? (server ++ name) = s.get? (server ++ name) := by
  rw [Settings.get?, values_get?_migrate, if_neg apart.2.2, if_neg apart.2.1, if_neg apart.1, Settings.get?]

theorem get?_migrate_request (filled : hasContent request) :
    (d.migrate s server request).get? (server ++ d.request) = some request := by
  rw [Settings.get?, values_get?_migrate, if_pos rfl, Option.filter_some, if_pos filled]

/-- The older settings are gone. -/
theorem not_concerns_migrate (apart : d.request ≠ d.objectClass ∧ d.request ≠ d.attributeName) :
    ¬ d.Concerns (d.migrate s server request) server := by
  have noClass : (d.migrate s server request).get? (server ++ d.objectClass) = none := by
    rw [Settings.get?, values_get?_migrate, if_neg apart.1, if_pos rfl, ite_self, Option.filter_none]
  have noAttribute : (d.migrate s server request).get? (server ++ d.attributeName) = none := by
    rw [Settings.get?, values_get?_migrate, if_neg apart.2, if_pos rfl, Option.filter_none]
  exact fun concerned => concerns_iff.1 concerned ⟨noClass, noAttribute⟩

/-- A second time there is nothing to change. -/
theorem migrate_migrate (apart : d.request ≠ d.objectClass ∧ d.request ≠ d.attributeName) :
    d.migrate (d.migrate s server request) server request = d.migrate s server request := by
  have once : (d.migrate (d.migrate s server request) server request).values =
      (d.migrate s server request).values := by
    refine Dictionary.ext_get? fun key => ?_
    by_cases newer : server ++ d.request = key
    · subst newer
      rw [values_get?_migrate, values_get?_migrate, if_pos rfl, if_pos rfl]
    · by_cases older : server ++ d.attributeName = key ∨ server ++ d.objectClass = key
      · rcases older with rfl | rfl
        · rw [values_get?_migrate, values_get?_migrate, if_neg apart.2, if_pos rfl, if_neg apart.2, if_pos rfl]
        · rw [values_get?_migrate, values_get?_migrate, if_neg apart.1, if_pos rfl, if_neg apart.1, if_pos rfl]
      · rw [not_or] at older
        conv => lhs; rw [migrate, Settings.insert, Settings.erase, Settings.erase]
        rw [Dictionary.get?_insert, if_neg newer, Dictionary.get?_erase, if_neg older.1, Dictionary.get?_erase,
          if_neg older.2]
  exact congrArg Settings.mk once

/-- How a mapping with the base `base?` takes its request from the older settings, `older?`, or from the newer one, and
what is logged about it. -/
structure Governs (d : Deprecation) (base? older? : Settings → String → Option String) (fallback : String)
    (requestText : Settings → String → String) (notices : Settings → String → List Event) : Prop where
  distinct : d.request ≠ d.objectClass ∧ d.request ≠ d.attributeName
  /-- The older settings tell a request as soon as one of them has a value, -/
  some_of_concerns {s : Settings} {server : String} : d.Concerns s server →
    ∃ request, older? s server = some request ∧ hasContent request
  /-- and not before. -/
  none_of_not_concerns {s : Settings} {server : String} : ¬ d.Concerns s server → older? s server = none
  text_eq (s : Settings) (server : String) :
    requestText s server = (older? s server).getD (s.getD (server ++ d.request) fallback)
  /-- Who has no base is not warned. -/
  notices_eq (s : Settings) (server : String) : notices s server =
    match base? s server, older? s server with
    | some _, some request => [d.warning server request]
    | _, _ => []
  base?_migrate (s : Settings) (server request : String) :
    base? (d.migrate s server request) server = base? s server

namespace Governs

variable {base? older? : Settings → String → Option String} {fallback : String}
  {requestText : Settings → String → String} {notices : Settings → String → List Event}

theorem older?_migrate (governs : d.Governs base? older? fallback requestText notices) :
    older? (d.migrate s server request) server = none :=
  governs.none_of_not_concerns (not_concerns_migrate governs.distinct)

theorem notices_migrate (governs : d.Governs base? older? fallback requestText notices) :
    notices (d.migrate s server request) server = [] := by
  rw [governs.notices_eq, governs.older?_migrate]
  cases base? (d.migrate s server request) server <;> rfl

/-- Unless there is no base, the warning tells the request. -/
theorem warned_of_concerns (governs : d.Governs base? older? fallback requestText notices)
    (concerned : d.Concerns s server) : base? s server = none ∨
      ∃ request, older? s server = some request ∧ notices s server = [d.warning server request] := by
  cases base : base? s server with
  | none => exact .inl rfl
  | some baseDn =>
    obtain ⟨request, older, -⟩ := governs.some_of_concerns concerned
    exact .inr ⟨request, older, by rw [governs.notices_eq, base, older]⟩

/-- The request that the older settings told is the newer one afterwards. -/
theorem requestText_migrate (governs : d.Governs base? older? fallback requestText notices)
    (concerned : d.Concerns s server) (told : ∀ e ∈ notices s server, e = d.warning server request) :
    base? s server = none ∨ requestText (d.migrate s server request) server = requestText s server := by
  refine (governs.warned_of_concerns concerned).imp_right ?_
  rintro ⟨known, older, warned⟩
  have same : known = request := warning_inj (told _ (by rw [warned]; exact List.mem_singleton_self _))
  rw [same] at older
  obtain ⟨full, again, filled⟩ := governs.some_of_concerns concerned
  rw [← Option.some.inj (older.symm.trans again)] at filled
  have newer : (d.migrate s server request).get? (server ++ d.request) = some request := get?_migrate_request filled
  rw [governs.text_eq, governs.older?_migrate, governs.text_eq, older, Settings.getD, newer]
  rfl

end Governs

end Deprecation

namespace UserMapping

theorem deprecation_governs :
    deprecation.Governs baseDn? deprecatedRequest? defaultRequest requestText notices where
  distinct := by decide
  some_of_concerns {s server} concerned := by
    have some_ : (s.get? (server ++ ".user.objectClass")).isSome || (s.get? (server ++ ".user.loginAttribute")).isSome :=
      Bool.or_eq_true_iff.2 concerned
    refine ⟨_, if_pos some_, ?_⟩
    iterate 4 refine hasContent_append_left _ ?_
    decide
  none_of_not_concerns unconcerned := if_neg fun some_ => unconcerned (Bool.or_eq_true_iff.1 some_)
  text_eq s server := by
    unfold requestText
    cases deprecatedRequest? s server <;> rfl
  notices_eq s server := by
    unfold notices
    cases baseDn? s server with
    | none => rfl
    | some base =>
      cases deprecatedRequest? s server with
      | none => rfl
      | some request => simp [Deprecation.warning, deprecation, String.append_assoc, toString]
  base?_migrate s server request := by
    rw [baseDn?, Deprecation.get?_migrate_of_ne (by decide), Deprecation.get?_migrate_of_ne (by decide), baseDn?]

variable {s : Settings} {server request : String}

theorem readFindMode_migrate : readFindMode (deprecation.migrate s server request) server = readFindMode s server := by
  rw [readFindMode, Deprecation.get?_migrate_of_ne (by decide), readFindMode]

theorem ofSettings_migrate (concerned : deprecation.Concerns s server)
    (told : ∀ e ∈ notices s server, e = deprecation.warning server request) :
    ofSettings (deprecation.migrate s server request) server = ofSettings s server := by
  unfold ofSettings
  rw [deprecation_governs.base?_migrate]
  rcases deprecation_governs.requestText_migrate concerned told with unbased | same
  · rw [unbased]
  · rw [same, readFindMode_migrate]
    simp only [Settings.getD]
    rw [Deprecation.get?_migrate_of_ne (by decide), Deprecation.get?_migrate_of_ne (by decide)]

end UserMapping

namespace GroupMapping

theorem deprecation_governs : deprecation.Governs (fun s server => s.get? (server ++ ".group.baseDn")) deprecatedRequest?
    defaultRequest requestText notices where
  distinct := by decide
  some_of_concerns {s server} concerned := by
    have some_ : (s.get? (server ++ ".group.objectClass")).isSome ||
        (s.get? (server ++ ".group.memberAttribute")).isSome := Bool.or_eq_true_iff.2 concerned
    refine ⟨_, if_pos some_, ?_⟩
    iterate 4 refine hasContent_append_left _ ?_
    decide
  none_of_not_concerns unconcerned := if_neg fun some_ => unconcerned (Bool.or_eq_true_iff.1 some_)
  text_eq s server := by
    unfold requestText
    cases deprecatedRequest? s server <;> rfl
  notices_eq s server := by
    unfold notices
    cases s.get? (server ++ ".group.baseDn") with
    | none => rfl
    | some base =>
      cases deprecatedRequest? s server with
      | none => rfl
      | some request => simp [Deprecation.warning, deprecation, String.append_assoc, toString]
  base?_migrate s server request := Deprecation.get?_migrate_of_ne (by decide)

variable {s : Settings} {server request : String}

theorem ofSettings_migrate (concerned : deprecation.Concerns s server)
    (told : ∀ e ∈ notices s server, e = deprecation.warning server request) :
    ofSettings (deprecation.migrate s server request) server = ofSettings s server := by
  have base := deprecation_governs.base?_migrate s server request
  unfold ofSettings
  rw [base]
  rcases deprecation_governs.requestText_migrate concerned told with unbased | same
  · rw [unbased, Option.map_none, Option.map_none]
  · rw [same, Settings.getD, Deprecation.get?_migrate_of_ne (by decide), Settings.getD]

end GroupMapping

namespace Deprecation

/-- Whoever follows the warning about the older settings of a mapping, word for word, keeps the mapping, its absence or
the error in it, whatever the settings held before, a newer request too. The older settings have no say any more, nobody
is warned again, and to follow the warning once more changes nothing. A mapping that is there, or is wrong, comes with
the warning, and the warning tells one request. -/
theorem migrate_keeps (s : Settings) (server : String) :
    (UserMapping.deprecation.Concerns s server →
      (UserMapping.ofSettings s server = .ok none ∨
        ∃ request, UserMapping.notices s server = [UserMapping.deprecation.warning server request]) ∧
      ∀ request, (∀ e ∈ UserMapping.notices s server, e = UserMapping.deprecation.warning server request) →
        let after := UserMapping.deprecation.migrate s server request
        UserMapping.ofSettings after server = UserMapping.ofSettings s server ∧
          UserMapping.notices after server = [] ∧ ¬ UserMapping.deprecation.Concerns after server ∧
          UserMapping.deprecation.migrate after server request = after) ∧
    (GroupMapping.deprecation.Concerns s server →
      (GroupMapping.ofSettings s server = none ∨
        ∃ request, GroupMapping.notices s server = [GroupMapping.deprecation.warning server request]) ∧
      ∀ request, (∀ e ∈ GroupMapping.notices s server, e = GroupMapping.deprecation.warning server request) →
        let after := GroupMapping.deprecation.migrate s server request
        GroupMapping.ofSettings after server = GroupMapping.ofSettings s server ∧
          GroupMapping.notices after server = [] ∧ ¬ GroupMapping.deprecation.Concerns after server ∧
          GroupMapping.deprecation.migrate after server request = after) := by
  refine ⟨fun concerned => ⟨?_, fun request told => ?_⟩, fun concerned => ⟨?_, fun request told => ?_⟩⟩
  · refine (UserMapping.deprecation_governs.warned_of_concerns concerned).imp (fun unbased => ?_) fun ⟨request, _, warned⟩ =>
      ⟨request, warned⟩
    rw [UserMapping.ofSettings, unbased]
  · exact ⟨UserMapping.ofSettings_migrate concerned told, UserMapping.deprecation_governs.notices_migrate,
      not_concerns_migrate (by decide), migrate_migrate (by decide)⟩
  · refine (GroupMapping.deprecation_governs.warned_of_concerns concerned).imp (fun unbased => ?_) fun ⟨request, _, warned⟩ =>
      ⟨request, warned⟩
    exact Option.map_eq_none_iff.2 unbased
  · exact ⟨GroupMapping.ofSettings_migrate concerned told, GroupMapping.deprecation_governs.notices_migrate,
      not_concerns_migrate (by decide), migrate_migrate (by decide)⟩

/-- Older settings, one of them blank and one with a placeholder of its own in it, beside a newer request. -/
def mixedSettings : Settings := .ofList [
  ("ldap.east.realm", "example.org"),
  ("ldap.east.user.objectClass", " "),
  ("ldap.east.user.loginAttribute", "x\x7bdn\x7d\x7b"),
  ("ldap.east.user.request", "(mail=\x7blogin\x7d)"),
  ("ldap.east.user.findMode", "first"),
  ("ldap.east.group.baseDn", "ou=groups"),
  ("ldap.east.group.objectClass", "posixGroup"),
  ("ldap.east.group.request", "(member=\x7buid\x7d)")]

/-- The request that the warning names is the one that has counted so far, with two placeholders. -/
theorem migrate_keeps_mixed :
    let request := "(&(objectClass=inetOrgPerson)(x\x7bdn\x7d\x7b=\x7blogin\x7d))"
    let after := UserMapping.deprecation.migrate mixedSettings "ldap.east" request
    UserMapping.deprecation.Concerns mixedSettings "ldap.east" ∧
      UserMapping.notices mixedSettings "ldap.east" = [UserMapping.deprecation.warning "ldap.east" request] ∧
      UserMapping.ofSettings after "ldap.east" = UserMapping.ofSettings mixedSettings "ldap.east" ∧
      UserMapping.notices after "ldap.east" = [] ∧
      (UserMapping.ofSettings mixedSettings "ldap.east").toOption.map (·.map (·.request.placeholders)) =
        some (some ["dn", "login"]) ∧
      ∃ groups, GroupMapping.ofSettings (GroupMapping.deprecation.migrate mixedSettings "ldap.east" groups)
        "ldap.east" = GroupMapping.ofSettings mixedSettings "ldap.east" := by
  intro request after
  have concerned : UserMapping.deprecation.Concerns mixedSettings "ldap.east" := by decide +kernel
  have warned : UserMapping.notices mixedSettings "ldap.east" = [UserMapping.deprecation.warning "ldap.east" request] := by
    decide +kernel
  obtain ⟨same, quiet, -⟩ := ((migrate_keeps mixedSettings "ldap.east").1 concerned).2 request
    fun e member => by rwa [warned, List.mem_singleton] at member
  obtain ⟨unmapped | ⟨groups, told⟩, follow⟩ := (migrate_keeps mixedSettings "ldap.east").2 (by decide +kernel)
  · exact absurd unmapped (by decide +kernel)
  · obtain ⟨kept, -⟩ := follow groups fun e member => by rwa [told, List.mem_singleton] at member
    exact ⟨concerned, warned, same, quiet, by decide +kernel, groups, kept⟩

end Deprecation

end DirectoryLogin
