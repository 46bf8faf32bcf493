import DirectoryLogin.Proofs.Shapes

namespace DirectoryLogin

open Text

namespace Text

theorem startsWith_iff {s t : String} : startsWith s t ↔ ∃ rest : String, s = t ++ rest := by
  rw [startsWith, List.isPrefixOf_iff_prefix]
  constructor
  · rintro ⟨rest, whole⟩
    refine ⟨String.ofList rest, String.toList_injective ?_⟩
    rw [String.toList_append, String.toList_ofList, whole]
  · rintro ⟨rest, whole⟩
    rw [whole, String.toList_append]
    exact List.prefix_append _ _

/-- A dotted name covers itself and every name below it. -/
def Covers (name text : String) : Prop :=
  text = name ∨ startsWith text (name ++ ".")

instance (name text : String) : Decidable (Covers name text) :=
  inferInstanceAs (Decidable (_ ∨ _))

/-- What stands before the first dot. -/
def firstSegment (text : String) : String :=
  String.ofList (text.toList.takeWhile (· != '.'))

theorem toList_firstSegment (text : String) : (firstSegment text).toList = text.toList.takeWhile (· != '.') := by
  rw [firstSegment, String.toList_ofList]

/-- What comes below a name does not change its first segment. -/
theorem firstSegment_append_dot (name rest : String) : firstSegment (name ++ "." ++ rest) = firstSegment name := by
  refine String.toList_injective ?_
  rw [toList_firstSegment, toList_firstSegment, String.toList_append, String.toList_append, List.append_assoc]
  by_cases dotted : ∀ c ∈ name.toList, (c != '.') = true
  · rw [List.takeWhile_append_of_pos dotted, List.takeWhile_eq_self_iff.2 dotted]
    simp
  · rw [List.takeWhile_append, if_neg]
    intro whole
    have same : name.toList.takeWhile (· != '.') = name.toList :=
      (List.takeWhile_prefix _).eq_of_length whole
    exact dotted (List.takeWhile_eq_self_iff.1 same)

/-- A text is covered by its first segment. -/
theorem covers_firstSegment (text : String) : Covers (firstSegment text) text := by
  have split := List.takeWhile_append_dropWhile (p := (· != '.')) (l := text.toList)
  cases rest : text.toList.dropWhile (· != '.') with
  | nil =>
    rw [rest, List.append_nil, ← toList_firstSegment] at split
    exact .inl (String.toList_injective split).symm
  | cons c more =>
    have stopped : ¬ (c != '.') = true := by
      have head := List.head?_dropWhile_not (· != '.') text.toList
      rw [rest] at head
      simpa using head
    have dot : c = '.' := by simpa using stopped
    rw [rest, dot, ← toList_firstSegment] at split
    refine .inr (startsWith_iff.2 ⟨String.ofList more, String.toList_injective ?_⟩)
    rw [← split]
    simp

/-- The names without dots that cover a text are its first segment. -/
theorem covers_iff {name text : String} (undotted : '.' ∉ name.toList) :
    Covers name text ↔ firstSegment text = name := by
  have itself : firstSegment name = name := by
    refine String.toList_injective ?_
    rw [toList_firstSegment, List.takeWhile_eq_self_iff]
    intro c member
    exact bne_iff_ne.2 fun same => undotted (same ▸ member)
  constructor
  · rintro (whole | below)
    · rw [whole, itself]
    · obtain ⟨rest, spelled⟩ := startsWith_iff.1 below
      rw [spelled, firstSegment_append_dot, itself]
  · intro same
    rw [← same]
    exact covers_firstSegment text

end Text

namespace Settings

variable {s : Settings}

theorem hasKey_iff {key : String} : s.hasKey key ↔ ∃ value, s.values.get? key = some value ∧ hasContent value := by
  rw [hasKey, get?]
  cases s.values.get? key with
  | none => simp
  | some value => by_cases filled : hasContent value <;> simp [filled]

theorem mem_keysFrom {start key : String} : key ∈ s.keysFrom start ↔ startsWith key start ∧ s.hasKey key := by
  rw [hasKey_iff, keysFrom, Dictionary.keys, List.mem_map]
  constructor
  · rintro ⟨⟨k, value⟩, member, same⟩
    obtain ⟨known, test⟩ := List.mem_filter.1 member
    obtain ⟨begins, filled⟩ := (Bool.and_eq_true _ _).mp test
    rw [← same]
    exact ⟨begins, value, Dictionary.get?_eq_some_iff.2 known, filled⟩
  · rintro ⟨begins, value, known, filled⟩
    refine ⟨(key, value), List.mem_filter.2 ⟨Dictionary.get?_eq_some_iff.1 known, ?_⟩, rfl⟩
    exact (Bool.and_eq_true _ _).mpr ⟨begins, filled⟩

/-- The names in the list of servers. -/
def listed (s : Settings) : List String :=
  s.getItems "ldap.servers"

/-- A list of servers, and one setting more. -/
def oneMore (names key : String) : Settings :=
  (empty.insert "ldap.servers" names).insert key "set"

theorem values_oneMore (names key other : String) : (oneMore names key).values.get? other =
    if key = other then some "set" else if "ldap.servers" = other then some names else none := by
  rw [oneMore, insert, Dictionary.get?_insert, insert, Dictionary.get?_insert]
  rfl

/-- Every list that names a server can stand beside any other setting. -/
theorem exists_listed_oneMore {name : String} (member : name ∈ s.listed) :
    ∃ names, ∀ key, key ≠ "ldap.servers" → (oneMore names key).listed = s.listed := by
  rw [listed, getItems] at member
  cases given : s.get? "ldap.servers" with
  | none =>
    rw [given] at member
    cases member
  | some names =>
    have filled : hasContent names := by
      rw [get?] at given
      exact (Option.filter_eq_some_iff.1 given).2
    refine ⟨names, fun key apart => ?_⟩
    rw [listed, getItems, get?, values_oneMore, if_neg apart, if_pos rfl, Option.filter_some, if_pos filled, listed,
      getItems, given]

theorem hasKey_oneMore (names key : String) : (oneMore names key).hasKey key := by
  refine hasKey_iff.2 ⟨"set", ?_, by decide⟩
  rw [values_oneMore, if_pos rfl]

theorem mem_keys_of_hasKey {key : String} (filled : s.hasKey key) : key ∈ s.values.keys := by
  obtain ⟨value, known, _⟩ := hasKey_iff.1 filled
  exact List.mem_map.2 ⟨(key, value), Dictionary.get?_eq_some_iff.1 known, rfl⟩

theorem mem_keys_oneMore {names key other : String} (member : other ∈ (oneMore names key).values.keys) :
    other = key ∨ other = "ldap.servers" := by
  obtain ⟨⟨k, value⟩, inside, same⟩ := List.mem_map.1 member
  have known := Dictionary.get?_eq_some_iff.2 inside
  rw [values_oneMore] at known
  by_cases here : key = k
  · exact .inl (same.symm.trans here.symm)
  · by_cases list : "ldap.servers" = k
    · exact .inr (same.symm.trans list.symm)
    · rw [if_neg here, if_neg list] at known
      cases known

end Settings

namespace Registry

/-- The key is in the namespace of one of the servers. -/
def Linked (names : List String) (key : String) : Prop :=
  ∃ k ∈ names, startsWith key ("ldap." ++ k ++ ".")

instance (names : List String) (key : String) : Decidable (Linked names key) :=
  inferInstanceAs (Decidable (∃ k ∈ names, startsWith key ("ldap." ++ k ++ ".") = true))

/-- Some setting of a server is in the namespace of no listed one. -/
def Mixed (s : Settings) : Prop :=
  ∃ key, s.hasKey key ∧ (∃ name ∈ serverSettings, Covers ("ldap." ++ name) key) ∧ ¬ Linked s.listed key

/-- Every key but that of the list is in the namespace of a listed server. -/
def Namespaced (s : Settings) : Prop :=
  ∀ key ∈ s.values.keys, startsWith key "ldap." → key = "ldap.servers" ∨ Linked s.listed key

instance (s : Settings) : Decidable (Namespaced s) :=
  inferInstanceAs (Decidable (∀ key ∈ s.values.keys, startsWith key "ldap." = true → _))

/-- Some setting of a server has a first part that is the name of no listed server. -/
def Astray (s : Settings) : Prop :=
  ∃ name ∈ serverSettings, name ∉ s.listed ∧ ∃ key, s.hasKey key ∧ Covers ("ldap." ++ name) key

theorem undotted_setting {name : String} (setting : name ∈ serverSettings) : '.' ∉ name.toList := by
  have all : ∀ name ∈ serverSettings, '.' ∉ name.toList := by decide
  exact all name setting

theorem firstPart_root (rest : String) : firstPart ("ldap." ++ rest) = firstSegment rest := by
  have after : ("ldap." ++ rest).toList.drop (root.length + 1) = rest.toList := by
    rw [String.toList_append]
    exact List.drop_left' rfl
  rw [firstPart, after, firstSegment]

theorem covers_root {name rest : String} : Covers ("ldap." ++ name) ("ldap." ++ rest) ↔ Covers name rest := by
  rw [Covers, Covers, String.append_right_inj, startsWith_iff, startsWith_iff]
  refine or_congr_right (exists_congr fun more => ?_)
  rw [String.append_assoc, String.append_assoc, String.append_right_inj, ← String.append_assoc]

theorem startsWith_of_covers {name key : String} (covers : Covers ("ldap." ++ name) key) :
    ∃ rest, key = "ldap." ++ rest ∧ Covers name rest := by
  have spelled : ∃ rest, key = "ldap." ++ rest := by
    rcases covers with whole | below
    · exact ⟨name, whole⟩
    · obtain ⟨rest, same⟩ := startsWith_iff.1 below
      exact ⟨name ++ "." ++ rest, by rw [same]; simp only [String.append_assoc]⟩
  obtain ⟨rest, same⟩ := spelled
  rw [same] at covers
  exact ⟨rest, same, covers_root.1 covers⟩

/-- The first part of a key is the setting that covers it. -/
theorem covers_root_iff {name key : String} (setting : name ∈ serverSettings) :
    Covers ("ldap." ++ name) key ↔ startsWith key "ldap." ∧ firstPart key = name := by
  constructor
  · intro covers
    obtain ⟨rest, same, below⟩ := startsWith_of_covers covers
    rw [same, firstPart_root]
    exact ⟨startsWith_iff.2 ⟨rest, rfl⟩, (covers_iff (undotted_setting setting)).1 below⟩
  · rintro ⟨begins, first⟩
    obtain ⟨rest, same⟩ := startsWith_iff.1 begins
    rw [same, firstPart_root] at first
    rw [same, covers_root]
    exact (covers_iff (undotted_setting setting)).2 first

variable {s : Settings}

theorem unlinked?_isSome_iff : (unlinked? s s.listed).isSome ↔ Astray s := by
  rw [unlinked?, List.find?_isSome]
  constructor
  · rintro ⟨key, member, test⟩
    obtain ⟨begins, filled⟩ := Settings.mem_keysFrom.1 member
    obtain ⟨unlisted, setting⟩ := (Bool.and_eq_true _ _).mp test
    have isSetting : firstPart key ∈ serverSettings := List.contains_iff_mem.1 setting
    have absent : firstPart key ∉ s.listed := by simpa using unlisted
    exact ⟨firstPart key, isSetting, absent, key, filled, (covers_root_iff isSetting).2 ⟨begins, rfl⟩⟩
  · rintro ⟨name, setting, unlisted, key, filled, covers⟩
    obtain ⟨begins, first⟩ := (covers_root_iff setting).1 covers
    refine ⟨key, Settings.mem_keysFrom.2 ⟨begins, filled⟩, ?_⟩
    rw [first]
    simp [setting, unlisted]

theorem rejectUnlinked_of_astray (astray : Astray s) :
    ∃ reason, rejectUnlinked s s.listed = .error (.configuration reason) := by
  obtain ⟨key, found⟩ := Option.isSome_iff_exists.1 (unlinked?_isSome_iff.2 astray)
  rw [rejectUnlinked, found]
  exact ⟨_, rfl⟩

theorem rejectUnlinked_of_not_astray (linked : ¬ Astray s) : rejectUnlinked s s.listed = .ok () := by
  have found : unlinked? s s.listed = none := by
    rw [← unlinked?_isSome_iff, Bool.not_eq_true, Option.isSome_eq_false_iff, Option.isNone_iff_eq_none] at linked
    exact linked
  rw [rejectUnlinked, found]

/-- Settings with a list are read as the list says, unless they are turned down. -/
theorem resolve_listed {σ : Type} (listed : s.listed ≠ []) (dns : Dns σ) (t : Trace σ) :
    (resolve s dns t).1 =
      rejectUnlinked s s.listed >>= fun _ => ofSources s (s.listed.map (Source.listed s)) := by
  have shape : Shape.of s = .listed s.listed := by
    rw [Shape.of, Settings.listed]
    cases items : s.getItems "ldap.servers" with
    | nil => exact absurd items listed
    | cons key rest => rfl
  rw [resolve_eq, sources, shape]
  dsimp only
  cases rejectUnlinked s s.listed <;> rfl

theorem not_covers_servers {name : String} (setting : name ∈ serverSettings) :
    ¬ Covers ("ldap." ++ name) "ldap.servers" := by
  intro covers
  obtain ⟨_, first⟩ := (covers_root_iff setting).1 covers
  have unknown : firstPart "ldap.servers" ∉ serverSettings := by decide
  rw [first] at unknown
  exact unknown setting

theorem linked_root_iff {names : List String} {rest : String} :
    Linked names ("ldap." ++ rest) ↔ ∃ k ∈ names, ∃ more, rest = k ++ "." ++ more := by
  refine exists_congr fun k => and_congr_right fun _ => ?_
  rw [startsWith_iff]
  refine exists_congr fun more => ?_
  rw [String.append_assoc, String.append_assoc, String.append_right_inj, ← String.append_assoc]

theorem covers_append_dot {name k : String} (more : String) (setting : name ∈ serverSettings) :
    Covers name (k ++ "." ++ more) ↔ Covers name k := by
  have undotted := undotted_setting setting
  rw [covers_iff undotted, covers_iff undotted, firstSegment_append_dot]

/-- If a server is named after a setting, that setting may stand alone beside the list. -/
theorem exists_mixed {name : String} (setting : name ∈ serverSettings) (named : name ∈ s.listed) :
    ∃ s' : Settings, s'.listed = s.listed ∧ Mixed s' ∧ ¬ Astray s' := by
  have undotted := undotted_setting setting
  have apart : "ldap." ++ name ≠ "ldap.servers" := fun same => not_covers_servers setting (.inl same.symm)
  obtain ⟨names, listed⟩ := Settings.exists_listed_oneMore named
  refine ⟨.oneMore names ("ldap." ++ name), listed _ apart, ?_, ?_⟩
  · refine ⟨_, Settings.hasKey_oneMore _ _, ⟨name, setting, .inl rfl⟩, ?_⟩
    rw [linked_root_iff]
    rintro ⟨k, -, more, spelled⟩
    refine undotted ?_
    rw [spelled]
    simp
  · rintro ⟨other, setting', unlisted, key, known, covers⟩
    rw [listed _ apart] at unlisted
    rcases Settings.mem_keys_oneMore (Settings.mem_keys_of_hasKey known) with same | same
    · rw [same, covers_root, covers_iff (undotted_setting setting')] at covers
      have itself := (covers_iff undotted).1 (.inl rfl)
      rw [← covers, itself] at unlisted
      exact unlisted named
    · rw [same] at covers
      exact not_covers_servers setting' covers

/-- If a server's name only begins with a setting, that server may be the only one that is set up. -/
theorem exists_namespaced {name k : String} (setting : name ∈ serverSettings) (member : k ∈ s.listed)
    (covers : Covers name k) (unnamed : name ∉ s.listed) :
    ∃ s' : Settings, s'.listed = s.listed ∧ Namespaced s' ∧ Astray s' := by
  have below : Covers ("ldap." ++ name) ("ldap." ++ (k ++ "." ++ "url")) :=
    covers_root.2 ((covers_append_dot "url" setting).2 covers)
  have apart : "ldap." ++ (k ++ "." ++ "url") ≠ "ldap.servers" := by
    intro same
    rw [same] at below
    exact not_covers_servers setting below
  obtain ⟨names, listed⟩ := Settings.exists_listed_oneMore member
  refine ⟨.oneMore names ("ldap." ++ (k ++ "." ++ "url")), listed _ apart, ?_, ?_⟩
  · intro key known _
    rcases Settings.mem_keys_oneMore known with same | same
    · rw [same, listed _ apart, linked_root_iff]
      exact .inr ⟨k, member, "url", rfl⟩
    · exact .inl same
  · refine ⟨name, setting, ?_, _, Settings.hasKey_oneMore _ _, below⟩
    rw [listed _ apart]
    exact unnamed

/-- The two notions agree for all settings with one list exactly when no server's name begins with a setting. -/
theorem agree_iff (s : Settings) :
    (∀ s' : Settings, s'.listed = s.listed → (Mixed s' → Astray s') ∧ (Namespaced s' → ¬ Astray s')) ↔
      ∀ k ∈ s.listed, ∀ name ∈ serverSettings, ¬ Covers name k := by
  constructor
  · intro agree k member name setting covers
    by_cases named : name ∈ s.listed
    · obtain ⟨s', same, mixed, linked⟩ := exists_mixed setting named
      exact linked ((agree s' same).1 mixed)
    · obtain ⟨s', same, namespaced, astray⟩ := exists_namespaced setting member covers named
      exact (agree s' same).2 namespaced astray
  · intro apart s' same
    constructor
    · rintro ⟨key, filled, ⟨name, setting, covers⟩, -⟩
      refine ⟨name, setting, fun named => ?_, key, filled, covers⟩
      rw [same] at named
      exact apart name named name setting (.inl rfl)
    · rintro namespaced ⟨name, setting, -, key, filled, covers⟩
      obtain ⟨rest, spelled, below⟩ := startsWith_of_covers covers
      rcases namespaced key (Settings.mem_keys_of_hasKey filled) (startsWith_iff.2 ⟨rest, spelled⟩) with list | linked
      · rw [list] at covers
        exact not_covers_servers setting covers
      · rw [spelled, linked_root_iff, same] at linked
        obtain ⟨k, member, more, split⟩ := linked
        rw [split, covers_append_dot more setting] at below
        exact apart k member name setting below

/-- What is turned down when servers are listed. Settings fail with a configuration error if the first part of one of
them is a setting of servers and not the name of a listed one, and otherwise the servers of the list are read. This is
to turn down what is in the namespace of no listed server, and nothing else; for all settings with one list it does so
exactly when no name in the list is a setting of servers or begins with one. -/
theorem mixture_rejected (s : Settings) :
    (s.listed ≠ [] → ∀ (σ : Type) (dns : Dns σ) (t : Trace σ),
      (Astray s → ∃ reason, (resolve s dns t).1 = .error (.configuration reason)) ∧
      (¬ Astray s → (resolve s dns t).1 = ofSources s (s.listed.map (Source.listed s)))) ∧
    ((∀ s' : Settings, s'.listed = s.listed → (Mixed s' → Astray s') ∧ (Namespaced s' → ¬ Astray s')) ↔
      ∀ k ∈ s.listed, ∀ name ∈ serverSettings, ¬ Covers name k) := by
  refine ⟨fun listed σ dns t => ⟨fun astray => ?_, fun linked => ?_⟩, agree_iff s⟩
  · obtain ⟨reason, rejected⟩ := rejectUnlinked_of_astray astray
    refine ⟨reason, ?_⟩
    rw [resolve_listed listed, rejected]
    rfl
  · rw [resolve_listed listed, rejectUnlinked_of_not_astray linked]
    rfl

namespace Misnamed

/-- A realm of no server beside a list. -/
def bare : Settings := .ofList [
  ("ldap.servers", "north"),
  ("ldap.north.url", "ldap://north.example.org"),
  ("ldap.realm", "example.org")]

/-- A server that is named after a setting, beside that setting of no server. -/
def shadowed : Settings := .ofList [
  ("ldap.servers", "url"),
  ("ldap.url", "ldap://old.example.org"),
  ("ldap.url.url", "ldap://new.example.org")]

/-- A server whose name begins with a setting. -/
def dotted : Settings := .ofList [
  ("ldap.servers", "user.north"),
  ("ldap.user.north.url", "ldap://north.example.org")]

def dns : Dns Unit :=
  fun _ w => (.ok [], w)

end Misnamed

/-- A realm that belongs to no listed server fails the whole resolution. -/
theorem mixture_rejected_bare : Misnamed.bare.listed ≠ [] ∧ Astray Misnamed.bare ∧
    ∃ reason, (resolve Misnamed.bare Misnamed.dns ⟨(), []⟩).1 = .error (.configuration reason) := by
  have listed : Misnamed.bare.listed ≠ [] := by decide +kernel
  have astray : Astray Misnamed.bare :=
    ⟨"realm", by decide, by decide +kernel, "ldap.realm", by decide +kernel, .inl rfl⟩
  exact ⟨listed, astray, ((mixture_rejected Misnamed.bare).1 listed Unit Misnamed.dns ⟨(), []⟩).1 astray⟩

/-- A setting of no listed server passes, and settings of none but a listed server are turned down. -/
theorem mixture_misnamed :
    (Misnamed.shadowed.listed = ["url"] ∧ Mixed Misnamed.shadowed ∧
      ∃ registry, (resolve Misnamed.shadowed Misnamed.dns ⟨(), []⟩).1 = .ok registry ∧
        registry.servers.map (·.url) = ["ldap://new.example.org"]) ∧
    Misnamed.dotted.listed = ["user.north"] ∧ Namespaced Misnamed.dotted ∧
      (resolve Misnamed.dotted Misnamed.dns ⟨(), []⟩).1 = .error (.configuration
        ("When defining multiple LDAP servers with the property 'ldap.servers', all LDAP properties must be linked " ++
          "to one of those servers. Please remove properties like 'ldap.url', 'ldap.realm', ... " ++
          "(found 'ldap.user.north.url')")) := by
  have accepted : ((resolve Misnamed.shadowed Misnamed.dns ⟨(), []⟩).1.toOption.map fun registry =>
      registry.servers.map (·.url)) = some ["ldap://new.example.org"] := by decide +kernel
  have rejected : rejectUnlinked Misnamed.dotted ["user.north"] = .error (.configuration
      ("When defining multiple LDAP servers with the property 'ldap.servers', all LDAP properties must be linked " ++
        "to one of those servers. Please remove properties like 'ldap.url', 'ldap.realm', ... " ++
        "(found 'ldap.user.north.url')")) := by decide +kernel
  have list : Misnamed.dotted.listed = ["user.north"] := by decide +kernel
  refine ⟨⟨by decide +kernel, ?_, ?_⟩, list, by decide +kernel, ?_⟩
  · exact ⟨"ldap.url", by decide +kernel, ⟨"url", by decide, .inl rfl⟩, by decide +kernel⟩
  · obtain ⟨registry, found, urls⟩ := Option.map_eq_some_iff.1 accepted
    cases outcome : (resolve Misnamed.shadowed Misnamed.dns ⟨(), []⟩).1 with
    | error e =>
      rw [outcome] at found
      cases found
    | ok other =>
      rw [outcome] at found
      cases found
      exact ⟨registry, rfl, urls⟩
  · have listed : Misnamed.dotted.listed ≠ [] := by simp [list]
    rw [resolve_listed listed, list, rejected]
    rfl

end Registry

end DirectoryLogin
