import DirectoryLogin.Proofs.Settings.Lines
import DirectoryLogin.Settings.Toml

namespace DirectoryLogin

open Text

namespace Toml.Value

def isTable : Value → Bool
  | table _ => true
  | _ => false

/-- The value that a path of keys leads to. -/
def at? : List String → Value → Option Value
  | [], v => some v
  | key :: path, table members => (members.lookup key).bind (at? path)
  | _ :: _, _ => none

/-- The path leads to a value that is no table. -/
def IsLeaf (v : Value) (path : List String) (leaf : Value) : Prop :=
  v.at? path = some leaf ∧ leaf.isTable = false

/-- Every table within a value has each key once, and no key with a dot. -/
structure Undotted (v : Value) : Prop where
  distinct : ∀ path members, v.at? path = some (table members) → (members.map (·.1)).Nodup
  undotted : ∀ path members, v.at? path = some (table members) → ∀ member ∈ members, '.' ∉ member.1.toList

mutual

/-- The leaves of a value with their paths, in the order of the keys. -/
def leafPaths : Value → List (List String × Value)
  | table members => memberPaths members
  | v => [([], v)]

def memberPaths : List (String × Value) → List (List String × Value)
  | [] => []
  | (key, v) :: rest => (leafPaths v).map (fun (path, leaf) => (key :: path, leaf)) ++ memberPaths rest

end

theorem leafPaths_of_not_table {v : Value} (single : v.isTable = false) : v.leafPaths = [([], v)] := by
  cases v <;> first | rfl | cases single

theorem at?_cons_of_not_table {v : Value} (single : v.isTable = false) (key : String) (path : List String) :
    v.at? (key :: path) = none := by
  cases v <;> first | rfl | cases single

theorem mem_iff_lookup {members : List (String × Value)} (distinct : (members.map (·.1)).Nodup) {key : String}
    {v : Value} : (key, v) ∈ members ↔ members.lookup key = some v := by
  rw [List.lookup_eq_some_iff]
  constructor
  · intro member
    obtain ⟨before, after, rfl⟩ := List.append_of_mem member
    refine ⟨before, after, rfl, fun p earlier => bne_iff_ne.2 fun same => ?_⟩
    rw [List.map_append, List.nodup_append] at distinct
    exact distinct.2.2 p.1 (List.mem_map_of_mem earlier) key (by simp) same.symm
  · rintro ⟨before, after, rfl, -⟩
    simp

theorem Undotted.member {members : List (String × Value)} (tidy : (table members).Undotted) {key : String} {v : Value}
    (member : (key, v) ∈ members) : v.Undotted := by
  have found := (mem_iff_lookup (tidy.distinct [] members rfl)).1 member
  have step (path : List String) : (table members).at? (key :: path) = v.at? path := by
    rw [at?, found, Option.bind_some]
  exact ⟨fun path inner here => tidy.distinct (key :: path) inner ((step path).trans here),
    fun path inner here => tidy.undotted (key :: path) inner ((step path).trans here)⟩

theorem isLeaf_of_not_table {v : Value} (single : v.isTable = false) {path : List String} {leaf : Value} :
    v.IsLeaf path leaf ↔ path = [] ∧ leaf = v := by
  cases path with
  | nil =>
    simp only [IsLeaf, at?, Option.some.injEq, true_and]
    constructor
    · rintro ⟨rfl, -⟩
      rfl
    · rintro rfl
      exact ⟨rfl, single⟩
  | cons key path => simp [IsLeaf, at?_cons_of_not_table single]

/-- The leaves of a table are those of its members. -/
theorem isLeaf_table {members : List (String × Value)} (distinct : (members.map (·.1)).Nodup) {path : List String}
    {leaf : Value} : (table members).IsLeaf path leaf ↔
      ∃ key v rest, path = key :: rest ∧ (key, v) ∈ members ∧ v.IsLeaf rest leaf := by
  constructor
  · rintro ⟨found, single⟩
    cases path with
    | nil =>
      cases found
      cases single
    | cons key rest =>
      obtain ⟨v, known, inner⟩ := Option.bind_eq_some_iff.1 found
      exact ⟨key, v, rest, rfl, (mem_iff_lookup distinct).2 known, inner, single⟩
  · rintro ⟨key, v, rest, rfl, member, inner, single⟩
    exact ⟨by rw [at?, (mem_iff_lookup distinct).1 member, Option.bind_some, inner], single⟩

mutual

theorem mem_leafPaths : (v : Value) → v.Undotted → ∀ {path : List String} {leaf : Value},
    (path, leaf) ∈ v.leafPaths ↔ v.IsLeaf path leaf
  | table members, tidy, path, leaf => by
    rw [leafPaths, mem_memberPaths members fun key v => tidy.member, isLeaf_table (tidy.distinct [] members rfl)]
  | string _, _, _, _ | integer _, _, _, _ | float _, _, _, _ | boolean _, _, _, _ | dateTime _, _, _, _
  | array _, _, _, _ => by
    rw [leafPaths_of_not_table rfl, isLeaf_of_not_table rfl]
    simp

theorem mem_memberPaths : (members : List (String × Value)) → (∀ key v, (key, v) ∈ members → v.Undotted) →
    ∀ {path : List String} {leaf : Value}, (path, leaf) ∈ memberPaths members ↔
      ∃ key v rest, path = key :: rest ∧ (key, v) ∈ members ∧ v.IsLeaf rest leaf
  | [], _, _, _ => by simp [memberPaths]
  | (name, value) :: more, tidy, path, leaf => by
    have first {rest : List String} : (rest, leaf) ∈ value.leafPaths ↔ value.IsLeaf rest leaf :=
      mem_leafPaths value (tidy name value (List.mem_cons_self ..))
    rw [memberPaths, List.mem_append, List.mem_map,
      mem_memberPaths more fun key v member => tidy key v (List.mem_cons_of_mem _ member)]
    constructor
    · rintro (⟨⟨rest, inner⟩, member, same⟩ | ⟨key, v, rest, split, member, isLeaf⟩)
      · cases same
        exact ⟨name, value, rest, rfl, List.mem_cons_self .., first.1 member⟩
      · exact ⟨key, v, rest, split, List.mem_cons_of_mem _ member, isLeaf⟩
    · rintro ⟨key, v, rest, rfl, member, isLeaf⟩
      rcases List.mem_cons.1 member with here | later
      · cases here
        exact .inl ⟨(rest, leaf), first.2 isLeaf, rfl⟩
      · exact .inr ⟨key, v, rest, rfl, later, isLeaf⟩

end

theorem undotted_of_not_table {v : Value} (single : v.isTable = false) : v.Undotted := by
  have none (path : List String) (members : List (String × Value)) : v.at? path ≠ some (table members) := by
    cases path with
    | nil =>
      rintro same
      cases Option.some.inj same
      cases single
    | cons key path => simp [at?_cons_of_not_table single]
  exact ⟨fun path members here => absurd here (none path members), fun path members here => absurd here (none path members)⟩

theorem undotted_table {members : List (String × Value)} (distinct : (members.map (·.1)).Nodup)
    (plain : ∀ member ∈ members, '.' ∉ member.1.toList ∧ member.2.Undotted) : (table members).Undotted := by
  have step {path : List String} {inner : List (String × Value)} (here : (table members).at? path = some (table inner)) :
      inner = members ∨ ∃ (v : Value) (rest : List String), v.Undotted ∧ v.at? rest = some (table inner) := by
    cases path with
    | nil =>
      cases here
      exact .inl rfl
    | cons key rest =>
      obtain ⟨v, known, later⟩ := Option.bind_eq_some_iff.1 here
      exact .inr ⟨v, rest, (plain (key, v) ((mem_iff_lookup distinct).2 known)).2, later⟩
  constructor
  · intro path inner here
    rcases step here with rfl | ⟨v, rest, tidy, later⟩
    · exact distinct
    · exact tidy.distinct rest inner later
  · intro path inner here
    rcases step here with rfl | ⟨v, rest, tidy, later⟩
    · exact fun member inside => (plain member inside).1
    · exact tidy.undotted rest inner later

/-- No key on the way to a leaf holds a dot. -/
theorem Undotted.path {v : Value} (tidy : v.Undotted) {path : List String} {leaf : Value} (isLeaf : v.IsLeaf path leaf) :
    ∀ key ∈ path, '.' ∉ key.toList := by
  induction path generalizing v with
  | nil => simp
  | cons key path ih =>
    cases kind : v.isTable with
    | false => exact absurd ((isLeaf_of_not_table kind).1 isLeaf).1 (List.cons_ne_nil key path)
    | true =>
      cases v with
      | table members =>
        obtain ⟨_, w, _, split, member, inner⟩ := (isLeaf_table (tidy.distinct [] members rfl)).1 isLeaf
        cases split
        exact List.forall_mem_cons.2 ⟨tidy.undotted [] members rfl (key, w) member, ih (tidy.member member) inner⟩
      | _ => cases kind

end Toml.Value

namespace Settings

open Toml (Value)

/-- The key of the setting at a path. -/
def pathKey (path : List String) : String :=
  String.intercalate "." path

theorem leaves_of_not_table (key : String) {v : Value} (single : v.isTable = false) : leaves key v = [(key, v.text)] := by
  cases v <;> first | rfl | cases single

theorem pathKey_memberKey (table : Option String) (key : String) (path : List String) :
    pathKey (memberKey table key :: path) = pathKey (table.toList ++ key :: path) := by
  cases table with
  | none => rfl
  | some table => simp [pathKey, memberKey]

mutual

/-- The settings of a value are its leaves under the keys of their paths. -/
theorem leaves_eq : (key : String) → (v : Value) →
    leaves key v = v.leafPaths.map fun row => (pathKey (key :: row.1), row.2.text)
  | key, .table members => by
    rw [leaves, Value.leafPaths, memberLeaves_eq (some key) members]
    rfl
  | key, .string _ | key, .integer _ | key, .float _ | key, .boolean _ | key, .dateTime _ | key, .array _ => by
    rw [leaves_of_not_table key rfl, Value.leafPaths_of_not_table rfl]
    simp [pathKey]

theorem memberLeaves_eq : (table : Option String) → (members : List (String × Value)) →
    memberLeaves table members =
      (Value.memberPaths members).map fun row => (pathKey (table.toList ++ row.1), row.2.text)
  | _, [] => rfl
  | table, (key, v) :: rest => by
    rw [memberLeaves, leaves_eq (memberKey table key) v, memberLeaves_eq table rest, Value.memberPaths, List.map_append,
      List.map_map]
    simp only [pathKey_memberKey, Function.comp_def]

end

theorem ofTable_eq (members : List (String × Value)) :
    ofTable members = ofList ((Value.table members).leafPaths.map fun row => (pathKey row.1, row.2.text)) := by
  rw [ofTable, memberLeaves_eq none members]
  rfl

section

variable {members : List (String × Value)} (tidy : (Value.table members).Undotted)

include tidy

/-- Two leaves with one key are one leaf. -/
theorem leaf_unique {path other : List String} {leaf second : Value} (isLeaf : (Value.table members).IsLeaf path leaf)
    (isSecond : (Value.table members).IsLeaf other second) (same : pathKey path = pathKey other) :
    path = other ∧ leaf = second := by
  have filled {path : List String} {leaf : Value} (isLeaf : (Value.table members).IsLeaf path leaf) : path ≠ [] := by
    rintro rfl
    obtain ⟨key, v, rest, split, -⟩ := (Value.isLeaf_table (tidy.distinct [] members rfl)).1 isLeaf
    cases split
  have back {path : List String} {leaf : Value} (isLeaf : (Value.table members).IsLeaf path leaf) :
      splitText (· == '.') (pathKey path) = path :=
    splitText_intercalate '.' (filled isLeaf) (tidy.path isLeaf)
  have paths : path = other := by rw [← back isLeaf, same, back isSecond]
  subst paths
  exact ⟨rfl, Option.some.inj (isLeaf.1.symm.trans isSecond.1)⟩

theorem get?_ofTable {key text : String} : (ofTable members).values.get? key = some text ↔
    ∃ path leaf, (Value.table members).IsLeaf path leaf ∧ pathKey path = key ∧ leaf.text = text := by
  have member {text : String} : (key, text) ∈ (Value.table members).leafPaths.map (fun row => (pathKey row.1, row.2.text)) ↔
      ∃ path leaf, (Value.table members).IsLeaf path leaf ∧ pathKey path = key ∧ leaf.text = text := by
    simp only [List.mem_map, Prod.exists, Value.mem_leafPaths _ tidy, Prod.mk.injEq]
  rw [ofTable_eq, ofList, Dictionary.get?_ofList_iff_of_agree, member]
  intro v w first second
  obtain ⟨path, leaf, isLeaf, here, rfl⟩ := member.1 first
  obtain ⟨other, leaf', isLeaf', there, rfl⟩ := member.1 second
  rw [(leaf_unique tidy isLeaf isLeaf' (here.trans there.symm)).2]

theorem get?_ofTable_leaf {path : List String} {leaf : Value} (isLeaf : (Value.table members).IsLeaf path leaf) :
    (ofTable members).values.get? (pathKey path) = some leaf.text :=
  (get?_ofTable tidy).2 ⟨path, leaf, isLeaf, rfl, rfl⟩

end

/-- A text that is an item of a list as it stands. -/
structure IsItem (item : String) : Prop where
  filled : item ≠ ""
  bare : trimmed item = item
  whole : ',' ∉ item.toList

theorem IsItem.hasContent {item : String} (isItem : IsItem item) : hasContent item := by
  rw [hasContent_iff, isItem.bare]
  exact isItem.filled

/-- The items of a list come apart at the commas between them. -/
theorem items_intercalate {list : List String} (filled : list ≠ []) (each : ∀ item ∈ list, IsItem item) :
    items (String.intercalate "," list) = list := by
  have apart : splitText (· == ',') (String.intercalate "," list) = list :=
    splitText_intercalate ',' filled fun item member => (each item member).whole
  have bare : list.map trimmed = list.map id := List.map_congr_left fun item member => (each item member).bare
  have kept : list.filter (!·.isEmpty) = list :=
    List.filter_eq_self.2 fun item member => by simp [(each item member).filled]
  rw [items, apart, bare, List.map_id, kept]

theorem hasContent_intercalate {list : List String} (filled : list ≠ []) (each : ∀ item ∈ list, IsItem item) :
    hasContent (String.intercalate "," list) := by
  cases list with
  | nil => exact absurd rfl filled
  | cons item rest =>
    have first := (each item (List.mem_cons_self ..)).hasContent
    cases rest with
    | nil => rwa [String.intercalate_singleton]
    | cons next rest =>
      rw [String.intercalate_cons_cons]
      exact hasContent_append_left _ (hasContent_append_left _ first)

theorem text_strings (list : List String) : (Value.array (list.map .string)).text = String.intercalate "," list := by
  have texts : Value.itemTexts (list.map .string) = list := by
    induction list with
    | nil => rfl
    | cons item rest ih => rw [List.map_cons, Value.itemTexts, ih, Value.text]
  rw [Value.text, texts]

section

variable {members : List (String × Value)} (tidy : (Value.table members).Undotted)

include tidy

/-- A list of items is read back from the setting that it makes. -/
theorem getItems_ofTable {path list : List String} (isLeaf : (Value.table members).IsLeaf path (.array (list.map .string)))
    (filled : list ≠ []) (each : ∀ item ∈ list, IsItem item) : (ofTable members).getItems (pathKey path) = list := by
  have value := get?_ofTable_leaf tidy isLeaf
  rw [text_strings] at value
  rw [getItems, get?, value, Option.filter_some, if_pos (hasContent_intercalate filled each)]
  exact items_intercalate filled each

/-- The settings of a table are those of its leaves in any order, as often as they may be there. -/
theorem ofList_leaves {rows : List (List String × Value)}
    (all : ∀ path leaf, (path, leaf) ∈ rows ↔ (Value.table members).IsLeaf path leaf) :
    ofList (rows.map fun row => (pathKey row.1, row.2.text)) = ofTable members := by
  have member {key text : String} : (key, text) ∈ rows.map (fun row => (pathKey row.1, row.2.text)) ↔
      ∃ path leaf, (Value.table members).IsLeaf path leaf ∧ pathKey path = key ∧ leaf.text = text := by
    simp only [List.mem_map, Prod.exists, all, Prod.mk.injEq]
  have agree (key : String) (v w : String) (first : (key, v) ∈ rows.map fun row => (pathKey row.1, row.2.text))
      (second : (key, w) ∈ rows.map fun row => (pathKey row.1, row.2.text)) : v = w := by
    rw [member, ← get?_ofTable tidy] at first second
    exact Option.some.inj (first.symm.trans second)
  refine congrArg Settings.mk (Dictionary.ext_get? fun key => Option.ext fun text => ?_)
  exact (Dictionary.get?_ofList_iff_of_agree (agree key)).trans (member.trans (get?_ofTable tidy).symm)

end

/-- Nothing of a table is lost or added on the way to its settings, if no key within it holds a dot. The settings are
the leaves, each under its path with dots between the keys, and no two leaves have one key. A text is its setting as it
stands, and the items of a list that can stand between commas come back in their order. There are finitely many leaves,
and where they all are texts that can stand on a line, the lines of their settings, written in any order, are read as
these settings. -/
theorem ofTable_lossless {members : List (String × Value)} (tidy : (Value.table members).Undotted) :
    (∀ key text, (ofTable members).values.get? key = some text ↔
      ∃ path leaf, (Value.table members).IsLeaf path leaf ∧ pathKey path = key ∧ leaf.text = text) ∧
    (∀ path leaf other second, (Value.table members).IsLeaf path leaf → (Value.table members).IsLeaf other second →
      pathKey path = pathKey other → path = other ∧ leaf = second) ∧
    (∀ path s, (Value.table members).IsLeaf path (.string s) →
      (ofTable members).values.get? (pathKey path) = some s) ∧
    (∀ path list, (Value.table members).IsLeaf path (.array (list.map .string)) → list ≠ [] →
      (∀ item ∈ list, IsItem item) → (ofTable members).getItems (pathKey path) = list) ∧
    (∃ rows : List (List String × Value), ∀ path leaf,
      (path, leaf) ∈ rows ↔ (Value.table members).IsLeaf path leaf) ∧
    ∀ rows : List (List String × String),
      (∀ path leaf, (Value.table members).IsLeaf path leaf ↔ ∃ s, leaf = .string s ∧ (path, s) ∈ rows) →
      (∀ row ∈ rows, IsKey (pathKey row.1) ∧ IsValue row.2) →
      ofProperties (String.join (rows.map fun row => pathKey row.1 ++ "=" ++ row.2 ++ "\n")) = .ok (ofTable members) := by
  refine ⟨fun key text => get?_ofTable tidy, fun path leaf other second => leaf_unique tidy,
    fun path s isLeaf => get?_ofTable_leaf tidy isLeaf, fun path list isLeaf => getItems_ofTable tidy isLeaf,
    ⟨_, fun path leaf => Value.mem_leafPaths _ tidy⟩, fun rows all legal => ?_⟩
  have pairs : ofList (rows.map fun row => (pathKey row.1, row.2)) = ofTable members := by
    have known (path : List String) (leaf : Value) :
        (path, leaf) ∈ rows.map (fun row => (row.1, Value.string row.2)) ↔
          (Value.table members).IsLeaf path leaf := by
      rw [all, List.mem_map]
      constructor
      · rintro ⟨row, member, same⟩
        cases same
        exact ⟨row.2, rfl, member⟩
      · rintro ⟨s, rfl, member⟩
        exact ⟨(path, s), member, rfl⟩
    have leaves := ofList_leaves tidy known
    rwa [List.map_map] at leaves
  have legalPairs : ∀ p ∈ rows.map (fun row => (pathKey row.1, row.2)), IsKey p.1 ∧ IsValue p.2 :=
    List.forall_mem_map.2 legal
  obtain ⟨file, written, said⟩ := exists_file legalPairs
  rw [List.map_map] at written
  rw [← pairs, ← said, ← ofProperties_written file, written]
  rfl

namespace Nested

/-- Settings of a server, three tables deep. A value holds separators, and a key is empty. -/
def user : List (String × Value) :=
  [("", .string "!"), ("baseDn", .string "ou=users,dc=example,dc=org")]

def north : List (String × Value) :=
  [("ldap", .table [("url", .string "ldap://n.example.org:389"), ("user", .table user)])]

def servers : List (String × Value) :=
  [("ldap", .table [("readTimeout", .integer 1000), ("servers", .array [.string "north", .string "south"])])]

theorem undotted_north : (Value.table north).Undotted := by
  have ldap : (Value.table [("url", .string "ldap://n.example.org:389"), ("user", .table user)]).Undotted := by
    refine Value.undotted_table (by decide) (List.forall_mem_cons.2 ⟨⟨by decide, Value.undotted_of_not_table rfl⟩, ?_⟩)
    refine List.forall_mem_singleton.2 ⟨by decide, Value.undotted_table (by decide) ?_⟩
    exact List.forall_mem_cons.2 ⟨⟨by decide, Value.undotted_of_not_table rfl⟩,
      List.forall_mem_singleton.2 ⟨by decide, Value.undotted_of_not_table rfl⟩⟩
  exact Value.undotted_table (by decide) (List.forall_mem_singleton.2 ⟨by decide, ldap⟩)

theorem undotted_servers : (Value.table servers).Undotted := by
  refine Value.undotted_table (by decide) (List.forall_mem_singleton.2 ⟨by decide, Value.undotted_table (by decide) ?_⟩)
  exact List.forall_mem_cons.2 ⟨⟨by decide, Value.undotted_of_not_table rfl⟩,
    List.forall_mem_singleton.2 ⟨by decide, Value.undotted_of_not_table rfl⟩⟩

/-- The settings of the nested table as rows, the last leaf first. -/
def rows : List (List String × String) :=
  [(["ldap", "user", "baseDn"], "ou=users,dc=example,dc=org"), (["ldap", "user", ""], "!"),
    (["ldap", "url"], "ldap://n.example.org:389")]

theorem isLeaf_north_iff (path : List String) (leaf : Value) :
    (Value.table north).IsLeaf path leaf ↔ ∃ s, leaf = .string s ∧ (path, s) ∈ rows := by
  rw [← Value.mem_leafPaths _ undotted_north]
  simp only [north, user, rows, Value.leafPaths, Value.memberPaths, List.map_cons, List.map_nil, List.append_nil,
    List.cons_append, List.nil_append, List.mem_cons, List.not_mem_nil, or_false, Prod.mk.injEq]
  constructor
  · rintro (⟨rfl, rfl⟩ | ⟨rfl, rfl⟩ | ⟨rfl, rfl⟩) <;> simp
  · rintro ⟨s, rfl, ⟨rfl, rfl⟩ | ⟨rfl, rfl⟩ | ⟨rfl, rfl⟩⟩ <;> simp

theorem legal_rows : ∀ row ∈ rows, IsKey (pathKey row.1) ∧ IsValue row.2 := by
  have decides : ∀ row ∈ rows, pathKey row.1 ≠ "" ∧ trimmed (pathKey row.1) = pathKey row.1 ∧
      (pathKey row.1).toList.all (fun c => c ≠ '=' ∧ c ≠ ':' ∧ c ≠ '\n') ∧
      (pathKey row.1).toList.head?.all (fun c => c ≠ '#' ∧ c ≠ '!') ∧
      trimmed row.2 = row.2 ∧ '\n' ∉ row.2.toList := by
    decide +kernel
  intro row member
  obtain ⟨filled, bare, ordinary, noComment, bareValue, inline⟩ := decides row member
  refine ⟨⟨filled, bare, fun c inKey => ?_, fun c first => ?_⟩, bareValue, inline⟩
  · exact of_decide_eq_true (List.all_eq_true.1 ordinary c inKey)
  · exact of_decide_eq_true ((Option.all_eq_true _ _).1 noComment c first)

end Nested

/-- Lines in any order stand for nested tables, and a list for an array. -/
theorem ofTable_lossless_nested :
    (Value.table Nested.north).Undotted ∧
    ofProperties "ldap.user.baseDn=ou=users,dc=example,dc=org\nldap.user.=!\nldap.url=ldap://n.example.org:389\n" =
      .ok (ofTable Nested.north) ∧
    (Value.table Nested.servers).Undotted ∧
    (ofTable Nested.servers).getItems "ldap.servers" = ["north", "south"] := by
  obtain ⟨-, -, -, -, -, lines⟩ := ofTable_lossless Nested.undotted_north
  obtain ⟨-, -, -, lists, -⟩ := ofTable_lossless Nested.undotted_servers
  have items : ∀ item ∈ ["north", "south"], IsItem item := by
    have decides : ∀ item ∈ ["north", "south"], item ≠ "" ∧ trimmed item = item ∧ ',' ∉ item.toList := by decide +kernel
    intro item member
    obtain ⟨filled, bare, whole⟩ := decides item member
    exact ⟨filled, bare, whole⟩
  exact ⟨Nested.undotted_north, lines Nested.rows Nested.isLeaf_north_iff Nested.legal_rows, Nested.undotted_servers,
    lists ["ldap", "servers"] ["north", "south"] ⟨rfl, rfl⟩ (by decide) items⟩

end Settings

end DirectoryLogin
