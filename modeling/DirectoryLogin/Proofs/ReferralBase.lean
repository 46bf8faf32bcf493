import DirectoryLogin.Proofs.Search.Legs
import DirectoryLogin.Proofs.Text.Case
import DirectoryLogin.Proofs.Text.Utf8
import DirectoryLogin.Proofs.Url.Written

namespace DirectoryLogin

open Text

namespace Url

/-- The characters that stand for themselves where everything else is percent-encoded. The dot is not one of them. -/
def isUnreserved (c : Char) : Bool :=
  c.isAlphanum || c == '-' || c == '_' || c == '~'

/-- How bytes are written in a path: unreserved characters as they are, and every other byte as a percent sign and two
hexadecimal digits, each of them in either case. -/
inductive Encoded : List UInt8 → List Char → Prop
  | nil : Encoded [] []
  | plain {c bs path} (unreserved : isUnreserved c) : Encoded bs path → Encoded (c.toNat.toUInt8 :: bs) (c :: path)
  | percent {b bs path high low} (first : hexDigit? high = some (b.toNat / 16))
    (second : hexDigit? low = some (b.toNat % 16)) : Encoded bs path → Encoded (b :: bs) ('%' :: high :: low :: path)

theorem lt_of_isAlphanum {c : Char} (alphanumeric : c.isAlphanum) : c.toNat < 128 := by
  have value : c.toNat = c.val.toNat := rfl
  simp [Char.isAlphanum, Char.isAlpha, Char.isUpper, Char.isLower, Char.isDigit, UInt32.le_iff_toNat_le] at alphanumeric
  omega

/-- The characters of a path in which everything else is percent-encoded. -/
def isPathCharacter (c : Char) : Bool :=
  isUnreserved c || c == '%'

theorem lt_of_isPathCharacter {c : Char} (character : isPathCharacter c) : c.toNat < 128 := by
  simp only [isPathCharacter, isUnreserved, Bool.or_eq_true, beq_iff_eq] at character
  rcases character with (((alphanumeric | rfl) | rfl) | rfl) | rfl
  · exact lt_of_isAlphanum alphanumeric
  all_goals decide

/-- None of these characters has a meaning of its own in a URL, and none is encoded by reading it. -/
theorem isPathCharacter_inert {c : Char} (character : isPathCharacter c) : 0x20 < c.toNat ∧ c ≠ '/' ∧ c ≠ '?' ∧ c ≠ '#' ∧
    c ≠ '.' ∧ isEncodedInPath c = false := by
  have ascii := lt_of_isPathCharacter character
  revert character
  exact forall_ascii (p := fun c => isPathCharacter c → 0x20 < c.toNat ∧ c ≠ '/' ∧ c ≠ '?' ∧ c ≠ '#' ∧ c ≠ '.' ∧
    isEncodedInPath c = false) (by decide) ascii

theorem isPathCharacter_of_hexDigit {c : Char} {n : Nat} (digit : hexDigit? c = some n) : isPathCharacter c := by
  have isDigit : (hexDigit? c).isSome := by rw [digit]; rfl
  have ascii := lt_of_hexDigit isDigit
  revert isDigit
  exact forall_ascii (p := fun c => (hexDigit? c).isSome → isPathCharacter c) (by decide) ascii

/-- The digits of a dot, in either case. -/
theorem toLower_of_hexDigit {c : Char} (ascii : c.toNat < 128) :
    (c.toLower = '2' ↔ hexDigit? c = some 2) ∧ (c.toLower = 'e' ↔ hexDigit? c = some 14) :=
  forall_ascii (p := fun c => (c.toLower = '2' ↔ hexDigit? c = some 2) ∧ (c.toLower = 'e' ↔ hexDigit? c = some 14))
    (by decide) ascii

theorem utf8EncodeChar_of_isUnreserved {c : Char} (unreserved : isUnreserved c) :
    String.utf8EncodeChar c = [c.toNat.toUInt8] := by
  have ascii : c.toNat < 128 := lt_of_isPathCharacter (by simp [isPathCharacter, unreserved])
  rw [String.utf8EncodeChar]
  exact if_pos (Nat.le_of_lt_succ ascii)

namespace Encoded

variable {bs : List UInt8} {path : List Char}

theorem characters (encoded : Encoded bs path) : ∀ c ∈ path, isPathCharacter c := by
  induction encoded with
  | nil => simp
  | plain unreserved _ ih => exact List.forall_mem_cons.2 ⟨by simp [isPathCharacter, unreserved], ih⟩
  | percent first second _ ih =>
    simp only [List.forall_mem_cons]
    exact ⟨rfl, isPathCharacter_of_hexDigit first, isPathCharacter_of_hexDigit second, ih⟩

/-- Decoding undoes encoding. -/
theorem percentDecode (encoded : Encoded bs path) : percentDecode path = bs := by
  induction encoded with
  | nil => rfl
  | @plain c bs path unreserved _ ih =>
    have ordinary : c ≠ '%' := by
      rintro rfl
      exact absurd unreserved (by decide)
    rw [Url.percentDecode, ih, utf8EncodeChar_of_isUnreserved unreserved, List.singleton_append]
    intro a b rest same
    exact absurd same ordinary
  | @percent b bs path high low first second _ ih =>
    have whole : 16 * (b.toNat / 16) + b.toNat % 16 = b.toNat := Nat.div_add_mod ..
    simp only [Url.percentDecode, first, second, ih, whole]
    simp

/-- Such a path is left as it is. -/
theorem percentEncode (encoded : Encoded bs path) : percentEncode isEncodedInPath path = path := by
  have characters := encoded.characters
  clear encoded
  induction path with
  | nil => rfl
  | cons c path ih =>
    obtain ⟨character, later⟩ := List.forall_mem_cons.1 characters
    have stays : (c.toNat < 0x80 && !isEncodedInPath c) = true := by
      simp [lt_of_isPathCharacter character, (isPathCharacter_inert character).2.2.2.2.2]
    have rest := ih later
    rw [Url.percentEncode] at rest ⊢
    rw [List.flatMap_cons, if_pos stays, rest, List.singleton_append]

/-- A dot can only be written as `%2e` or `%2E`. -/
theorem exists_of_dot {more : List UInt8} (encoded : Encoded bs path) (dot : bs = 0x2E :: more) :
    ∃ high low rest, path = '%' :: high :: low :: rest ∧ high.toLower = '2' ∧ low.toLower = 'e' ∧ Encoded more rest := by
  cases encoded with
  | nil => cases dot
  | @plain c bs path unreserved rest =>
    have value : c.toNat.toUInt8 = 0x2E := (List.cons.inj dot).1
    have character : isPathCharacter c := by simp [isPathCharacter, unreserved]
    have ascii := lt_of_isPathCharacter character
    have code : c.toNat = '.'.toNat := by
      have number : c.toNat % 256 = 0x2E := congrArg UInt8.toNat value
      have dotCode : '.'.toNat = 0x2E := rfl
      omega
    exact absurd (Char.ext (UInt32.toNat_inj.1 code)) (isPathCharacter_inert character).2.2.2.2.1
  | @percent b bs path high low first second rest =>
    obtain ⟨rfl, rfl⟩ := List.cons.inj dot
    have ascii {d : Char} {n : Nat} (digit : hexDigit? d = some n) : d.toNat < 128 := lt_of_hexDigit (by rw [digit]; rfl)
    exact ⟨high, low, path, rfl, (toLower_of_hexDigit (ascii first)).1.2 first,
      (toLower_of_hexDigit (ascii second)).2.2 second, rest⟩

/-- Nothing but a dot is written as `%2e` or `%2E`. -/
theorem eq_dot_of_lower {lower : List Char} (encoded : Encoded bs path)
    (spelled : path.map Char.toLower = '%' :: '2' :: 'e' :: lower) :
    ∃ more rest, bs = 0x2E :: more ∧ Encoded more rest ∧ rest.map Char.toLower = lower := by
  cases encoded with
  | nil => cases spelled
  | @plain c bs path unreserved rest =>
    obtain rfl := (toLower_eq_iff (by decide)).1 (List.cons.inj spelled).1
    exact absurd unreserved (by decide)
  | @percent b bs path high low first second rest =>
    have ascii {d : Char} {n : Nat} (digit : hexDigit? d = some n) : d.toNat < 128 := lt_of_hexDigit (by rw [digit]; rfl)
    simp only [List.map_cons, List.cons.injEq] at spelled
    obtain ⟨-, two, fourteen, same⟩ := spelled
    have highDigit := first.symm.trans ((toLower_of_hexDigit (ascii first)).1.1 two)
    have lowDigit := second.symm.trans ((toLower_of_hexDigit (ascii second)).2.1 fourteen)
    have dot : b = 0x2E := by
      refine UInt8.toNat_inj.1 ?_
      have high : b.toNat / 16 = 2 := Option.some.inj highDigit
      have low : b.toNat % 16 = 14 := Option.some.inj lowDigit
      have code : (0x2E : UInt8).toNat = 0x2E := rfl
      omega
    exact ⟨bs, path, by rw [dot], rest, same⟩

theorem nil_iff (encoded : Encoded bs path) : path = [] ↔ bs = [] := by
  cases encoded <;> simp

/-- No dot stands in the path as such. -/
theorem dotless (encoded : Encoded bs path) : '.' ∉ path.map Char.toLower := by
  rw [mem_map_toLower (by decide)]
  exact fun member => (isPathCharacter_inert (encoded.characters '.' member)).2.2.2.2.1 rfl

theorem isSingleDot_iff (encoded : Encoded bs path) : isSingleDot path = true ↔ bs = [0x2E] := by
  have dotless := encoded.dotless
  simp only [isSingleDot, List.contains_cons, List.contains_nil, Bool.or_false, Bool.or_eq_true, beq_iff_eq,
    ← String.toList_inj, String.toList_ofList]
  constructor
  · rintro (dot | spelled)
    · exact absurd (by simp [dot]) dotless
    · obtain ⟨more, rest, rfl, last, finished⟩ := encoded.eq_dot_of_lower spelled
      rw [last.nil_iff.1 (List.map_eq_nil_iff.1 finished)]
  · intro dot
    obtain ⟨high, low, rest, rfl, two, fourteen, last⟩ := encoded.exists_of_dot dot
    rw [last.nil_iff.2 rfl]
    refine .inr ?_
    simp only [List.map_cons, List.map_nil, two, fourteen]
    rfl

theorem isDoubleDot_iff (encoded : Encoded bs path) : isDoubleDot path = true ↔ bs = [0x2E, 0x2E] := by
  have dotless := encoded.dotless
  simp only [isDoubleDot, List.contains_cons, List.contains_nil, Bool.or_false, Bool.or_eq_true, beq_iff_eq,
    ← String.toList_inj, String.toList_ofList]
  constructor
  · rintro (dot | dot | dot | spelled)
    · exact absurd (by simp [dot]) dotless
    · exact absurd (by simp [dot]) dotless
    · exact absurd (by simp [dot]) dotless
    · obtain ⟨more, rest, rfl, second, spelled'⟩ := encoded.eq_dot_of_lower spelled
      obtain ⟨more', rest', rfl, last, finished⟩ := second.eq_dot_of_lower spelled'
      rw [last.nil_iff.1 (List.map_eq_nil_iff.1 finished)]
  · intro dots
    obtain ⟨high, low, rest, rfl, two, fourteen, second⟩ := encoded.exists_of_dot dots
    obtain ⟨high', low', rest', rfl, two', fourteen', last⟩ := second.exists_of_dot rfl
    rw [last.nil_iff.2 rfl]
    refine .inr (.inr (.inr ?_))
    simp only [List.map_cons, List.map_nil, two, fourteen, two', fourteen']
    rfl

/-- The path is read as it is written, unless it is one or two dots: these are taken for steps between segments. -/
theorem readPath (encoded : Encoded bs path) : readPath (isSlash .plain) false path =
    if bs = [0x2E] ∨ bs = [0x2E, 0x2E] then ['/'] else '/' :: path := by
  have whole : pieces (isSlash .plain) path = [path] := pieces_of_none fun c member => by
    simpa [isSlash] using (isPathCharacter_inert (encoded.characters c member)).2.1
  simp only [Url.readPath, whole, placeSegments, shorten, List.isEmpty_nil, List.tail_nil, encoded.isDoubleDot_iff,
    encoded.isSingleDot_iff, encoded.percentEncode, Bool.false_and, Bool.false_eq_true, if_true, if_false]
  by_cases double : bs = [0x2E, 0x2E]
  · simp [double]
  · by_cases single : bs = [0x2E]
    · simp [single]
    · simp [double, single]

theorem pathAfterAuthority (encoded : Encoded bs path) : Url.pathAfterAuthority .plain ('/' :: path) =
    String.ofList (if bs = [0x2E] ∨ bs = [0x2E, 0x2E] then ['/'] else '/' :: path) := by
  have inPath : beforeQuery ('/' :: path ++ []) = '/' :: path := by
    refine beforeQuery_append (List.forall_mem_cons.2 ⟨by decide, fun c member => ?_⟩) (by simp)
    have inert := isPathCharacter_inert (encoded.characters c member)
    exact ⟨inert.2.2.1, inert.2.2.2.1⟩
  rw [List.append_nil] at inPath
  rw [Url.pathAfterAuthority, inPath, ← encoded.readPath]
  rfl

end Encoded

end Url

/-- The base is what the path of the URL decodes to, if there is anything in it. -/
theorem referralBase_of_parse {url : String} {parsed : Url} (read : Url.parse url = .ok parsed) (fallback : String) :
    referralBase url fallback = .ok (if parsed.path.toList.dropWhile (· == '/') = [] then fallback
      else String.ofList (ofUtf8Lossy (Url.percentDecode (parsed.path.toList.dropWhile (· == '/'))))) := by
  simp only [referralBase, readUrl, read, bind, Except.bind, pure, Except.pure]
  split
  · next nothing => rw [if_pos nothing]
  · next something => rw [if_neg something]

/-- The base of a referral whose path is an encoded name is this name, save for the three that a URL cannot have as the
last part of its path. -/
theorem referralBase_encoded_eq (s : Url.Site) {suffix : List Char} (apart : ∀ c ∈ suffix.head?, c = '?' ∨ c = '#')
    {dn : String} {path : List Char} (encoded : Url.Encoded (utf8 dn.toList) path) (fallback : String) :
    referralBase (s.url ('/' :: path) suffix) fallback =
      .ok (if dn = "" ∨ dn = "." ∨ dn = ".." then fallback else dn) := by
  have inert {c : Char} (member : c ∈ path) := Url.isPathCharacter_inert (encoded.characters c member)
  have spelled (text : String) : utf8 dn.toList = utf8 text.toList ↔ dn = text :=
    ⟨fun same => String.toList_inj.1 (utf8_injective same), fun same => by rw [same]⟩
  have single : utf8 dn.toList = [0x2E] ↔ dn = "." := spelled "."
  have double : utf8 dn.toList = [0x2E, 0x2E] ↔ dn = ".." := spelled ".."
  have empty : path = [] ↔ dn = "" := encoded.nil_iff.trans (spelled "")
  have plain : ∀ c ∈ '/' :: path, 0x20 < c.toNat ∧ c ≠ '?' ∧ c ≠ '#' := by
    refine List.forall_mem_cons.2 ⟨by decide, fun c member => ?_⟩
    exact ⟨(inert member).1, (inert member).2.2.1, (inert member).2.2.2.1⟩
  obtain ⟨parsed, read, onPath⟩ := Url.parse_written s (by simp) plain apart
  rw [referralBase_of_parse read, onPath, encoded.pathAfterAuthority, String.toList_ofList]
  simp only [single, double]
  by_cases dots : dn = "." ∨ dn = ".."
  · have nothing : ['/'].dropWhile (· == '/') = [] := rfl
    rw [if_pos dots, if_pos nothing, if_pos (.inr dots)]
  · have rooted : ('/' :: path).dropWhile (· == '/') = path := by
      rw [List.dropWhile_cons_of_pos (by rfl)]
      cases path with
      | nil => rfl
      | cons c more => exact List.dropWhile_cons_of_neg (by simpa using (inert List.mem_cons_self).2.1)
    rw [if_neg dots, rooted, encoded.percentDecode, ofUtf8Lossy_utf8, String.ofList_toList]
    simp only [empty, dots, or_false]

theorem referralBase_bare (s : Url.Site) {path suffix : List Char} (apart : ∀ c ∈ suffix.head?, c = '?' ∨ c = '#')
    (bare : path = [] ∨ path = ['/']) (fallback : String) : referralBase (s.url path suffix) fallback = .ok fallback := by
  obtain rfl | rfl := bare
  · have rooted : ∀ c ∈ ([] : List Char).head?, c = '/' := by simp
    obtain ⟨parsed, read, onPath⟩ := Url.parse_written s rooted (by simp) apart
    rw [referralBase_of_parse read, onPath]
    rfl
  · have nothing : Url.Encoded (utf8 "".toList) [] := .nil
    rw [referralBase_encoded_eq s apart nothing, if_pos (.inl rfl)]

namespace Search

/-- A search that is referred to the URL goes on below the base: this is the base of the referral, and whatever the
directories answer, everything that is searched on the way is below it. -/
def GoesOnBelow (r : Request) (url base : String) : Prop :=
  referralBase url r.baseDn = .ok base ∧
    ∀ (σ κ : Type) (svc : Service σ κ) (server : Server) (mode : FindMode) (f : Findings),
      Act.Adds (enumerateReferral svc.witnessed server r mode url f) fun _ es =>
        ∀ place ∈ es.flatMap Exchange.context, place.2 = base

theorem goesOnBelow_of_base {r : Request} {url base : String} (below : referralBase url r.baseDn = .ok base) :
    GoesOnBelow r url base := by
  refine ⟨below, fun σ κ svc server mode f => ?_⟩
  refine .mono (enumerateReferral_adds svc server r mode url f) fun ended es referred place member => ?_
  obtain none | ⟨here, leads, one⟩ := referred.contexts
  · simp [none] at member
  · rw [one, List.mem_singleton] at member
    rw [context?, below] at leads
    split at leads
    · next target base' opens same =>
      cases same
      cases leads
      rw [member]
    · cases leads

end Search

/-- The base of a referral survives its encoding: whatever characters a name has, the search goes on below this very
name, and where the URL has no name, below the base that it had. -/
theorem referralBase_encoded (s : Url.Site) {suffix : List Char} (apart : ∀ c ∈ suffix.head?, c = '?' ∨ c = '#')
    (r : Request) :
    (∀ dn path, dn ≠ "" → dn ≠ "." → dn ≠ ".." → Url.Encoded (utf8 dn.toList) path →
      Search.GoesOnBelow r (s.url ('/' :: path) suffix) dn) ∧
    (∀ path, path = [] ∨ path = ['/'] → Search.GoesOnBelow r (s.url path suffix) r.baseDn) := by
  constructor
  · intro dn path filled notSingle notDouble encoded
    refine Search.goesOnBelow_of_base ?_
    rw [referralBase_encoded_eq s apart encoded, if_neg (by simp [filled, notSingle, notDouble])]
  · exact fun path bare => Search.goesOnBelow_of_base (referralBase_bare s apart bare r.baseDn)

namespace Elsewhere

def site : Url.Site where
  host := "other.example.org".toList
  isHost := .name (by decide) (List.all_iff_forall_prop.1 (by decide))
  port := some "3389".toList
  isPort := by
    rintro digits ⟨⟩
    exact ⟨List.all_eq_true.1 (by decide), by decide⟩

def request : Request where
  baseDn := "dc=example,dc=org"
  positional := "(uid=\x7b0\x7d)"
  parameters := ["tester"]

end Elsewhere

/-- A slash and an accent in the base. -/
theorem referralBase_encoded_slash :
    Elsewhere.site.url "/o%3d%2F%C3%a9".toList "?sub".toList = "ldap://other.example.org:3389/o%3d%2F%C3%a9?sub" ∧
    Search.GoesOnBelow Elsewhere.request (Elsewhere.site.url "/o%3d%2F%C3%a9".toList "?sub".toList) "o=/é" := by
  have encoded : Url.Encoded [0x6F, 0x3D, 0x2F, 0xC3, 0xA9] "o%3d%2F%C3%a9".toList :=
    .plain (c := 'o') rfl (.percent rfl rfl (.percent rfl rfl (.percent rfl rfl (.percent rfl rfl .nil))))
  have apart : ∀ c ∈ "?sub".toList.head?, c = '?' ∨ c = '#' := by
    rintro c ⟨⟩
    exact .inl rfl
  have below := (referralBase_encoded Elsewhere.site apart Elsewhere.request).1
  exact ⟨by decide, below "o=/é" _ (by decide) (by decide) (by decide) encoded⟩

end DirectoryLogin
