import DirectoryLogin.Proofs.Text.Cutting
import DirectoryLogin.Url.Basic
import Mathlib.Data.Bool.AllAny
import Mathlib.Data.List.Infix

namespace DirectoryLogin

open Text

theorem Text.mem_pieces (cut : Char → Bool) {cs : List Char} {c : Char} (member : c ∈ cs) :
    cut c = true ∨ ∃ piece ∈ pieces cut cs, c ∈ piece := by
  induction cs with
  | nil => cases member
  | cons d rest ih =>
    rw [pieces]
    split
    · next cuts =>
      rcases List.mem_cons.1 member with rfl | later
      · exact .inl cuts
      · rcases ih later with here | ⟨piece, found, inPiece⟩
        · exact .inl here
        · exact .inr ⟨piece, List.mem_cons_of_mem _ found, inPiece⟩
    · split
      · next none =>
        rcases List.mem_cons.1 member with rfl | later
        · exact .inr ⟨_, List.mem_cons_self, List.mem_cons_self⟩
        · rcases ih later with here | ⟨piece, found, -⟩
          · exact .inl here
          · simp [none] at found
      · next first more split =>
        rcases List.mem_cons.1 member with rfl | later
        · exact .inr ⟨_, List.mem_cons_self, List.mem_cons_self⟩
        · rcases ih later with here | ⟨piece, found, inPiece⟩
          · exact .inl here
          · rw [split] at found
            rcases List.mem_cons.1 found with rfl | other
            · exact .inr ⟨_, List.mem_cons_self, List.mem_cons_of_mem _ inPiece⟩
            · exact .inr ⟨piece, List.mem_cons_of_mem _ other, inPiece⟩

/-- What holds of the 128 characters of ASCII holds of each of them. -/
theorem Text.forall_ascii {p : Char → Prop} (all : ∀ n : Fin 128, p (Char.ofNat n)) {c : Char} (ascii : c.toNat < 128) :
    p c := by
  have here := all ⟨c.toNat, ascii⟩
  rwa [Char.ofNat_toNat] at here

theorem Text.lt_of_hexDigit {c : Char} (digit : (hexDigit? c).isSome) : c.toNat < 128 := by
  have below {top : Char} (small : top.toNat < 128) (le : c ≤ top) : c.toNat < 128 :=
    Nat.lt_of_le_of_lt le small
  unfold hexDigit? at digit
  split at digit
  · next range => exact below (by decide) range.2
  split at digit
  · next range => exact below (by decide) range.2
  split at digit
  · next range => exact below (by decide) range.2
  · cases digit

namespace Url

/-- The characters of an IPv6 address. -/
def isAddressCharacter (c : Char) : Bool :=
  (hexDigit? c).isSome || c == ':' || c == '.'

theorem address_of_isDigit {c : Char} (digit : c.isDigit) : isAddressCharacter c := by
  have ascii : c.toNat < 128 := by
    have range : c.toNat ≤ 57 := by
      simp only [Char.isDigit, Bool.and_eq_true, decide_eq_true_eq] at digit
      exact digit.2
    omega
  revert digit
  exact forall_ascii (p := fun c => c.isDigit → isAddressCharacter c) (by decide) ascii

theorem address_character {c : Char} (character : isAddressCharacter c) :
    0x20 < c.toNat ∧ endsAuthority .plain c = false ∧ c ≠ '@' := by
  have ascii : c.toNat < 128 := by
    simp only [isAddressCharacter, Bool.or_eq_true, beq_iff_eq] at character
    rcases character with (digit | rfl) | rfl
    · exact lt_of_hexDigit digit
    · decide
    · decide
  revert character
  exact forall_ascii (p := fun c => isAddressCharacter c →
    0x20 < c.toNat ∧ endsAuthority .plain c = false ∧ c ≠ '@') (by decide) ascii

theorem mem_of_mapM {α β : Type} {f : α → Option β} {as : List α} {bs : List β} (all : as.mapM f = some bs) {a : α}
    (member : a ∈ as) : ∃ b, f a = some b := by
  induction as generalizing bs with
  | nil => cases member
  | cons first rest ih =>
    rw [List.mapM_cons] at all
    obtain ⟨b, found, more⟩ := Option.bind_eq_some_iff.1 all
    obtain ⟨others, later, -⟩ := Option.bind_eq_some_iff.1 more
    rcases List.mem_cons.1 member with rfl | inRest
    · exact ⟨b, found⟩
    · exact ih later inRest

theorem ipv4Pieces_characters {cs : List Char} {two : List Nat} (reads : ipv4Pieces cs = some two) :
    ∀ c ∈ cs, isAddressCharacter c := by
  intro c member
  obtain ⟨bytes, each, -⟩ := Option.bind_eq_some_iff.1 reads
  rcases mem_pieces (· == '.') member with dot | ⟨piece, found, inPiece⟩
  · simp [isAddressCharacter, eq_of_beq dot]
  · obtain ⟨byte, reads⟩ := mem_of_mapM each found
    unfold ipv4Byte at reads
    split at reads
    · cases reads
    · next refused =>
      have digits : piece.all Char.isDigit = true := by
        simp only [Bool.or_eq_true, Bool.not_eq_true', not_or, Bool.not_eq_false] at refused
        exact refused.2
      exact address_of_isDigit (List.all_eq_true.1 digits c inPiece)

theorem digits_characters {cs rest : List Char}
    (split : cs.drop ((cs.takeWhile fun c => (hexDigit? c).isSome).take 4).length = rest)
    (after : ∀ c ∈ rest, isAddressCharacter c) : ∀ c ∈ cs, isAddressCharacter c := by
  have front : (cs.takeWhile fun c => (hexDigit? c).isSome).take 4 <+: cs :=
    (List.take_prefix 4 _).trans (List.takeWhile_prefix _)
  intro c member
  rw [List.prefix_append_drop front] at member
  rcases List.mem_append.1 member with digit | later
  · have inRow : c ∈ cs.takeWhile fun c => (hexDigit? c).isSome := List.mem_of_mem_take digit
    have isDigit : (hexDigit? c).isSome = true := List.mem_takeWhile_imp (p := fun c => (hexDigit? c).isSome) inRow
    simp [isAddressCharacter, isDigit]
  · exact after c (split ▸ later)

theorem ipv6Pieces_characters {fuel : Nat} {found : List Nat} {gap : Option Nat} {cs : List Char}
    {read : List Nat × Option Nat} (reads : ipv6Pieces fuel found gap cs = some read) :
    ∀ c ∈ cs, isAddressCharacter c := by
  have colon : isAddressCharacter ':' := by decide
  fun_induction ipv6Pieces fuel found gap cs with
  | case1 => simp
  | case4 fuel found gap rest _ ih => exact List.forall_mem_cons.2 ⟨colon, ih reads⟩
  | case6 fuel found gap cs _ _ _ digits value finished => exact digits_characters finished (by simp)
  | case8 fuel found gap cs _ _ _ digits value rest _ split ih =>
    exact digits_characters split (List.forall_mem_cons.2 ⟨colon, ih reads⟩)
  | case10 =>
    obtain ⟨two, last, -⟩ := Option.map_eq_some_iff.1 reads
    exact ipv4Pieces_characters last
  | _ => cases reads

theorem ipv6?_characters {cs : List Char} {address : List Nat} (reads : ipv6? cs = some address) :
    ∀ c ∈ cs, isAddressCharacter c := by
  have colon : isAddressCharacter ':' := by decide
  unfold ipv6? at reads
  dsimp only at reads
  split at reads
  · obtain ⟨_, pieces, -⟩ := Option.bind_eq_some_iff.1 reads
    exact List.forall_mem_cons.2 ⟨colon, List.forall_mem_cons.2 ⟨colon, ipv6Pieces_characters pieces⟩⟩
  · cases reads
  · obtain ⟨_, pieces, -⟩ := Option.bind_eq_some_iff.1 reads
    exact ipv6Pieces_characters pieces

theorem percentEncode_ne_nil {mustEncode : Char → Bool} {cs : List Char} (filled : cs ≠ []) :
    percentEncode mustEncode cs ≠ [] := by
  cases cs with
  | nil => exact absurd rfl filled
  | cons c rest =>
    have bytes : String.utf8EncodeChar c ≠ [] := by
      rw [← List.length_pos_iff, String.length_utf8EncodeChar]
      exact c.utf8Size_pos
    rw [percentEncode, List.flatMap_cons]
    split
    · simp
    · cases encoded : String.utf8EncodeChar c with
      | nil => exact absurd encoded bytes
      | cons b bs => simp [percentByte]

/-- A host as it stands in the URL of a directory: a name of characters that none forbids, or an IPv6 address between
brackets. -/
inductive IsHost : List Char → Prop
  | name {host : List Char} (filled : host ≠ []) (ordinary : ∀ c ∈ host, 0x20 < c.toNat ∧ isForbiddenInHost c = false) :
    IsHost host
  | address {inner : List Char} {pieces : List Nat} (reads : ipv6? inner = some pieces) :
    IsHost ('[' :: inner ++ [']'])

/-- Every host is accepted. -/
theorem IsHost.plainHost {host : List Char} (isHost : IsHost host) :
    ∃ shown, plainHost host = .ok shown ∧ shown ≠ [] := by
  cases isHost with
  | name filled ordinary =>
    have allowed : host.any isForbiddenInHost = false := by
      simpa using fun c member => (ordinary c member).2
    have bracket : ∀ inner, host ≠ '[' :: inner := by
      rintro inner rfl
      exact absurd (ordinary '[' List.mem_cons_self).2 (by decide)
    refine ⟨percentEncode isControl host, ?_, percentEncode_ne_nil filled⟩
    rw [Url.plainHost, allowed]
    · rfl
    · exact bracket
  | @address inner pieces reads =>
    refine ⟨'[' :: ipv6Text pieces ++ [']'], ?_, by simp⟩
    rw [List.cons_append, Url.plainHost, bracketedHost]
    simp [reads]

theorem cutHost_name {host after : List Char} (plain : ∀ c ∈ host, c ≠ ':' ∧ c ≠ '[')
    (ends : ∀ c ∈ after.head?, c = ':') : cutHost false (host ++ after) = (host, after) := by
  induction host with
  | nil =>
    cases after with
    | nil => rfl
    | cons c rest => rw [ends c rfl, List.nil_append, cutHost, if_pos (by simp)]
  | cons c host ih =>
    obtain ⟨colon, bracket⟩ := plain c List.mem_cons_self
    have later := ih fun d member => plain d (List.mem_cons_of_mem c member)
    have outside : (c == '[' || (false && c != ']')) = false := by simp [bracket]
    rw [List.cons_append, cutHost, if_neg (by simp [colon]), outside, later]

/-- Between brackets a colon ends nothing. -/
theorem cutHost_bracketed {inner : List Char} (rest : List Char) (plain : ']' ∉ inner) :
    cutHost true (inner ++ ']' :: rest) = (inner ++ ']' :: (cutHost false rest).1, (cutHost false rest).2) := by
  induction inner with
  | nil => rw [List.nil_append, cutHost, if_neg (by simp)]; rfl
  | cons c inner ih =>
    have different : c ≠ ']' := fun same => plain (same ▸ List.mem_cons_self)
    have later := ih fun member => plain (List.mem_cons_of_mem c member)
    have inside : (c == '[' || (true && c != ']')) = true := by simp [different]
    rw [List.cons_append, cutHost, if_neg (by simp), inside, later]
    rfl

/-- A host goes up to the first colon outside brackets. -/
theorem IsHost.cutHost {host after : List Char} (isHost : IsHost host) (ends : ∀ c ∈ after.head?, c = ':') :
    cutHost false (host ++ after) = (host, after) := by
  cases isHost with
  | name filled ordinary =>
    refine cutHost_name (fun c member => ?_) ends
    have allowed := (ordinary c member).2
    constructor <;> rintro rfl <;> exact absurd allowed (by decide)
  | @address inner pieces reads =>
    have plain : ']' ∉ inner := fun member => absurd (ipv6?_characters reads _ member) (by decide)
    have nothing : Url.cutHost false ([] ++ after) = ([], after) := cutHost_name (by simp) ends
    rw [List.nil_append] at nothing
    rw [List.cons_append, List.cons_append, List.append_assoc, List.singleton_append, Url.cutHost, if_neg (by simp)]
    simp [cutHost_bracketed after plain, nothing]

/-- What may stand in a host ends no server and names no user. -/
theorem IsHost.characters {host : List Char} (isHost : IsHost host) :
    ∀ c ∈ host, 0x20 < c.toNat ∧ endsAuthority .plain c = false ∧ c ≠ '@' := by
  cases isHost with
  | name filled ordinary =>
    intro c member
    obtain ⟨solid, allowed⟩ := ordinary c member
    simp only [isForbiddenInHost, List.contains_cons, Bool.or_eq_false_iff, beq_eq_false_iff_ne] at allowed
    simp [solid, allowed, endsAuthority, isSlash]
  | @address inner pieces reads =>
    have brackets : ∀ c, c = '[' ∨ c = ']' → 0x20 < c.toNat ∧ endsAuthority .plain c = false ∧ c ≠ '@' := by
      rintro c (rfl | rfl) <;> decide
    have between : ∀ c ∈ inner, 0x20 < c.toNat ∧ endsAuthority .plain c = false ∧ c ≠ '@' :=
      fun c member => address_character (ipv6?_characters reads c member)
    intro c member
    rcases List.mem_cons.1 member with opening | later
    · exact brackets c (.inl opening)
    · rcases List.mem_append.1 later with inside | closing
      · exact between c inside
      · exact brackets c (.inr (List.mem_singleton.1 closing))

/-- A host, and perhaps the digits of a port, as they stand in a URL. -/
structure Site where
  host : List Char
  isHost : IsHost host
  port : Option (List Char) := none
  isPort : ∀ digits ∈ port, (∀ c ∈ digits, c.isDigit) ∧ digitsValue digits < Nat.pow 2 16

namespace Site

def portText (s : Site) : List Char :=
  (s.port.map (':' :: ·)).getD []

def written (s : Site) : List Char :=
  s.host ++ s.portText

theorem portText_cases (s : Site) : s.port = none ∧ s.portText = [] ∨ ∃ digits, s.port = some digits ∧
    s.portText = ':' :: digits ∧ (∀ c ∈ digits, c.isDigit) ∧ digitsValue digits < Nat.pow 2 16 := by
  unfold portText
  cases port : s.port with
  | none => exact .inl ⟨rfl, rfl⟩
  | some digits => exact .inr ⟨digits, rfl, rfl, s.isPort digits port⟩

theorem characters (s : Site) : ∀ c ∈ s.written, 0x20 < c.toNat ∧ endsAuthority .plain c = false ∧ c ≠ '@' := by
  intro c member
  rcases List.mem_append.1 member with inHost | inPort
  · exact s.isHost.characters c inHost
  · refine address_character ?_
    obtain ⟨-, text⟩ | ⟨digits, -, text, numeric, -⟩ := s.portText_cases
    · simp [text] at inPort
    · rw [text] at inPort
      rcases List.mem_cons.1 inPort with rfl | digit
      · decide
      · exact address_of_isDigit (numeric c digit)

end Site

theorem readPort_digits (scheme : String) {digits : List Char} (numeric : ∀ c ∈ digits, c.isDigit)
    (below : digitsValue digits < Nat.pow 2 16) : ∃ port, readPort scheme digits = .ok port := by
  rw [readPort, if_neg (by simpa using numeric), if_neg (Nat.not_le.2 below)]
  split
  · exact ⟨_, rfl⟩
  · exact ⟨_, rfl⟩

/-- The server of a URL is read, whatever follows it. -/
theorem readAuthority_written (s : Site) {rest : List Char} (apart : ∀ c ∈ rest.head?, endsAuthority .plain c = true) :
    ∃ url, readAuthority "ldap" .plain (s.written ++ rest) = .ok url ∧ url.path = pathAfterAuthority .plain rest := by
  have authority : (s.written ++ rest).takeWhile (!endsAuthority .plain ·) = s.written := by
    rw [List.takeWhile_append_of_pos fun c member => by simp [(s.characters c member).2.1]]
    cases rest with
    | nil => simp
    | cons c rest => rw [List.takeWhile_cons_of_neg (by simp [apart c rfl]), List.append_nil]
  have nobody : cutAtLastAt s.written = none := by
    rw [cutAtLastAt, cutAt_eq_none_iff.2 fun c member => ?_]
    · rfl
    · simpa using (s.characters c (List.mem_reverse.1 member)).2.2
  obtain ⟨shown, accepted, filled⟩ := s.isHost.plainHost
  have named : shown.isEmpty = false := by simpa using filled
  have cut : cutHost false s.written = (s.host, s.portText) := by
    refine s.isHost.cutHost fun c first => ?_
    obtain ⟨-, text⟩ | ⟨digits, -, text, -⟩ := s.portText_cases
    · simp [text] at first
    · rw [text] at first
      exact (Option.some.inj first).symm
  simp only [readAuthority, authority, List.drop_left, splitAuthority, nobody, cut, bind, Except.bind, accepted, named,
    reduceCtorEq, decide_false, Bool.and_false, Bool.false_eq_true, if_false, pure, Except.pure]
  obtain ⟨-, text⟩ | ⟨digits, -, text, numeric, below⟩ := s.portText_cases
  · rw [text]
    exact ⟨_, rfl, by rw [List.nil_append]⟩
  · have whole : digits.takeWhile (· != '\\') = digits := by
      refine List.takeWhile_eq_self_iff.2 fun c member => bne_iff_ne.2 ?_
      rintro rfl
      exact absurd (numeric '\\' member) (by decide)
    obtain ⟨port, read⟩ := readPort_digits "ldap" numeric below
    rw [text]
    simp only [whole, read, List.drop_length, List.nil_append]
    exact ⟨_, rfl, rfl⟩

theorem dropEnd_append {idle : Char → Bool} {front : List Char}
    (solid : ∀ c ∈ front, idle c = false) (back : List Char) :
    ((front ++ back).reverse.dropWhile idle).reverse = front ++ (back.reverse.dropWhile idle).reverse := by
  have stays : front.reverse.dropWhile idle = front.reverse := by
    cases reversed : front.reverse with
    | nil => rfl
    | cons c more =>
      have member : c ∈ front := List.mem_reverse.1 (reversed ▸ List.mem_cons_self)
      exact List.dropWhile_cons_of_neg (by simp [solid c member])
  rw [List.reverse_append, List.dropWhile_append, stays]
  split
  · next nothing => simp [List.isEmpty_iff.1 nothing]
  · simp

/-- White space and controls are only taken away from what follows a solid beginning. -/
theorem tidy_append {front suffix : List Char} (filled : front ≠ []) (solid : ∀ c ∈ front, 0x20 < c.toNat)
    (apart : ∀ c ∈ suffix.head?, c = '?' ∨ c = '#') :
    ∃ rest, tidy (front ++ suffix) = front ++ rest ∧ ∀ c ∈ rest.head?, c = '?' ∨ c = '#' := by
  let idle := fun c : Char => decide (c.toNat ≤ 0x20)
  let kept := fun c : Char => c != '\t' && c != '\n' && c != '\r'
  have notIdle : ∀ c ∈ front, idle c = false := fun c member => by simpa [idle] using solid c member
  have start : (front ++ suffix).dropWhile idle = front ++ suffix := by
    cases front with
    | nil => exact absurd rfl filled
    | cons c front => exact List.dropWhile_cons_of_neg (by simp [notIdle c List.mem_cons_self])
  have whole : front.filter kept = front := by
    refine List.filter_eq_self.2 fun c member => ?_
    have printed := solid c member
    simp only [kept, Bool.and_eq_true, bne_iff_ne]
    refine ⟨⟨?_, ?_⟩, ?_⟩ <;> rintro rfl <;> exact absurd printed (by decide)
  refine ⟨((suffix.reverse.dropWhile idle).reverse).filter kept, ?_, ?_⟩
  · change List.filter kept (((front ++ suffix).dropWhile idle).reverse.dropWhile idle).reverse = _
    rw [start, dropEnd_append notIdle, List.filter_append, whole]
  · cases suffix with
    | nil => simp
    | cons c more =>
      have mark := apart c rfl
      have solidMark : ∀ d ∈ [c], idle d = false := by
        rw [List.forall_mem_singleton]
        rcases mark with rfl | rfl <;> decide
      have stays : kept c = true := by
        rcases mark with rfl | rfl <;> decide
      have first : ((c :: more).reverse.dropWhile idle).reverse = c :: (more.reverse.dropWhile idle).reverse :=
        dropEnd_append solidMark more
      rw [first, List.filter_cons_of_pos stays]
      simpa using mark

theorem beforeQuery_append {path rest : List Char} (plain : ∀ c ∈ path, c ≠ '?' ∧ c ≠ '#')
    (apart : ∀ c ∈ rest.head?, c = '?' ∨ c = '#') : beforeQuery (path ++ rest) = path := by
  rw [beforeQuery, List.takeWhile_append_of_pos fun c member => by simp [plain c member]]
  cases rest with
  | nil => simp
  | cons c rest =>
    rw [List.takeWhile_cons_of_neg, List.append_nil]
    rcases apart c rfl with rfl | rfl <;> decide

/-- The URL of a directory, with its path and what follows the path. -/
def Site.url (s : Site) (path suffix : List Char) : String :=
  String.ofList ("ldap://".toList ++ s.written ++ path ++ suffix)

/-- A written URL is read, and its path is what stands between the server and the query or the fragment. -/
theorem parse_written (s : Site) {path suffix : List Char} (rooted : ∀ c ∈ path.head?, c = '/')
    (plain : ∀ c ∈ path, 0x20 < c.toNat ∧ c ≠ '?' ∧ c ≠ '#') (apart : ∀ c ∈ suffix.head?, c = '?' ∨ c = '#') :
    ∃ url, Url.parse (s.url path suffix) = .ok url ∧ url.path = pathAfterAuthority .plain path := by
  have schemeSolid : ∀ c ∈ "ldap://".toList, 0x20 < c.toNat := List.all_iff_forall_prop.1 (by decide)
  have solid : ∀ c ∈ "ldap://".toList ++ s.written ++ path, 0x20 < c.toNat := by
    intro c member
    rcases List.mem_append.1 member with start | inPath
    · rcases List.mem_append.1 start with inScheme | inSite
      · exact schemeSolid c inScheme
      · exact (s.characters c inSite).1
    · exact (plain c inPath).1
  obtain ⟨rest, tidied, mark⟩ := tidy_append (by simp) solid apart
  have scheme (more : List Char) : readScheme ("ldap://".toList ++ more) = some ("ldap", '/' :: '/' :: more) := rfl
  have ends : ∀ c ∈ (path ++ rest).head?, endsAuthority .plain c = true := by
    intro c first
    cases path with
    | nil => rcases mark c first with rfl | rfl <;> decide
    | cons d path =>
      obtain rfl : d = c := Option.some.inj first
      rw [rooted d rfl]
      decide
  obtain ⟨url, read, onPath⟩ := readAuthority_written s ends
  have text : (s.url path suffix).toList = "ldap://".toList ++ s.written ++ path ++ suffix := String.toList_ofList
  have plainScheme : SchemeKind.of "ldap" = .plain := rfl
  refine ⟨url, ?_, ?_⟩
  · rw [Url.parse, text, tidied, List.append_assoc, List.append_assoc, scheme]
    simp only [plainScheme, read]
  · have inPath : beforeQuery path = path := by
      have alone : beforeQuery (path ++ []) = path := beforeQuery_append (fun c member => (plain c member).2) (by simp)
      rwa [List.append_nil] at alone
    rw [onPath, pathAfterAuthority, beforeQuery_append (fun c member => (plain c member).2) mark, pathAfterAuthority,
      inPath]

end Url

end DirectoryLogin
