namespace DirectoryLogin.Text

def utf8 (cs : List Char) : List UInt8 :=
  cs.flatMap String.utf8EncodeChar

/-- After a first byte: how many bytes follow, the range of the next one, and the bits so far. -/
def utf8Lead (b : UInt8) : Option (Nat × UInt8 × UInt8 × Nat) :=
  if b < 0x80 then some (0, 0, 0, b.toNat)
  else if 0xC2 ≤ b && b ≤ 0xDF then some (1, 0x80, 0xBF, b.toNat - 0xC0)
  else if b = 0xE0 then some (2, 0xA0, 0xBF, 0)
  else if b = 0xED then some (2, 0x80, 0x9F, 0xD)
  else if 0xE1 ≤ b && b ≤ 0xEF then some (2, 0x80, 0xBF, b.toNat - 0xE0)
  else if b = 0xF0 then some (3, 0x90, 0xBF, 0)
  else if 0xF1 ≤ b && b ≤ 0xF3 then some (3, 0x80, 0xBF, b.toNat - 0xF0)
  else if b = 0xF4 then some (3, 0x80, 0x8F, 4)
  else none

/-- Reads `n` further bytes of a character, the first of them between `low` and `high`, and gives
the character, if the bytes are all there, with the bytes that are left. -/
def utf8Tail : Nat → UInt8 → UInt8 → Nat → (bs : List UInt8) →
    Option Char × { rest : List UInt8 // rest.length ≤ bs.length }
  | 0, _, _, bits, bs => (some (Char.ofNat bits), ⟨bs, Nat.le_refl _⟩)
  | _ + 1, _, _, _, [] => (none, ⟨[], Nat.le_refl _⟩)
  | n + 1, low, high, bits, b :: bs =>
    if low ≤ b && b ≤ high then
      let (c, rest) := utf8Tail n 0x80 0xBF (64 * bits + (b.toNat - 0x80)) bs
      (c, ⟨rest.1, Nat.le_trans rest.2 (Nat.le_succ _)⟩)
    else (none, ⟨b :: bs, Nat.le_refl _⟩)

/-- The characters that bytes write, with `none` for each stretch that writes none. -/
def utf8Scalars : List UInt8 → List (Option Char)
  | [] => []
  | b :: bs =>
    match utf8Lead b with
    | none => none :: utf8Scalars bs
    | some (n, low, high, bits) =>
      let (c, rest) := utf8Tail n low high bits bs
      have : rest.1.length ≤ bs.length := rest.2
      c :: utf8Scalars rest.1
termination_by bs => bs.length
decreasing_by
  · exact Nat.lt_succ_self _
  · exact Nat.lt_succ_of_le this

def ofUtf8? (bs : List UInt8) : Option (List Char) :=
  (utf8Scalars bs).mapM id

/-- The text that bytes write, with U+FFFD where they are not UTF-8. -/
def ofUtf8Lossy (bs : List UInt8) : List Char :=
  (utf8Scalars bs).map (·.getD '\uFFFD')

end DirectoryLogin.Text
