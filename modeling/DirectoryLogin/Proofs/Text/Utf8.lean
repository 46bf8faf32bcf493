import DirectoryLogin.Text.Utf8

namespace DirectoryLogin.Text

theorem utf8Scalars_lead {b low high : UInt8} {n bits : Nat} (bs : List UInt8)
    (lead : utf8Lead b = some (n, low, high, bits)) :
    utf8Scalars (b :: bs) =
      (utf8Tail n low high bits bs).1 :: utf8Scalars (utf8Tail n low high bits bs).2.1 := by
  rw [utf8Scalars, lead]

/-- One byte that goes on with a character gives six more bits. -/
theorem utf8Tail_cons (low high : UInt8) (m n bits : Nat) (bs : List UInt8)
    (least : low.toNat ≤ m + 0x80) (most : m + 0x80 ≤ high.toNat) :
    (utf8Tail (n + 1) low high bits (UInt8.ofNat (m + 0x80) :: bs)).1 =
        (utf8Tail n 0x80 0xBF (64 * bits + m) bs).1 ∧
      (utf8Tail (n + 1) low high bits (UInt8.ofNat (m + 0x80) :: bs)).2.1 =
        (utf8Tail n 0x80 0xBF (64 * bits + m) bs).2.1 := by
  have value : (UInt8.ofNat (m + 0x80)).toNat = m + 0x80 := by
    have := high.toNat_lt
    simp only [UInt8.toNat_ofNat']
    omega
  have within : (low ≤ UInt8.ofNat (m + 0x80) && UInt8.ofNat (m + 0x80) ≤ high) = true := by
    simp only [UInt8.le_iff_toNat_le, value, Bool.and_eq_true, decide_eq_true_eq]
    exact ⟨least, most⟩
  simp only [utf8Tail, within, if_true, value, Nat.add_sub_cancel, and_self]

theorem utf8Lead_one : ∀ n : Fin 0x80, utf8Lead (UInt8.ofNat n) = some (0, 0, 0, n.val) := by
  decide

theorem utf8Lead_two : ∀ n : Fin 0x20, 2 ≤ n.val →
    utf8Lead (UInt8.ofNat (n + 0xC0)) = some (1, 0x80, 0xBF, n.val) := by
  decide

/-- The range of the second of three bytes keeps out long forms and surrogates. -/
theorem utf8Lead_three : ∀ n : Fin 0x10,
    utf8Lead (UInt8.ofNat (n + 0xE0)) =
      some (2, if n.val = 0 then 0xA0 else 0x80, if n.val = 0xD then 0x9F else 0xBF, n.val) := by
  decide

/-- The range of the second of four bytes keeps out long forms and numbers that are too great. -/
theorem utf8Lead_four : ∀ n : Fin 5,
    utf8Lead (UInt8.ofNat (n + 0xF0)) =
      some (3, if n.val = 0 then 0x90 else 0x80, if n.val = 4 then 0x8F else 0xBF, n.val) := by
  decide

/-- The bytes of a character are read as that character, whatever follows. -/
theorem utf8Scalars_encodeChar (c : Char) (bs : List UInt8) :
    utf8Scalars (String.utf8EncodeChar c ++ bs) = some c :: utf8Scalars bs := by
  have back : Char.ofNat c.val.toNat = c := Char.ofNat_toNat c
  have valid : c.val.toNat < 0xD800 ∨ 0xDFFF < c.val.toNat ∧ c.val.toNat < 0x110000 := c.valid
  unfold String.utf8EncodeChar
  generalize c.val.toNat = v at back valid
  dsimp only
  split
  · rw [List.cons_append, utf8Scalars_lead _ (utf8Lead_one ⟨v, by omega⟩)]
    simp only [utf8Tail, back, List.nil_append]
  split
  · have lead := utf8Lead_two ⟨v / 64 % 0x20, by omega⟩ (by simp only; omega)
    have second := utf8Tail_cons 0x80 0xBF (v % 0x40) 0 (v / 64 % 0x20) bs
      (by simp) (by simp; omega)
    have whole : 64 * (v / 64 % 0x20) + v % 0x40 = v := by omega
    rw [List.cons_append, List.cons_append, List.nil_append, utf8Scalars_lead _ lead, second.1,
      second.2]
    simp only [utf8Tail, whole, back]
  split
  · have lead := utf8Lead_three ⟨v / 4096 % 0x10, by omega⟩
    have second := utf8Tail_cons (if v / 4096 % 0x10 = 0 then 0xA0 else 0x80)
      (if v / 4096 % 0x10 = 0xD then 0x9F else 0xBF) (v / 64 % 0x40) 1 (v / 4096 % 0x10)
      (UInt8.ofNat (v % 0x40 + 0x80) :: bs)
      (by split <;> simp; omega) (by split <;> simp <;> omega)
    have third := utf8Tail_cons 0x80 0xBF (v % 0x40) 0
      (64 * (v / 4096 % 0x10) + v / 64 % 0x40) bs (by simp) (by simp; omega)
    have whole : 64 * (64 * (v / 4096 % 0x10) + v / 64 % 0x40) + v % 0x40 = v := by omega
    rw [List.cons_append, List.cons_append, List.cons_append, List.nil_append,
      utf8Scalars_lead _ lead, second.1, second.2, third.1, third.2]
    simp only [utf8Tail, whole, back]
  · have lead := utf8Lead_four ⟨v / 262144 % 0x08, by omega⟩
    have second := utf8Tail_cons (if v / 262144 % 0x08 = 0 then 0x90 else 0x80)
      (if v / 262144 % 0x08 = 4 then 0x8F else 0xBF) (v / 4096 % 0x40) 2 (v / 262144 % 0x08)
      (UInt8.ofNat (v / 64 % 0x40 + 0x80) :: UInt8.ofNat (v % 0x40 + 0x80) :: bs)
      (by split <;> simp; omega) (by split <;> simp <;> omega)
    have third := utf8Tail_cons 0x80 0xBF (v / 64 % 0x40) 1
      (64 * (v / 262144 % 0x08) + v / 4096 % 0x40) (UInt8.ofNat (v % 0x40 + 0x80) :: bs)
      (by simp) (by simp; omega)
    have fourth := utf8Tail_cons 0x80 0xBF (v % 0x40) 0
      (64 * (64 * (v / 262144 % 0x08) + v / 4096 % 0x40) + v / 64 % 0x40) bs
      (by simp) (by simp; omega)
    have whole : 64 * (64 * (64 * (v / 262144 % 0x08) + v / 4096 % 0x40) + v / 64 % 0x40) +
        v % 0x40 = v := by omega
    rw [List.cons_append, List.cons_append, List.cons_append, List.cons_append, List.nil_append,
      utf8Scalars_lead _ lead, second.1, second.2, third.1, third.2, fourth.1, fourth.2]
    simp only [utf8Tail, whole, back]

theorem utf8Scalars_utf8 (cs : List Char) : utf8Scalars (utf8 cs) = cs.map some := by
  induction cs with
  | nil => simp [utf8, utf8Scalars]
  | cons c cs ih =>
    rw [utf8, List.flatMap_cons, utf8Scalars_encodeChar, List.map_cons, ← ih, utf8]

/-- What a text is written as reads back as that text. -/
theorem ofUtf8?_utf8 (cs : List Char) : ofUtf8? (utf8 cs) = some cs := by
  rw [ofUtf8?, utf8Scalars_utf8, List.mapM_map]
  exact (List.mapM_pure (f := id)).trans (by simp)

theorem ofUtf8Lossy_utf8 (cs : List Char) : ofUtf8Lossy (utf8 cs) = cs := by
  rw [ofUtf8Lossy, utf8Scalars_utf8, List.map_map]
  exact List.map_id cs

/-- Different texts are written as different bytes. -/
theorem utf8_injective {cs ds : List Char} (same : utf8 cs = utf8 ds) : cs = ds := by
  rw [← ofUtf8Lossy_utf8 cs, same, ofUtf8Lossy_utf8]

end DirectoryLogin.Text
