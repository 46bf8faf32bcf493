import DirectoryLogin.Text.Ascii
import Mathlib

namespace DirectoryLogin.Text

theorem toLower_of_not_isAlpha {c : Char} (sign : c.isAlpha = false) : c.toLower = c :=
  Char.toLower_eq_of_not_isUpper (Bool.not_eq_true _ ▸ (Bool.or_eq_false_iff.1 sign).1)

theorem isAlpha_of_isDigit {c : Char} (digit : c.isDigit) : c.isAlpha = false := by
  simp [Char.isDigit, Char.isAlpha, Char.isUpper, Char.isLower, UInt32.le_iff_toNat_le] at digit ⊢
  omega

theorem isAlphanum_toLower (c : Char) : c.toLower.isAlphanum = c.isAlphanum := by
  cases letter : c.isAlpha with
  | true => rw [Char.isAlphanum, Char.isAlphanum, Char.isAlpha_toLower_eq_isAlpha, letter, Bool.true_or, Bool.true_or]
  | false => rw [toLower_of_not_isAlpha letter]

/-- Signs and digits have no case. -/
theorem toLower_eq_iff {c sign : Char} (plain : sign.isAlpha = false) : c.toLower = sign ↔ c = sign := by
  constructor
  · rintro rfl
    exact (toLower_of_not_isAlpha (Char.isAlpha_toLower_eq_isAlpha c ▸ plain)).symm
  · rintro rfl
    exact toLower_of_not_isAlpha plain

theorem mem_map_toLower {cs : List Char} {sign : Char} (plain : sign.isAlpha = false) :
    sign ∈ cs.map Char.toLower ↔ sign ∈ cs := by
  simp only [List.mem_map, toLower_eq_iff plain, exists_eq_right]

/-- A text without letters is equal to the texts that it has the letters of. -/
theorem map_toLower_inj_of_plain {cs ds : List Char} (plain : ∀ c ∈ cs, c.isAlpha = false)
    (same : cs.map Char.toLower = ds.map Char.toLower) : cs = ds := by
  induction cs generalizing ds with
  | nil => exact (List.map_eq_nil_iff.1 same.symm).symm
  | cons c cs ih =>
    obtain ⟨d, ds', rfl, first, rest⟩ := List.map_eq_cons_iff.1 same.symm
    obtain ⟨sign, others⟩ := List.forall_mem_cons.1 plain
    rw [toLower_of_not_isAlpha sign, toLower_eq_iff sign] at first
    rw [first, ih others rest.symm]

end DirectoryLogin.Text
