import DirectoryLogin.Filter
import Mathlib.Data.List.Pairwise
import Mathlib.Tactic.ByContra

namespace DirectoryLogin

open Text

theorem Text.sameLetters_iff {s t : String} :
    sameLetters s t ↔ s.toList.map Char.toLower = t.toList.map Char.toLower :=
  beq_iff_eq

theorem Text.sameLetters_symm {s t : String} (same : sameLetters s t) : sameLetters t s :=
  sameLetters_iff.2 (sameLetters_iff.1 same).symm

namespace Entry

/-- The entry has the value under the name, up to the case of ASCII letters in both. -/
def Has (e : Entry) (name value : String) : Prop :=
  ∃ p ∈ e.attributes, sameLetters p.1 name ∧ ∃ v ∈ p.2, sameLetters v value

/-- No two attributes have the same name up to the case of ASCII letters. -/
def Distinct (e : Entry) : Prop :=
  e.attributes.Pairwise fun p q => ¬ sameLetters p.1 q.1

instance (e : Entry) (name value : String) : Decidable (e.Has name value) :=
  inferInstanceAs (Decidable (∃ p ∈ e.attributes, sameLetters p.1 name ∧ ∃ v ∈ p.2, sameLetters v value))

instance (e : Entry) : Decidable e.Distinct :=
  inferInstanceAs (Decidable (e.attributes.Pairwise fun p q => ¬ sameLetters p.1 q.1))

/-- One attribute at most has the name. -/
theorem Distinct.unique {e : Entry} (distinct : e.Distinct) {name : String} {p q : String × List String}
    (inEntry : p ∈ e.attributes) (named : sameLetters p.1 name) (inEntry' : q ∈ e.attributes)
    (named' : sameLetters q.1 name) : p = q := by
  by_contra different
  have symmetric : Std.Symm fun p q : String × List String => ¬ sameLetters p.1 q.1 :=
    ⟨fun p q apart same => apart (sameLetters_symm same)⟩
  have apart := List.Pairwise.forall distinct inEntry inEntry' different
  exact apart (sameLetters_iff.2 ((sameLetters_iff.1 named).trans (sameLetters_iff.1 named').symm))

/-- The values under a name are those of the one attribute that has it. -/
theorem Distinct.values? {e : Entry} (distinct : e.Distinct) {name : String} {values : List String} :
    e.values? name = some values ↔ ∃ p ∈ e.attributes, sameLetters p.1 name ∧ p.2 = values := by
  have only {test : String × List String → Bool} {p : String × List String} (found : e.attributes.find? test = some p)
      (named : sameLetters p.1 name) :
      some p.2 = some values ↔ ∃ q ∈ e.attributes, sameLetters q.1 name ∧ q.2 = values := by
    have inEntry := List.mem_of_find?_eq_some found
    constructor
    · intro same
      exact ⟨p, inEntry, named, Option.some.inj same⟩
    · rintro ⟨q, inEntry', named', rfl⟩
      rw [distinct.unique inEntry named inEntry' named']
  unfold Entry.values?
  split
  · next other values' found =>
    have same : (other == name) = true := (List.find?_eq_some_iff_append.1 found).1
    exact only found (by rw [beq_iff_eq.1 same, sameLetters_iff])
  · cases found : e.attributes.find? fun p => sameLetters p.1 name with
    | some p => exact only found (List.find?_eq_some_iff_append.1 found).1
    | none =>
      have absent := List.find?_eq_none.1 found
      constructor
      · intro missing
        cases missing
      · rintro ⟨p, inEntry, named, -⟩
        exact absurd named (absent p inEntry)

/-- The values do not depend on the order of the attributes. -/
theorem Distinct.values?_perm {e f : Entry} (distinct : e.Distinct) (perm : f.attributes.Perm e.attributes)
    (name : String) : f.values? name = e.values? name := by
  have distinct' : f.Distinct := (perm.pairwise_iff fun apart same => apart (sameLetters_symm same)).2 distinct
  refine Option.ext fun values => ?_
  rw [distinct'.values?, distinct.values?]
  simp only [perm.mem_iff]

/-- To pass a test for equality is to have the value. -/
theorem Distinct.holds_equal {e : Entry} (distinct : e.Distinct) {name value : String} :
    Filter.holds e (.equal name value) ↔ e.Has name value := by
  have known (values : List String) : e.values? name = some values ↔ _ := distinct.values?
  unfold Filter.holds Has
  constructor
  · intro holds
    split at holds
    · next values found =>
      obtain ⟨p, inEntry, named, rfl⟩ := (known values).1 found
      obtain ⟨v, member, same⟩ := List.any_eq_true.1 holds
      exact ⟨p, inEntry, named, v, member, same⟩
    · cases holds
  · rintro ⟨p, inEntry, named, v, member, same⟩
    rw [(known p.2).2 ⟨p, inEntry, named, rfl⟩]
    exact List.any_eq_true.2 ⟨v, member, same⟩

end Entry

end DirectoryLogin
