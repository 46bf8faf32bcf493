namespace DirectoryLogin

/-- Pairs in the order of their keys, each key once. -/
structure Dictionary (α : Type) where
  pairs : List (String × α)
  ascending : pairs.Pairwise (·.1 < ·.1) := by exact .nil

namespace Dictionary

variable {α β : Type}

/-- Puts a pair where its key belongs; an old value of the key gives way. -/
def place (key : String) (value : α) : List (String × α) → List (String × α)
  | [] => [(key, value)]
  | (k, v) :: rest =>
    if key < k then (key, value) :: (k, v) :: rest
    else if k < key then (k, v) :: place key value rest
    else (key, value) :: rest

theorem eq_of_not_lt {a b : String} (left : ¬a < b) (right : ¬b < a) : a = b :=
  String.le_antisymm (String.not_lt.1 right) (String.not_lt.1 left)

theorem mem_place {key : String} {value : α} {pairs : List (String × α)} {p : String × α}
    (member : p ∈ place key value pairs) : p = (key, value) ∨ p ∈ pairs := by
  induction pairs with
  | nil => simpa [place] using member
  | cons head rest ih =>
    obtain ⟨k, v⟩ := head
    simp only [place] at member
    split at member
    · simpa using member
    · split at member
      · rcases List.mem_cons.1 member with rfl | inner
        · simp
        · rcases ih inner with new | old
          · exact Or.inl new
          · exact Or.inr (List.mem_cons_of_mem _ old)
      · rcases List.mem_cons.1 member with rfl | old
        · exact Or.inl rfl
        · exact Or.inr (List.mem_cons_of_mem _ old)

theorem place_ascending {key : String} {value : α} {pairs : List (String × α)}
    (ascending : pairs.Pairwise (·.1 < ·.1)) : (place key value pairs).Pairwise (·.1 < ·.1) := by
  induction pairs with
  | nil => simp [place]
  | cons head rest ih =>
    obtain ⟨k, v⟩ := head
    have parts := List.pairwise_cons.1 ascending
    simp only [place]
    split
    · rename_i less
      refine List.pairwise_cons.2 ⟨?_, ascending⟩
      intro p member
      rcases List.mem_cons.1 member with rfl | later
      · exact less
      · exact String.lt_trans less (parts.1 p later)
    · split
      · rename_i _ less
        refine List.pairwise_cons.2 ⟨?_, ih parts.2⟩
        intro p member
        rcases mem_place member with rfl | later
        · exact less
        · exact parts.1 p later
      · rename_i notLess notMore
        have same : key = k := eq_of_not_lt notLess notMore
        subst same
        exact List.pairwise_cons.2 ⟨parts.1, parts.2⟩

def empty : Dictionary α := ⟨[], .nil⟩

def insert (d : Dictionary α) (key : String) (value : α) : Dictionary α :=
  ⟨place key value d.pairs, place_ascending d.ascending⟩

def erase (d : Dictionary α) (key : String) : Dictionary α :=
  ⟨d.pairs.filter (·.1 != key), d.ascending.filter _⟩

/-- The dictionary of a row of pairs, in which a later pair replaces an earlier one. -/
def ofList (pairs : List (String × α)) : Dictionary α :=
  pairs.foldl (fun d p => d.insert p.1 p.2) empty

def get? (d : Dictionary α) (key : String) : Option α :=
  (d.pairs.find? (·.1 == key)).map (·.2)

def filter (d : Dictionary α) (test : String → α → Bool) : Dictionary α :=
  ⟨d.pairs.filter fun p => test p.1 p.2, d.ascending.filter _⟩

def keys (d : Dictionary α) : List String :=
  d.pairs.map (·.1)

instance : Inhabited (Dictionary α) := ⟨empty⟩

instance [DecidableEq α] : DecidableEq (Dictionary α) := fun d e =>
  if same : d.pairs = e.pairs then isTrue (by cases d; cases e; simp_all)
  else isFalse (fun equal => same (equal ▸ rfl))

@[simp] theorem get?_empty (key : String) : (empty : Dictionary α).get? key = none := rfl

theorem get?_insert (d : Dictionary α) (key : String) (value : α) (other : String) :
    (d.insert key value).get? other = if key = other then some value else d.get? other := by
  obtain ⟨pairs, ascending⟩ := d
  simp only [get?, insert]
  clear ascending
  induction pairs with
  | nil => by_cases same : key = other <;> simp [place, same]
  | cons head rest ih =>
    obtain ⟨k, v⟩ := head
    simp only [place]
    split
    · by_cases same : key = other <;> simp [List.find?_cons, same]
    · split
      · rename_i notLess less
        by_cases here : k = other
        · subst here
          have different : key ≠ k := fun same => String.lt_irrefl k (same ▸ less)
          simp [different]
        · have apart : (k == other) = false := beq_eq_false_iff_ne.2 here
          simpa only [List.find?_cons, apart] using ih
      · rename_i notLess notMore
        have same : key = k := eq_of_not_lt notLess notMore
        subst same
        by_cases here : key = other <;> simp [here]

/-- The last value that a row of pairs has for a key wins. -/
theorem get?_ofList (pairs : List (String × α)) (key : String) :
    (ofList pairs).get? key = pairs.reverse.lookup key := by
  have onTop (d : Dictionary α) : (pairs.foldl (fun d p => d.insert p.1 p.2) d).get? key =
      (pairs.reverse.lookup key).or (d.get? key) := by
    induction pairs generalizing d with
    | nil => simp
    | cons p pairs ih =>
      obtain ⟨other, value⟩ := p
      rw [List.foldl_cons, ih, List.reverse_cons, List.lookup_append, Option.or_assoc, get?_insert]
      by_cases same : other = key
      · simp [same]
      · have apart : (key == other) = false := beq_eq_false_iff_ne.2 (Ne.symm same)
        simp [List.lookup_cons, same, apart]
  exact (onTop empty).trans (Option.or_none ..)

/-- Where a row of pairs has one value for a key, it does not matter how often and in which order it is there. -/
theorem get?_ofList_iff_of_agree {pairs : List (String × α)} {key : String} {value : α}
    (agree : ∀ v w, (key, v) ∈ pairs → (key, w) ∈ pairs → v = w) :
    (ofList pairs).get? key = some value ↔ (key, value) ∈ pairs := by
  have member {v : α} (found : pairs.reverse.lookup key = some v) : (key, v) ∈ pairs := by
    obtain ⟨before, after, split, -⟩ := List.lookup_eq_some_iff.1 found
    exact List.mem_reverse.1 (split ▸ by simp)
  rw [get?_ofList]
  constructor
  · exact member
  · intro here
    have isSome : (pairs.reverse.lookup key).isSome :=
      List.lookup_isSome_iff.2 ⟨(key, value), List.mem_reverse.2 here, beq_self_eq_true key⟩
    obtain ⟨v, found⟩ := Option.isSome_iff_exists.1 isSome
    rw [found, agree v value (member found) here]

theorem get?_erase (d : Dictionary α) (key other : String) :
    (d.erase key).get? other = if key = other then none else d.get? other := by
  obtain ⟨pairs, ascending⟩ := d
  simp only [get?, erase]
  clear ascending
  induction pairs with
  | nil => simp
  | cons head rest ih =>
    obtain ⟨k, v⟩ := head
    by_cases here : k = other <;> by_cases same : key = other <;>
      by_cases gone : k = key <;> simp_all

theorem get?_eq_some_iff {d : Dictionary α} {key : String} {value : α} :
    d.get? key = some value ↔ (key, value) ∈ d.pairs := by
  obtain ⟨pairs, ascending⟩ := d
  simp only [get?]
  induction pairs with
  | nil => simp
  | cons head rest ih =>
    obtain ⟨k, v⟩ := head
    have parts := List.pairwise_cons.1 ascending
    by_cases here : k = key
    · subst here
      have absent : (k, value) ∉ rest := fun member => String.lt_irrefl k (parts.1 _ member)
      simp [absent, eq_comm]
    · simp [here, ih parts.2, Ne.symm here]

theorem ext_get? {d e : Dictionary α} (same : ∀ key, d.get? key = e.get? key) : d = e := by
  have member : ∀ p, p ∈ d.pairs ↔ p ∈ e.pairs := fun (key, value) => by
    rw [← get?_eq_some_iff, ← get?_eq_some_iff, same]
  obtain ⟨left, leftOrder⟩ := d
  obtain ⟨right, rightOrder⟩ := e
  simp only at member
  clear same
  suffices left = right by subst this; rfl
  induction left generalizing right with
  | nil =>
    cases right with
    | nil => rfl
    | cons p rest => exact absurd ((member p).2 (by simp)) (by simp)
  | cons p rest ih =>
    cases right with
    | nil => exact absurd ((member p).1 (by simp)) (by simp)
    | cons q more =>
      have leftParts := List.pairwise_cons.1 leftOrder
      have rightParts := List.pairwise_cons.1 rightOrder
      have head : p = q := by
        rcases List.mem_cons.1 ((member p).1 (by simp)) with same | inRight
        · exact same
        · rcases List.mem_cons.1 ((member q).2 (by simp)) with same | inLeft
          · exact same.symm
          · exact absurd (String.lt_trans (leftParts.1 q inLeft) (rightParts.1 p inRight))
              (String.lt_irrefl _)
      subst head
      have below : ∀ r, r ∈ rest ↔ r ∈ more := fun r => by
        constructor
        · intro inLeft
          rcases List.mem_cons.1 ((member r).1 (List.mem_cons_of_mem _ inLeft)) with same | h
          · exact absurd (same ▸ leftParts.1 r inLeft) (String.lt_irrefl _)
          · exact h
        · intro inRight
          rcases List.mem_cons.1 ((member r).2 (List.mem_cons_of_mem _ inRight)) with same | h
          · exact absurd (same ▸ rightParts.1 r inRight) (String.lt_irrefl _)
          · exact h
      rw [ih leftParts.2 more rightParts.2 below]

end Dictionary

end DirectoryLogin
