import DirectoryLogin.Proofs.Witnessed

namespace DirectoryLogin

theorem perm_append_right_comm {α : Type} (a b c : List α) : (a ++ b ++ c).Perm (a ++ c ++ b) := by
  rw [List.append_assoc, List.append_assoc]
  exact List.perm_append_comm.append_left a

namespace Exchange

variable {κ : Type}

/-- The connection that was opened. -/
def opened : Exchange κ → List (Line κ)
  | connect _ (.ok c) => [c]
  | _ => []

/-- The connection that was to be closed. -/
def closed : Exchange κ → List (Line κ)
  | close c _ => [c]
  | _ => []

/-- The connection that was used. -/
def line : Exchange κ → List (Line κ)
  | connect .. => []
  | search line .. => [line]
  | next line _ => [line]
  | abandon line _ => [line]
  | close line _ => [line]

/-- Exchanges lead from some open connections to others, and use only such as are open. -/
inductive Live : List (Line κ) → List (Exchange κ) → List (Line κ) → Prop
  | nil {had left} (same : had.Perm left) : Live had [] left
  | cons {had x between es left} (there : ∀ c ∈ x.line, c ∈ had)
    (becomes : (had ++ x.opened).Perm (between ++ x.closed)) (later : Live between es left) :
    Live had (x :: es) left

namespace Live

variable {had between left more : List (Line κ)} {es later : List (Exchange κ)} {x : Exchange κ}

theorem refl (had : List (Line κ)) : Live had [] had := .nil (.refl had)

theorem single (there : ∀ c ∈ x.line, c ∈ had) (becomes : (had ++ x.opened).Perm (left ++ x.closed)) :
    Live had [x] left := .cons there becomes (.refl left)

theorem perm {had' left' : List (Line κ)} (live : Live had es left) (before : had'.Perm had)
    (after : left.Perm left') : Live had' es left' := by
  induction live generalizing had' with
  | nil same => exact .nil ((before.trans same).trans after)
  | cons there becomes _ ih =>
    exact .cons (fun c member => before.symm.subset (there c member))
      ((before.append_right _).trans becomes) (ih (.refl _) after)

theorem append (first : Live had es between) (second : Live between later left) :
    Live had (es ++ later) left := by
  induction first with
  | nil same => exact second.perm same (.refl left)
  | cons there becomes _ ih => exact .cons there becomes (ih second)

/-- What else is open stays so. -/
theorem frame (live : Live had es left) (more : List (Line κ)) : Live (had ++ more) es (left ++ more) := by
  induction live with
  | nil same => exact .nil (same.append_right more)
  | @cons had x between es left there becomes _ ih =>
    refine .cons (fun c member => List.mem_append_left _ (there c member)) ?_ ih
    calc (had ++ more) ++ x.opened
      _ |>.Perm ((had ++ x.opened) ++ more) := perm_append_right_comm ..
      _ |>.Perm ((between ++ x.closed) ++ more) := becomes.append_right more
      _ |>.Perm ((between ++ more) ++ x.closed) := perm_append_right_comm ..

theorem split (live : Live had (es ++ later) left) :
    ∃ between, Live had es between ∧ Live between later left := by
  induction es generalizing had with
  | nil => exact ⟨had, .refl had, live⟩
  | cons x es ih =>
    cases live with
    | cons there becomes rest =>
      obtain ⟨between, first, second⟩ := ih rest
      exact ⟨between, .cons there becomes first, second⟩

/-- Each connection that there was, or that was opened, is left or was closed, once. -/
theorem accounts (live : Live had es left) :
    (had ++ es.flatMap opened).Perm (left ++ es.flatMap closed) := by
  induction live with
  | nil same => exact same.append_right []
  | @cons had x between es left _ becomes _ ih =>
    rw [List.flatMap_cons, List.flatMap_cons, ← List.append_assoc]
    calc (had ++ x.opened) ++ es.flatMap opened
      _ |>.Perm ((between ++ x.closed) ++ es.flatMap opened) := becomes.append_right _
      _ |>.Perm (x.closed ++ (between ++ es.flatMap opened)) := by
        rw [List.append_assoc]
        exact List.perm_append_comm_assoc ..
      _ |>.Perm (x.closed ++ (left ++ es.flatMap closed)) := ih.append_left _
      _ |>.Perm (left ++ (x.closed ++ es.flatMap closed)) := List.perm_append_comm_assoc ..

theorem line_mem (live : Live had es left) {c : Line κ} (member : x ∈ es) (used : c ∈ x.line) :
    c ∈ had ++ es.flatMap opened := by
  obtain ⟨before, after, rfl⟩ := List.append_of_mem member
  obtain ⟨between, first, second⟩ := live.split
  cases second with
  | cons there _ _ =>
    have open' : c ∈ between ++ before.flatMap closed := List.mem_append_left _ (there c used)
    rw [List.flatMap_append, ← List.append_assoc]
    exact List.mem_append_left _ (first.accounts.symm.subset open')

/-- A connection that was closed is not left, nor is it ever used again. -/
theorem gone (live : Live had (es ++ x :: later) left)
    (distinct : (had ++ (es ++ x :: later).flatMap opened).Nodup) {c : Line κ} (closing : c ∈ x.closed) :
    c ∉ left ∧ ∀ y ∈ later, c ∉ y.line := by
  obtain ⟨before, first, second⟩ := live.split
  cases second with
  | @cons _ _ between _ _ _ becomes rest =>
    have through : Live had (es ++ [x]) between := first.append (.single ‹_› becomes)
    have all : (had ++ (es ++ x :: later).flatMap opened).Perm
        ((between ++ later.flatMap opened) ++ (es ++ [x]).flatMap closed) := by
      rw [List.append_cons, List.flatMap_append, ← List.append_assoc]
      calc (had ++ (es ++ [x]).flatMap opened) ++ later.flatMap opened
        _ |>.Perm ((between ++ (es ++ [x]).flatMap closed) ++ later.flatMap opened) :=
          through.accounts.append_right _
        _ |>.Perm ((between ++ later.flatMap opened) ++ (es ++ [x]).flatMap closed) :=
          perm_append_right_comm ..
    have apart := (List.nodup_append.1 (all.nodup_iff.1 distinct)).2.2
    have closed : c ∈ (es ++ [x]).flatMap closed := by simp [closing]
    refine ⟨fun member => ?_, fun y member used => ?_⟩
    · have known := rest.accounts.symm.subset (List.mem_append_left _ member)
      exact apart c known c closed rfl
    · exact apart c (rest.line_mem member used) c closed rfl

end Live

end Exchange

end DirectoryLogin
