import DirectoryLogin.Find

namespace DirectoryLogin.Search

variable {policy : ReferralPolicy} {visited visited' pending rest : List String} {url : String}
  {events : List Event}

/-- A referral that would be followed. -/
def isFresh (policy : ReferralPolicy) (visited : List String) (url : String) : Bool :=
  policy.follows url && !visited.contains url

theorem isFresh_iff : isFresh policy visited url = true ↔ policy.follows url ∧ url ∉ visited := by
  simp [isFresh]

theorem isFresh_of_visited (seen : url ∈ visited) : isFresh policy visited url = false := by
  simp [isFresh, seen]

theorem isFresh_of_refused (refused : ¬policy.follows url = true) :
    isFresh policy visited url = false := by
  simp [isFresh, refused]

/-- Looking at a referral that the policy turns down makes no other one fresh or stale. -/
theorem isFresh_cons_refused (refused : ¬policy.follows url = true) (x : String) :
    isFresh policy (url :: visited) x = isFresh policy visited x := by
  by_cases same : x = url
  · rw [same, isFresh_of_refused refused, isFresh_of_refused refused]
  · simp [isFresh, same]

/-- Nothing is next only if nothing in the queue would be followed. -/
theorem nextReferral_none (nothing : (nextReferral policy visited pending).1 = none) :
    ∀ x ∈ pending, isFresh policy visited x = false := by
  induction pending generalizing visited with
  | nil => exact fun x member => absurd member List.not_mem_nil
  | cons head pending ih =>
    simp only [nextReferral] at nothing
    by_cases seen : visited.contains head
    · rw [if_pos seen] at nothing
      have stale : isFresh policy visited head = false :=
        isFresh_of_visited (List.contains_iff_mem.1 seen)
      exact List.forall_mem_cons.2 ⟨stale, ih nothing⟩
    · rw [if_neg seen] at nothing
      by_cases followed : policy.follows head
      · rw [if_pos followed] at nothing
        cases nothing
      · rw [if_neg followed] at nothing
        refine List.forall_mem_cons.2 ⟨isFresh_of_refused followed, fun x member => ?_⟩
        rw [← isFresh_cons_refused followed]
        exact ih nothing x member

/-- The next referral would be followed, and what is skipped before it would not. -/
theorem nextReferral_some
    (next : nextReferral policy visited pending = (some (url, rest), visited', events)) :
    isFresh policy visited url ∧ ∃ skipped, pending = skipped ++ url :: rest ∧
      (∀ x ∈ skipped, isFresh policy visited x = false) ∧
      ∀ x, isFresh policy visited' x = (isFresh policy visited x && x != url) := by
  induction pending generalizing visited events with
  | nil => cases next
  | cons head pending ih =>
    simp only [nextReferral] at next
    by_cases seen : visited.contains head
    · rw [if_pos seen] at next
      cases later : nextReferral policy visited pending with
      | mk found more =>
        rw [later] at next
        cases next
        obtain ⟨fresh, skipped, rfl, stale, left⟩ := ih later
        have staleHead : isFresh policy visited head = false :=
          isFresh_of_visited (List.contains_iff_mem.1 seen)
        exact ⟨fresh, head :: skipped, rfl, List.forall_mem_cons.2 ⟨staleHead, stale⟩, left⟩
    · rw [if_neg seen] at next
      by_cases followed : policy.follows head
      · rw [if_pos followed] at next
        cases next
        refine ⟨?_, [], rfl, fun x member => absurd member List.not_mem_nil, fun x => ?_⟩
        · exact isFresh_iff.2 ⟨followed, fun inside => seen (List.contains_iff_mem.2 inside)⟩
        · by_cases same : x = url
          · simp [isFresh, same]
          · simp [isFresh, same]
      · rw [if_neg followed] at next
        cases later : nextReferral policy (head :: visited) pending with
        | mk found more =>
          rw [later] at next
          cases next
          obtain ⟨fresh, skipped, rfl, stale, left⟩ := ih later
          simp only [isFresh_cons_refused followed] at fresh stale left
          exact ⟨fresh, head :: skipped, rfl,
            List.forall_mem_cons.2 ⟨isFresh_of_refused followed, stale⟩, left⟩

/-- The next referral goes first among those of the queue that would be followed. -/
theorem filter_isFresh_next
    (next : nextReferral policy visited pending = (some (url, rest), visited', events)) :
    (pending.filter (isFresh policy visited)).eraseDups =
      url :: (rest.filter (isFresh policy visited')).eraseDups := by
  obtain ⟨fresh, skipped, rfl, stale, left⟩ := nextReferral_some next
  have none : skipped.filter (isFresh policy visited) = [] :=
    List.filter_eq_nil_iff.2 fun x member => by simp [stale x member]
  have others : (rest.filter (isFresh policy visited)).filter (fun x => !x == url) =
      rest.filter (isFresh policy visited') := by
    rw [List.filter_filter]
    exact List.filter_congr fun x _ => by rw [left, Bool.and_comm]; rfl
  rw [List.filter_append, none, List.nil_append, List.filter_cons_of_pos fresh,
    List.eraseDups_cons, others]

end DirectoryLogin.Search
