import DirectoryLogin.Proofs.Search.Queue
import DirectoryLogin.Proofs.Steady
import Mathlib.Data.Set.Card

namespace DirectoryLogin

open Search

/-- The servers that a request can come to: what it is answered at the first of them and at the server
of each referral, and which referrals it follows. -/
structure Web where
  policy : ReferralPolicy
  origin : Answer
  reply : String → Answer

namespace Web

variable (web : Web)

/-- The referrals that are followed: those that the policy lets through, handed out at the origin or at
the server of another one that is followed. -/
inductive Reached : String → Prop
  | atOrigin {url} : url ∈ web.origin.referrals → web.policy.follows url → Reached url
  | beyond {url next} : Reached url → next ∈ (web.reply url).referrals → web.policy.follows next →
    Reached next

/-- The referrals that are let through when the servers of `order` are asked after the origin, each at
the place where it is first handed out. -/
def inTurn (order : List String) : List String :=
  ((web.origin.referrals ++ order.flatMap fun url => (web.reply url).referrals).filter
    web.policy.follows).eraseDups

/-- Every server answers without an error, and there are not too many of them. -/
structure Complete : Prop where
  origin : web.origin.failure = none
  reply : ∀ url, web.Reached url → (web.reply url).failure = none
  few : {url | web.Reached url}.encard ≤ maxReferralHops

/-- The entries are those of all servers, one server after the other: each referral once, in the order
in which the referrals came up. -/
structure Gathered (entries : List Entry) (order : List String) : Prop where
  nodup : order.Nodup
  mem_iff : ∀ url, url ∈ order ↔ web.Reached url
  firstInFirstOut : order = web.inTurn order
  entries : entries = web.origin.entries ++ order.flatMap fun url => (web.reply url).entries

variable {web} {order visited visited' rest : List String} {url : String} {f : Findings}
  {events : List Event}

theorem mem_inTurn : url ∈ web.inTurn order ↔ web.policy.follows url ∧
    (url ∈ web.origin.referrals ∨ ∃ asked ∈ order, url ∈ (web.reply asked).referrals) := by
  rw [inTurn, List.mem_eraseDups, List.mem_filter, List.mem_append, List.mem_flatMap, and_comm]

/-- One more server adds what it is the first to hand out. -/
theorem inTurn_concat (order : List String) (url : String) :
    web.inTurn (order ++ [url]) = web.inTurn order ++ ((web.reply url).referrals.filter fun x =>
      web.policy.follows x && !(web.inTurn order).contains x).eraseDups := by
  have same (before : List String) (x : String) : before.eraseDups.contains x = before.contains x := by
    rw [Bool.eq_iff_iff, List.contains_iff_mem, List.contains_iff_mem, List.mem_eraseDups]
  have split : (order ++ [url]).flatMap (fun url => (web.reply url).referrals) =
      (order.flatMap fun url => (web.reply url).referrals) ++ (web.reply url).referrals := by
    simp
  simp only [inTurn, same]
  rw [split, ← List.append_assoc, List.filter_append, List.eraseDups_append, List.removeAll,
    List.filter_filter]
  congr 3
  funext x
  exact Bool.and_comm _ _

/-- What a search has come to know after the servers of `order`, none of which had an error. -/
structure Walked (web : Web) (order visited : List String) (f : Findings) : Prop where
  origin : web.origin.failure = none
  reply : ∀ url ∈ order, (web.reply url).failure = none
  reached : ∀ url ∈ order, web.Reached url
  nodup : order.Nodup
  fresh : ∀ url, isFresh web.policy visited url = (web.policy.follows url && !order.contains url)
  /-- The referrals that came up are those of `order`, and then those that are still to be followed. -/
  queue : web.inTurn order = order ++ (f.pending.filter (isFresh web.policy visited)).eraseDups
  entries : f.entries = web.origin.entries ++ order.flatMap fun url => (web.reply url).entries

theorem Walked.start (origin : web.origin.failure = none) :
    Walked web [] [] { entries := web.origin.entries, pending := web.origin.referrals } where
  origin := origin
  reply := by simp
  reached := by simp
  nodup := List.nodup_nil
  fresh := by simp [isFresh]
  queue := by
    have all : isFresh web.policy [] = web.policy.follows := by
      funext url
      simp [isFresh]
    simp [inTurn, all]
  entries := by simp

/-- Whatever comes up next is reached and new. -/
theorem Walked.next_reached (walked : Walked web order visited f)
    (next : nextReferral web.policy visited f.pending = (some (url, rest), visited', events)) :
    web.Reached url ∧ url ∉ order := by
  obtain ⟨fresh, skipped, queue, _, _⟩ := nextReferral_some next
  have new : url ∉ order := by
    rw [walked.fresh] at fresh
    simpa using (Bool.and_eq_true_iff.1 fresh).2
  have member : url ∈ web.inTurn order := by
    rw [walked.queue, List.mem_append, List.mem_eraseDups, List.mem_filter]
    exact .inr ⟨by simp [queue], fresh⟩
  obtain ⟨follows, atOrigin | ⟨asked, known, beyond⟩⟩ := mem_inTurn.1 member
  · exact ⟨.atOrigin atOrigin follows, new⟩
  · exact ⟨.beyond (walked.reached asked known) beyond follows, new⟩

theorem Walked.step (walked : Walked web order visited f)
    (next : nextReferral web.policy visited f.pending = (some (url, rest), visited', events))
    (well : (web.reply url).failure = none) :
    Walked web (order ++ [url]) visited'
      { entries := f.entries ++ (web.reply url).entries
        pending := rest ++ (web.reply url).referrals } := by
  obtain ⟨reached, new⟩ := walked.next_reached next
  obtain ⟨_, _, _, _, left⟩ := nextReferral_some next
  have fresh (x : String) : isFresh web.policy visited' x =
      (web.policy.follows x && !(order ++ [url]).contains x) := by
    rw [left, walked.fresh, Bool.eq_iff_iff]
    simp [and_assoc]
  have before : web.inTurn order =
      (order ++ [url]) ++ (rest.filter (isFresh web.policy visited')).eraseDups := by
    rw [walked.queue, filter_isFresh_next next, List.append_assoc, List.singleton_append]
  refine ⟨walked.origin, ?_, ?_, ?_, fresh, ?_, ?_⟩
  · exact List.forall_mem_append.2 ⟨walked.reply, by simpa using well⟩
  · exact List.forall_mem_append.2 ⟨walked.reached, by simpa using reached⟩
  · have apart : ∀ x ∈ order, x ≠ url := fun x member same => new (same ▸ member)
    exact List.nodup_append.2 ⟨walked.nodup, List.nodup_singleton _, by simpa using apart⟩
  · have added : ((web.reply url).referrals.filter fun x =>
        web.policy.follows x && !(web.inTurn order).contains x) =
        ((web.reply url).referrals.filter (isFresh web.policy visited')).removeAll
          (rest.filter (isFresh web.policy visited')) := by
      rw [List.removeAll, List.filter_filter]
      refine List.filter_congr fun x _ => ?_
      rw [before, fresh, Bool.eq_iff_iff]
      simp only [List.elem_eq_contains, Bool.and_eq_true, Bool.not_eq_true', ← Bool.not_eq_true,
        List.contains_iff_mem, List.mem_append (s := order ++ [url]), not_or, List.mem_eraseDups]
      constructor
      · rintro ⟨follows, old, later⟩
        exact ⟨later, follows, old⟩
      · rintro ⟨later, follows, old⟩
        exact ⟨follows, old, later⟩
    rw [inTurn_concat, added, before, List.filter_append, List.eraseDups_append, List.append_assoc]
  · rw [walked.entries]
    simp

/-- When nothing more is to be followed, all that is reached has been asked. -/
theorem Walked.gathered (walked : Walked web order visited f)
    (nothing : (nextReferral web.policy visited f.pending).1 = none) :
    web.Gathered f.entries order := by
  have inTurn : web.inTurn order = order := by
    have none := List.filter_eq_nil_iff.2 fun x member =>
      Bool.eq_false_iff.1 (nextReferral_none nothing x member)
    rw [walked.queue, none, List.eraseDups_nil, List.append_nil]
  refine ⟨walked.nodup, fun url => ⟨walked.reached url, fun reached => ?_⟩, inTurn.symm,
    walked.entries⟩
  induction reached with
  | atOrigin atOrigin follows => exact inTurn ▸ mem_inTurn.2 ⟨follows, .inl atOrigin⟩
  | beyond _ beyond follows known => exact inTurn ▸ mem_inTurn.2 ⟨follows, .inr ⟨_, known, beyond⟩⟩

theorem length_le_encard (nodup : order.Nodup) (reached : ∀ url ∈ order, web.Reached url) :
    (order.length : ℕ∞) ≤ {url | web.Reached url}.encard := by
  have within : (order.toFinset : Set String) ⊆ {url | web.Reached url} := fun url member =>
    reached url (List.mem_toFinset.1 member)
  rw [← List.toFinset_card_of_nodup nodup, ← Set.encard_coe_eq_coe_finsetCard]
  exact Set.encard_le_encard within

theorem Gathered.encard {entries : List Entry} (gathered : web.Gathered entries order) :
    {url | web.Reached url}.encard = order.length := by
  have same : {url | web.Reached url} = (order.toFinset : Set String) := by
    ext url
    simp [gathered.mem_iff]
  rw [same, Set.encard_coe_eq_coe_finsetCard, List.toFinset_card_of_nodup gathered.nodup]

/-- What a search for all entries must end with. -/
def Outcome (web : Web) : Except Error (List Entry) → Prop
  | .ok entries => web.Complete ∧ ∃ order, web.Gathered entries order
  | .error _ => ¬web.Complete

theorem Walked.outcome_done (walked : Walked web order visited f)
    (nothing : (nextReferral web.policy visited f.pending).1 = none)
    (few : order.length ≤ maxReferralHops) : web.Outcome (.ok f.entries) := by
  have gathered := walked.gathered nothing
  refine ⟨⟨walked.origin, fun url reached => ?_, ?_⟩, order, gathered⟩
  · exact walked.reply url ((gathered.mem_iff url).2 reached)
  · rw [gathered.encard]
    exact_mod_cast few

/-- A referral that comes up when no more may be followed is one too many. -/
theorem Walked.outcome_tooMany (walked : Walked web order visited f)
    (next : nextReferral web.policy visited f.pending = (some (url, rest), visited', events))
    (many : order.length = maxReferralHops) (e : Error) : web.Outcome (.error e) := by
  intro complete
  obtain ⟨reached, new⟩ := walked.next_reached next
  have nodup : (url :: order).Nodup := List.nodup_cons.2 ⟨new, walked.nodup⟩
  have more := length_le_encard nodup (List.forall_mem_cons.2 ⟨reached, walked.reached⟩)
  have less := more.trans complete.few
  rw [List.length_cons, many] at less
  exact absurd (by exact_mod_cast less) (Nat.not_succ_le_self maxReferralHops)

theorem outcome_failed (reached : web.Reached url) {failure : Error}
    (failed : (web.reply url).failure = some failure) (e : Error) : web.Outcome (.error e) := by
  intro complete
  have well := complete.reply url reached
  rw [failed] at well
  cases well

end Web

end DirectoryLogin
