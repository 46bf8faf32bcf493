import DirectoryLogin.Proofs.Requested
import Mathlib.Data.List.Forall2

namespace DirectoryLogin

variable {σ κ α β : Type}

namespace Reply

def answer? : Reply α → Option α
  | answer a => some a
  | _ => none

def failure? : Reply α → Option Error
  | failure e => some e
  | _ => none

/-- The last error among some replies, or else the one from before them. -/
def lastFailure (before : Option Error) (replies : List (Reply α)) : Option Error :=
  (replies.reverse.findSome? failure?).or before

/-- What replies come to: the first answer, and else the last error. -/
def settled (before : Option Error) (replies : List (Reply α)) : Reply α :=
  match replies.findSome? answer?, lastFailure before replies with
  | some a, _ => .answer a
  | none, some e => .failure e
  | none, none => .nothing

theorem lastFailure_cons (before : Option Error) (reply : Reply α) (replies : List (Reply α)) :
    lastFailure before (reply :: replies) = lastFailure (reply.failure?.or before) replies := by
  simp [lastFailure, List.findSome?_append, Option.or_assoc]

theorem settled_cons (before : Option Error) {reply : Reply α} (goesOn : reply.answer? = none)
    (replies : List (Reply α)) :
    settled before (reply :: replies) = settled (reply.failure?.or before) replies := by
  rw [settled, settled, lastFailure_cons, List.findSome?_cons, goesOn]

section

variable {replies : List (Reply α)}

theorem settled_eq_answer_iff {a : α} :
    settled none replies = .answer a ↔ replies.findSome? answer? = some a := by
  unfold settled
  cases replies.findSome? answer? with
  | some b => simp
  | none => cases lastFailure none replies <;> simp

theorem settled_eq_failure_iff {e : Error} : settled none replies = .failure e ↔
    replies.findSome? answer? = none ∧ lastFailure none replies = some e := by
  unfold settled
  cases replies.findSome? answer? with
  | some b => simp
  | none => cases lastFailure none replies <;> simp

theorem settled_eq_nothing_iff : settled none replies = .nothing ↔
    replies.findSome? answer? = none ∧ lastFailure none replies = none := by
  unfold settled
  cases replies.findSome? answer? with
  | some b => simp
  | none => cases lastFailure none replies <;> simp

end

section

variable {reply : β → Reply α} {asked : List β}

theorem findSome?_answer_iff {a : α} : (asked.map reply).findSome? answer? = some a ↔
    ∃ front b back, asked = front ++ b :: back ∧ (reply b).answer? = some a ∧
      ∀ c ∈ front, (reply c).answer? = none := by
  rw [List.findSome?_map, List.findSome?_eq_some_iff]
  rfl

theorem findSome?_answer_eq_none_iff : (asked.map reply).findSome? answer? = none ↔
    ∀ b ∈ asked, (reply b).answer? = none := by
  rw [List.findSome?_map, List.findSome?_eq_none_iff]
  rfl

/-- Behind the server with the last error, there is none with an error. -/
theorem lastFailure_eq_some_iff {e : Error} : lastFailure none (asked.map reply) = some e ↔
    ∃ front b back, asked = front ++ b :: back ∧ (reply b).failure? = some e ∧
      ∀ c ∈ back, (reply c).failure? = none := by
  rw [lastFailure, Option.or_none, ← List.map_reverse, List.findSome?_map, List.findSome?_eq_some_iff]
  constructor
  · rintro ⟨back, b, front, split, failed, none⟩
    rw [List.reverse_eq_append_iff, List.reverse_cons, List.append_assoc] at split
    exact ⟨front.reverse, b, back.reverse, split, failed, fun c member => none c (List.mem_reverse.1 member)⟩
  · rintro ⟨front, b, back, rfl, failed, none⟩
    exact ⟨back.reverse, b, front.reverse, by simp, failed, fun c member => none c (List.mem_reverse.1 member)⟩

theorem lastFailure_eq_none_iff : lastFailure none (asked.map reply) = none ↔
    ∀ b ∈ asked, (reply b).failure? = none := by
  rw [lastFailure, Option.or_none, ← List.map_reverse, List.findSome?_map, List.findSome?_eq_none_iff]
  simp

end

end Reply

namespace Resolver

/-- The replies of all servers, each asked after those before it. -/
def replies (ask : Question σ κ α) : List (Factory κ) → Trace σ → List (Reply α)
  | [], _ => []
  | f :: rest, t => (ask f t).1.1 :: replies ask rest (ask f t).2

theorem askAll_replies (ask : Question σ κ α) (last : Option Error) (fs : List (Factory κ)) (t : Trace σ) :
    (askAll ask last fs t).1.1 =
      ((replies ask fs t).filterMap Reply.answer?, Reply.lastFailure last (replies ask fs t)) := by
  induction fs generalizing last t with
  | nil => rfl
  | cons f rest ih =>
    rw [askAll, Act.bind_apply, replies, Reply.lastFailure_cons, List.filterMap_cons]
    rcases ask f t with ⟨⟨reply, f'⟩, t'⟩
    cases reply with
    | answer a => exact congrArg (fun found => (a :: found.1, found.2)) (ih last t')
    | nothing => exact ih last t'
    | failure e => exact ih (some e) t'

/-- The replies of servers of which one after the other is asked, up to the first answer. No one asks the others,
so that their replies may be any. -/
inductive Heard (ask : Question σ κ α) : List (Factory κ) → Trace σ → List (Reply α) → Prop
  | nil {t} : Heard ask [] t []
  | cons {f rest t replies} (others : replies.length = rest.length)
    (later : (ask f t).1.1.answer? = none → Heard ask rest (ask f t).2 replies) :
    Heard ask (f :: rest) t ((ask f t).1.1 :: replies)

variable {ask : Question σ κ α} {fs : List (Factory κ)} {replies : List (Reply α)}

theorem Heard.settled {t : Trace σ} (heard : Heard ask fs t replies) (last : Option Error) :
    (askUntil ask last fs t).1.1 = Reply.settled last replies := by
  induction heard generalizing last with
  | nil => cases last <;> rfl
  | @cons f rest t replies _ _ ih =>
    rw [askUntil, Act.bind_apply]
    rcases turn : ask f t with ⟨⟨reply, f'⟩, t'⟩
    rw [turn] at ih
    cases reply with
    | answer a => rfl
    | nothing =>
      rw [Reply.settled_cons last rfl]
      exact ih rfl last
    | failure e =>
      rw [Reply.settled_cons last rfl]
      exact ih rfl (some e)

/-- To keep exchanges changes no replies. -/
theorem Heard.witnessed {ask : Question (Witnessed σ κ) (Line κ) α} {plainAsk : Question σ κ α}
    (asks : ∀ f, Act.Mirrors (fun found => (found.1, found.2.plain)) (ask f) (plainAsk f.plain))
    {fs : List (Factory (Line κ))} {t : Trace (Witnessed σ κ)}
    (heard : Heard plainAsk (fs.map Factory.plain) (Act.plain t) replies) : Heard ask fs t replies := by
  induction fs generalizing t replies with
  | nil =>
    cases heard
    exact .nil
  | cons f rest ih =>
    cases heard with
    | cons others later =>
      rw [asks f t] at later ⊢
      exact .cons (others.trans (List.length_map _)) fun unanswered => ih (later unanswered)

/-- Servers are asked in order, each if and only if there is no answer before it, and the others are left as they
are. What was exchanged falls to those that were asked, one each. -/
theorem Heard.contacts {ask : Question (Witnessed σ κ) (Line κ) α} {fs : List (Factory (Line κ))}
    {t : Trace (Witnessed σ κ)} {contact : Factory (Line κ) → List (Exchange κ) → Prop}
    (asks : ∀ f, Act.Adds (ask f) fun found es => found.2.server = f.server ∧ contact f es)
    (heard : Heard ask fs t replies) (last : Option Error) :
    let run := askUntil ask last fs t
    ∃ asked asked' others owns, fs = asked ++ others ∧ run.1.2 = asked' ++ others ∧
      asked'.map Factory.server = asked.map Factory.server ∧
      (∀ i < replies.length, i < asked.length ↔ ∀ other ∈ replies.take i, other.answer? = none) ∧
      run.2.world.exchanges = t.world.exchanges ++ owns.flatten ∧ List.Forall₂ contact asked owns := by
  induction heard generalizing last with
  | nil => exact ⟨[], [], [], [], rfl, rfl, rfl, nofun, (List.append_nil _).symm, .nil⟩
  | @cons f rest t replies length _ ih =>
    obtain ⟨own, added, same, touched⟩ := asks f t
    rw [askUntil, Act.bind_apply]
    rcases turn : ask f t with ⟨⟨reply, f'⟩, t'⟩
    rw [turn] at added same ih
    have goesOn (unanswered : reply.answer? = none) (last : Option Error) :
        let run := askUntil ask last rest t'
        ∃ asked asked' others owns, f :: rest = asked ++ others ∧ f' :: run.1.2 = asked' ++ others ∧
          asked'.map Factory.server = asked.map Factory.server ∧
          (∀ i < replies.length + 1, i < asked.length ↔
            ∀ other ∈ (reply :: replies).take i, other.answer? = none) ∧
          run.2.world.exchanges = t.world.exchanges ++ owns.flatten ∧ List.Forall₂ contact asked owns := by
      obtain ⟨asked, asked', others, owns, split, after, servers, foremost, later, contacts⟩ := ih unanswered last
      refine ⟨f :: asked, f' :: asked', others, own :: owns, ?_, ?_, ?_, ?_, ?_, .cons touched contacts⟩
      · rw [split, List.cons_append]
      · exact congrArg (f' :: ·) after
      · exact congrArg₂ List.cons same servers
      · rintro (_ | i) bound
        · simp
        · simp [unanswered, foremost i (Nat.lt_of_succ_lt_succ bound)]
      · rw [later, List.flatten_cons, ← List.append_assoc]
        exact congrArg (· ++ _) added
    cases reply with
    | answer a =>
      refine ⟨[f], [f'], rest, [own], rfl, rfl, congrArg ([·]) same, ?_, ?_, .cons touched .nil⟩
      · rintro (_ | i) _
        · simp
        · simp [Reply.answer?]
      · rw [List.flatten_singleton]
        exact added
    | nothing => exact goesOn rfl last
    | failure e => exact goesOn rfl (some e)

/-- What the lookup of a user comes to. That something was not found means that the user was not. -/
def userOf : Except Error (List Entry) → Except Error (Option Entry)
  | .ok entries => .ok entries.head?
  | .error e => if e.isNotFound then .ok none else .error e

theorem findUser_userOf (svc : Service σ κ) (mapping : UserMapping) (login : String) (attributes : List String)
    (f : Factory κ) (t : Trace σ) :
    (findUser svc mapping login attributes f t).1.1 = userOf
      (f.lookup svc (mapping.requestFor login f.server.scope attributes) mapping.findMode t).1.1 := by
  rw [findUser, Act.bind_apply, UserMapping.requestFor]
  rcases f.lookup svc _ mapping.findMode t with ⟨⟨found, f'⟩, t'⟩
  cases found with
  | ok entries => rfl
  | error e =>
    dsimp only [userOf]
    split <;> rfl

theorem findUser_of_ok {svc : Service σ κ} {mapping : UserMapping} {login : String} {attributes : List String}
    {f f' : Factory κ} {t t' : Trace σ} {entries : List Entry}
    (looked : f.lookup svc (mapping.requestFor login f.server.scope attributes) mapping.findMode t =
      ((.ok entries, f'), t')) :
    findUser svc mapping login attributes f t = ((.ok entries.head?, f'), t') := by
  rw [UserMapping.requestFor] at looked
  rw [findUser, Act.bind_apply, looked]
  rfl

end Resolver

end DirectoryLogin
