import DirectoryLogin.Proofs.Search.Course
import Mathlib.Logic.Relation

namespace DirectoryLogin

open Relation (ReflTransGen)

variable {σ κ α β : Type}

/-- A change of the world by one call. -/
inductive Service.Call (svc : Service σ κ) (kerberos : Kerberos σ) : σ → σ → Prop
  | connect {env w} : svc.Call kerberos w (svc.connect env w).2
  | search {c base scope filter attributes w} :
    svc.Call kerberos w (svc.search c base scope filter attributes w).2
  | next {c w} : svc.Call kerberos w (svc.next c w).2
  | abandon {c w} : svc.Call kerberos w (svc.abandon c w).2
  | close {c w} : svc.Call kerberos w (svc.close c w).2
  | login {principal password t} : svc.Call kerberos t.world (kerberos principal password t).2.world

abbrev Service.Calls (svc : Service σ κ) (kerberos : Kerberos σ) : σ → σ → Prop :=
  ReflTransGen (svc.Call kerberos)

namespace Act

/-- The act does nothing to the world but what the relation allows, over and over. -/
def Leads (step : σ → σ → Prop) (act : Act σ α) : Prop :=
  ∀ t, ReflTransGen step t.world (act t).2.world

namespace Leads

variable {step : σ → σ → Prop}

theorem pure (a : α) : Leads step (pure a) := fun _ => .refl

theorem bind {act : Act σ α} {next : α → Act σ β} (first : Leads step act)
    (second : ∀ a, Leads step (next a)) : Leads step (act >>= next) :=
  fun t => (first t).trans (second (act t).1 (act t).2)

theorem note (e : Event) : Leads step (note e) := fun _ => .refl

theorem noteAll (es : List Event) : Leads step (noteAll es) := fun _ => .refl

theorem perform {act : σ → α × σ} (allowed : ∀ w, step w (act w).2) : Leads step (perform act) :=
  fun t => .single (allowed t.world)

end Leads

end Act

namespace Search

variable (svc : Service σ κ) (kerberos : Kerberos σ)

theorem abandonQuietly_leads (c : κ) : Act.Leads (svc.Call kerberos) (abandonQuietly svc c) := by
  refine .bind (.perform fun _ => .abandon) fun outcome => ?_
  cases outcome with
  | ok _ => exact .pure _
  | error e => exact .note _

theorem closeQuietly_leads (c : κ) : Act.Leads (svc.Call kerberos) (closeQuietly svc c) := by
  refine .bind (.perform fun _ => .close) fun outcome => ?_
  cases outcome with
  | ok _ => exact .pure _
  | error e => exact .note _

theorem drain_leads (c : κ) (r : Request) (mode : FindMode) (f : Findings) :
    Act.Leads (svc.Call kerberos) (drain svc c r mode f) := by
  intro t
  have one {outcome : Except Error (Option Item)} {w world : σ} (next : svc.next c w = (outcome, world)) :
      svc.Call kerberos w world := by
    have call : svc.Call kerberos w (svc.next c w).2 := .next
    rwa [next] at call
  fun_induction drain svc c r mode f t with
  | case1 f t world t' urls next _ _ ih => exact ih.head (one next)
  | case2 f t world t' e next second => exact (abandonQuietly_leads svc kerberos c t').head (one next)
  | case3 f t world t' e next notSecond f' first =>
    exact (abandonQuietly_leads svc kerberos c t').head (one next)
  | case4 f t world t' e next notSecond f' notFirst _ _ ih => exact ih.head (one next)
  | case5 f t world next => exact .single (one next)
  | case6 f t e world next =>
    exact (abandonQuietly_leads svc kerberos c { t with world }).head (one next)

theorem enumerate_leads (c : κ) (r : Request) (base : String) (mode : FindMode) (f : Findings) :
    Act.Leads (svc.Call kerberos) (enumerate svc c r base mode f) := by
  refine .bind (.perform fun _ => .search) fun outcome => ?_
  cases outcome with
  | ok _ => exact drain_leads svc kerberos c r mode f
  | error e => exact .pure _

theorem openReferral_leads (server : Server) (url : String) :
    Act.Leads (svc.Call kerberos) (openReferral svc server url) := by
  unfold openReferral
  cases Environment.referralUrl url with
  | error e => exact .pure _
  | ok target =>
    refine .bind (.note _) fun _ => .bind (.perform fun _ => .connect) fun outcome => ?_
    cases outcome with
    | ok c => exact .pure _
    | error e => exact .pure _

theorem enumerateReferral_leads (server : Server) (r : Request) (mode : FindMode) (url : String)
    (f : Findings) : Act.Leads (svc.Call kerberos) (enumerateReferral svc server r mode url f) := by
  refine .bind (.note _) fun _ => ?_
  cases referralBase url r.baseDn with
  | error e => exact .pure _
  | ok base =>
    refine .bind (openReferral_leads svc kerberos server url) fun opened => ?_
    cases opened with
    | error e => exact .pure _
    | ok c =>
      exact .bind (enumerate_leads svc kerberos c r base mode f) fun ended =>
        .bind (closeQuietly_leads svc kerberos c) fun _ => .pure _

theorem chase_leads (server : Server) (r : Request) (mode : FindMode) (hops : Nat) (visited : List String)
    (ended : Except Error Ending × Findings) :
    Act.Leads (svc.Call kerberos) (chase svc server r mode hops visited ended) := by
  induction hops, visited, ended using chase_induction svc server r mode with
  | failed hops visited e f => exact .pure _
  | satisfied hops visited f => exact .pure _
  | exhausted hops visited visited' f events next => exact .bind (.noteAll _) fun _ => .pure _
  | tooMany visited visited' f leg events next => exact .bind (.noteAll _) fun _ => .pure _
  | followed hops visited visited' f url pending events next ih =>
    exact .bind (.noteAll _) fun _ =>
      .bind (enumerateReferral_leads svc kerberos server r mode url _) ih

theorem find_leads (server : Server) (c : κ) (r : Request) (mode : FindMode) :
    Act.Leads (svc.Call kerberos) (find svc server c r mode) :=
  .bind (.note _) fun _ => .bind (enumerate_leads svc kerberos c r r.baseDn mode {}) fun ended =>
    chase_leads svc kerberos server r mode maxReferralHops [] ended

end Search

end DirectoryLogin
