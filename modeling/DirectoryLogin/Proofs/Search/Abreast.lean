import DirectoryLogin.Proofs.Abreast
import DirectoryLogin.Proofs.Search.Course

namespace DirectoryLogin

variable {σ σ' κ κ' : Type}

/-- Findings with their entries seen in some way. -/
def Search.Findings.through (view : Entry → Entry) (f : Findings) : Findings :=
  { f with entries := f.entries.map view }

namespace Search.Findings

variable (view : Entry → Entry) (f : Findings)

theorem isEmpty_through : (f.through view).entries.isEmpty = f.entries.isEmpty := by
  simp [through]

theorem append_through (e : Entry) : { f.through view with
    entries := (f.through view).entries ++ [view e] } = { f with entries := f.entries ++ [e] }.through view := by
  simp [through]

end Search.Findings

namespace Search

variable {svc : Service σ κ} {kerberos : Kerberos σ} {svc' : Service σ' κ'} {kerberos' : Kerberos σ'}
  (alike : Alike svc kerberos svc' kerberos') {c : κ} {c' : κ'} {env : Environment}

theorem abandonQuietly_abreast {attributes : List String} : alike.Abreast (alike.running attributes c c')
    (abandonQuietly svc c) (abandonQuietly svc' c') fun _ _ _ _ => True := by
  refine .bind alike.abandon fun outcome outcome' => .only ?_
  rintro rfl
  cases outcome with
  | ok _ => exact .pure fun _ _ => id
  | error e => exact .note _

theorem closeQuietly_abreast : alike.Abreast (alike.held env c c')
    (closeQuietly svc c) (closeQuietly svc' c') fun _ _ _ _ => True := by
  refine .bind alike.close fun outcome outcome' => .only ?_
  rintro rfl
  cases outcome with
  | ok _ => exact .pure fun _ _ => id
  | error e => exact .note _

theorem drain_abreast (r : Request) (mode : FindMode) (f : Findings) :
    alike.Abreast (alike.running r.wireAttributes c c') (drain svc c r mode f)
      (drain svc' c' r mode (f.through (alike.view r.wireAttributes))) fun ended ended' _ _ =>
        ended' = (ended.1, ended.2.through (alike.view r.wireAttributes)) := by
  intro t t' ready runs
  fun_induction drain svc c r mode f t generalizing t' with
  | case1 f t world _ urls next _ _ ih =>
    obtain ⟨world', next', ready, later, runs⟩ := alike.next_eq ready runs next
    obtain ⟨readyLast, laterLast, same⟩ := ih { t' with world := world' } ready runs
    rw [drain_eq svc' c', next']
    exact ⟨readyLast, alike.trans later laterLast, same⟩
  | case2 f t world _ e next second =>
    obtain ⟨world', next', ready, later, runs⟩ := alike.next_eq ready runs next
    obtain ⟨readyLast, laterLast, -⟩ := abandonQuietly_abreast alike _ { t' with world := world' } ready runs
    rw [← f.isEmpty_through (alike.view r.wireAttributes)] at second
    rw [drain_eq svc' c', next']
    simp only [Except.map, Option.map, Item.through, if_pos second]
    exact ⟨readyLast, alike.trans later laterLast, trivial⟩
  | case3 f t world _ e next notSecond f' first =>
    obtain ⟨world', next', ready, later, runs⟩ := alike.next_eq ready runs next
    obtain ⟨readyLast, laterLast, -⟩ := abandonQuietly_abreast alike _ { t' with world := world' } ready runs
    rw [← f.isEmpty_through (alike.view r.wireAttributes)] at notSecond
    rw [drain_eq svc' c', next']
    simp only [Except.map, Option.map, Item.through, if_neg notSecond, if_pos first]
    exact ⟨readyLast, alike.trans later laterLast, congrArg _ (f.append_through _ e)⟩
  | case4 f t world _ e next notSecond f' notFirst _ _ ih =>
    obtain ⟨world', next', ready, later, runs⟩ := alike.next_eq ready runs next
    obtain ⟨readyLast, laterLast, same⟩ := ih { t' with world := world' } ready runs
    rw [← f.isEmpty_through (alike.view r.wireAttributes)] at notSecond
    rw [drain_eq svc' c', next']
    simp only [Except.map, Option.map, Item.through, if_neg notSecond, if_neg notFirst]
    rw [Findings.append_through]
    exact ⟨readyLast, alike.trans later laterLast, same⟩
  | case5 f t world next =>
    obtain ⟨world', next', ready, later, runs⟩ := alike.next_eq ready runs next
    rw [drain_eq svc' c', next']
    exact ⟨ready, later, rfl⟩
  | case6 f t e world next =>
    obtain ⟨world', next', ready, later, runs⟩ := alike.next_eq ready runs next
    obtain ⟨readyLast, laterLast, -⟩ := abandonQuietly_abreast alike _ { t' with world := world' } ready runs
    rw [drain_eq svc' c', next']
    exact ⟨readyLast, alike.trans later laterLast, rfl⟩

theorem enumerate_abreast (r : Request) (base : String) (mode : FindMode) (f : Findings) :
    alike.Abreast (alike.opened c c') (enumerate svc c r base mode f)
      (enumerate svc' c' r base mode (f.through (alike.view r.wireAttributes))) fun ended ended' _ _ =>
        ended' = (ended.1, ended.2.through (alike.view r.wireAttributes)) := by
  refine .bind (alike.search base r.scope r.filter r.wireAttributes) fun outcome outcome' => .fact ?_
  rintro rfl
  cases outcome with
  | ok _ => exact (drain_abreast alike r mode f).mono (fun _ _ runs => runs rfl) fun _ _ _ _ => id
  | error e => exact .pure fun _ _ _ => rfl

theorem openReferral_abreast (server : Server) (url : String) : alike.Abreast (fun _ _ => True)
    (openReferral svc server url) (openReferral svc' server url) fun opened opened' w w' =>
      Same (fun c c' => ∃ env, alike.opened c c' w w' ∧ alike.held env c c' w w') opened opened' := by
  unfold openReferral
  cases Environment.referralUrl url with
  | error e => exact .pure fun _ _ _ => .failed
  | ok target =>
    refine .bind (.note _) fun _ _ => .bind (alike.connect _) fun outcome outcome' => .same ?_ ?_
    · rintro e rfl rfl
      exact .pure fun _ _ _ => .failed
    · rintro c c' rfl rfl
      exact .pure fun _ _ here => .done ⟨_, here⟩

theorem enumerateReferral_abreast (server : Server) (r : Request) (mode : FindMode) (url : String)
    (f : Findings) : alike.Abreast (fun _ _ => True) (enumerateReferral svc server r mode url f)
      (enumerateReferral svc' server r mode url (f.through (alike.view r.wireAttributes)))
      fun ended ended' _ _ => ended' = (ended.1, ended.2.through (alike.view r.wireAttributes)) := by
  refine .bind (.note _) fun _ _ => ?_
  cases referralBase url r.baseDn with
  | error e => exact .pure fun _ _ _ => rfl
  | ok base =>
    refine .bind (openReferral_abreast alike server url) fun outcome outcome' => .same ?_ ?_
    · rintro e rfl rfl
      exact .pure fun _ _ _ => rfl
    · rintro c c' rfl rfl
      refine .ofExists fun env => ?_
      refine .bind ((enumerate_abreast alike r base mode f).frame (alike.held_lasts env c c')) ?_
      refine fun ended ended' => .fact ?_
      rintro rfl
      exact .bind (closeQuietly_abreast alike) fun _ _ => .pure fun _ _ _ => rfl

theorem chase_abreast (server : Server) (r : Request) (mode : FindMode) (hops : Nat) (visited : List String)
    (ended : Except Error Ending × Findings) : alike.Abreast (fun _ _ => True)
      (chase svc server r mode hops visited ended)
      (chase svc' server r mode hops visited (ended.1, ended.2.through (alike.view r.wireAttributes)))
      fun found found' _ _ => found' = found.map (List.map (alike.view r.wireAttributes)) := by
  induction hops, visited, ended using chase_induction svc server r mode with
  | failed hops visited e f =>
    rw [chase]
    exact .pure fun _ _ _ => rfl
  | satisfied hops visited f =>
    rw [chase]
    exact .pure fun _ _ _ => rfl
  | exhausted hops visited visited' f events next =>
    have next' : nextReferral server.referralPolicy visited
        (f.through (alike.view r.wireAttributes)).pending = _ := next
    rw [chase, next']
    exact .bind (.noteAll _) fun _ _ => .pure fun _ _ _ => rfl
  | tooMany visited visited' f leg events next =>
    have next' : nextReferral server.referralPolicy visited
        (f.through (alike.view r.wireAttributes)).pending = _ := next
    rw [chase, next']
    exact .bind (.noteAll _) fun _ _ => .pure fun _ _ _ => rfl
  | followed hops visited visited' f url pending events next ih =>
    have next' : nextReferral server.referralPolicy visited
        (f.through (alike.view r.wireAttributes)).pending = _ := next
    rw [chase, next']
    refine .bind (.noteAll _) fun _ _ => ?_
    refine .bind (enumerateReferral_abreast alike server r mode url { f with pending }) fun ended ended' => .only ?_
    rintro rfl
    exact ih ended

/-- What is found on the second connection is what is found on the first one, as far as it is shown. -/
theorem find_abreast (server : Server) (r : Request) (mode : FindMode) : alike.Abreast (alike.opened c c')
    (find svc server c r mode) (find svc' server c' r mode) fun found found' _ _ =>
      found' = found.map (List.map (alike.view r.wireAttributes)) := by
  refine .bind (.note _) fun _ _ => ?_
  refine .bind (enumerate_abreast alike r r.baseDn mode {}) fun ended ended' => .only ?_
  rintro rfl
  exact chase_abreast alike server r mode maxReferralHops [] ended

end Search

end DirectoryLogin
