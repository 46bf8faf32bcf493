import DirectoryLogin.Proofs.Requested
import DirectoryLogin.Proofs.Search.Abreast
import Mathlib.Data.List.Forall2

namespace DirectoryLogin

variable {σ σ' κ κ' α : Type}

namespace Alike

variable {svc : Service σ κ} {kerberos : Kerberos σ} {svc' : Service σ' κ'} {kerberos' : Kerberos σ'}
  (alike : Alike svc kerberos svc' kerberos')

/-- The factories are those of one server, and their pools go together. -/
def Paired (f : Factory κ) (f' : Factory κ') (w : σ) (w' : σ') : Prop :=
  f'.server = f.server ∧ alike.pooled f.server f.pool f'.pool w w'

theorem paired_lasts (f : Factory κ) (f' : Factory κ') : alike.Lasts (alike.Paired f f') :=
  fun later paired => ⟨paired.1, alike.pooled_lasts _ _ _ later paired.2⟩

/-- The factories are paired in their order. -/
def PairedAll (fs : List (Factory κ)) (fs' : List (Factory κ')) (w : σ) (w' : σ') : Prop :=
  List.Forall₂ (fun f f' => alike.Paired f f' w w') fs fs'

theorem pairedAll_lasts (fs : List (Factory κ)) (fs' : List (Factory κ')) : alike.Lasts (alike.PairedAll fs fs') :=
  fun later paired => paired.imp fun f f' here => alike.paired_lasts f f' later here

theorem abreast_nil {β β' : Type} {act : Act σ β} {act' : List (Factory κ') → Act σ' β'}
    {after : β → β' → σ → σ' → Prop} (abreast : alike.Abreast (alike.PairedAll [] []) act (act' []) after)
    (fs' : List (Factory κ')) : alike.Abreast (alike.PairedAll [] fs') act (act' fs') after := by
  intro t t' ready paired
  cases paired
  exact abreast t t' ready .nil

theorem abreast_cons {β β' : Type} {f : Factory κ} {rest : List (Factory κ)} {act : Act σ β}
    {act' : List (Factory κ') → Act σ' β'} {after : β → β' → σ → σ' → Prop}
    (abreast : ∀ f' rest', alike.Abreast (fun w w' => alike.Paired f f' w w' ∧ alike.PairedAll rest rest' w w')
      act (act' (f' :: rest')) after)
    (fs' : List (Factory κ')) : alike.Abreast (alike.PairedAll (f :: rest) fs') act (act' fs') after := by
  intro t t' ready paired
  cases paired with
  | cons here others => exact abreast _ _ t t' ready ⟨here, others⟩

/-- The resolvers are for one registry, and their factories are paired. -/
def Beside (r : Resolver κ) (r' : Resolver κ') (w : σ) (w' : σ') : Prop :=
  r'.registry = r.registry ∧ alike.PairedAll r.factories r'.factories w w'

/-- What is shown of an entry when these attributes are to be asked for. -/
def shown (attributes : List String) : Entry → Entry :=
  alike.view (if attributes.isEmpty then [Request.noAttributes] else attributes)

theorem shown_values? {attributes : List String} {name : String} (asked : name ∈ attributes) (e : Entry) :
    (alike.shown attributes e).values? name = e.values? name := by
  have some : attributes.isEmpty = false := by
    rw [List.isEmpty_eq_false_iff]
    exact List.ne_nil_of_mem asked
  rw [shown, some]
  exact alike.view_values? e asked

theorem shown_first? {attributes : List String} {name : String} (asked : name ∈ attributes) (e : Entry) :
    (alike.shown attributes e).first? name = e.first? name := by
  rw [Entry.first?, Entry.first?, alike.shown_values? asked]

end Alike

namespace Factory

variable {svc : Service σ κ} {kerberos : Kerberos σ} {svc' : Service σ' κ'} {kerberos' : Kerberos σ'}
  (alike : Alike svc kerberos svc' kerberos')

theorem lookup_abreast (r : Request) (mode : FindMode) (f : Factory κ) (f' : Factory κ') :
    alike.Abreast (alike.Paired f f') (f.lookup svc r mode) (f'.lookup svc' r mode) fun found found' w w' =>
      found'.1 = found.1.map (List.map (alike.view r.wireAttributes)) ∧ alike.Paired found.2 found'.2 w w' := by
  obtain ⟨server, pool⟩ := f
  obtain ⟨server', pool'⟩ := f'
  refine .fact ?_
  dsimp only
  rintro rfl
  refine .bind alike.bind ?_
  rintro ⟨bound, pool⟩ ⟨bound', pool'⟩
  refine .sameWith ?_ ?_
  · rintro e rfl rfl
    exact .pure fun _ _ paired => ⟨rfl, rfl, paired⟩
  · rintro c c' rfl rfl
    have lasts : alike.Lasts fun w w' => alike.held (Environment.bind server') c c' w w' ∧
        alike.pooled server' pool pool' w w' := fun later ⟨held, pooled⟩ =>
      ⟨alike.held_lasts _ _ _ later held, alike.pooled_lasts _ _ _ later pooled⟩
    refine .bind (((Search.find_abreast alike server' r mode).frame lasts).mono
      (fun _ _ ⟨⟨opened, held⟩, pooled⟩ => ⟨opened, held, pooled⟩) fun _ _ _ _ => id) fun found found' => .fact ?_
    rintro rfl
    cases found with
    | ok entries => exact .bind alike.release fun _ _ => .pure fun _ _ paired => ⟨rfl, rfl, paired⟩
    | error e =>
      dsimp only [Except.map]
      split
      · exact .bind alike.discard fun _ _ => .pure fun _ _ paired => ⟨rfl, rfl, paired⟩
      · exact .bind alike.release fun _ _ => .pure fun _ _ paired => ⟨rfl, rfl, paired⟩

theorem checkBind_abreast (server : Server) (principal password : String) : alike.Abreast (fun _ _ => True)
    (checkBind svc server principal password) (checkBind svc' server principal password)
    fun outcome outcome' _ _ => outcome = outcome' := by
  refine .bind (.bind (.note _) fun _ _ => alike.connect _) fun outcome outcome' => .same ?_ ?_
  · rintro e rfl rfl
    cases e with
    | bind reason => exact .bind (.note _) fun _ _ => .pure fun _ _ _ => rfl
    | _ => exact .pure fun _ _ _ => rfl
  · rintro c c' rfl rfl
    refine .bind (alike.close.mono (fun _ _ here => here.2) fun _ _ _ _ => id) fun outcome outcome' => .only ?_
    rintro rfl
    cases outcome with
    | ok _ => exact .pure fun _ _ _ => rfl
    | error e => exact .bind (.note _) fun _ _ => .pure fun _ _ _ => rfl

theorem testConnection_abreast (f : Factory κ) (f' : Factory κ') : alike.Abreast (alike.Paired f f')
    (f.testConnection svc) (f'.testConnection svc') fun result result' w w' =>
      result.1 = result'.1 ∧ alike.Paired result.2 result'.2 w w' := by
  obtain ⟨server, pool⟩ := f
  obtain ⟨server', pool'⟩ := f'
  refine .fact ?_
  dsimp only
  rintro rfl
  unfold testConnection
  dsimp only
  split
  · exact .pure fun _ _ paired => ⟨rfl, rfl, paired⟩
  · refine .bind alike.bind ?_
    rintro ⟨bound, pool⟩ ⟨bound', pool'⟩
    refine .sameWith ?_ ?_
    · rintro e rfl rfl
      exact .bind (.note _) fun _ _ => .pure fun _ _ paired => ⟨rfl, rfl, paired⟩
    · rintro c c' rfl rfl
      refine .bind (alike.release.mono (fun _ _ ⟨⟨_, held⟩, pooled⟩ => ⟨held, pooled⟩) fun _ _ _ _ => id)
        fun _ _ => ?_
      exact .bind (.note _) fun _ _ => .pure fun _ _ paired => ⟨rfl, rfl, paired⟩

theorem closeIdle_abreast (f : Factory κ) (f' : Factory κ') : alike.Abreast (alike.Paired f f')
    (f.closeIdle svc) (f'.closeIdle svc') alike.Paired := by
  obtain ⟨server, pool⟩ := f
  obtain ⟨server', pool'⟩ := f'
  refine .fact ?_
  dsimp only
  rintro rfl
  exact .bind alike.closeIdle fun _ _ => .pure fun _ _ paired => ⟨rfl, paired⟩

end Factory

namespace Resolver

variable {svc : Service σ κ} {kerberos : Kerberos σ} {svc' : Service σ' κ'} {kerberos' : Kerberos σ'}
  (alike : Alike svc kerberos svc' kerberos')

theorem findUser_abreast (mapping : UserMapping) (login : String) (attributes : List String) (f : Factory κ)
    (f' : Factory κ') : alike.Abreast (alike.Paired f f') (findUser svc mapping login attributes f)
      (findUser svc' mapping login attributes f') fun found found' w w' =>
        found'.1 = found.1.map (Option.map (alike.shown attributes)) ∧ alike.Paired found.2 found'.2 w w' := by
  refine .knowing (fun _ _ paired => paired.1) fun same => ?_
  unfold findUser
  rw [same]
  refine .bind (Factory.lookup_abreast alike _ mapping.findMode f f') ?_
  rintro ⟨found, g⟩ ⟨found', g'⟩
  refine .fact ?_
  rintro rfl
  cases found with
  | ok entries => exact .pure fun _ _ paired => ⟨congrArg Except.ok List.head?_map, paired⟩
  | error e =>
    refine .knowing (fun _ _ paired => paired.1) fun same => ?_
    dsimp only [Except.map]
    rw [same]
    split
    · exact .bind (.note _) fun _ _ => .pure fun _ _ paired => ⟨rfl, paired⟩
    · exact .pure fun _ _ paired => ⟨rfl, paired⟩

/-- Both runs come to the same reply. -/
def AsksAlike (ask : Question σ κ α) (ask' : Question σ' κ' α) : Prop :=
  ∀ f f', alike.Abreast (alike.Paired f f') (ask f) (ask' f') fun found found' w w' =>
    found.1 = found'.1 ∧ alike.Paired found.2 found'.2 w w'

theorem principalOf_abreast (login : String) :
    AsksAlike alike (principalOf svc login) (principalOf svc' login) := by
  intro f f'
  refine .knowing (fun _ _ paired => paired.1) fun same => ?_
  unfold principalOf
  rw [same]
  split
  · exact .pure fun _ _ paired => ⟨rfl, paired⟩
  · cases f.server.userMapping with
    | none => exact .bind (.note _) fun _ _ => .pure fun _ _ paired => ⟨rfl, paired⟩
    | some mapping =>
      refine .bind (findUser_abreast alike mapping login [] f f') ?_
      rintro ⟨found, g⟩ ⟨found', g'⟩
      refine .fact ?_
      rintro rfl
      rcases found with e | _ | entry
      · exact .bind (.note _) fun _ _ => .pure fun _ _ paired => ⟨rfl, paired⟩
      · exact .bind (.note _) fun _ _ => .pure fun _ _ paired => ⟨rfl, paired⟩
      · exact .pure fun _ _ paired => ⟨congrArg Reply.answer (alike.view_dn _ entry).symm, paired⟩

theorem checkPassword_abreast (server : Server) (principal password : String) : alike.Abreast (fun _ _ => True)
    (checkPassword svc kerberos server principal password)
    (checkPassword svc' kerberos' server principal password) fun outcome outcome' _ _ => outcome = outcome' := by
  unfold checkPassword
  split
  · exact alike.login _ password
  · exact Factory.checkBind_abreast alike server principal password

theorem accepts_abreast (login password : String) :
    AsksAlike alike (accepts svc kerberos login password) (accepts svc' kerberos' login password) := by
  intro f f'
  refine .bind (principalOf_abreast alike login f f') ?_
  rintro ⟨who, g⟩ ⟨who', g'⟩
  refine .fact ?_
  rintro rfl
  refine .knowing (fun _ _ paired => paired.1) fun same => ?_
  dsimp only
  cases who with
  | nothing => exact .pure fun _ _ paired => ⟨rfl, paired⟩
  | failure e => exact .pure fun _ _ paired => ⟨rfl, paired⟩
  | answer principal =>
    rw [same]
    refine .bind (((checkPassword_abreast alike g.server principal password).frame
      (alike.paired_lasts g g')).mono (fun _ _ paired => ⟨trivial, paired⟩) fun _ _ _ _ => id)
      fun outcome outcome' => .fact ?_
    rintro rfl
    rcases outcome with e | _ | _
    · exact .bind (.note _) fun _ _ => .pure fun _ _ paired => ⟨rfl, paired⟩
    · exact .bind (.note _) fun _ _ => .pure fun _ _ paired => ⟨rfl, paired⟩
    · exact .bind (.note _) fun _ _ => .pure fun _ _ paired => ⟨rfl, paired⟩

/-- All that a profile needs is asked for. -/
theorem detailsOn_abreast (login : String) :
    AsksAlike alike (detailsOn svc login) (detailsOn svc' login) := by
  intro f f'
  refine .knowing (fun _ _ paired => paired.1) fun same => ?_
  unfold detailsOn
  rw [same]
  cases f.server.userMapping with
  | none => exact .pure fun _ _ paired => ⟨rfl, paired⟩
  | some mapping =>
    refine .bind (findUser_abreast alike mapping login _ f f') ?_
    rintro ⟨found, g⟩ ⟨found', g'⟩
    refine .fact ?_
    rintro rfl
    rcases found with e | _ | entry
    · exact .bind (.note _) fun _ _ => .pure fun _ _ paired => ⟨rfl, paired⟩
    · exact .bind (.note _) fun _ _ => .pure fun _ _ paired => ⟨rfl, paired⟩
    · refine .pure fun _ _ paired => ⟨?_, paired⟩
      rw [alike.shown_first? List.mem_cons_self entry,
        alike.shown_first? (List.mem_cons_of_mem _ List.mem_cons_self) entry]

end Resolver

/-- All that the request for groups needs of a user is asked for. -/
theorem Alike.search_shown {svc : Service σ κ} {kerberos : Kerberos σ} {svc' : Service σ' κ'} {kerberos' : Kerberos σ'}
    (alike : Alike svc kerberos svc' kerberos') (groups : GroupMapping) (user : Entry) :
    groups.search (alike.shown groups.requiredAttributes user) = groups.search user := by
  have values : groups.valuesOf (alike.shown groups.requiredAttributes user) = groups.valuesOf user := by
    refine congrArg Dictionary.ofList (List.filterMap_congr fun name placeholder => ?_)
    have value : (alike.shown groups.requiredAttributes user).value? name = user.value? name := by
      unfold Entry.value?
      split
      · exact congrArg some (alike.view_dn _ user)
      · next notDn => exact alike.shown_first? (GroupMapping.mem_requiredAttributes placeholder notDn) user
    rw [value]
  rw [GroupMapping.search, GroupMapping.search, values]

namespace Resolver

variable {svc : Service σ κ} {kerberos : Kerberos σ} {svc' : Service σ' κ'} {kerberos' : Kerberos σ'}
  (alike : Alike svc kerberos svc' kerberos')

theorem groupsOn_abreast (login : String) : AsksAlike alike (groupsOn svc login) (groupsOn svc' login) := by
  intro f f'
  refine .knowing (fun _ _ paired => paired.1) fun same => ?_
  unfold groupsOn
  rw [same]
  cases f.server.userMapping with
  | none => exact .bind (.note _) fun _ _ => .pure fun _ _ paired => ⟨rfl, paired⟩
  | some users =>
    cases f.server.groupMapping with
    | none => exact .bind (.note _) fun _ _ => .pure fun _ _ paired => ⟨rfl, paired⟩
    | some groups =>
      refine .bind (findUser_abreast alike users login _ f f') ?_
      rintro ⟨found, g⟩ ⟨found', g'⟩
      refine .fact ?_
      rintro rfl
      refine .knowing (fun _ _ paired => paired.1) fun same => ?_
      dsimp only
      rw [same]
      rcases found with e | _ | user
      · exact .bind (.note _) fun _ _ => .pure fun _ _ paired => ⟨rfl, paired⟩
      · exact .bind (.note _) fun _ _ => .pure fun _ _ paired => ⟨rfl, paired⟩
      · dsimp only [Except.map, Option.map]
        rw [alike.search_shown groups user]
        refine .bind (Factory.lookup_abreast alike _ .all g g') ?_
        rintro ⟨found, h⟩ ⟨found', h'⟩
        refine .fact ?_
        rintro rfl
        cases found with
        | ok entries =>
          have named (e : Entry) : (alike.shown [groups.idAttribute] e).values? groups.idAttribute =
              e.values? groups.idAttribute := alike.shown_values? List.mem_cons_self e
          refine .pure fun _ _ paired => ⟨congrArg Reply.answer ?_, paired⟩
          rw [List.flatMap_map]
          exact congrArg (List.flatMap · entries) (funext fun e => by rw [← named e]; rfl)
        | error e => exact .bind (.note _) fun _ _ => .pure fun _ _ paired => ⟨rfl, paired⟩

variable {alike}

/-- The other factories are paired still when the first one has been used. -/
theorem first_abreast {γ : Type} {act : Act σ (γ × Factory κ)} {act' : Act σ' (γ × Factory κ')} {f : Factory κ}
    {f' : Factory κ'} (abreast : alike.Abreast (alike.Paired f f') act act' fun found found' w w' =>
      found.1 = found'.1 ∧ alike.Paired found.2 found'.2 w w')
    (rest : List (Factory κ)) (rest' : List (Factory κ')) :
    alike.Abreast (fun w w' => alike.Paired f f' w w' ∧ alike.PairedAll rest rest' w w') act act'
      fun found found' w w' => found.1 = found'.1 ∧ alike.Paired found.2 found'.2 w w' ∧
        alike.PairedAll rest rest' w w' :=
  (abreast.frame (alike.pairedAll_lasts rest rest')).mono (fun _ _ => id)
    fun _ _ _ _ ⟨⟨same, paired⟩, others⟩ => ⟨same, paired, others⟩

/-- The first factory is paired still when the others have been used. -/
theorem others_abreast {γ : Type} {act : Act σ (γ × List (Factory κ))} {act' : Act σ' (γ × List (Factory κ'))}
    {rest : List (Factory κ)} {rest' : List (Factory κ')}
    (abreast : alike.Abreast (alike.PairedAll rest rest') act act' fun found found' w w' =>
      found.1 = found'.1 ∧ alike.PairedAll found.2 found'.2 w w') (f : Factory κ) (f' : Factory κ') :
    alike.Abreast (fun w w' => alike.Paired f f' w w' ∧ alike.PairedAll rest rest' w w') act act'
      fun found found' w w' => found.1 = found'.1 ∧ alike.PairedAll (f :: found.2) (f' :: found'.2) w w' :=
  (abreast.frame (alike.paired_lasts f f')).mono (fun _ _ => And.symm)
    fun _ _ _ _ ⟨⟨same, others⟩, paired⟩ => ⟨same, .cons paired others⟩

theorem askUntil_abreast {ask : Question σ κ α} {ask' : Question σ' κ' α} (asks : AsksAlike alike ask ask')
    (last : Option Error) (fs : List (Factory κ)) (fs' : List (Factory κ')) :
    alike.Abreast (alike.PairedAll fs fs') (askUntil ask last fs) (askUntil ask' last fs') fun found found' w w' =>
      found.1 = found'.1 ∧ alike.PairedAll found.2 found'.2 w w' := by
  induction fs generalizing fs' last with
  | nil =>
    refine alike.abreast_nil ?_ fs'
    exact .pure fun _ _ none => ⟨rfl, none⟩
  | cons f rest ih =>
    refine alike.abreast_cons (fun f' rest' => ?_) fs'
    refine .bind (first_abreast (asks f f') rest rest') ?_
    rintro ⟨reply, g⟩ ⟨reply', g'⟩
    refine .fact ?_
    rintro rfl
    cases reply with
    | answer a => exact .pure fun _ _ ⟨paired, others⟩ => ⟨rfl, .cons paired others⟩
    | nothing => exact .bind (others_abreast (ih last rest') g g') fun _ _ => .pure fun _ _ => id
    | failure e => exact .bind (others_abreast (ih (some e) rest') g g') fun _ _ => .pure fun _ _ => id

theorem askAll_abreast {ask : Question σ κ α} {ask' : Question σ' κ' α} (asks : AsksAlike alike ask ask')
    (last : Option Error) (fs : List (Factory κ)) (fs' : List (Factory κ')) :
    alike.Abreast (alike.PairedAll fs fs') (askAll ask last fs) (askAll ask' last fs') fun found found' w w' =>
      found.1 = found'.1 ∧ alike.PairedAll found.2 found'.2 w w' := by
  induction fs generalizing fs' last with
  | nil =>
    refine alike.abreast_nil ?_ fs'
    exact .pure fun _ _ none => ⟨rfl, none⟩
  | cons f rest ih =>
    refine alike.abreast_cons (fun f' rest' => ?_) fs'
    refine .bind (first_abreast (asks f f') rest rest') ?_
    rintro ⟨reply, g⟩ ⟨reply', g'⟩
    refine .fact ?_
    rintro rfl
    refine .bind (others_abreast (ih _ rest') g g') ?_
    rintro ⟨found, gs⟩ ⟨found', gs'⟩
    refine .fact ?_
    rintro rfl
    exact .pure fun _ _ paired => ⟨rfl, paired⟩

variable (alike)

theorem testEach_abreast (fs : List (Factory κ)) (fs' : List (Factory κ')) :
    alike.Abreast (alike.PairedAll fs fs') (testEach svc fs) (testEach svc' fs') fun found found' w w' =>
      found.1 = found'.1 ∧ alike.PairedAll found.2 found'.2 w w' := by
  induction fs generalizing fs' with
  | nil =>
    refine alike.abreast_nil ?_ fs'
    exact .pure fun _ _ none => ⟨rfl, none⟩
  | cons f rest ih =>
    refine alike.abreast_cons (fun f' rest' => ?_) fs'
    refine .bind (first_abreast (Factory.testConnection_abreast alike f f') rest rest') ?_
    rintro ⟨result, g⟩ ⟨result', g'⟩
    refine .fact ?_
    rintro rfl
    refine .knowing (fun _ _ start => start.1.1) fun same => ?_
    refine .bind (others_abreast (ih rest') g g') ?_
    rintro ⟨results, gs⟩ ⟨results', gs'⟩
    refine .fact ?_
    rintro rfl
    exact .pure fun _ _ paired => ⟨by rw [same], paired⟩

/-- Both runs close the pools of all servers. -/
theorem closeEach_abreast (fs : List (Factory κ)) (fs' : List (Factory κ')) :
    alike.Abreast (alike.PairedAll fs fs') (fs.mapM (Factory.closeIdle svc)) (fs'.mapM (Factory.closeIdle svc'))
      alike.PairedAll := by
  induction fs generalizing fs' with
  | nil =>
    refine alike.abreast_nil ?_ fs'
    exact .pure fun _ _ => id
  | cons f rest ih =>
    refine alike.abreast_cons (fun f' rest' => ?_) fs'
    rw [List.mapM_cons, List.mapM_cons]
    refine .bind ((Factory.closeIdle_abreast alike f f').frame (alike.pairedAll_lasts rest rest')) fun g g' => ?_
    refine .bind (((ih rest').frame (alike.paired_lasts g g')).mono (fun _ _ => And.symm) fun _ _ _ _ => id)
      fun gs gs' => ?_
    exact .pure fun _ _ ⟨others, paired⟩ => .cons paired others

theorem authenticate_abreast (login password : String) (r : Resolver κ) (r' : Resolver κ') :
    alike.Abreast (alike.Beside r r') (authenticate svc kerberos login password r)
      (authenticate svc' kerberos' login password r') fun found found' w w' =>
        found.1 = found'.1 ∧ alike.Beside found.2 found'.2 w w' := by
  unfold authenticate
  split
  · exact .bind (.note _) fun _ _ => .pure fun _ _ beside => ⟨rfl, beside⟩
  · refine .fact fun registry => ?_
    refine .bind (askUntil_abreast (accepts_abreast alike login password) none r.factories r'.factories) ?_
    rintro ⟨reply, fs⟩ ⟨reply', fs'⟩
    refine .fact ?_
    rintro rfl
    cases reply with
    | answer _ => exact .pure fun _ _ paired => ⟨rfl, registry, paired⟩
    | nothing => exact .pure fun _ _ paired => ⟨rfl, registry, paired⟩
    | failure e => exact .bind (.note _) fun _ _ => .pure fun _ _ paired => ⟨rfl, registry, paired⟩

theorem userDetails_abreast (login : String) (r : Resolver κ) (r' : Resolver κ') :
    alike.Abreast (alike.Beside r r') (userDetails svc login r) (userDetails svc' login r') fun found found' w w' =>
      found.1 = found'.1 ∧ alike.Beside found.2 found'.2 w w' := by
  refine .fact fun registry => ?_
  refine .bind (.note _) fun _ _ => ?_
  refine .bind (askUntil_abreast (detailsOn_abreast alike login) none r.factories r'.factories) ?_
  rintro ⟨reply, fs⟩ ⟨reply', fs'⟩
  refine .fact ?_
  rintro rfl
  cases reply with
  | answer _ => exact .pure fun _ _ paired => ⟨rfl, registry, paired⟩
  | nothing => exact .pure fun _ _ paired => ⟨rfl, registry, paired⟩
  | failure e => exact .pure fun _ _ paired => ⟨rfl, registry, paired⟩

theorem groups_abreast (login : String) (r : Resolver κ) (r' : Resolver κ') :
    alike.Abreast (alike.Beside r r') (groups svc login r) (groups svc' login r') fun found found' w w' =>
      found.1 = found'.1 ∧ alike.Beside found.2 found'.2 w w' := by
  refine .fact fun registry => ?_
  unfold groups
  rw [registry]
  split
  · exact .pure fun _ _ paired => ⟨rfl, registry, paired⟩
  · refine .bind (.note _) fun _ _ => ?_
    refine .bind (askAll_abreast (groupsOn_abreast alike login) none r.factories r'.factories) ?_
    rintro ⟨⟨answers, last⟩, fs⟩ ⟨found', fs'⟩
    refine .fact ?_
    rintro rfl
    cases answers <;> cases last <;> exact .pure fun _ _ paired => ⟨rfl, rfl, paired⟩

theorem testConnections_abreast (r : Resolver κ) (r' : Resolver κ') :
    alike.Abreast (alike.Beside r r') (testConnections svc r) (testConnections svc' r') fun found found' w w' =>
      found.1 = found'.1 ∧ alike.Beside found.2 found'.2 w w' := by
  refine .fact fun registry => ?_
  refine .bind (testEach_abreast alike r.factories r'.factories) ?_
  rintro ⟨results, fs⟩ ⟨results', fs'⟩
  refine .fact ?_
  rintro rfl
  exact .pure fun _ _ paired => ⟨rfl, registry, paired⟩

theorem close_abreast (r : Resolver κ) (r' : Resolver κ') :
    alike.Abreast (alike.Beside r r') (close svc r) (close svc' r') alike.Beside := by
  refine .fact fun registry => ?_
  exact .bind (closeEach_abreast alike r.factories r'.factories) fun _ _ => .pure fun _ _ paired =>
    ⟨registry, paired⟩

end Resolver

end DirectoryLogin
