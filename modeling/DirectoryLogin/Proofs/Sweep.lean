import DirectoryLogin.Proofs.Pool.Upkeep

namespace DirectoryLogin

variable {σ κ α : Type}

/-- What a resolver may be asked to do. -/
inductive Operation
  | authenticate (login password : String)
  | userDetails (login : String)
  | groups (login : String)
  | testConnections
  | close

namespace Operation

/-- What is left of an operation when its answer is given away. -/
def perform (svc : Service σ κ) (kerberos : Kerberos σ) (r : Resolver κ) : Operation → Act σ (Resolver κ)
  | authenticate login password => do return (← r.authenticate svc kerberos login password).2
  | userDetails login => do return (← r.userDetails svc login).2
  | groups login => do return (← r.groups svc login).2
  | testConnections => do return (← r.testConnections svc).2
  | close => r.close svc

def performAll (svc : Service σ κ) (kerberos : Kerberos σ) : List Operation → Resolver κ → Act σ (Resolver κ)
  | [], r => return r
  | operation :: rest, r => do performAll svc kerberos rest (← operation.perform svc kerberos r)

theorem perform_mirrors (svc : Service σ κ) (kerberos : Kerberos σ) (r : Resolver (Line κ))
    (operation : Operation) :
    Act.Mirrors Resolver.plain (operation.perform svc.witnessed kerberos.witnessed r)
      (operation.perform svc kerberos r.plain) := by
  cases operation with
  | authenticate login password =>
    exact .bind (r.authenticate_mirrors svc kerberos login password) fun _ => .pure rfl
  | userDetails login => exact .bind (r.userDetails_mirrors svc login) fun _ => .pure rfl
  | groups login => exact .bind (r.groups_mirrors svc login) fun _ => .pure rfl
  | testConnections => exact .bind (r.testConnections_mirrors svc) fun _ => .pure rfl
  | close => exact r.close_mirrors svc

theorem performAll_mirrors (svc : Service σ κ) (kerberos : Kerberos σ) (operations : List Operation)
    (r : Resolver (Line κ)) :
    Act.Mirrors Resolver.plain (performAll svc.witnessed kerberos.witnessed operations r)
      (performAll svc kerberos operations r.plain) := by
  induction operations generalizing r with
  | nil => exact .pure rfl
  | cons operation rest ih => exact .bind (perform_mirrors svc kerberos r operation) ih

end Operation

section Questions

variable (svc : Service σ κ) (kerberos : Kerberos σ) (f : Factory (Line κ))

namespace Factory

theorem closeIdle_tends : Act.Tends svc kerberos (.away, f) (f.closeIdle svc.witnessed) fun f' => (.away, f') :=
  .bind (Pool.closeIdle_tends svc kerberos f) fun _ => .pure rfl

theorem checkBind_leads (server : Server) (principal password : String) :
    Act.Leads (svc.Call kerberos) (checkBind svc server principal password) := by
  refine .bind (.bind (.note _) fun _ => .perform fun _ => .connect) fun outcome => ?_
  cases outcome with
  | ok c =>
    refine .bind (.perform fun _ => .close) fun outcome => ?_
    cases outcome with
    | ok _ => exact .pure _
    | error e => exact .bind (.note _) fun _ => .pure _
  | error e =>
    cases e with
    | bind reason => exact .bind (.note _) fun _ => .pure _
    | _ => exact .pure _

end Factory

namespace Resolver

theorem findUser_tends (mapping : UserMapping) (login : String) (attributes : List String) :
    f.Tends svc kerberos (findUser svc.witnessed mapping login attributes f) := by
  refine .bind (Factory.lookup_tends svc kerberos f _ mapping.findMode) fun found f' free => ?_
  cases found with
  | ok entries => exact .pure rfl
  | error e =>
    dsimp only
    split
    · exact .andThen (fun _ => rfl) fun _ => .pure rfl
    · exact .pure rfl

theorem principalOf_tends (login : String) :
    f.Tends svc kerberos (principalOf svc.witnessed login f) := by
  unfold principalOf
  split
  · exact fun free => .pure rfl
  · cases f.server.userMapping with
    | none => exact fun free => .andThen (fun _ => rfl) fun _ => .pure rfl
    | some mapping =>
      refine .bind (findUser_tends svc kerberos f mapping login []) fun found f' free => ?_
      rcases found with e | _ | entry
      · exact .andThen (fun _ => rfl) fun _ => .pure rfl
      · exact .andThen (fun _ => rfl) fun _ => .pure rfl
      · exact .pure rfl

theorem checkPassword_guests (server : Server) (principal password : String) :
    Act.Adds (checkPassword svc.witnessed kerberos.witnessed server principal password)
      fun _ es => Guests server [] es := by
  unfold checkPassword
  split
  · exact fun t => ⟨[], (List.append_nil _).symm, .nil⟩
  · exact Factory.checkBind_guests svc server principal password

theorem checkPassword_leads (server : Server) (principal password : String) :
    Act.Leads (svc.Call kerberos) (checkPassword svc kerberos server principal password) := by
  unfold checkPassword
  split
  · exact fun t => .single .login
  · exact Factory.checkBind_leads svc kerberos server principal password

theorem accepts_tends (login password : String) :
    f.Tends svc kerberos (accepts svc.witnessed kerberos.witnessed login password f) := by
  refine .bind (principalOf_tends svc kerberos f login) fun who f' free => ?_
  cases who with
  | nothing => exact .pure rfl
  | failure e => exact .pure rfl
  | answer principal =>
    refine .bind (.guests (checkPassword_leads _ _ f'.server principal password)
      (checkPassword_guests svc kerberos f'.server principal password)) fun outcome => ?_
    rcases outcome with e | _ | _
    · exact .andThen (fun _ => rfl) fun _ => .pure rfl
    · exact .andThen (fun _ => rfl) fun _ => .pure rfl
    · exact .andThen (fun _ => rfl) fun _ => .pure rfl

theorem detailsOn_tends (login : String) : f.Tends svc kerberos (detailsOn svc.witnessed login f) := by
  unfold detailsOn
  cases f.server.userMapping with
  | none => exact fun free => .pure rfl
  | some mapping =>
    refine .bind (findUser_tends svc kerberos f mapping login _) fun found f' free => ?_
    rcases found with e | _ | entry
    · exact .andThen (fun _ => rfl) fun _ => .pure rfl
    · exact .andThen (fun _ => rfl) fun _ => .pure rfl
    · exact .pure rfl

theorem groupsOn_tends (login : String) : f.Tends svc kerberos (groupsOn svc.witnessed login f) := by
  unfold groupsOn
  cases f.server.userMapping with
  | none => exact fun free => .andThen (fun _ => rfl) fun _ => .pure rfl
  | some users =>
    cases f.server.groupMapping with
    | none => exact fun free => .andThen (fun _ => rfl) fun _ => .pure rfl
    | some groups =>
      refine .bind (findUser_tends svc kerberos f users login _) fun found f' free => ?_
      rcases found with e | _ | user
      · exact .andThen (fun _ => rfl) fun _ => .pure rfl
      · exact .andThen (fun _ => rfl) fun _ => .pure rfl
      · refine Factory.Tends.bind (Factory.lookup_tends svc kerberos f' _ .all) (fun found f'' _ => ?_) free
        cases found with
        | ok entries => exact .pure rfl
        | error e => exact .andThen (fun _ => rfl) fun _ => .pure rfl

end Resolver

end Questions

/-- From one world to another, a caller comes to some factories in turn, and tends to each of them. -/
inductive Swept (svc : Service σ κ) (kerberos : Kerberos σ) : List (Factory (Line κ)) → Witnessed σ κ →
    List (List (Exchange κ)) → List (Factory (Line κ)) → Witnessed σ κ → Prop
  | nil {w} : Swept svc kerberos [] w [] [] w
  | cons {f w own f' between rest owns rest' w'} (same : f'.server = f.server)
    (tended : Tended svc kerberos f.server (f.turn .away w) own (f'.turn .away between))
    (later : Swept svc kerberos rest between owns rest' w') :
    Swept svc kerberos (f :: rest) w (own :: owns) (f' :: rest') w'

theorem Swept.refl (svc : Service σ κ) (kerberos : Kerberos σ) (fs : List (Factory (Line κ)))
    (w : Witnessed σ κ) : ∃ owns, Swept svc kerberos fs w owns fs w := by
  induction fs with
  | nil => exact ⟨[], .nil⟩
  | cons f rest ih =>
    obtain ⟨owns, later⟩ := ih
    exact ⟨[] :: owns, .cons rfl (.refl _) later⟩

/-- The act sweeps over the factories, all of which are free before. -/
def Act.Sweeps (svc : Service σ κ) (kerberos : Kerberos σ) (fs : List (Factory (Line κ)))
    (act : Act (Witnessed σ κ) α) (after : α → List (Factory (Line κ))) : Prop :=
  (∀ f ∈ fs, f.pool.Free) → ∀ t, ∃ owns,
    Swept svc kerberos fs t.world owns (after (act t).1) (act t).2.world

namespace Act.Sweeps

variable {svc : Service σ κ} {kerberos : Kerberos σ} {β : Type} {fs : List (Factory (Line κ))}
  {after : α → List (Factory (Line κ))}

theorem pure {a : α} (same : after a = fs) : Sweeps svc kerberos fs (pure a) after := by
  intro _ t
  change ∃ owns, Swept svc kerberos fs t.world owns (after a) t.world
  rw [same]
  exact Swept.refl svc kerberos fs t.world

/-- What is done after a sweep, or before it, does not touch the world. -/
theorem map {act : Act (Witnessed σ κ) β} {between : β → List (Factory (Line κ))}
    {next : β → Act (Witnessed σ κ) α} (sweeps : Sweeps svc kerberos fs act between)
    (same : ∀ b t, (next b t).2.world = t.world ∧ after (next b t).1 = between b) :
    Sweeps svc kerberos fs (act >>= next) after := by
  intro free t
  obtain ⟨owns, swept⟩ := sweeps free t
  obtain ⟨world, factories⟩ := same (act t).1 (act t).2
  rw [← factories, ← world] at swept
  exact ⟨owns, swept⟩

theorem andThen {act : Act (Witnessed σ κ) β} {next : β → Act (Witnessed σ κ) α}
    (same : ∀ t, (act t).2.world = t.world) (second : ∀ b, Sweeps svc kerberos fs (next b) after) :
    Sweeps svc kerberos fs (act >>= next) after := by
  intro free t
  obtain ⟨owns, swept⟩ := second (act t).1 free (act t).2
  rw [same t] at swept
  exact ⟨owns, swept⟩

/-- One factory, and then the others. -/
theorem cons {f : Factory (Line κ)} {rest : List (Factory (Line κ))} {head : Act (Witnessed σ κ) β}
    {own : β → Factory (Line κ)} {next : β → Act (Witnessed σ κ) α}
    (first : f.pool.Free → Act.Tends svc kerberos (.away, f) head fun b => (.away, own b))
    (second : ∀ b, (∀ f ∈ rest, f.pool.Free) → ∀ t, ∃ rest' owns, after (next b t).1 = own b :: rest' ∧
      Swept svc kerberos rest t.world owns rest' (next b t).2.world) :
    Sweeps svc kerberos (f :: rest) (head >>= next) after := by
  intro free t
  obtain ⟨here, others⟩ := List.forall_mem_cons.1 free
  obtain ⟨same, exchanges, tended⟩ := first here t
  obtain ⟨rest', owns, factories, swept⟩ := second (head t).1 others (head t).2
  refine ⟨exchanges :: owns, ?_⟩
  rw [bind_apply, factories]
  exact .cons same tended swept

end Act.Sweeps

namespace Resolver

variable {svc : Service σ κ} {kerberos : Kerberos σ}

theorem askUntil_sweeps {ask : Question (Witnessed σ κ) (Line κ) α}
    (asks : ∀ f, Factory.Tends svc kerberos f (ask f)) (last : Option Error)
    (fs : List (Factory (Line κ))) : Act.Sweeps svc kerberos fs (askUntil ask last fs) Prod.snd := by
  induction fs generalizing last with
  | nil => exact .pure rfl
  | cons f rest ih =>
    refine .cons (asks f) ?_
    rintro ⟨reply, f'⟩ free t
    cases reply with
    | answer a =>
      obtain ⟨owns, swept⟩ := Swept.refl svc kerberos rest t.world
      exact ⟨rest, owns, rfl, swept⟩
    | nothing =>
      obtain ⟨owns, swept⟩ := ih last free t
      exact ⟨_, owns, rfl, swept⟩
    | failure e =>
      obtain ⟨owns, swept⟩ := ih (some e) free t
      exact ⟨_, owns, rfl, swept⟩

theorem askAll_sweeps {ask : Question (Witnessed σ κ) (Line κ) α}
    (asks : ∀ f, Factory.Tends svc kerberos f (ask f)) (last : Option Error)
    (fs : List (Factory (Line κ))) : Act.Sweeps svc kerberos fs (askAll ask last fs) Prod.snd := by
  induction fs generalizing last with
  | nil => exact .pure rfl
  | cons f rest ih =>
    refine .cons (asks f) ?_
    rintro ⟨reply, f'⟩ free t
    cases reply with
    | answer _ =>
      obtain ⟨owns, swept⟩ := ih last free t
      exact ⟨_, owns, rfl, swept⟩
    | nothing =>
      obtain ⟨owns, swept⟩ := ih last free t
      exact ⟨_, owns, rfl, swept⟩
    | failure e =>
      obtain ⟨owns, swept⟩ := ih (some e) free t
      exact ⟨_, owns, rfl, swept⟩

theorem testEach_sweeps (svc : Service σ κ) (kerberos : Kerberos σ) (fs : List (Factory (Line κ))) :
    Act.Sweeps svc kerberos fs (testEach svc.witnessed fs) Prod.snd := by
  induction fs with
  | nil => exact .pure rfl
  | cons f rest ih =>
    refine .cons (Factory.testConnection_tends svc kerberos f) ?_
    rintro ⟨result, f'⟩ free t
    obtain ⟨owns, swept⟩ := ih free t
    exact ⟨_, owns, rfl, swept⟩

theorem closeEach_sweeps (svc : Service σ κ) (kerberos : Kerberos σ) (fs : List (Factory (Line κ))) :
    Act.Sweeps svc kerberos fs (fs.mapM (Factory.closeIdle svc.witnessed)) id := by
  induction fs with
  | nil => exact .pure rfl
  | cons f rest ih =>
    rw [List.mapM_cons]
    refine .cons (fun _ => Factory.closeIdle_tends svc kerberos f) fun f' free t => ?_
    obtain ⟨owns, swept⟩ := ih free t
    exact ⟨_, owns, rfl, swept⟩

theorem authenticate_sweeps (svc : Service σ κ) (kerberos : Kerberos σ) (login password : String)
    (r : Resolver (Line κ)) : Act.Sweeps svc kerberos r.factories
      (authenticate svc.witnessed kerberos.witnessed login password r) fun found => found.2.factories := by
  have asked := askUntil_sweeps (fun f => accepts_tends svc kerberos f login password) none r.factories
  unfold authenticate
  split
  · exact .andThen (fun _ => rfl) fun _ => .pure rfl
  · refine .map asked ?_
    rintro ⟨reply, factories⟩ t
    cases reply <;> exact ⟨rfl, rfl⟩

theorem userDetails_sweeps (svc : Service σ κ) (kerberos : Kerberos σ) (login : String)
    (r : Resolver (Line κ)) : Act.Sweeps svc kerberos r.factories
      (userDetails svc.witnessed login r) fun found => found.2.factories := by
  have asked := askUntil_sweeps (fun f => detailsOn_tends svc kerberos f login) none r.factories
  refine .andThen (fun _ => rfl) fun _ => .map asked ?_
  rintro ⟨reply, factories⟩ t
  cases reply <;> exact ⟨rfl, rfl⟩

theorem groups_sweeps (svc : Service σ κ) (kerberos : Kerberos σ) (login : String)
    (r : Resolver (Line κ)) : Act.Sweeps svc kerberos r.factories
      (groups svc.witnessed login r) fun found => found.2.factories := by
  have asked := askAll_sweeps (fun f => groupsOn_tends svc kerberos f login) none r.factories
  unfold groups
  split
  · exact .pure rfl
  · refine .andThen (fun _ => rfl) fun _ => .map asked ?_
    rintro ⟨⟨answers, last⟩, factories⟩ t
    cases answers <;> cases last <;> exact ⟨rfl, rfl⟩

theorem testConnections_sweeps (svc : Service σ κ) (kerberos : Kerberos σ) (r : Resolver (Line κ)) :
    Act.Sweeps svc kerberos r.factories (testConnections svc.witnessed r)
      fun found => found.2.factories :=
  .map (testEach_sweeps svc kerberos r.factories) fun _ _ => ⟨rfl, rfl⟩

end Resolver

/-- Every operation is one sweep over the servers. -/
theorem Operation.perform_sweeps (svc : Service σ κ) (kerberos : Kerberos σ) (r : Resolver (Line κ))
    (operation : Operation) :
    Act.Sweeps svc kerberos r.factories (operation.perform svc.witnessed kerberos.witnessed r)
      Resolver.factories := by
  cases operation with
  | authenticate login password =>
    exact .map (Resolver.authenticate_sweeps svc kerberos login password r) fun _ _ => ⟨rfl, rfl⟩
  | userDetails login => exact .map (Resolver.userDetails_sweeps svc kerberos login r) fun _ _ => ⟨rfl, rfl⟩
  | groups login => exact .map (Resolver.groups_sweeps svc kerberos login r) fun _ _ => ⟨rfl, rfl⟩
  | testConnections => exact .map (Resolver.testConnections_sweeps svc kerberos r) fun _ _ => ⟨rfl, rfl⟩
  | close => exact .map (Resolver.closeEach_sweeps svc kerberos r.factories) fun _ _ => ⟨rfl, rfl⟩

end DirectoryLogin
