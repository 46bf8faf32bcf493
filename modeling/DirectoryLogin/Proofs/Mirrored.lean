import DirectoryLogin.Proofs.Lookup
import DirectoryLogin.Resolver

namespace DirectoryLogin

variable {σ κ α : Type}

/-- A Kerberos login is no exchange with a directory. -/
def Kerberos.witnessed (kerberos : Kerberos σ) : Kerberos (Witnessed σ κ) := fun principal password t =>
  let (outcome, later) := kerberos principal password (Act.plain t)
  (outcome, ⟨⟨later.world, t.world.exchanges⟩, later.log⟩)

theorem Kerberos.witnessed_mirrors (kerberos : Kerberos σ) (principal password : String) :
    Act.Mirrors (κ := κ) id (kerberos.witnessed principal password) (kerberos principal password) :=
  fun _ => rfl

namespace Pool

theorem closeAll_mirrors (svc : Service σ κ) (server : Server) (cs : List (Line κ)) :
    Act.Mirrors id (closeAll svc.witnessed server cs) (closeAll svc server (cs.map Line.name)) := by
  induction cs with
  | nil => exact .pure rfl
  | cons c rest ih =>
    refine .bind (.exchange _ _) fun outcome => ?_
    cases outcome with
    | ok _ => exact ih
    | error e => exact .bind (.note _) fun _ => ih

theorem closeIdle_mirrors (svc : Service σ κ) (server : Server) (p : Pool (Line κ)) :
    Act.Mirrors plain (p.closeIdle svc.witnessed server) (p.plain.closeIdle svc server) := by
  have backwards : p.plain.idle.reverse = p.idle.reverse.map Line.name := List.map_reverse.symm
  unfold closeIdle
  rw [backwards]
  exact .bind (closeAll_mirrors svc server p.idle.reverse) fun _ => .pure rfl

end Pool

namespace Factory

theorem closeIdle_mirrors (svc : Service σ κ) (f : Factory (Line κ)) :
    Act.Mirrors plain (f.closeIdle svc.witnessed) (f.plain.closeIdle svc) :=
  .bind (Pool.closeIdle_mirrors svc f.server f.pool) fun _ => .pure rfl

theorem testConnection_mirrors (svc : Service σ κ) (f : Factory (Line κ)) :
    Act.Mirrors (fun found => (found.1, found.2.plain)) (f.testConnection svc.witnessed)
      (f.plain.testConnection svc) := by
  unfold testConnection
  rw [plain_server]
  split
  · exact .pure rfl
  · refine .bind (Pool.bind_mirrors svc f.server f.pool) ?_
    rintro ⟨bound, pool⟩
    cases bound with
    | error e => exact .bind (.note _) fun _ => .pure rfl
    | ok c =>
      exact .bind (Pool.release_mirrors svc c pool) fun _ => .bind (.note _) fun _ => .pure rfl

theorem checkBind_mirrors (svc : Service σ κ) (server : Server) (principal password : String) :
    Act.Mirrors id (checkBind svc.witnessed server principal password)
      (checkBind svc server principal password) := by
  have opens : Act.Mirrors (Except.map Line.name) (openUser svc.witnessed server principal password)
      (openUser svc server principal password) := .bind (.note _) fun _ => .connect svc _
  refine .bind opens fun outcome => ?_
  cases outcome with
  | ok c =>
    refine .bind (.exchange _ _) fun outcome => ?_
    cases outcome with
    | ok _ => exact .pure rfl
    | error e => exact .bind (.note _) fun _ => .pure rfl
  | error e =>
    cases e with
    | bind reason => exact .bind (.note _) fun _ => .pure rfl
    | _ => exact .pure rfl

end Factory

namespace Resolver

def plain (r : Resolver (Line κ)) : Resolver κ := ⟨r.registry, r.factories.map Factory.plain⟩

theorem findUser_mirrors (svc : Service σ κ) (mapping : UserMapping) (login : String)
    (attributes : List String) (f : Factory (Line κ)) :
    Act.Mirrors (fun found => (found.1, found.2.plain))
      (findUser svc.witnessed mapping login attributes f)
      (findUser svc mapping login attributes f.plain) := by
  refine .bind (Factory.lookup_mirrors svc _ mapping.findMode f) ?_
  rintro ⟨found, f'⟩
  cases found with
  | ok entries => exact .pure rfl
  | error e =>
    dsimp only
    split
    · exact .bind (.note _) fun _ => .pure rfl
    · exact .pure rfl

theorem detailsOn_mirrors (svc : Service σ κ) (login : String) (f : Factory (Line κ)) :
    Act.Mirrors (fun found => (found.1, found.2.plain)) (detailsOn svc.witnessed login f)
      (detailsOn svc login f.plain) := by
  unfold detailsOn
  rw [Factory.plain_server]
  cases f.server.userMapping with
  | none => exact .pure rfl
  | some mapping =>
    refine .bind (findUser_mirrors svc mapping login _ f) ?_
    rintro ⟨found, f'⟩
    rcases found with e | _ | entry
    · exact .bind (.note _) fun _ => .pure rfl
    · exact .bind (.note _) fun _ => .pure rfl
    · exact .pure rfl

theorem principalOf_mirrors (svc : Service σ κ) (login : String) (f : Factory (Line κ)) :
    Act.Mirrors (fun found => (found.1, found.2.plain)) (principalOf svc.witnessed login f)
      (principalOf svc login f.plain) := by
  unfold principalOf
  rw [Factory.plain_server]
  split
  · exact .pure rfl
  · cases f.server.userMapping with
    | none => exact .bind (.note _) fun _ => .pure rfl
    | some mapping =>
      refine .bind (findUser_mirrors svc mapping login [] f) ?_
      rintro ⟨found, f'⟩
      rcases found with e | _ | entry
      · exact .bind (.note _) fun _ => .pure rfl
      · exact .bind (.note _) fun _ => .pure rfl
      · exact .pure rfl

theorem checkPassword_mirrors (svc : Service σ κ) (kerberos : Kerberos σ) (server : Server)
    (principal password : String) :
    Act.Mirrors id (checkPassword svc.witnessed kerberos.witnessed server principal password)
      (checkPassword svc kerberos server principal password) := by
  unfold checkPassword
  split
  · exact Kerberos.witnessed_mirrors kerberos _ password
  · exact Factory.checkBind_mirrors svc server principal password

theorem accepts_mirrors (svc : Service σ κ) (kerberos : Kerberos σ) (login password : String)
    (f : Factory (Line κ)) :
    Act.Mirrors (fun found => (found.1, found.2.plain))
      (accepts svc.witnessed kerberos.witnessed login password f)
      (accepts svc kerberos login password f.plain) := by
  refine .bind (principalOf_mirrors svc login f) ?_
  rintro ⟨who, f'⟩
  cases who with
  | nothing => exact .pure rfl
  | failure e => exact .pure rfl
  | answer principal =>
    refine .bind (checkPassword_mirrors svc kerberos f'.server principal password) fun outcome => ?_
    rcases outcome with e | _ | _
    · exact .bind (.note _) fun _ => .pure rfl
    · exact .bind (.note _) fun _ => .pure rfl
    · exact .bind (.note _) fun _ => .pure rfl

theorem groupsOn_mirrors (svc : Service σ κ) (login : String) (f : Factory (Line κ)) :
    Act.Mirrors (fun found => (found.1, found.2.plain)) (groupsOn svc.witnessed login f)
      (groupsOn svc login f.plain) := by
  unfold groupsOn
  rw [Factory.plain_server]
  cases f.server.userMapping with
  | none => exact .bind (.note _) fun _ => .pure rfl
  | some users =>
    cases f.server.groupMapping with
    | none => exact .bind (.note _) fun _ => .pure rfl
    | some groups =>
      refine .bind (findUser_mirrors svc users login _ f) ?_
      rintro ⟨found, f'⟩
      rcases found with e | _ | user
      · exact .bind (.note _) fun _ => .pure rfl
      · exact .bind (.note _) fun _ => .pure rfl
      · refine .bind (Factory.lookup_mirrors svc _ .all f') ?_
        rintro ⟨found, f''⟩
        cases found with
        | ok entries => exact .pure rfl
        | error e => exact .bind (.note _) fun _ => .pure rfl

theorem askUntil_mirrors {ask : Question (Witnessed σ κ) (Line κ) α} {plainAsk : Question σ κ α}
    (asks : ∀ f, Act.Mirrors (fun found => (found.1, found.2.plain)) (ask f) (plainAsk f.plain))
    (last : Option Error) (fs : List (Factory (Line κ))) :
    Act.Mirrors (fun found => (found.1, found.2.map Factory.plain)) (askUntil ask last fs)
      (askUntil plainAsk last (fs.map Factory.plain)) := by
  induction fs generalizing last with
  | nil => exact .pure rfl
  | cons f rest ih =>
    refine .bind (asks f) ?_
    rintro ⟨reply, f'⟩
    cases reply with
    | answer a => exact .pure rfl
    | nothing => exact .bind (ih last) fun _ => .pure rfl
    | failure e => exact .bind (ih (some e)) fun _ => .pure rfl

theorem askAll_mirrors {ask : Question (Witnessed σ κ) (Line κ) α} {plainAsk : Question σ κ α}
    (asks : ∀ f, Act.Mirrors (fun found => (found.1, found.2.plain)) (ask f) (plainAsk f.plain))
    (last : Option Error) (fs : List (Factory (Line κ))) :
    Act.Mirrors (fun found => (found.1, found.2.map Factory.plain)) (askAll ask last fs)
      (askAll plainAsk last (fs.map Factory.plain)) := by
  induction fs generalizing last with
  | nil => exact .pure rfl
  | cons f rest ih =>
    refine .bind (asks f) ?_
    rintro ⟨reply, f'⟩
    cases reply with
    | answer a => exact .bind (ih last) fun _ => .pure rfl
    | nothing => exact .bind (ih last) fun _ => .pure rfl
    | failure e => exact .bind (ih (some e)) fun _ => .pure rfl

theorem authenticate_mirrors (svc : Service σ κ) (kerberos : Kerberos σ) (login password : String)
    (r : Resolver (Line κ)) :
    Act.Mirrors (fun found => (found.1, found.2.plain))
      (authenticate svc.witnessed kerberos.witnessed login password r)
      (authenticate svc kerberos login password r.plain) := by
  unfold authenticate
  split
  · exact .bind (.note _) fun _ => .pure rfl
  · refine .bind (askUntil_mirrors (accepts_mirrors svc kerberos login password) none r.factories) ?_
    rintro ⟨reply, factories⟩
    cases reply with
    | answer a => exact .pure rfl
    | nothing => exact .pure rfl
    | failure e => exact .bind (.note _) fun _ => .pure rfl

theorem userDetails_mirrors (svc : Service σ κ) (login : String) (r : Resolver (Line κ)) :
    Act.Mirrors (fun found => (found.1, found.2.plain)) (userDetails svc.witnessed login r)
      (userDetails svc login r.plain) := by
  refine .bind (.note _) fun _ => ?_
  refine .bind (askUntil_mirrors (detailsOn_mirrors svc login) none r.factories) ?_
  rintro ⟨reply, factories⟩
  cases reply with
  | answer details => exact .pure rfl
  | nothing => exact .pure rfl
  | failure e => exact .pure rfl

theorem groups_mirrors (svc : Service σ κ) (login : String) (r : Resolver (Line κ)) :
    Act.Mirrors (fun found => (found.1, found.2.plain)) (groups svc.witnessed login r)
      (groups svc login r.plain) := by
  have same : r.plain.registry = r.registry := rfl
  unfold groups
  rw [same]
  split
  · exact .pure rfl
  · refine .bind (.note _) fun _ => ?_
    refine .bind (askAll_mirrors (groupsOn_mirrors svc login) none r.factories) ?_
    rintro ⟨⟨answers, last⟩, factories⟩
    cases answers with
    | nil =>
      cases last with
      | none => exact .pure rfl
      | some e => exact .pure rfl
    | cons a rest => exact .pure rfl

theorem testEach_mirrors (svc : Service σ κ) (fs : List (Factory (Line κ))) :
    Act.Mirrors (fun found => (found.1, found.2.map Factory.plain)) (testEach svc.witnessed fs)
      (testEach svc (fs.map Factory.plain)) := by
  induction fs with
  | nil => exact .pure rfl
  | cons f rest ih =>
    refine .bind (Factory.testConnection_mirrors svc f) ?_
    rintro ⟨result, f'⟩
    exact .bind ih fun _ => .pure rfl

theorem testConnections_mirrors (svc : Service σ κ) (r : Resolver (Line κ)) :
    Act.Mirrors (fun found => (found.1, found.2.plain)) (testConnections svc.witnessed r)
      (testConnections svc r.plain) :=
  .bind (testEach_mirrors svc r.factories) fun _ => .pure rfl

theorem close_mirrors (svc : Service σ κ) (r : Resolver (Line κ)) :
    Act.Mirrors plain (close svc.witnessed r) (close svc r.plain) := by
  have each (fs : List (Factory (Line κ))) : Act.Mirrors (List.map Factory.plain)
      (fs.mapM (Factory.closeIdle svc.witnessed)) ((fs.map Factory.plain).mapM (Factory.closeIdle svc)) := by
    induction fs with
    | nil => exact .pure rfl
    | cons f rest ih =>
      rw [List.map_cons, List.mapM_cons, List.mapM_cons]
      exact .bind (Factory.closeIdle_mirrors svc f) fun _ => .bind ih fun _ => .pure rfl
  exact .bind (each r.factories) fun _ => .pure rfl

end Resolver

end DirectoryLogin
