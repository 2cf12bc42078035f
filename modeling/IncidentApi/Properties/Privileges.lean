import IncidentApi.Properties.Permanence

/-!
# What the log says of accounts

Every audit row names an account that has signed in with its password, the job's rows apart. What an
account may do is what the log says it may: replaying the changes of roles and clearances over what
the account began with gives its present role and clearance, in whatever order the requests ran.
-/
namespace IncidentApi.Properties

/-! ### Who has signed in -/

/-- A session was issued for a password of the account. -/
def SignedIn (sys : SignInSystem) (id : Id) : Prop := ∃ grant ∈ sys.grants, grant.user.id = id

/-- The requests of a run come with tokens that the service has given out. -/
def GenuineRequests (config : SignInConfig) (sys : SignInSystem) : SignInAction → Prop
  | .request header now _ => Genuine config sys header now
  | _ => True

theorem AllLogged.mono {acts other : Actor → Prop} {old : List AuditEvent} {store : Store}
    (logged : AllLogged acts old store) (implies : ∀ actor, acts actor → other actor) :
    AllLogged other old store := by
  obtain ⟨rows, audits, each⟩ := logged
  refine ⟨rows, audits, fun row member => (each row member).imp_right ?_⟩
  rintro ⟨actor, acted, written⟩
  exact ⟨actor, implies actor acted, written⟩

theorem ActedBy.mono {acts other : Actor → Prop} {old : List AuditEvent} {sys : NoteSystem}
    (inv : ActedBy acts old sys) (implies : ∀ actor, acts actor → other actor) :
    ActedBy other old sys where
  service := ⟨fun request member => (inv.service.requests request member).imp_left (implies _),
    fun request member => (inv.service.clearances request member).imp_left (implies _),
    inv.service.logged.mono implies⟩
  changes request member := (inv.changes request member).imp_left (implies _)
  notes request member := implies _ (inv.notes request member)

theorem ActedBy.withUsers {acts : Actor → Prop} {old : List AuditEvent} {sys : NoteSystem}
    (inv : ActedBy acts old sys) (users : List User) :
    ActedBy acts old (sys.withStore { sys.store with users := users }) :=
  ⟨⟨inv.service.requests, inv.service.clearances, inv.service.logged⟩, inv.changes, inv.notes⟩

/-- The log, the requests in flight and the batches in flight, with who is behind them. -/
structure ActorInvariant (config : SignInConfig) (start : Store) (sys : SignInSystem) : Prop where
  credentials : CredentialInvariant config sys
  flight : InFlight sys.rest.service
  acted : ActedBy (fun actor => SignedIn sys actor.id) start.auditEvents sys.rest

section Actors
variable {jobConfig : JobConfig} {config : SignInConfig} {start : Store} {sys next : SignInSystem}

theorem noteStep_flight {before after : NoteSystem} {action : NoteAction}
    (flight : InFlight before.service) (stepped : noteStep jobConfig before action = some after) :
    InFlight after.service := by
  rcases noteStep_service stepped with ⟨inner, taken⟩ | ⟨store, same, _, _⟩
  · exact flight.step taken
  · rw [same]
    exact ⟨flight.requests, flight.batches⟩

theorem SignedIn.of_granted {userId sessionId : Id} (granted : Granted sys userId sessionId) :
    SignedIn sys userId := by
  obtain ⟨grant, member, named, _⟩ := granted
  exact ⟨grant, member, named⟩

theorem ActorInvariant.step (accepts : AcceptsOwnHash config) {action : SignInAction}
    (inv : ActorInvariant config start sys) (genuine : GenuineRequests config sys action)
    (stepped : signInStep jobConfig config sys action = some next) :
    ActorInvariant config start next := by
  have credentials := inv.credentials.step accepts stepped
  cases signInStep_effect stepped with
  | served _ inner after moved bearer =>
    refine ⟨credentials, noteStep_flight inv.flight moved, ?_⟩
    refine inv.acted.step inv.flight (fun id named => ?_) moved
    obtain ⟨header, now, sessionId, actor, rfl, presented, authenticated⟩ := bearer id named
    have signedIn := SignedIn.of_granted (inv.credentials.signed _ (genuine _ presented))
    exact ⟨actor, authenticated, (authenticate_id authenticated).symm ▸ signedIn⟩
  | created k id now input passwordHash found free =>
    exact ⟨credentials, ⟨inv.flight.requests, inv.flight.batches⟩, inv.acted.withUsers _⟩
  | issued k sessionId id token now user password found new =>
    refine ⟨credentials, inv.flight, inv.acted.mono fun actor signedIn => ?_⟩
    obtain ⟨grant, member, named⟩ := signedIn
    exact ⟨grant, List.mem_append_left _ member, named⟩
  | _ => exact ⟨credentials, inv.flight, inv.acted⟩

theorem ActorInvariant.boot {issued : List Id} {passwordHashes : List (Id × String)}
    (ids : (start.users.map User.id).Nodup)
    (hashed : passwordHashes.map Prod.fst = start.users.map User.id) :
    ActorInvariant config start (SignInSystem.boot start issued passwordHashes) := by
  have none {T : Type} {holds : T → Prop} : ∀ other ∈ ([] : List T), holds other :=
    List.forall_mem_nil holds
  exact ⟨.boot ids hashed, ⟨none, none⟩,
    ⟨none, none, [], (List.append_nil _).symm, none⟩, none, none⟩

theorem reached_actors {issued : List Id} {passwordHashes : List (Id × String)}
    (accepts : AcceptsOwnHash config) (ids : (start.users.map User.id).Nodup)
    (hashed : passwordHashes.map Prod.fst = start.users.map User.id)
    (reached : Machine.Reaches (signInStep jobConfig config) (GenuineRequests config)
      (SignInSystem.boot start issued passwordHashes) sys) : ActorInvariant config start sys :=
  reached.invariant (ActorInvariant config start) (.boot ids hashed)
    fun _ _ _ _ inv genuine stepped => inv.step accepts genuine stepped

end Actors

/-- Every audit row since the start, the rows of the job apart, names an account that has signed in
with a password which the stored hash of the account accepts. -/
theorem audit_rows_name_who_signed_in (jobConfig : JobConfig) (config : SignInConfig)
    (accepts : AcceptsOwnHash config) (start : Store) (issued : List Id)
    (passwordHashes : List (Id × String)) (ids : (start.users.map User.id).Nodup)
    (hashed : passwordHashes.map Prod.fst = start.users.map User.id) (sys : SignInSystem)
    (reached : Machine.Reaches (signInStep jobConfig config) (GenuineRequests config)
      (SignInSystem.boot start issued passwordHashes) sys) :
    ∃ rows, sys.store.auditEvents = start.auditEvents ++ rows ∧
      ∀ row ∈ rows, row.type = .incidentEscalated ∨
        ∃ grant ∈ sys.grants, row.actorId = some grant.user.id ∧
          Proven config sys grant.user.id grant.password := by
  have inv := reached_actors accepts ids hashed reached
  obtain ⟨rows, audits, each⟩ := inv.acted.service.logged
  refine ⟨rows, audits, fun row member => (each row member).imp_right ?_⟩
  rintro ⟨actor, ⟨grant, granted, same⟩, named, _⟩
  exact ⟨grant, granted, same ▸ named, (inv.credentials.grants grant granted).2⟩

/-- Whether a request has a token that the service has given out, if it has one that verifies. -/
def genuineRequest (config : SignInConfig) (sys : SignInSystem) : SignInAction → Bool
  | .request header now _ =>
    match (bearerToken header).map (config.verifyAccessToken · now) with
    | some (.ok payload) => payload ∈ sys.signed
    | _ => true
  | _ => true

theorem genuineRequest_sound (config : SignInConfig) (sys : SignInSystem) (action : SignInAction)
    (passed : genuineRequest config sys action = true) : GenuineRequests config sys action := by
  cases action with
  | request header now inner =>
    rintro payload ⟨token, carried, verified⟩
    simpa [genuineRequest, carried, verified] using passed
  | _ => trivial

theorem audit_rows_name_who_signed_in_sample :
    ∃ sys, Machine.exec (signInStep sampleConfig sampleSignIn) (genuineRequest sampleSignIn)
        (SignInSystem.boot staffedStore []
          [("admin", "salt:admin"), ("investigator", "salt:investigator")])
        (annRegisters.take 3 ++ annReports) = some sys ∧
      ∃ row ∈ sys.store.auditEvents, ∃ grant ∈ sys.grants, row.actorId = some grant.user.id := by
  have ran : (Machine.exec (signInStep sampleConfig sampleSignIn) (genuineRequest sampleSignIn)
      (SignInSystem.boot staffedStore []
        [("admin", "salt:admin"), ("investigator", "salt:investigator")])
      (annRegisters.take 3 ++ annReports)).map (fun sys => sys.store.auditEvents.map (·.type)) =
        some [.incidentCreated] := by decide +kernel
  obtain ⟨sys, executed, types⟩ := Option.map_eq_some_iff.mp ran
  obtain ⟨row, single, created⟩ := List.map_eq_singleton_iff.mp types
  have stored : row ∈ sys.store.auditEvents := by rw [single]; exact List.mem_singleton_self row
  refine ⟨sys, executed, row, stored, ?_⟩
  obtain ⟨rows, audits, each⟩ := audit_rows_name_who_signed_in sampleConfig sampleSignIn
    sampleSignIn_accepts staffedStore [] [("admin", "salt:admin"),
      ("investigator", "salt:investigator")] (by decide) (by decide) sys
    (Machine.reaches_of_exec _ (genuineRequest_sound sampleSignIn) _ _ _ executed)
  -- At the start the log was empty.
  have beyond : row ∈ rows := by
    rw [audits] at stored
    exact stored
  rcases each row beyond with job | ⟨grant, member, named, _⟩
  · rw [created] at job
    cases job
  · exact ⟨grant, member, named⟩

/-! ### Roles and clearances -/

/-- The account that a row of the log is about, if it is a change of a role or a clearance. -/
def changedAccount (row : AuditEvent) : Option Id :=
  if row.type = .userRoleChanged ∨ row.type = .userClearanceChanged then
    row.payload.bind fun fields => fields.findSome? fun field =>
      match field with
      | ("targetUserId", .str id) => some id
      | _ => none
  else none

/-- A role and a clearance, as the log spells them. -/
def privilegesOf (user : User) : String × String := (user.role.text, toString user.clearanceLevel)

/-- What a row of the log makes of the role and the clearance of an account. -/
def applyChange (id : Id) (privileges : String × String) (row : AuditEvent) : String × String :=
  if changedAccount row = some id then
    if row.type = .userRoleChanged then (row.toValue.getD privileges.1, privileges.2)
    else (privileges.1, row.toValue.getD privileges.2)
  else privileges

/-- The role and the clearance an account began with. -/
def firstPrivileges (start : Store) (id : Id) : String × String :=
  ((start.userById id).map privilegesOf).getD (Role.reporter.text, toString 1)

theorem foldl_unchanged {id : Id} {rows : List AuditEvent}
    (other : ∀ row ∈ rows, changedAccount row ≠ some id) (privileges : String × String) :
    rows.foldl (applyChange id) privileges = privileges := by
  induction rows with
  | nil => rfl
  | cons row rest ih =>
    rw [List.foldl_cons, applyChange, if_neg (other row List.mem_cons_self)]
    exact ih fun later member => other later (List.mem_cons_of_mem _ member)

theorem applyChange_role (actor : Actor) (target : User) (role : Role) (now : Date) (rowId : Id)
    (privileges : String × String) :
    applyChange target.id privileges ((roleRecord actor target role now).row rowId) =
      (role.text, privileges.2) := by
  have about : changedAccount ((roleRecord actor target role now).row rowId) = some target.id := rfl
  rw [applyChange, if_pos about]
  rfl

theorem applyChange_clearance (actor : Actor) (target : User) (clearance : ClearanceLevel)
    (now : Date) (rowId : Id) (privileges : String × String) :
    applyChange target.id privileges ((clearanceRecord actor target clearance now).row rowId) =
      (privileges.1, toString clearance.level) := by
  have about : changedAccount ((clearanceRecord actor target clearance now).row rowId) =
      some target.id := rfl
  rw [applyChange, if_pos about]
  rfl

theorem changedAccount_other {row : AuditEvent} (role : row.type ≠ .userRoleChanged)
    (clearance : row.type ≠ .userClearanceChanged) : changedAccount row = none :=
  if_neg (by simp [role, clearance])

/-- The rows name no change of an account. -/
def Unprivileged (rows : List AuditEvent) : Prop := ∀ row ∈ rows, changedAccount row = none

theorem unprivileged_auditRows {entries : List CreateAuditEventInput} {ids : Nat → Id}
    (other : ∀ entry ∈ entries, entry.type ≠ .userRoleChanged ∧
      entry.type ≠ .userClearanceChanged) : Unprivileged (auditRows entries ids) := by
  intro row member
  obtain ⟨entry, among, rowId, rfl⟩ := auditRow_input member
  exact changedAccount_other (other entry among).1 (other entry among).2

theorem unprivileged_about {id : Id} {entries : List CreateAuditEventInput} {ids : Nat → Id}
    (about : ∀ entry ∈ entries, EntryAbout id entry) : Unprivileged (auditRows entries ids) :=
  unprivileged_auditRows fun entry among =>
    ⟨(about entry among).role, (about entry among).clearance⟩

/-- What was logged since an earlier store, replayed over its accounts, gives the accounts of a
later one. -/
structure Replays (acts : Actor → Prop) (old new : Store) (rows : List AuditEvent) : Prop where
  audits : new.auditEvents = old.auditEvents ++ rows
  accounts : ∃ change : User → User, new.users = old.users.map change ∧
    ∀ user ∈ old.users, (change user).id = user.id ∧
      privilegesOf (change user) = rows.foldl (applyChange user.id) (privilegesOf user)
  others : ∀ row ∈ rows, ∀ id, changedAccount row = some id →
    id ∈ old.users.map User.id ∧
      ∃ actor, acts actor ∧ row.actorId = some actor.id ∧ actor.id ≠ id

section Replaying
variable {config : JobConfig} {acts : Actor → Prop} {past : List AuditEvent} {old new : Store}
  {rows : List AuditEvent}

theorem Replays.unprivileged (audits : new.auditEvents = old.auditEvents ++ rows)
    (change : User → User) (users : new.users = old.users.map change)
    (kept : ∀ user, (change user).id = user.id ∧ privilegesOf (change user) = privilegesOf user)
    (other : Unprivileged rows) : Replays acts old new rows where
  audits := audits
  accounts := by
    refine ⟨change, users, fun user _ => ⟨(kept user).1, (kept user).2.trans ?_⟩⟩
    exact (foldl_unchanged (fun row member => by simp [other row member]) _).symm
  others row member id changed := by simp [other row member] at changed

theorem Replays.apart (audits : new.auditEvents = old.auditEvents ++ rows)
    (users : new.users = old.users) (other : Unprivileged rows) : Replays acts old new rows :=
  .unprivileged audits id (by rw [users, List.map_id]) (fun _ => ⟨rfl, rfl⟩) other

theorem Replays.same (audits : new.auditEvents = old.auditEvents) (users : new.users = old.users) :
    Replays acts old new [] :=
  .apart (by rw [audits, List.append_nil]) users (List.forall_mem_nil _)

/-- A row that changes one account, and what else is logged with it. -/
theorem Replays.changed {actor : Actor} {target : User} {row : AuditEvent} {more : List AuditEvent}
    (audits : new.auditEvents = old.auditEvents ++ row :: more) (write : User → User)
    (users : new.users =
      old.users.map fun user => if user.id = target.id then write user else user)
    (known : target.id ∈ old.users.map User.id)
    (about : changedAccount row = some target.id) (named : row.actorId = some actor.id)
    (differs : actor.id ≠ target.id) (acting : acts actor) (other : Unprivileged more)
    (writes : ∀ user, (write user).id = user.id ∧
      privilegesOf (write user) = applyChange target.id (privilegesOf user) row) :
    Replays acts old new (row :: more) where
  audits := audits
  accounts := by
    refine ⟨_, users, fun user _ => ?_⟩
    rw [List.foldl_cons, foldl_unchanged fun later member => by simp [other later member]]
    split
    -- For the target the first row is its change; for any other account it is about somebody else.
    next own => exact own ▸ writes user
    next elsewhere =>
      refine ⟨rfl, ?_⟩
      rw [applyChange, if_neg]
      rw [about]
      exact fun same => elsewhere (Option.some.inj same).symm
  others later member id changed := by
    rcases List.mem_cons.mp member with rfl | rest
    · obtain rfl : target.id = id := Option.some.inj (about.symm.trans changed)
      exact ⟨known, actor, acting, named, differs⟩
    · simp [other later rest] at changed

theorem cascadeAll_unprivileged {actor : Actor} {targetId : Id} {now wall : Date}
    {ids : Nat → Nat → Id} {affected : List AssignedIncidentRow} {index : Nat}
    {store after : Store}
    (committed : cascadeAll actor targetId now wall ids affected index store = .ok after) :
    ∃ more, after.auditEvents = store.auditEvents ++ more ∧ Unprivileged more ∧
      after.users = store.users := by
  induction affected generalizing index store with
  | nil =>
    exact ⟨[], by simp [Except.ok.inj committed], List.forall_mem_nil _,
      by rw [Except.ok.inj committed]⟩
  | cons incident rest ih =>
    obtain ⟨written, first, later⟩ := bind_ok committed
    obtain ⟨_, rfl⟩ := commitMutation_ok _ _ _ _ _ _ _ first
    obtain ⟨more, audits, other, users⟩ := ih later
    refine ⟨auditRows (cascade actor targetId incident now).records (ids index) ++ more,
      by rw [audits, List.append_assoc], fun row member => ?_, users⟩
    rcases List.mem_append.mp member with own | rest
    · exact unprivileged_about (cascade_entries actor targetId incident now) row own
    · exact other row rest

theorem commitClearance_replays {actor : Actor} {target : User} {clearance : ClearanceLevel}
    {affected : List AssignedIncidentRow} {now wall : Date} {ids : Nat → Nat → Id}
    (differs : actor.id ≠ target.id) (acting : acts actor)
    (committed : commitClearance old actor target clearance affected now wall ids = .ok new) :
    ∃ rows, Replays acts old new rows := by
  obtain ⟨updated, found, cascading⟩ := bind_ok committed
  have known := found
  obtain rfl := updateUserClearance_ok found
  obtain ⟨more, audits, other, users⟩ := cascadeAll_unprivileged cascading
  refine ⟨(clearanceRecord actor target clearance now).row (ids 0 0) :: more, ?_⟩
  refine .changed ?_ (fun user => { user with clearanceLevel := clearance.level }) users ?_ rfl rfl
    differs acting other fun user => ⟨rfl, ?_⟩
  · rw [audits]
    simp [Store.record, auditRows]
  · unfold updateUserClearance at known
    split at known
    next stored => simpa using stored
    · simp at known
  · rw [applyChange_clearance]
    rfl

theorem accountCommit_replays {request : AccountRequest} {now : Date} {ids : Nat → Id}
    (differs : ∀ role, request.change = .role role → request.actor.id ≠ request.target.id)
    (acting : acts request.actor)
    (committed : request.commit old now ids = .ok new) : ∃ rows, Replays acts old new rows := by
  unfold AccountRequest.commit at committed
  cases isChange : request.change with
  | role newRole =>
    rw [isChange] at committed
    obtain ⟨updated, done, last⟩ := bind_ok committed
    obtain rfl := Except.ok.inj last
    unfold updateUserRole updateUser at done
    split at done
    next stored =>
      obtain rfl := Except.ok.inj done
      refine ⟨[(roleRecord request.actor request.target newRole now).row (ids 0)], ?_⟩
      refine .changed rfl (fun user => { user with role := newRole }) rfl ?_ rfl rfl
        (differs newRole isChange) acting (List.forall_mem_nil _) fun user => ⟨rfl, ?_⟩
      · simpa using stored
      · rw [applyChange_role]
        rfl
    · simp at done
  | status isActive =>
    rw [isChange] at committed
    unfold updateUserStatus updateUser at committed
    simp only at committed
    split at committed
    · obtain rfl := Except.ok.inj committed
      refine ⟨[], .unprivileged (List.append_nil _).symm _ rfl (fun user => ?_)
        (List.forall_mem_nil _)⟩
      split <;> exact ⟨rfl, rfl⟩
    · simp at committed

theorem step_replays {sys next : System} {action : Action} (inv : ServiceActs acts past sys)
    (flight : InFlight sys) (stepped : step config sys action = some next) :
    ∃ rows, Replays acts sys.store next.store rows := by
  by_cases job : Action.ofJob action = true
  · cases step_job job stepped with
    | stepped k run after store reading isJob found drawn effect =>
      cases effect with
      | outside _ _ closed still tables => exact ⟨[], .same tables.audits tables.users⟩
      | committed batch _ phase done =>
        -- A batch writes ESCALATED rows only, and these change no account.
        have reports := flight.batches run (List.mem_of_getElem? found) batch (open_of_phase phase)
        refine ⟨_, .apart (view_audits batch sys.store) (by rw [view_eq]) fun row member => ?_⟩
        have escalated := reports row (auditsOf_batch batch ▸ member)
        exact changedAccount_other (by simp [escalated]) (by simp [escalated])
      | _ => exact ⟨[], .same rfl rfl⟩
    | _ => exact ⟨[], .same rfl rfl⟩
  · cases step_effect (by simpa using job) stepped with
    | created userId input image id now wall ids actor =>
      have users := (create_effect sys.store actor input image id now wall ids).users
      have effect := create_rows sys.store actor input image id now wall ids
      generalize create sys.store actor input image id now wall ids = answer at effect users
      cases effect with
      | refused error after incidents audits => exact ⟨[], .same audits users⟩
      | created receipt after new fresh unassigned incidents audits =>
        exact ⟨_, .apart audits users (unprivileged_auditRows (by simp [creationRecord]))⟩
    | committed k now wall ids request mutation after found free decided written =>
      obtain ⟨_, rfl⟩ := commitMutation_ok _ _ _ _ _ _ _ written
      exact ⟨_, .apart rfl rfl (unprivileged_about (decide_entries decided))⟩
    | committedClearance k now wall ids request affected after found read free changes written =>
      obtain ⟨acting, acted⟩ := inv.clearances request (List.mem_of_getElem? found)
      exact commitClearance_replays acted.other acting written
    | recordedDenial incidentId actorId auditId clearanceLevel now =>
      exact ⟨_, .apart rfl rfl (unprivileged_auditRows (by simp [denialRecord]))⟩
    | _ => exact ⟨[], .same rfl rfl⟩

theorem noteStep_replays {sys next : NoteSystem} {action : NoteAction}
    (inv : ActedBy acts past sys) (flight : InFlight sys.service)
    (stepped : noteStep config sys action = some next) :
    ∃ rows, Replays acts sys.store next.store rows := by
  cases noteStep_effect stepped with
  | account action after moved =>
    cases action with
    | service inner =>
      simp only [accountStep] at moved
      split at moved
      · simp at moved
      · obtain ⟨service, taken, rfl⟩ := Option.map_eq_some_iff.mp moved
        exact step_replays inv.service flight taken
    | load userId targetId change =>
      simp only [accountStep] at moved
      split at moved <;> (obtain rfl := Option.some.inj moved; exact ⟨[], .same rfl rfl⟩)
    | statement k now ids =>
      obtain ⟨request, found, taken⟩ := Option.bind_eq_some_iff.mp moved
      rcases changeStep_acts taken with ⟨phase, rfl⟩ | rfl | ⟨store, committed, rfl⟩
      · exact ⟨[], .same rfl rfl⟩
      · exact ⟨[], .same rfl rfl⟩
      -- A change of role is by somebody else, which the request has checked when it was loaded.
      · obtain ⟨acting, _, differs⟩ := inv.changes request (List.mem_of_getElem? found)
        exact accountCommit_replays differs acting committed
    | interrupt k =>
      obtain ⟨request, _, rfl⟩ := Option.map_eq_some_iff.mp moved
      exact ⟨[], .same rfl rfl⟩
  | written k now noteId ids request result found committed =>
    -- A note's row is about no account.
    have audits := congrArg Store.auditEvents (noteCommit_ok committed)
    have users := congrArg Store.users (noteCommit_ok committed)
    exact ⟨_, .apart audits users (unprivileged_auditRows (by simp [noteRecord]))⟩
  | _ => exact ⟨[], .same rfl rfl⟩

end Replaying

/-- What the log since the start says of the accounts there are now. -/
structure PrivilegeInvariant (start : Store) (sys : SignInSystem) (rows : List AuditEvent) :
    Prop where
  audits : sys.store.auditEvents = start.auditEvents ++ rows
  kept : ∀ id ∈ start.users.map User.id, id ∈ sys.store.users.map User.id
  accounts : ∀ user ∈ sys.store.users, privilegesOf user =
    rows.foldl (applyChange user.id) (firstPrivileges start user.id)
  others : ∀ row ∈ rows, ∀ id, changedAccount row = some id →
    id ∈ sys.store.users.map User.id ∧
      ∃ actorId, row.actorId = some actorId ∧ actorId ≠ id ∧ SignedIn sys actorId

section Runs
variable {jobConfig : JobConfig} {config : SignInConfig} {start : Store} {sys next : SignInSystem}
  {rows : List AuditEvent}

theorem PrivilegeInvariant.replay (inv : PrivilegeInvariant start sys rows)
    {more : List AuditEvent} (grants : next.grants = sys.grants)
    (replays : Replays (fun actor => SignedIn sys actor.id) sys.store next.store more) :
    PrivilegeInvariant start next (rows ++ more) := by
  obtain ⟨change, users, each⟩ := replays.accounts
  have ids : next.store.users.map User.id = sys.store.users.map User.id := by
    rw [users, List.map_map]
    exact List.map_congr_left fun user member => (each user member).1
  refine ⟨by rw [replays.audits, inv.audits, List.append_assoc],
    fun id member => ids ▸ inv.kept id member, fun user member => ?_, fun row member => ?_⟩
  · rw [users] at member
    obtain ⟨old, stored, rfl⟩ := List.mem_map.mp member
    obtain ⟨same, privileges⟩ := each old stored
    rw [List.foldl_append, same, privileges, inv.accounts old stored]
  · simp only [ids, SignedIn, grants]
    rcases List.mem_append.mp member with earlier | last
    · exact inv.others row earlier
    · intro id changed
      obtain ⟨known, actor, signedIn, named, differs⟩ := replays.others row last id changed
      exact ⟨known, actor.id, named, differs, signedIn⟩

/-- A new account takes an id that no row of the log is about. -/
theorem PrivilegeInvariant.create (inv : PrivilegeInvariant start sys rows) {user : User}
    (grants : next.grants = sys.grants)
    (audits : next.store.auditEvents = sys.store.auditEvents)
    (users : next.store.users = sys.store.users ++ [user])
    (free : ∀ other ∈ sys.store.users, other.id ≠ user.id)
    (first : privilegesOf user = (Role.reporter.text, toString 1)) :
    PrivilegeInvariant start next rows := by
  have absent : user.id ∉ sys.store.users.map User.id := by
    intro taken
    obtain ⟨other, stored, same⟩ := List.mem_map.mp taken
    exact free other stored same
  have later : ∀ id ∈ sys.store.users.map User.id, id ∈ next.store.users.map User.id := by
    intro id member
    rw [users, List.map_append]
    exact List.mem_append_left _ member
  refine ⟨audits.trans inv.audits, fun id member => later id (inv.kept id member),
    fun other member => ?_, fun row member id changed => ?_⟩
  · rw [users] at member
    rcases List.mem_append.mp member with old | last
    · exact inv.accounts other old
    · obtain rfl := List.mem_singleton.mp last
      -- The account did not exist at the start, so it begins with what `register` gives it.
      have unknown : start.userById other.id = none := by
        refine List.find?_eq_none.mpr fun stored member => ?_
        simp only [decide_eq_true_eq]
        exact fun same => absent (inv.kept _ (List.mem_map.mpr ⟨stored, member, same⟩))
      rw [foldl_unchanged, firstPrivileges, unknown, first]
      · rfl
      -- No row about it can be earlier than the account.
      · exact fun row member changed => absent (inv.others row member _ changed).1
  · simp only [SignedIn, grants]
    exact (inv.others row member id changed).imp_left (later id)

theorem PrivilegeInvariant.boot {issued : List Id} {passwordHashes : List (Id × String)}
    (ids : (start.users.map User.id).Nodup) :
    PrivilegeInvariant start (SignInSystem.boot start issued passwordHashes) [] := by
  refine ⟨(List.append_nil _).symm, fun _ member => member, fun user stored => ?_,
    List.forall_mem_nil _⟩
  have found : start.userById user.id = some user :=
    (Scope.find?_eq_some_iff_mem ids (·.id = user.id) user.id
      (fun _ same => by simpa using same) user).mpr ⟨stored, by simp⟩
  rw [List.foldl_nil, firstPrivileges, found]
  rfl

theorem privileges_step {action : SignInAction} (acted : ActorInvariant config start sys)
    (inv : ∃ rows, PrivilegeInvariant start sys rows)
    (stepped : signInStep jobConfig config sys action = some next) :
    ∃ rows, PrivilegeInvariant start next rows := by
  obtain ⟨rows, inv⟩ := inv
  cases signInStep_effect stepped with
  | served _ inner after moved bearer =>
    obtain ⟨more, replays⟩ := noteStep_replays acted.acted acted.flight moved
    exact ⟨_, inv.replay rfl replays⟩
  | created k id now input passwordHash found free =>
    exact ⟨rows, inv.create rfl rfl rfl (fun other stored => (free other stored).1) rfl⟩
  | issued k sessionId id token now user password found new =>
    refine ⟨rows, inv.audits, inv.kept, inv.accounts, fun row member id changed => ?_⟩
    obtain ⟨known, actorId, named, differs, grant, granted, same⟩ :=
      inv.others row member id changed
    exact ⟨known, actorId, named, differs, grant, List.mem_append_left _ granted, same⟩
  | _ => exact ⟨rows, ⟨inv.audits, inv.kept, inv.accounts, inv.others⟩⟩

end Runs

/-- In every order that requests, registrations and the job may run in: an account has the role and
the clearance that the changes logged since the start make of those it had then, or of a reporter's
with clearance 1 if it has registered since; and each of these changes was made by another account,
which had signed in with its password. -/
theorem privileges_replay_from_log (jobConfig : JobConfig) (config : SignInConfig)
    (accepts : AcceptsOwnHash config) (start : Store) (issued : List Id)
    (passwordHashes : List (Id × String)) (ids : (start.users.map User.id).Nodup)
    (hashed : passwordHashes.map Prod.fst = start.users.map User.id) (sys : SignInSystem)
    (reached : Machine.Reaches (signInStep jobConfig config) (GenuineRequests config)
      (SignInSystem.boot start issued passwordHashes) sys) :
    ∃ rows, sys.store.auditEvents = start.auditEvents ++ rows ∧
      (∀ user ∈ sys.store.users, (user.role.text, toString user.clearanceLevel) =
        rows.foldl (applyChange user.id) (firstPrivileges start user.id)) ∧
      ∀ row ∈ rows, ∀ id, changedAccount row = some id →
        ∃ grant ∈ sys.grants, row.actorId = some grant.user.id ∧ grant.user.id ≠ id ∧
          Proven config sys grant.user.id grant.password := by
  have acted := reached_actors accepts ids hashed reached
  obtain ⟨rows, inv⟩ : ∃ rows, PrivilegeInvariant start sys rows :=
    (reached.invariant
      (fun sys => ActorInvariant config start sys ∧ ∃ rows, PrivilegeInvariant start sys rows)
      ⟨.boot ids hashed, [], .boot ids⟩ fun _ _ _ _ inv genuine stepped =>
        ⟨inv.1.step accepts genuine stepped, privileges_step inv.1 inv.2 stepped⟩).2
  refine ⟨rows, inv.audits, inv.accounts, fun row member id changed => ?_⟩
  obtain ⟨_, named, differs, grant, granted, rfl⟩ := (inv.others row member id changed).2
  exact ⟨grant, granted, named, differs, (acted.credentials.grants grant granted).2⟩

/-- Ann registers, and the administrator signs in and makes her a triage manager. -/
def annIsPromoted : List SignInAction :=
  annRegisters.take 3 ++ [.login ⟨"admin@example.com", "admin"⟩, .compare 2,
    .issueSession 2 "s0" "t0" "secret" 3,
    .request (some "Bearer admin.s0") 4 (.account (.load "admin" "ann" (.role .triageManager))),
    .others (.account (.statement 0 5 fun _ => "audit"))]

theorem privileges_replay_from_log_sample :
    ∃ sys, Machine.exec (signInStep sampleConfig sampleSignIn) (genuineRequest sampleSignIn)
        (SignInSystem.boot staffedStore []
          [("admin", "salt:admin"), ("investigator", "salt:investigator")]) annIsPromoted =
        some sys ∧
      ∃ rows, sys.store.auditEvents = rows ∧
        ∀ user ∈ sys.store.users, user.id = "ann" →
          rows.foldl (applyChange "ann") (Role.reporter.text, toString 1) =
            (Role.triageManager.text, toString 1) := by
  have ran : (Machine.exec (signInStep sampleConfig sampleSignIn) (genuineRequest sampleSignIn)
      (SignInSystem.boot staffedStore []
        [("admin", "salt:admin"), ("investigator", "salt:investigator")]) annIsPromoted).map
        (fun sys => sys.store.users.map fun user => (user.id, user.role, user.clearanceLevel)) =
      some [("admin", .admin, 4), ("investigator", .investigator, 4),
        ("ann", .triageManager, 1)] := by decide +kernel
  obtain ⟨sys, executed, accounts⟩ := Option.map_eq_some_iff.mp ran
  obtain ⟨rows, audits, replayed, _⟩ := privileges_replay_from_log sampleConfig sampleSignIn
    sampleSignIn_accepts staffedStore [] [("admin", "salt:admin"),
      ("investigator", "salt:investigator")] (by decide) (by decide) sys
    (Machine.reaches_of_exec _ (genuineRequest_sound sampleSignIn) _ _ _ executed)
  refine ⟨sys, executed, rows, audits, fun user stored isAnn => ?_⟩
  have columns := List.mem_map_of_mem
    (f := fun user : User => (user.id, user.role, user.clearanceLevel)) stored
  rw [accounts] at columns
  have same := replayed user stored
  simp only [isAnn, List.mem_cons, Prod.mk.injEq, List.not_mem_nil, or_false] at columns
  rcases columns with ⟨wrong, _⟩ | ⟨wrong, _⟩ | ⟨_, role, level⟩
  · exact absurd wrong (by decide)
  · exact absurd wrong (by decide)
  · rw [role, level, isAnn] at same
    exact same.symm

end IncidentApi.Properties
