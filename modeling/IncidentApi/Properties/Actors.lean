import IncidentApi.SignIn
import IncidentApi.Properties.AccountLog

/-!
# Who acts

A request keeps the actor that its token named when it was read, and every audit row it writes names
that actor. The job alone writes rows under nobody.
-/
namespace IncidentApi.Properties

/-! ### The actor of a request -/

theorem authenticate_named {store : Store} {userId : Id} {actor : Actor}
    (authenticated : authenticate store userId = .ok actor) :
    ∃ user ∈ store.users, user.id = userId ∧ user.isActive = true ∧
      actor = ⟨user.id, user.role, user.clearanceLevel⟩ := by
  unfold authenticate at authenticated
  split at authenticated
  next user found =>
    split at authenticated
    next active =>
      exact ⟨user, List.mem_of_find?_eq_some found, by simpa using List.find?_some found, active,
        (Except.ok.inj authenticated).symm⟩
    · simp at authenticated
  · simp at authenticated

theorem authenticate_id {store : Store} {userId : Id} {actor : Actor}
    (authenticated : authenticate store userId = .ok actor) : actor.id = userId := by
  obtain ⟨user, _, named, _, rfl⟩ := authenticate_named authenticated
  exact named

theorem authorizeRole_ok {roles : List Role} {actor : Actor} {result : Unit}
    (authorized : authorizeRole roles actor = .ok result) : actor.role ∈ roles := by
  unfold authorizeRole at authorized
  split at authorized
  next among => exact among
  · simp at authorized

theorem loadRequest_actor {store : Store} {userId : Id} {operation : Operation} {id : Id}
    {expectedVersion : Nat} {request : Request}
    (loaded : loadRequest store userId operation id expectedVersion = .ok request) :
    authenticate store userId = .ok request.actor ∧
      request.actor.role ∈ request.operation.roles := by
  obtain ⟨actor, authenticated, rest⟩ := bind_ok loaded
  obtain ⟨_, authorized, rest⟩ := bind_ok rest
  obtain ⟨_, _, last⟩ := bind_ok rest
  obtain rfl := Except.ok.inj last
  exact ⟨authenticated, authorizeRole_ok authorized⟩

theorem assertNotSelf_ok {actor : Actor} {targetId : Id} {result : Unit}
    (other : assertNotSelf actor targetId = .ok result) : actor.id ≠ targetId := by
  unfold assertNotSelf at other
  split at other
  · simp at other
  next differs => exact differs

theorem loadTargetOrThrow_id {store : Store} {targetId : Id} {target : User}
    (found : loadTargetOrThrow store targetId = .ok target) : target.id = targetId := by
  unfold loadTargetOrThrow at found
  split at found
  next user stored =>
    obtain rfl := Except.ok.inj found
    simpa using List.find?_some stored
  · simp at found

/-- An administrator whose token names them, about somebody else. -/
structure ByOtherAdmin (actor : Actor) (target : User) : Prop where
  admin : actor.role = .admin
  other : actor.id ≠ target.id

theorem loadClearance_actor {store : Store} {userId targetId : Id} {clearance : ClearanceLevel}
    {request : ClearanceRequest}
    (loaded : loadClearance store userId targetId clearance = .ok request) :
    authenticate store userId = .ok request.actor ∧
      ByOtherAdmin request.actor request.target := by
  obtain ⟨actor, authenticated, rest⟩ := bind_ok loaded
  obtain ⟨_, authorized, rest⟩ := bind_ok rest
  obtain ⟨_, other, rest⟩ := bind_ok rest
  obtain ⟨target, found, last⟩ := bind_ok rest
  obtain rfl := Except.ok.inj last
  refine ⟨authenticated, by simpa using authorizeRole_ok authorized, ?_⟩
  exact loadTargetOrThrow_id found ▸ assertNotSelf_ok other

theorem start_request {actor : Actor} {target : User} {change : AccountChange}
    {request : AccountRequest} (started : request ∈ AccountRequest.start actor target change) :
    request.actor = actor ∧ request.target = target ∧ request.change = change := by
  unfold AccountRequest.start at started
  split at started
  · simp at started
  · obtain rfl := Option.some.inj started
    exact ⟨rfl, rfl, rfl⟩

/-- A status may be changed by its owner, a role may not. -/
theorem loadAccount_actor {store : Store} {userId targetId : Id} {change : AccountChange}
    {loaded : Option AccountRequest} (found : loadAccount store userId targetId change = .ok loaded)
    {request : AccountRequest} (started : request ∈ loaded) :
    authenticate store userId = .ok request.actor ∧ request.actor.role = .admin ∧
      ∀ role, request.change = .role role → request.actor.id ≠ request.target.id := by
  cases change with
  | role newRole =>
    obtain ⟨actor, authenticated, rest⟩ := bind_ok found
    obtain ⟨_, authorized, rest⟩ := bind_ok rest
    obtain ⟨_, other, rest⟩ := bind_ok rest
    obtain ⟨target, known, last⟩ := bind_ok rest
    obtain rfl := Except.ok.inj last
    obtain ⟨rfl, rfl, _⟩ := start_request started
    refine ⟨authenticated, by simpa using authorizeRole_ok authorized, ?_⟩
    exact fun _ _ => loadTargetOrThrow_id known ▸ assertNotSelf_ok other
  | status isActive =>
    obtain ⟨actor, authenticated, rest⟩ := bind_ok found
    obtain ⟨_, authorized, rest⟩ := bind_ok rest
    obtain ⟨target, known, last⟩ := bind_ok rest
    obtain rfl := Except.ok.inj last
    obtain ⟨rfl, rfl, isStatus⟩ := start_request started
    refine ⟨authenticated, by simpa using authorizeRole_ok authorized, ?_⟩
    exact fun _ isRole => by rw [isStatus] at isRole; simp at isRole

theorem loadNote_actor {store : Store} {userId incidentId : Id} {body : TrimmedText 5 4000}
    {request : NoteRequest}
    (loaded : (authenticate store userId >>= fun actor => loadNote store actor incidentId body) =
      .ok request) : authenticate store userId = .ok request.actor := by
  obtain ⟨actor, authenticated, rest⟩ := bind_ok loaded
  obtain ⟨row, _, last⟩ := bind_ok rest
  split at last
  · obtain rfl := Except.ok.inj last
    exact authenticated
  · simp at last

/-! ### The actor of an audit row -/

/-- The roles whose routes append such a row. A closure is proposed, an incident reported and a note
written without a role gate. -/
def writers (type : AuditEventType) (toValue : Option String) : List Role :=
  match type with
  | .incidentCreated | .noteAdded | .closureProposed | .accessDenied => roleValues
  | .stageChanged =>
    if toValue = some Stage.pendingClosure.text then roleValues else triageRoles
  | .userClearanceChanged | .userRoleChanged => [.admin]
  | .incidentEscalated => []
  | _ => triageRoles

theorem mem_roleValues (role : Role) : role ∈ roleValues := by cases role <;> decide

/-- An entry that names the actor, whose role lets them write it. -/
structure WrittenBy (actor : Actor) (entry : CreateAuditEventInput) : Prop where
  named : entry.actorId = some actor.id
  entitled : actor.role ∈ writers entry.type entry.toValue

/-- The `STAGE_CHANGED` row that some operations append. -/
private theorem last_written {moves : Prop} [Decidable moves] {actor : Actor}
    {last entry : CreateAuditEventInput} (written : WrittenBy actor last)
    (member : entry ∈ if moves then [last] else []) : WrittenBy actor entry := by
  split at member
  · exact List.mem_singleton.mp member ▸ written
  · simp at member

theorem stageRecord_written {actor : Actor} (triages : actor.role ∈ triageRoles) (id : Id)
    (source target : Stage) (reason : Option String) (now : Date) :
    WrittenBy actor (stageRecord actor id source target reason now) := by
  refine ⟨rfl, ?_⟩
  change actor.role ∈ if some target.text = some Stage.pendingClosure.text then roleValues
    else triageRoles
  split
  · exact mem_roleValues _
  · exact triages

theorem unassignedRecord_written {actor : Actor} (triages : actor.role ∈ triageRoles)
    (id investigatorId : Id) (reason : String) (now : Date) :
    WrittenBy actor (unassignedRecord actor id investigatorId reason now) :=
  ⟨rfl, triages⟩

theorem decide_written {operation : Operation} {actor : Actor} {id : Id} {row : TriageIncidentRow}
    {investigator : Option User} {now : Date} {mutation : Mutation}
    (entitled : actor.role ∈ operation.roles)
    (decided : operation.decide actor id row investigator now = .ok mutation) :
    ∀ entry ∈ mutation.records, WrittenBy actor entry := by
  intro entry member
  cases operation with
  | triage =>
    rw [(triage_ok decided).2.2] at member
    rw [List.mem_singleton.mp member]
    exact stageRecord_written entitled ..
  | changeSeverity input =>
    rw [(changeSeverity_ok decided).2.2.2] at member
    simp only [List.mem_cons, List.cons_append, List.mem_append, List.mem_map] at member
    rcases member with rfl | ⟨_, _, rfl⟩ | last
    · exact ⟨rfl, entitled⟩
    · exact unassignedRecord_written entitled ..
    · exact last_written (stageRecord_written entitled ..) last
  | assignInvestigator investigatorId =>
    obtain ⟨_, _, _, _, _, _, _, records⟩ := assignInvestigator_ok decided
    rw [records] at member
    simp only [List.mem_append, List.mem_map, List.mem_singleton] at member
    rcases member with (⟨_, _, rfl⟩ | rfl) | last
    · exact unassignedRecord_written entitled ..
    · exact ⟨rfl, entitled⟩
    · exact last_written (stageRecord_written entitled ..) last
  | unassignInvestigator =>
    obtain ⟨_, _, _, _, _, records⟩ := unassignInvestigator_ok decided
    rw [records] at member
    rcases List.mem_cons.mp member with rfl | last
    · exact unassignedRecord_written entitled ..
    · exact last_written (stageRecord_written entitled ..) last
  | acknowledge =>
    rw [(acknowledge_ok decided).2.2.2] at member
    rw [List.mem_singleton.mp member]
    exact ⟨rfl, entitled⟩
  -- No role is asked for at `propose`, so its rows may be of anybody.
  | propose input =>
    rw [(propose_ok decided).2.2.2] at member
    rcases List.mem_pair.mp member with rfl | rfl <;> exact ⟨rfl, mem_roleValues _⟩
  | approve =>
    rw [(approve_ok decided).2.2.2] at member
    rcases List.mem_pair.mp member with rfl | rfl
    · exact ⟨rfl, entitled⟩
    · exact stageRecord_written entitled ..
  | reject reason =>
    rw [(reject_ok decided).2.2] at member
    rcases List.mem_pair.mp member with rfl | rfl
    · exact ⟨rfl, entitled⟩
    · exact stageRecord_written entitled ..

theorem cascade_written {actor : Actor} (admin : actor.role = .admin) (targetId : Id)
    (incident : AssignedIncidentRow) (now : Date) :
    ∀ entry ∈ (cascade actor targetId incident now).records, WrittenBy actor entry := by
  have triages : actor.role ∈ triageRoles := admin ▸ by decide
  intro entry member
  rcases List.mem_cons.mp member with rfl | last
  · exact ⟨rfl, triages⟩
  · exact last_written (stageRecord_written triages ..) last

/-- The job's rows name nobody; every other row names an actor of the kind, whose role lets them
write it. -/
def LoggedBy (acts : Actor → Prop) (row : AuditEvent) : Prop :=
  row.type = .incidentEscalated ∨ ∃ actor, acts actor ∧ row.actorId = some actor.id ∧
    actor.role ∈ writers row.type row.toValue

/-- The rows beyond those there were at the start. -/
def AllLogged (acts : Actor → Prop) (old : List AuditEvent) (store : Store) : Prop :=
  ∃ rows, store.auditEvents = old ++ rows ∧ ∀ row ∈ rows, LoggedBy acts row

section Logged
variable {acts : Actor → Prop} {old : List AuditEvent} {store after : Store}

theorem AllLogged.append {rows : List AuditEvent} (logged : AllLogged acts old store)
    (audits : after.auditEvents = store.auditEvents ++ rows)
    (new : ∀ row ∈ rows, LoggedBy acts row) :
    AllLogged acts old after := by
  obtain ⟨earlier, same, each⟩ := logged
  refine ⟨earlier ++ rows, by rw [audits, same, List.append_assoc], fun row member => ?_⟩
  rcases List.mem_append.mp member with before | last
  · exact each row before
  · exact new row last

theorem AllLogged.congr (logged : AllLogged acts old store)
    (audits : after.auditEvents = store.auditEvents) : AllLogged acts old after :=
  logged.append (by rw [audits, List.append_nil]) (by simp)

theorem auditRows_logged {entries : List CreateAuditEventInput} {ids : Nat → Id} {actor : Actor}
    (acting : acts actor) (written : ∀ entry ∈ entries, WrittenBy actor entry) :
    ∀ row ∈ auditRows entries ids, LoggedBy acts row := by
  intro row member
  obtain ⟨entry, among, rowId, rfl⟩ := auditRow_input member
  exact .inr ⟨actor, acting, (written entry among).named, (written entry among).entitled⟩

theorem commitMutation_logged {id : Id} {expectedVersion : Nat} {mutation : Mutation} {wall : Date}
    {ids : Nat → Id} {actor : Actor} (logged : AllLogged acts old store) (acting : acts actor)
    (written : ∀ entry ∈ mutation.records, WrittenBy actor entry)
    (committed : commitMutation store id expectedVersion mutation wall ids = .ok after) :
    AllLogged acts old after := by
  obtain ⟨_, rfl⟩ := commitMutation_ok _ _ _ _ _ _ _ committed
  exact logged.append rfl (auditRows_logged acting written)

theorem cascadeAll_logged {actor : Actor} {targetId : Id} {now wall : Date} {ids : Nat → Nat → Id}
    {affected : List AssignedIncidentRow} {index : Nat} (logged : AllLogged acts old store)
    (acting : acts actor) (admin : actor.role = .admin)
    (committed : cascadeAll actor targetId now wall ids affected index store = .ok after) :
    AllLogged acts old after := by
  induction affected generalizing index store with
  | nil => exact Except.ok.inj committed ▸ logged
  | cons incident rest ih =>
    obtain ⟨written, first, later⟩ := bind_ok committed
    exact ih (commitMutation_logged logged acting (cascade_written admin targetId incident now)
      first) later

theorem commitClearance_logged {actor : Actor} {target : User} {clearance : ClearanceLevel}
    {affected : List AssignedIncidentRow} {now wall : Date} {ids : Nat → Nat → Id}
    (logged : AllLogged acts old store) (acting : acts actor) (admin : actor.role = .admin)
    (committed : commitClearance store actor target clearance affected now wall ids = .ok after) :
    AllLogged acts old after := by
  obtain ⟨updated, found, cascading⟩ := bind_ok committed
  obtain rfl := updateUserClearance_ok found
  apply cascadeAll_logged ?_ acting admin cascading
  refine logged.append rfl (auditRows_logged acting ?_)
  exact List.forall_mem_singleton.mpr ⟨rfl, List.mem_singleton.mpr admin⟩

end Logged

/-! ### Steps -/

structure ServiceActs (acts : Actor → Prop) (old : List AuditEvent) (sys : System) : Prop where
  requests : ∀ request ∈ sys.requests,
    acts request.actor ∧ request.actor.role ∈ request.operation.roles
  clearances : ∀ request ∈ sys.clearances,
    acts request.actor ∧ ByOtherAdmin request.actor request.target
  logged : AllLogged acts old sys.store

section Steps
variable {config : JobConfig} {acts : Actor → Prop} {old : List AuditEvent}

theorem ServiceActs.withStore {sys : System} (inv : ServiceActs acts old sys) {store : Store}
    (logged : AllLogged acts old store) : ServiceActs acts old { sys with store := store } :=
  ⟨inv.requests, inv.clearances, logged⟩

/-- A token names the one actor that the account is now. -/
theorem acting_actor {store : Store} {named : Option Id} {userId : Id} {actor : Actor}
    (acting : ∀ id ∈ named, ∃ actor, authenticate store id = .ok actor ∧ acts actor)
    (is : userId ∈ named) (authenticated : authenticate store userId = .ok actor) : acts actor := by
  obtain ⟨other, same, acted⟩ := acting userId is
  exact Except.ok.inj (same.symm.trans authenticated) ▸ acted

theorem ServiceActs.step {sys next : System} {action : Action} (inv : ServiceActs acts old sys)
    (flight : InFlight sys)
    (acting : ∀ id ∈ action.userId, ∃ actor, authenticate sys.store id = .ok actor ∧ acts actor)
    (stepped : step config sys action = some next) : ServiceActs acts old next := by
  by_cases job : Action.ofJob action = true
  · cases step_job job stepped with
    | started => exact ⟨inv.requests, inv.clearances, inv.logged.congr rfl⟩
    | dropped => exact ⟨inv.requests, inv.clearances, inv.logged⟩
    | stepped k run after store reading isJob found drawn effect =>
      refine ⟨inv.requests, inv.clearances, ?_⟩
      cases effect with
      | outside _ _ closed still tables => exact inv.logged.congr tables.audits
      -- The run's own rows reach the log at its commit and no earlier.
      | committed batch _ phase done =>
        have reports := flight.batches run (List.mem_of_getElem? found) batch (open_of_phase phase)
        apply inv.logged.append (view_audits batch sys.store)
        exact fun row member => .inl (reports row (auditsOf_batch batch ▸ member))
      | _ => exact inv.logged
  · cases step_effect (by simpa using job) stepped with
    | refused => exact inv
    | created userId input image id now wall ids named =>
      -- Refused by `authenticate`, it changes nothing; refused later, it may burn a number, but the
      -- log stays.
      rcases accept_cases stepped with same | ⟨actor, authenticated, same⟩
      · rw [same]
        exact inv
      · rw [same]
        have acted := acting_actor acting rfl authenticated
        have effect := create_rows sys.store actor input image id now wall ids
        generalize create sys.store actor input image id now wall ids = answer at effect
        cases effect with
        | refused error after incidents audits => exact inv.withStore (inv.logged.congr audits)
        | created receipt after new fresh unassigned incidents audits =>
          exact inv.withStore (inv.logged.append audits
            (auditRows_logged acted (List.forall_mem_singleton.mpr ⟨rfl, mem_roleValues _⟩)))
    | loaded userId operation id expectedVersion request loaded =>
      refine ⟨fun other member => ?_, inv.clearances, inv.logged⟩
      rcases List.mem_append.mp member with earlier | last
      · exact inv.requests other earlier
      · obtain rfl := List.mem_singleton.mp last
        obtain ⟨authenticated, entitled⟩ := loadRequest_actor loaded
        exact ⟨acting_actor acting rfl authenticated, entitled⟩
    -- The read of the investigator names nobody new: the request acts for whom it was loaded.
    | readInvestigator k request id found names =>
      refine ⟨fun other member => ?_, inv.clearances, inv.logged⟩
      rcases Pool.mem_set member with rfl | same
      · exact inv.requests request (List.mem_of_getElem? found)
      · exact inv.requests other same
    | answered k now wall ids =>
      exact ⟨fun other member => inv.requests other (List.mem_of_mem_eraseIdx member),
        inv.clearances, inv.logged⟩
    | committed k now wall ids request mutation after found free decided written =>
      refine ⟨fun other member => inv.requests other (List.mem_of_mem_eraseIdx member),
        inv.clearances, ?_⟩
      -- The rows name the actor of the load, in whose name the request was accepted.
      have acted := inv.requests request (List.mem_of_getElem? found)
      exact commitMutation_logged inv.logged acted.1 (decide_written acted.2 decided) written
    | loadedClearance userId targetId clearance request loaded =>
      refine ⟨inv.requests, fun other member => ?_, inv.logged⟩
      rcases List.mem_append.mp member with earlier | last
      · exact inv.clearances other earlier
      · obtain rfl := List.mem_singleton.mp last
        obtain ⟨authenticated, admin⟩ := loadClearance_actor loaded
        exact ⟨acting_actor acting rfl authenticated, admin⟩
    | readImpact k request found =>
      refine ⟨inv.requests, fun other member => ?_, inv.logged⟩
      rcases Pool.mem_set member with rfl | same
      · exact inv.clearances request (List.mem_of_getElem? found)
      · exact inv.clearances other same
    | answeredClearance k now wall ids =>
      exact ⟨inv.requests,
        fun other member => inv.clearances other (List.mem_of_mem_eraseIdx member), inv.logged⟩
    | committedClearance k now wall ids request affected after found read free changes written =>
      refine ⟨inv.requests,
        fun other member => inv.clearances other (List.mem_of_mem_eraseIdx member), ?_⟩
      have acted := inv.clearances request (List.mem_of_getElem? found)
      exact commitClearance_logged inv.logged acted.1 acted.2.admin written
    | replacedTiers => exact inv.withStore (inv.logged.congr rfl)
    | markedRead => exact inv.withStore (inv.logged.congr rfl)
    | recordedDenial incidentId actorId auditId clearanceLevel now =>
      obtain ⟨actor, authenticated, acted⟩ := acting actorId rfl
      refine inv.withStore (inv.logged.append rfl (auditRows_logged acted ?_))
      exact List.forall_mem_singleton.mpr
        ⟨congrArg some (authenticate_id authenticated).symm, mem_roleValues _⟩

structure ActedBy (acts : Actor → Prop) (old : List AuditEvent) (sys : NoteSystem) : Prop where
  service : ServiceActs acts old sys.service
  changes : ∀ request ∈ sys.accounts.changes, acts request.actor ∧
    request.actor.role = .admin ∧
    ∀ role, request.change = .role role → request.actor.id ≠ request.target.id
  notes : ∀ request ∈ sys.notes, acts request.actor

theorem commit_logged {store after : Store} {request : AccountRequest} {now : Date}
    {ids : Nat → Id} (logged : AllLogged acts old store) (acting : acts request.actor)
    (admin : request.actor.role = .admin)
    (committed : request.commit store now ids = .ok after) : AllLogged acts old after := by
  unfold AccountRequest.commit at committed
  cases isChange : request.change with
  | role newRole =>
    rw [isChange] at committed
    obtain ⟨updated, done, last⟩ := bind_ok committed
    obtain rfl := Except.ok.inj last
    unfold updateUserRole updateUser at done
    split at done
    · obtain rfl := Except.ok.inj done
      refine logged.append rfl (auditRows_logged acting ?_)
      exact List.forall_mem_singleton.mpr ⟨rfl, List.mem_singleton.mpr admin⟩
    · simp at done
  | status isActive =>
    rw [isChange] at committed
    unfold updateUserStatus updateUser at committed
    simp only at committed
    split at committed
    · obtain rfl := Except.ok.inj committed
      exact logged.congr rfl
    · simp at committed

/-- A statement of a change: what it holds, and the store if it was the last. -/
theorem changeStep_acts {sys next : AccountSystem} {k : Nat} {request : AccountRequest} {now : Date}
    {ids : Nat → Id} (stepped : changeStep sys k request now ids = some next) :
    (∃ phase, next = { sys with changes := sys.changes.set k { request with phase := phase } }) ∨
    next = { sys with changes := sys.changes.eraseIdx k } ∨
    ∃ store, request.commit sys.service.store now ids = .ok store ∧
      next = ⟨{ sys.service with store := store }, sys.changes.eraseIdx k⟩ := by
  unfold changeStep at stepped
  split at stepped
  · exact .inl ⟨_, (Option.some.inj stepped).symm⟩
  · split at stepped
    · simp at stepped
    · dsimp only at stepped
      split at stepped
      · exact .inr (.inl (Option.some.inj stepped).symm)
      · exact .inl ⟨_, (Option.some.inj stepped).symm⟩
  · split at stepped
    · simp at stepped
    · split at stepped
      next store committed => exact .inr (.inr ⟨store, committed, (Option.some.inj stepped).symm⟩)
      · exact .inr (.inl (Option.some.inj stepped).symm)

theorem ActedBy.account {sys : NoteSystem} {next : AccountSystem} {action : AccountAction}
    (inv : ActedBy acts old sys) (flight : InFlight sys.service)
    (acting : ∀ id ∈ action.userId, ∃ actor,
      authenticate sys.service.store id = .ok actor ∧ acts actor)
    (stepped : accountStep config sys.accounts action = some next) :
    ActedBy acts old { sys with accounts := next } := by
  cases action with
  | service inner =>
    simp only [accountStep] at stepped
    split at stepped
    · simp at stepped
    · obtain ⟨after, moved, rfl⟩ := Option.map_eq_some_iff.mp stepped
      exact ⟨inv.service.step flight acting moved, inv.changes, inv.notes⟩
  | load userId targetId change =>
    simp only [accountStep] at stepped
    split at stepped
    next loaded found =>
      obtain rfl := Option.some.inj stepped
      refine ⟨inv.service, fun request member => ?_, inv.notes⟩
      rcases List.mem_append.mp member with earlier | last
      · exact inv.changes request earlier
      · obtain ⟨authenticated, rest⟩ := loadAccount_actor found (Option.mem_toList.mp last)
        exact ⟨acting_actor acting rfl authenticated, rest⟩
    · obtain rfl := Option.some.inj stepped
      exact inv
  | statement k now ids =>
    obtain ⟨request, found, moved⟩ := Option.bind_eq_some_iff.mp stepped
    have acted := inv.changes request (List.mem_of_getElem? found)
    have remain : ∀ other ∈ sys.accounts.changes.eraseIdx k, _ :=
      fun other member => inv.changes other (List.mem_of_mem_eraseIdx member)
    -- The statement moves the request on, ends it, or commits, and only the commit logs.
    rcases changeStep_acts moved with ⟨phase, rfl⟩ | rfl | ⟨store, committed, rfl⟩
    · refine ⟨inv.service, fun other member => ?_, inv.notes⟩
      rcases Pool.mem_set member with rfl | same
      · exact acted
      · exact inv.changes other same
    · exact ⟨inv.service, remain, inv.notes⟩
    · exact ⟨inv.service.withStore (commit_logged inv.service.logged acted.1 acted.2.1 committed),
        remain, inv.notes⟩
  | interrupt k =>
    obtain ⟨request, _, rfl⟩ := Option.map_eq_some_iff.mp stepped
    exact ⟨inv.service, fun other member => inv.changes other (List.mem_of_mem_eraseIdx member),
      inv.notes⟩

theorem ActedBy.step {sys next : NoteSystem} {action : NoteAction} (inv : ActedBy acts old sys)
    (flight : InFlight sys.service) (acting : ∀ id ∈ action.userId, ∃ actor,
      authenticate sys.service.store id = .ok actor ∧ acts actor)
    (stepped : noteStep config sys action = some next) : ActedBy acts old next := by
  cases noteStep_effect stepped with
  | account action after moved => exact inv.account flight acting moved
  | loaded userId incidentId body request admitted =>
    refine ⟨inv.service, inv.changes, fun other member => ?_⟩
    rcases List.mem_append.mp member with earlier | last
    · exact inv.notes other earlier
    · obtain rfl := List.mem_singleton.mp last
      exact acting_actor acting rfl (loadNote_actor admitted)
  | refused => exact inv
  | written k now noteId ids request result found committed =>
    refine ⟨inv.service.withStore ?_, inv.changes,
      fun other member => inv.notes other (List.mem_of_mem_eraseIdx member)⟩
    rw [noteCommit_ok committed]
    refine inv.service.logged.append rfl (auditRows_logged
      (inv.notes request (List.mem_of_getElem? found)) ?_)
    exact List.forall_mem_singleton.mpr ⟨rfl, mem_roleValues _⟩
  | dropped =>
    exact ⟨inv.service, inv.changes,
      fun other member => inv.notes other (List.mem_of_mem_eraseIdx member)⟩

end Steps

end IncidentApi.Properties
