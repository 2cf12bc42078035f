import IncidentApi.Properties.Administrators
import IncidentApi.Notes

/-!
# Assignees and their accounts

An assignment goes to an active investigator, and the gates of a closure proposal and of the notes
compare ids alone. A change of a role or a status looks at nobody's assignments. As long as none
takes the role or the status of an assignee, whoever passes such a gate is an investigator.
-/
namespace IncidentApi.Properties

/-! ### One operation at a time -/

/-- No operation starts while another is in flight. -/
def oneByOne (sys : AccountSystem) : AccountAction → Bool
  | .service action => sys.changes.isEmpty && oneAtATime sys.service action
  | .load _ _ _ =>
    sys.changes.isEmpty && sys.service.requests.isEmpty && sys.service.clearances.isEmpty
  | .statement _ _ _ | .interrupt _ => true

/-! ### The condition -/

def isActiveInvestigator (user : User) : Bool := user.role = .investigator && user.isActive

/-- The update takes neither the role nor the status of an investigator whom an incident in a
watched stage is assigned to. -/
def SparesAssignees (watched : Stage → Bool) (store : Store) (request : AccountRequest) : Prop :=
  isWriting request = true →
    (∃ row ∈ store.incidents,
      watched row.stage = true ∧ row.assignedInvestigatorId = some request.target.id) →
    ∀ user ∈ store.users, user.id = request.target.id → isActiveInvestigator user = true →
      isActiveInvestigator (request.change.write user) = true

instance (watched : Stage → Bool) (store : Store) (request : AccountRequest) :
    Decidable (SparesAssignees watched store request) :=
  inferInstanceAs (Decidable (_ → _ → _))

def AssigneesSpared (watched : Stage → Bool) (sys : AccountSystem) : AccountAction → Prop
  | .statement k _ _ =>
    ∀ request ∈ sys.changes[k]?, SparesAssignees watched sys.service.store request
  | _ => True

instance (watched : Stage → Bool) (sys : AccountSystem) :
    (action : AccountAction) → Decidable (AssigneesSpared watched sys action)
  | .statement k _ _ => inferInstanceAs (Decidable
      (∀ request ∈ sys.changes[k]?, SparesAssignees watched sys.service.store request))
  | .service _ | .load _ _ _ | .interrupt _ => inferInstanceAs (Decidable True)

/-! ### The invariant -/

/-- The assignee is a user with the role and the status that an assignment asks for. -/
def AssigneeInvestigates (users : List User) (row : Incident) : Prop :=
  ∀ id, row.assignedInvestigatorId = some id → HasAccount users id .investigator true

def WatchedInvestigate (watched : Stage → Bool) (store : Store) : Prop :=
  ∀ row ∈ store.incidents, watched row.stage = true → AssigneeInvestigates store.users row

structure InvestigatorInvariant (watched : Stage → Bool) (sys : AccountSystem) : Prop where
  snapshots : SnapshotInvariant sys.service
  sequential : Sequential sys.service
  apart : sys.changes = [] ∨ sys.service.requests = []
  investigate : WatchedInvestigate watched sys.service.store
  read : ∀ request ∈ sys.service.requests, ∀ user, request.investigator = some (some user) →
    HasAccount sys.service.store.users user.id user.role user.isActive

theorem AssigneeInvestigates.congr {users : List User} {row other : Incident}
    (investigates : AssigneeInvestigates users row)
    (same : protectedPart other = protectedPart row) : AssigneeInvestigates users other := by
  have assignee := protected_congr Incident.assignedInvestigatorId (fun _ => rfl) same
  rw [AssigneeInvestigates, assignee]
  exact investigates

/-- An operation leaves the assignee, removes them, or names an active investigator it has read. -/
theorem decide_assignee {operation : Operation} {actor : Actor} {id : Id} {row : TriageIncidentRow}
    {investigator : Option User} {now : Date} {mutation : Mutation}
    (decided : operation.decide actor id row investigator now = .ok mutation) :
    mutation.data.assignedInvestigatorId = none ∨
      mutation.data.assignedInvestigatorId = some none ∨
      ∃ user, investigator = some user ∧ user.role = .investigator ∧ user.isActive = true ∧
        mutation.data.assignedInvestigatorId = some (some user.id) := by
  cases operation with
  | triage =>
    rw [(triage_ok decided).2.1]
    exact Or.inl rfl
  | changeSeverity input =>
    obtain ⟨_, _, data, _⟩ := changeSeverity_ok decided
    rw [data]
    by_cases stranded : (strandedAssignee row input.severity).isSome = true
    · exact Or.inr (Or.inl (if_pos stranded))
    · exact Or.inl (if_neg stranded)
  | assignInvestigator investigatorId =>
    obtain ⟨_, user, read, role, active, _, data, _⟩ := assignInvestigator_ok decided
    rw [data]
    exact Or.inr (Or.inr ⟨user, read, role, active, rfl⟩)
  | unassignInvestigator =>
    obtain ⟨_, _, removed, _, data, _⟩ := unassignInvestigator_ok decided
    rw [data]
    exact Or.inr (Or.inl rfl)
  | acknowledge =>
    rw [(acknowledge_ok decided).2.2.1]
    exact Or.inl rfl
  | propose input =>
    rw [(propose_ok decided).2.2.1]
    exact Or.inl rfl
  | approve =>
    rw [(approve_ok decided).2.2.1]
    exact Or.inl rfl
  | reject reason =>
    rw [(reject_ok decided).2.1]
    exact Or.inl rfl

/-- A closed incident is not written, so a watch that covers the open stages sees every row that an
operation overwrites. -/
theorem service_investigates {config : JobConfig} {watched : Stage → Bool}
    (covers : ∀ stage, stage ≠ .closed → watched stage = true) {sys next : System}
    {action : Action} (snapshots : SnapshotInvariant sys) (sequential : Sequential sys)
    (investigate : WatchedInvestigate watched sys.store)
    (read : ∀ request ∈ sys.requests, ∀ user, request.investigator = some (some user) →
      HasAccount sys.store.users user.id user.role user.isActive)
    (stepped : step config sys action = some next) : WatchedInvestigate watched next.store := by
  obtain ⟨rows, _, origin⟩ :=
    step_rowSteps snapshots (sequential.pinsRead snapshots action) stepped
  intro new member seen id assigned
  apply (step_hasAccount stepped id .investigator true).mpr
  rcases origin new member with ⟨old, stored, _, rowStep⟩ |
    ⟨actor, input, imagePath, newId, reference, now, wall, rfl, _⟩
  · cases rowStep with
    | kept => exact investigate _ stored seen id assigned
    | decided k now wall ids request mutation isCommit found free pins current decided logs =>
      have effect := (decide_lifecycle decided).congr current
      -- the row it overwrites is open, so it was watched
      have before := investigate old stored (covers old.stage effect.opened)
      rcases decide_assignee decided with same | removed | ⟨user, isRead, role, active, named⟩
      · simp only [UpdateIncidentStateInput.write, same, Option.getD_none] at assigned
        exact before id assigned
      · simp [UpdateIncidentStateInput.write, removed] at assigned
      · obtain rfl : user.id = id := by
          simpa [UpdateIncidentStateInput.write, named] using assigned
        have known := investigator_read isRead
        have account := read request (List.mem_of_getElem? found) user known
        rwa [role, active] at account
    | cascaded actor targetId incident now wall named stage opened assignee free logs =>
      simp [UpdateIncidentStateInput.write, cascade] at assigned
    | bumped new job same =>
      have stage := protected_congr Incident.stage (fun _ => rfl) same
      exact (investigate old stored (stage ▸ seen)).congr same id assigned
  · simp [newIncident] at assigned

theorem step_read {config : JobConfig} {sys next : System} {action : Action}
    (read : ∀ request ∈ sys.requests, ∀ user, request.investigator = some (some user) →
      HasAccount sys.store.users user.id user.role user.isActive)
    (stepped : step config sys action = some next) :
    ∀ request ∈ next.requests, ∀ user, request.investigator = some (some user) →
      HasAccount next.store.users user.id user.role user.isActive := by
  intro request member user isRead
  apply (step_hasAccount stepped user.id user.role user.isActive).mpr
  rcases step_requests stepped member with old | ⟨_, _, _, _, _, loaded⟩ |
    ⟨k, old, id, _, found, _, rfl⟩
  · exact read request old user isRead
  · obtain ⟨_, _, _, _, _, _, unread⟩ := loadRequest_ok loaded
    simp [unread] at isRead
  · have answer : sys.store.userById id = some user := Option.some.inj isRead
    exact hasAccount_iff.mpr ⟨user, List.mem_of_find?_eq_some answer, rfl, rfl, rfl⟩

/-- An update that spares the assignees leaves each of them an active investigator. -/
theorem written_investigates {watched : Stage → Bool} {store : Store} {request : AccountRequest}
    (writes : isWriting request = true) (investigate : WatchedInvestigate watched store)
    (spares : SparesAssignees watched store request) :
    ∀ row ∈ store.incidents, watched row.stage = true →
      AssigneeInvestigates (written request store.users) row := by
  intro row stored seen id assigned
  have before := investigate row stored seen id assigned
  by_cases target : id = request.target.id
  · obtain ⟨user, member, rfl, role, active⟩ := hasAccount_iff.mp before
    have kept := spares writes ⟨row, stored, seen, target ▸ assigned⟩ user member target
      (by simp [isActiveInvestigator, role, active])
    simp only [isActiveInvestigator, Bool.and_eq_true, decide_eq_true_eq] at kept
    refine hasAccount_iff.mpr ⟨request.change.write user, ?_, accountWrite_id _ user, kept⟩
    exact List.mem_map.mpr ⟨user, member, if_pos target⟩
  · exact before.written target

theorem InvestigatorInvariant.step {config : JobConfig} {watched : Stage → Bool}
    (covers : ∀ stage, stage ≠ .closed → watched stage = true) {sys next : AccountSystem}
    {action : AccountAction} (inv : InvestigatorInvariant watched sys)
    (single : oneByOne sys action = true) (spared : AssigneesSpared watched sys action)
    (stepped : accountStep config sys action = some next) :
    InvestigatorInvariant watched next := by
  have effect := accountStep_effect stepped
  cases effect with
  | service action after moved =>
    simp only [oneByOne, Bool.and_eq_true, List.isEmpty_iff] at single
    constructor
    · exact inv.snapshots.step moved
    · exact inv.sequential.step single.2 moved
    · exact Or.inl single.1
    · exact service_investigates covers inv.snapshots inv.sequential inv.investigate inv.read moved
    · exact step_read inv.read moved
  | loaded userId targetId change request found =>
    simp only [oneByOne, Bool.and_eq_true, List.isEmpty_iff] at single
    exact ⟨inv.snapshots, inv.sequential, Or.inr single.1.2, inv.investigate, inv.read⟩
  | refused action => exact inv
  | moved k now ids request phase found locks =>
    refine ⟨inv.snapshots, inv.sequential, ?_, inv.investigate, inv.read⟩
    rcases inv.apart with none | idle
    · simp [none] at found
    · exact Or.inr idle
  | written k now ids request rows found writes free =>
    -- no request is in flight that has read the account before the change
    have idle : sys.service.requests = [] := by
      rcases inv.apart with none | idle
      · simp [none] at found
      · exact idle
    constructor
    · exact accountStep_snapshots inv.snapshots stepped
    · exact Or.inl idle
    · exact Or.inr idle
    · exact written_investigates writes inv.investigate (spared request found)
    · simp [idle]
  | dropped k action =>
    refine ⟨inv.snapshots, inv.sequential, ?_, inv.investigate, inv.read⟩
    rcases inv.apart with none | idle
    · exact Or.inl (by simp [none])
    · exact Or.inr idle

theorem reached_investigators {config : JobConfig} {watched : Stage → Bool}
    (covers : ∀ stage, stage ≠ .closed → watched stage = true) {start : Store} {issued : List Id}
    (unique : start.UniqueIds) (investigate : WatchedInvestigate watched start)
    {sys : AccountSystem}
    (reached : Machine.Reaches (accountStep config) (fun sys action =>
      oneByOne sys action = true ∧ AssigneesSpared watched sys action)
      (AccountSystem.boot start issued) sys) : InvestigatorInvariant watched sys := by
  apply reached.invariant (InvestigatorInvariant watched)
  · exact ⟨.boot unique issued, Or.inl rfl, Or.inl rfl, investigate,
      by simp [AccountSystem.boot, System.boot]⟩
  · intro before action after _ inv permitted stepped
    exact inv.step covers permitted.1 permitted.2 stepped

/-! ### The gates -/

def MayInvestigate (actor : Actor) : Prop := actor.role = .admin ∨ actor.role = .investigator

/-- Whoever passes the gates that compare the assignee is an investigator or an administrator. -/
structure GatesHold (store : Store) : Prop where
  propose : ∀ userId operation id expectedVersion request,
    loadRequest store userId operation id expectedVersion = .ok request →
    assertIsAssigneeOrAdmin request.actor request.row request.id = .ok () →
    MayInvestigate request.actor
  listNotes : ∀ userId actor, authenticate store userId = .ok actor →
    ∀ js id cursorRaw pageSize page, listNotes js store actor id cursorRaw pageSize = .ok page →
      MayInvestigate actor
  addNote : ∀ userId actor, authenticate store userId = .ok actor →
    ∀ id body now noteId ids result, addNote store actor id body now noteId ids = .ok result →
      MayInvestigate actor

theorem authenticate_ok {store : Store} {userId : Id} {actor : Actor}
    (authenticated : authenticate store userId = .ok actor) :
    ∃ user ∈ store.users, actor = ⟨user.id, user.role, user.clearanceLevel⟩ := by
  unfold authenticate at authenticated
  split at authenticated
  next user found =>
    split at authenticated
    · exact ⟨user, List.mem_of_find?_eq_some found, (Except.ok.inj authenticated).symm⟩
    · simp at authenticated
  · simp at authenticated

/-- Ids are unique, so the assignee is the actor's own account. -/
theorem assignee_mayInvestigate {store : Store} (unique : (store.users.map User.id).Nodup)
    (investigate : WatchedInvestigate (fun _ => true) store) {userId : Id} {actor : Actor}
    (authenticated : authenticate store userId = .ok actor) {row : Incident}
    (stored : row ∈ store.incidents)
    (passes : actor.role = .admin ∨ row.assignedInvestigatorId = some actor.id) :
    MayInvestigate actor := by
  rcases passes with isAdmin | assigned
  · exact Or.inl isAdmin
  · obtain ⟨user, member, rfl⟩ := authenticate_ok authenticated
    have account := investigate row stored rfl user.id assigned
    obtain ⟨other, among, same, role, _⟩ := hasAccount_iff.mp account
    obtain rfl := List.inj_on_of_nodup_map unique among member same
    exact Or.inr role

theorem notes_gate {store : Store} {actor : Actor} {id : Id} {row : TriageIncidentRow}
    (admitted : assertReadAccess store actor id = .ok row) :
    row.toIncident ∈ store.incidents ∧
      (actor.role = .admin ∨ row.assignedInvestigatorId = some actor.id) := by
  obtain ⟨loaded, reads⟩ := assertReadAccess_ok admitted
  simp only [canReadNotes, Bool.and_eq_true, Bool.or_eq_true, decide_eq_true_eq] at reads
  exact ⟨(getByIdForActor_ok store actor id row loaded).1, reads.2⟩

theorem gates_hold {store : Store} (unique : (store.users.map User.id).Nodup)
    (investigate : WatchedInvestigate (fun _ => true) store) : GatesHold store := by
  constructor
  · intro userId operation id expectedVersion request loaded passes
    have stored := (loadRequest_ok loaded).1
    obtain ⟨actor, authenticated, rest⟩ := bind_ok loaded
    obtain ⟨_, _, rest⟩ := bind_ok rest
    obtain ⟨row, _, last⟩ := bind_ok rest
    obtain rfl := Except.ok.inj last
    unfold assertIsAssigneeOrAdmin at passes
    split at passes
    next gate => exact assignee_mayInvestigate unique investigate authenticated stored gate
    · simp at passes
  · intro userId actor authenticated js id cursorRaw pageSize page listed
    obtain ⟨row, admitted, _⟩ := bind_ok listed
    obtain ⟨stored, gate⟩ := notes_gate admitted
    exact assignee_mayInvestigate unique investigate authenticated stored gate
  · intro userId actor authenticated id body now noteId ids result added
    obtain ⟨row, admitted, _⟩ := bind_ok added
    obtain ⟨stored, gate⟩ := notes_gate admitted
    exact assignee_mayInvestigate unique investigate authenticated stored gate

/-- With one operation at a time, as long as no change of a role or a status hits an assignee of an
open incident, each of these is an active investigator, and as long as none hits an assignee, the
gates admit nobody else. -/
theorem assignees_are_investigators (config : JobConfig) (start : Store) (issued : List Id)
    (unique : start.UniqueIds) (investigate : WatchedInvestigate (fun _ => true) start) :
    (∀ sys, Machine.Reaches (accountStep config) (fun sys action => oneByOne sys action = true ∧
        AssigneesSpared (fun stage => decide (stage ≠ .closed)) sys action)
        (AccountSystem.boot start issued) sys →
      ∀ row ∈ sys.service.store.incidents, row.stage ≠ .closed →
        AssigneeInvestigates sys.service.store.users row) ∧
    ∀ sys, Machine.Reaches (accountStep config) (fun sys action => oneByOne sys action = true ∧
        AssigneesSpared (fun _ => true) sys action) (AccountSystem.boot start issued) sys →
      GatesHold sys.service.store := by
  constructor
  · intro sys reached row stored opened
    have inv := reached_investigators (by simp) unique
      (fun row stored _ => investigate row stored rfl) reached
    exact inv.investigate row stored (by simp [opened])
  · intro sys reached
    have inv := reached_investigators (fun _ _ => rfl) unique investigate reached
    exact gates_hold inv.snapshots.unique.users inv.investigate

/-! ### Two runs -/

/-- The staff of the sample with an administrator who is not active yet. -/
def staffedByThree : Store :=
  { staffedStore with users := [sampleAdmin, sampleInvestigator, secondAdmin false] }

/-- An incident under investigation, and then a change of an account. -/
def investigatedThen (targetId : Id) (change : AccountChange) : List AccountAction :=
  (reported ++ performed .triage 0 1 ++ investigated 1 2).map .service ++
    [.load "admin" targetId change, accountWritten 0 3]

theorem assignees_are_investigators_sample :
    ∃ sys, Machine.exec (accountStep sampleConfig) (fun sys action => oneByOne sys action &&
        decide (AssigneesSpared (fun _ => true) sys action))
        (AccountSystem.boot staffedByThree []) (investigatedThen "second" (.status true)) =
          some sys ∧
      sys.service.store.incidents.map (fun row => (row.stage, row.assignedInvestigatorId)) =
        [(.investigation, some "investigator")] ∧
      GatesHold sys.service.store := by
  have ran : (Machine.exec (accountStep sampleConfig) (fun sys action => oneByOne sys action &&
      decide (AssigneesSpared (fun _ => true) sys action))
      (AccountSystem.boot staffedByThree []) (investigatedThen "second" (.status true))).map
        (fun sys => sys.service.store.incidents.map fun row =>
          (row.stage, row.assignedInvestigatorId)) =
      some [(.investigation, some "investigator")] := by decide
  obtain ⟨sys, executed, rows⟩ := Option.map_eq_some_iff.mp ran
  refine ⟨sys, executed, rows, ?_⟩
  apply (assignees_are_investigators sampleConfig staffedByThree [] ⟨by decide, by decide⟩
    (by simp [WatchedInvestigate, staffedByThree, staffedStore])).2 sys
  exact Machine.reaches_of_exec _ (fun _ _ both => by simpa using both) _ _ _ executed

/-- The investigator of an open incident becomes a triage manager, and may propose its closure. -/
theorem triage_manager_passes_gate :
    ∃ sys, Machine.Reaches (accountStep sampleConfig) (fun sys action => oneByOne sys action = true)
        (AccountSystem.boot staffedByThree []) sys ∧
      (∃ row ∈ sys.service.store.incidents, row.stage ≠ .closed ∧
        ¬ AssigneeInvestigates sys.service.store.users row) ∧
      ∃ request, loadRequest sys.service.store "investigator" (.propose sampleProposal) "i" 2 =
          .ok request ∧
        assertIsAssigneeOrAdmin request.actor request.row request.id = .ok () ∧
        request.actor.role = .triageManager := by
  have ran : (Machine.exec (accountStep sampleConfig) oneByOne
      (AccountSystem.boot staffedByThree [])
      (investigatedThen "investigator" (.role .triageManager))).bind (fun sys =>
        (loadRequest sys.service.store "investigator" (.propose sampleProposal) "i" 2).toOption.map
          fun request =>
          (decide (∃ row ∈ sys.service.store.incidents, row.stage ≠ .closed ∧
              row.assignedInvestigatorId = some "investigator"),
            sys.service.store.users.map accountOf,
            decide ((assertIsAssigneeOrAdmin request.actor request.row request.id).toOption =
              some ()),
            request.actor.role)) =
      some (true, [("admin", .admin, true), ("investigator", .triageManager, true),
        ("second", .admin, false)], true, .triageManager) := by decide
  obtain ⟨sys, executed, rest⟩ := Option.bind_eq_some_iff.mp ran
  obtain ⟨request, loaded, facts⟩ := Option.map_eq_some_iff.mp rest
  simp only [Prod.mk.injEq, decide_eq_true_eq] at facts
  obtain ⟨⟨row, stored, opened, assigned⟩, users, passes, role⟩ := facts
  refine ⟨sys, Machine.reaches_of_exec _ (fun _ _ => id) _ _ _ executed,
    ⟨row, stored, opened, ?_⟩, request, eq_ok_of_toOption loaded, eq_ok_of_toOption passes, role⟩
  -- The account is still active, but a manager's now.
  intro investigates
  have account := investigates "investigator" assigned
  rw [HasAccount, users] at account
  simp at account

end IncidentApi.Properties
