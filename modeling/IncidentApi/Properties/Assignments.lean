import IncidentApi.Properties.Investigations

/-!
# Assignees and their clearance

An assignment and a severity change compare a severity with a clearance that was read before their
transaction, and a clearance change unassigns the incidents that were listed before its own. The
user row has no version, so each check can be out of date when its write commits. As long as none
is, nobody stays assigned above their clearance.
-/
namespace IncidentApi.Properties

/-! ### The property -/

/-- The assignee of an incident that is not closed has the clearance for its severity. -/
def AssigneeCleared (users : List User) (row : Incident) : Prop :=
  row.stage ≠ .closed → ∀ id, row.assignedInvestigatorId = some id →
    ∃ user ∈ users, user.id = id ∧ severityRank row.severity ≤ user.clearanceLevel

/-! ### Checks that are out of date -/

/-- The user whose clearance the decision compares, the clearance it sees, and the severity. -/
def clearanceCompared (request : Request) : Option (Id × Nat × Severity) :=
  match request.operation with
  | .assignInvestigator _ =>
    (request.investigator.getD none).map fun user =>
      (user.id, user.clearanceLevel, request.row.severity)
  | .changeSeverity input =>
    request.row.assignee.map fun assignee =>
      (assignee.id, assignee.clearanceLevel, input.severity)
  | _ => none

/-- The clearance a request compared has not been lowered past the severity since it was read, or
the request would overwrite no row. -/
def ComparisonStands (sys : System) (request : Request) : Prop :=
  (∃ row ∈ sys.store.incidents, pinned request.id request.expectedVersion row = true) →
    ∀ compared ∈ clearanceCompared request, ∀ user ∈ sys.store.users, user.id = compared.1 →
      ¬ (user.clearanceLevel < severityRank compared.2.2 ∧
        severityRank compared.2.2 ≤ compared.2.1)

instance (sys : System) (request : Request) : Decidable (ComparisonStands sys request) :=
  inferInstanceAs (Decidable (_ → ∀ compared ∈ clearanceCompared request, _))

/-- Every incident that the new clearance strands at the commit is among those that were listed,
or one of these has changed and the transaction will be undone. -/
def ImpactStands (sys : System) (request : ClearanceRequest) (affected : List AssignedIncidentRow) :
    Prop :=
  request.target.clearanceLevel ≠ request.clearance.level →
    (∀ incident ∈ affected, ∃ row ∈ sys.store.incidents,
      pinned incident.id incident.version row = true) →
    ∀ incident ∈ computeClearanceImpact sys.store request.target.id request.clearance.level,
      incident.id ∈ affected.map (·.id)

instance (sys : System) (request : ClearanceRequest) (affected : List AssignedIncidentRow) :
    Decidable (ImpactStands sys request affected) :=
  inferInstanceAs (Decidable (_ → _ → _))

/-- The condition that the clearance changes of a run meet when they commit. -/
def OnImpact (condition : System → ClearanceRequest → List AssignedIncidentRow → Prop)
    (sys : System) : Action → Prop
  | .commitClearance k _ _ _ =>
    ∀ request ∈ sys.clearances[k]?, ∀ affected ∈ request.affected, condition sys request affected
  | _ => True

/-! ### What a step does to users -/

theorem step_users {config : JobConfig} {sys next : System} {action : Action}
    (stepped : step config sys action = some next)
    (other : ∀ k now wall ids, action ≠ .commitClearance k now wall ids) :
    next.store.users = sys.store.users := by
  by_cases job : Action.ofJob action = true
  · cases step_job job stepped with
    | stepped k run after store reading isJob found drawn effect =>
      cases effect with
      | outside _ _ closed still tables => exact tables.users
      | committed batch _ phase done => rw [view_eq]
      | _ => rfl
    | _ => rfl
  · cases step_effect (by simpa using job) stepped with
    | created userId input image id now wall ids actor =>
      exact (create_effect sys.store actor input image id now wall ids).users
    | committed k now wall ids request mutation after found free decided written =>
      obtain ⟨_, rfl⟩ := commitMutation_ok _ _ _ _ _ _ _ written
      rfl
    | committedClearance k now wall ids => exact absurd rfl (other k now wall ids)
    | _ => rfl

/-! ### Reads of users -/

/-- What a pending request has read of users that still exist: the assignee its incident names was
joined in, and the investigator it looked up is a user. -/
structure ReadsUsers (users : List User) (request : Request) : Prop where
  assignee : ∀ id, request.row.assignedInvestigatorId = some id → id ∈ users.map User.id →
    ∃ assignee, request.row.assignee = some assignee ∧ assignee.id = id
  investigator : ∀ user, request.investigator = some (some user) → user.id ∈ users.map User.id

/-- The investigator that a decision was given has been read. -/
theorem investigator_read {answer : Option (Option User)} {user : User}
    (given : answer.getD none = some user) : answer = some (some user) := by
  cases answer with
  | none => simp at given
  | some found => simpa using given

theorem userById_isSome {store : Store} {id : Id} (known : id ∈ store.users.map User.id) :
    ∃ user, store.userById id = some user ∧ user.id = id := by
  obtain ⟨user, member, rfl⟩ := List.mem_map.mp known
  have found : (store.userById user.id).isSome = true :=
    List.find?_isSome.mpr ⟨user, member, by simp⟩
  obtain ⟨first, same⟩ := Option.isSome_iff_exists.mp found
  exact ⟨first, same, by simpa using List.find?_some same⟩

theorem step_reads {config : JobConfig} {sys next : System} {action : Action}
    (inv : SnapshotInvariant sys)
    (each : ∀ request ∈ sys.requests, ReadsUsers sys.store.users request)
    (stepped : step config sys action = some next) :
    ∀ request ∈ next.requests, ReadsUsers next.store.users request := by
  have ids := (step_store inv.impacts stepped).userIds
  intro request member
  have current : ReadsUsers sys.store.users request := by
    rcases step_requests stepped member with old | ⟨_, _, _, _, _, loaded⟩ |
      ⟨k, old, id, _, found, _, rfl⟩
    · exact each request old
    -- a fresh load joins the assignee from the users of now
    · obtain ⟨_, _, joined, _, _, _, unread⟩ := loadRequest_ok loaded
      constructor
      · intro id assigned known
        obtain ⟨user, found, same⟩ := userById_isSome known
        rw [joined]
        refine ⟨⟨user.id, user.displayName, user.clearanceLevel⟩, ?_, same⟩
        simp [joinAssignee, assigned, found]
      · intro user read
        simp [unread] at read
    · have before := each old (List.mem_of_getElem? found)
      refine ⟨before.assignee, ?_⟩
      intro user read
      have answer : sys.store.userById id = some user := Option.some.inj read
      exact List.mem_map_of_mem (List.mem_of_find?_eq_some answer)
  constructor
  · intro id assigned known
    exact current.assignee id assigned (ids ▸ known)
  · intro user read
    exact ids ▸ current.investigator user read

/-! ### The cascade -/

/-- A cascade that commits has found every listed incident at the version that was read. -/
theorem cascadeAll_pins {actor : Actor} {targetId : Id} {now wall : Date} {ids : Nat → Nat → Id}
    {affected : List AssignedIncidentRow} {index : Nat} {store after : Store}
    (distinct : (affected.map (·.id)).Nodup)
    (committed : cascadeAll actor targetId now wall ids affected index store = .ok after) :
    ∀ incident ∈ affected, ∃ row ∈ store.incidents,
      pinned incident.id incident.version row = true := by
  induction affected generalizing index store with
  | nil => simp
  | cons incident rest ih =>
    simp only [List.map_cons, List.nodup_cons] at distinct
    obtain ⟨written, first, later⟩ := bind_ok committed
    obtain ⟨⟨row, stored, named, version, _⟩, rfl⟩ := commitMutation_ok _ _ _ _ _ _ _ first
    intro other among
    rcases List.mem_cons.mp among with rfl | tail
    · exact ⟨row, stored, (pinned_iff _ _ _).mpr ⟨named, version⟩⟩
    · obtain ⟨found, member, pins⟩ := ih distinct.2 later other tail
      obtain ⟨old, before, rfl⟩ := List.mem_map.mp member
      -- the write before it was to another incident
      by_cases first : pinned incident.id incident.version old = true
      · rw [if_pos first] at pins
        have own := ((pinned_iff _ _ _).mp first).1
        have same := ((pinned_iff _ _ _).mp pins).1
        rw [write_id, own] at same
        exact absurd (List.mem_map_of_mem tail) (same ▸ distinct.1)
      · rw [if_neg first] at pins
        exact ⟨old, before, pins⟩

/-- What the cascade makes of a listed incident. -/
theorem cascaded_listed (actor : Actor) (targetId : Id) (now wall : Date)
    {affected : List AssignedIncidentRow} (distinct : (affected.map (·.id)).Nodup)
    {incident : AssignedIncidentRow} (among : incident ∈ affected) {row : Incident}
    (pins : pinned incident.id incident.version row = true) :
    cascaded actor targetId now wall affected row =
      (cascade actor targetId incident now).data.write wall row := by
  induction affected with
  | nil => simp at among
  | cons first rest ih =>
    simp only [List.map_cons, List.nodup_cons] at distinct
    have own := ((pinned_iff _ _ _).mp pins).1
    rw [cascaded_cons]
    rcases List.mem_cons.mp among with rfl | tail
    · rw [if_pos pins]
      exact cascaded_other (by simpa [own] using distinct.1)
    · have unpinned : pinned first.id first.version row = false := by
        by_contra named
        have same := ((pinned_iff _ _ _).mp (by simpa using named)).1
        exact distinct.1 (same ▸ own ▸ List.mem_map_of_mem tail)
      rw [if_neg (by simp [unpinned])]
      exact ih distinct.2 tail

theorem commitClearance_pins {store after : Store} {actor : Actor} {target : User}
    {clearance : ClearanceLevel} {affected : List AssignedIncidentRow} {now wall : Date}
    {ids : Nat → Nat → Id} (distinct : (affected.map (·.id)).Nodup)
    (committed : commitClearance store actor target clearance affected now wall ids = .ok after) :
    ∀ incident ∈ affected, ∃ row ∈ store.incidents,
      pinned incident.id incident.version row = true := by
  obtain ⟨updated, found, cascading⟩ := bind_ok committed
  obtain rfl := updateUserClearance_ok found
  -- the user's own update leaves the incidents alone
  intro incident among
  obtain ⟨row, stored, pins⟩ := cascadeAll_pins distinct cascading incident among
  exact ⟨row, stored, pins⟩

/-- The whole clearance change, incident by incident: one that stays assigned to the target is
within the new clearance. -/
theorem commitClearance_cleared {sys : System} {request : ClearanceRequest} {now wall : Date}
    {ids : Nat → Nat → Id} {affected : List AssignedIncidentRow} {after : Store}
    (inv : SnapshotInvariant sys) (member : request ∈ sys.clearances)
    (read : request.affected = some affected)
    (stands : ImpactStands sys request affected)
    (changes : request.target.clearanceLevel ≠ request.clearance.level)
    (each : ∀ row ∈ sys.store.incidents, AssigneeCleared sys.store.users row)
    (committed : commitClearance sys.store request.actor request.target request.clearance affected
      now wall ids = .ok after) :
    ∀ row ∈ after.incidents, AssigneeCleared after.users row := by
  have distinct := inv.impacts request member affected read
  have pins := commitClearance_pins distinct committed
  obtain ⟨rows, rfl, _⟩ := commitClearance_ok committed
  intro row stored
  obtain ⟨old, before, rfl⟩ := List.mem_map.mp stored
  by_cases listed : old.id ∈ affected.map (·.id)
  -- a listed incident has lost its assignee
  · obtain ⟨incident, among, named⟩ := List.mem_map.mp listed
    obtain ⟨found, inside, pinsFound⟩ := pins incident among
    obtain rfl := eq_of_id_eq inv.unique.incidents inside before
      (((pinned_iff _ _ _).mp pinsFound).1.trans named)
    rw [cascaded_listed request.actor request.target.id now wall distinct among pinsFound]
    intro _ id assigned
    simp [UpdateIncidentStateInput.write, cascade] at assigned
  · rw [cascaded_other listed]
    intro opened id assigned
    obtain ⟨user, among, rfl, cleared⟩ := each old before opened id assigned
    refine ⟨_, List.mem_map_of_mem among, ?_, ?_⟩
    · split <;> rfl
    · split
      next target =>
        -- an incident above the new clearance would have been listed
        by_contra above
        apply listed
        have stranded : old.assigned ∈ computeClearanceImpact sys.store request.target.id
            request.clearance.level := by
          simp only [computeClearanceImpact, findAssignedNonClosedIncidents, List.mem_filter,
            List.mem_map]
          refine ⟨⟨old, ⟨before, ?_⟩, rfl⟩, ?_⟩
          · simp [assigned, target, opened]
          · exact decide_eq_true (not_le.mp above)
        exact stands changes pins old.assigned stranded
      · exact cleared

/-! ### Mutations -/

theorem AssigneeCleared.congr {users : List User} {row other : Incident}
    (cleared : AssigneeCleared users row) (same : protectedPart other = protectedPart row) :
    AssigneeCleared users other := by
  have stage := protected_congr Incident.stage (fun _ => rfl) same
  have assignee := protected_congr Incident.assignedInvestigatorId (fun _ => rfl) same
  have severity := protected_congr Incident.severity (fun _ => rfl) same
  rw [AssigneeCleared, stage, assignee, severity]
  exact cleared

/-- An update that moves neither the severity nor the assignee of an open incident. -/
theorem write_cleared {users : List User} {row : Incident} {data : UpdateIncidentStateInput}
    (wall : Date) (cleared : AssigneeCleared users row) (opened : row.stage ≠ .closed)
    (severity : data.severity = none) (assignee : data.assignedInvestigatorId = none) :
    AssigneeCleared users (data.write wall row) := by
  intro _ id assigned
  simp only [UpdateIncidentStateInput.write, severity, assignee, Option.getD_none] at assigned ⊢
  exact cleared opened id assigned

/-- What an operation writes to the row it read, if the clearance it compared still stands. -/
theorem decide_cleared {users : List User} {request : Request} {now wall : Date}
    {mutation : Mutation} (reads : ReadsUsers users request)
    (cleared : AssigneeCleared users request.row.toIncident)
    (stands : ∀ compared ∈ clearanceCompared request, ∀ user ∈ users, user.id = compared.1 →
      ¬ (user.clearanceLevel < severityRank compared.2.2 ∧
        severityRank compared.2.2 ≤ compared.2.1))
    (decided : request.decide now = .ok mutation) :
    AssigneeCleared users (mutation.data.write wall request.row.toIncident) := by
  have opened := (decide_lifecycle decided).opened
  unfold Request.decide at decided
  unfold clearanceCompared at stands
  cases isOperation : request.operation with
  | triage =>
    rw [isOperation] at decided
    rw [(triage_ok decided).2.1]
    exact write_cleared wall cleared opened rfl rfl
  | changeSeverity input =>
    rw [isOperation] at decided stands
    obtain ⟨_, _, data, _⟩ := changeSeverity_ok decided
    rw [data]
    intro _ id assigned
    by_cases stranded : (strandedAssignee request.row input.severity).isSome = true
    · simp [UpdateIncidentStateInput.write, stranded] at assigned
    · simp only [UpdateIncidentStateInput.write, stranded, Option.getD_none] at assigned
      obtain ⟨user, among, same, _⟩ := cleared opened id assigned
      obtain ⟨assignee, joined, named⟩ :=
        reads.assignee id assigned (same ▸ List.mem_map_of_mem among)
      refine ⟨user, among, same, ?_⟩
      -- the joined clearance was high enough, so the stored one still is
      have enough : severityRank input.severity ≤ assignee.clearanceLevel := by
        simpa [strandedAssignee, joined, mustUnassignOnRaise] using stranded
      have kept := stands (assignee.id, assignee.clearanceLevel, input.severity)
        (by simp [joined]) user among (same.trans named.symm)
      change severityRank input.severity ≤ user.clearanceLevel
      by_contra lower
      exact kept ⟨not_le.mp lower, enough⟩
  | assignInvestigator investigatorId =>
    rw [isOperation] at decided stands
    obtain ⟨_, user, read, _, _, enough, data, _⟩ := assignInvestigator_ok decided
    rw [data]
    intro _ id assigned
    obtain rfl : user.id = id := by
      simpa [UpdateIncidentStateInput.write] using assigned
    have known := investigator_read read
    obtain ⟨stored, among, same⟩ := List.mem_map.mp (reads.investigator user known)
    refine ⟨stored, among, same, ?_⟩
    have kept := stands (user.id, user.clearanceLevel, request.row.severity) (by simp [known])
      stored among same
    change severityRank request.row.severity ≤ stored.clearanceLevel
    by_contra lower
    exact kept ⟨not_le.mp lower, by simpa [canAssignInvestigator] using enough⟩
  | unassignInvestigator =>
    rw [isOperation] at decided
    obtain ⟨_, _, _, _, data, _⟩ := unassignInvestigator_ok decided
    rw [data]
    intro _ id assigned
    simp [UpdateIncidentStateInput.write] at assigned
  | acknowledge =>
    rw [isOperation] at decided
    rw [(acknowledge_ok decided).2.2.1]
    exact write_cleared wall cleared opened rfl rfl
  | propose input =>
    rw [isOperation] at decided
    rw [(propose_ok decided).2.2.1]
    exact write_cleared wall cleared opened rfl rfl
  | approve =>
    rw [isOperation] at decided
    rw [(approve_ok decided).2.2.1]
    exact write_cleared wall cleared opened rfl rfl
  | reject reason =>
    rw [isOperation] at decided
    rw [(reject_ok decided).2.1]
    exact write_cleared wall cleared opened rfl rfl

/-! ### Every interleaving -/

/-- The conditions that the commits of a run meet. -/
def ClearancesStand (sys : System) (action : Action) : Prop :=
  OnCommit IfMatchNotAhead sys action ∧ OnCommit ComparisonStands sys action ∧
    OnImpact ImpactStands sys action

structure ClearanceInvariant (sys : System) : Prop where
  cleared : ∀ row ∈ sys.store.incidents, AssigneeCleared sys.store.users row
  reads : ∀ request ∈ sys.requests, ReadsUsers sys.store.users request

theorem ClearanceInvariant.step {config : JobConfig} {sys next : System} {action : Action}
    (snapshots : SnapshotInvariant sys) (inv : ClearanceInvariant sys)
    (stand : ClearancesStand sys action) (stepped : step config sys action = some next) :
    ClearanceInvariant next := by
  obtain ⟨notAhead, comparisons, impacts⟩ := stand
  refine ⟨?_, step_reads snapshots inv.reads stepped⟩
  by_cases clearance : ∃ k now wall ids, action = .commitClearance k now wall ids
  · obtain ⟨k, now, wall, ids, rfl⟩ := clearance
    cases step_effect rfl stepped with
    | refused => exact inv.cleared
    | answeredClearance => exact inv.cleared
    | committedClearance k now wall ids request affected after found read free changes written =>
      exact commitClearance_cleared snapshots (List.mem_of_getElem? found) read
        (impacts request found affected read) changes inv.cleared written
  · have users : next.store.users = sys.store.users := by
      apply step_users stepped
      intro k now wall ids same
      exact clearance ⟨k, now, wall, ids, same⟩
    obtain ⟨rows, _, origin⟩ :=
      step_rowSteps snapshots (IfMatchNotAhead.pinsRead snapshots notAhead) stepped
    rw [users]
    intro new member
    rcases origin new member with ⟨old, stored, _, rowStep⟩ |
      ⟨actor, input, imagePath, id, reference, now, wall, rfl, _⟩
    · have before := inv.cleared old stored
      cases rowStep with
      | kept => exact before
      | decided k now wall ids request mutation isCommit found free pins current decided logs =>
        -- the row that was read agrees with the stored one on what matters here
        have written := write_protected mutation.data wall current
        refine AssigneeCleared.congr ?_ written.symm
        apply decide_cleared (inv.reads request (List.mem_of_getElem? found))
          (before.congr current) _ decided
        exact (isCommit ▸ comparisons) request found ⟨old, stored, pins⟩
      | cascaded actor targetId incident now wall named stage opened assignee free logs =>
        intro _ id assigned
        simp [UpdateIncidentStateInput.write, cascade] at assigned
      | bumped new job same => exact before.congr same
    · intro _ id assigned
      simp [newIncident] at assigned

/-- Under every interleaving in which no comparison and no impact is out of date when its
transaction commits, each open incident with an assignee is within that user's clearance. -/
theorem assignees_cleared (config : JobConfig) (start : Store) (issued : List Id)
    (unique : start.UniqueIds)
    (cleared : ∀ row ∈ start.incidents, AssigneeCleared start.users row) (sys : System)
    (reached : Machine.Reaches (step config) ClearancesStand (System.boot start issued) sys) :
    ∀ row ∈ sys.store.incidents, AssigneeCleared sys.store.users row := by
  have invariant : ClearanceInvariant sys := by
    refine reached.invariant ClearanceInvariant ⟨cleared, by simp [System.boot]⟩ ?_ sys
    intro before action after earlier inv stand stepped
    exact inv.step (reached_snapshots unique earlier) stand stepped
  exact invariant.cleared

def clearancesStand (sys : System) (action : Action) : Bool :=
  onCommit (fun sys request =>
    decide (IfMatchNotAhead sys request) && decide (ComparisonStands sys request)) sys action &&
  match action with
  | .commitClearance k _ _ _ =>
    decide (∀ request ∈ sys.clearances[k]?, ∀ affected ∈ request.affected,
      ImpactStands sys request affected)
  | _ => true

theorem clearancesStand_sound (sys : System) (action : Action)
    (passed : clearancesStand sys action = true) : ClearancesStand sys action := by
  simp only [clearancesStand, Bool.and_eq_true] at passed
  have both : OnCommit (fun sys request =>
      IfMatchNotAhead sys request ∧ ComparisonStands sys request) sys action :=
    onCommit_sound (by simp) sys action passed.1
  refine ⟨both.imp fun _ _ holds => holds.1, both.imp fun _ _ holds => holds.2, ?_⟩
  cases action with
  | commitClearance k now wall ids =>
    have impacts := passed.2
    simp only [decide_eq_true_eq] at impacts
    exact impacts
  | _ => trivial

/-- A change of the clearance of the sample investigator. -/
def clearanceChanged (clearance : ClearanceLevel) (now : Date) : List Action :=
  [.loadClearance "admin" "investigator" clearance, .readImpact 0,
    .commitClearance 0 now now fun n m => toString n ++ "-" ++ toString m]

def changedInvestigation (clearance : ClearanceLevel) : List Action :=
  reported ++ performed .triage 0 1 ++ investigated 1 2 ++ clearanceChanged clearance 3

theorem assignees_cleared_sample :
    ∃ sys, Machine.exec (step sampleConfig) clearancesStand (System.boot staffedStore [])
        (changedInvestigation ⟨1, by decide, by decide⟩) = some sys ∧
      sys.store.incidents.map (fun row => (row.stage, row.assignedInvestigatorId)) =
        [(.triage, none)] ∧
      ∀ row ∈ sys.store.incidents, AssigneeCleared sys.store.users row := by
  have ran : (Machine.exec (step sampleConfig) clearancesStand (System.boot staffedStore [])
      (changedInvestigation ⟨1, by decide, by decide⟩)).map
        (fun sys => sys.store.incidents.map fun row => (row.stage, row.assignedInvestigatorId)) =
      some [(.triage, none)] := by decide
  obtain ⟨sys, executed, rows⟩ := Option.map_eq_some_iff.mp ran
  exact ⟨sys, executed, rows, assignees_cleared sampleConfig staffedStore []
    ⟨by decide, by decide⟩ (by simp [staffedStore]) sys
    (Machine.reaches_of_exec _ clearancesStand_sound _ _ _ executed)⟩

/-- The clearance change commits between the two halves of an assignment. -/
def overtakenAssignment (clearance : ClearanceLevel) : List Action :=
  reported ++ performed .triage 0 1 ++
    [.load "admin" (.assignInvestigator "investigator") "i" 1, .readInvestigator 0] ++
    clearanceChanged clearance 2 ++ [.commit 0 3 3 fun n => "assigned" ++ toString n]

/-- The investigator of a `HIGH` incident is left with clearance 1. -/
theorem overtaken_assignment_exceeds_clearance :
    ¬ ∀ (config : JobConfig) (start : Store) (issued : List Id), start.UniqueIds →
      (∀ row ∈ start.incidents, AssigneeCleared start.users row) →
      ∀ sys, Machine.Reaches (step config) (OnCommit IfMatchNotAhead) (System.boot start issued)
        sys → ∀ row ∈ sys.store.incidents, AssigneeCleared sys.store.users row := by
  intro cleared
  have ran : (Machine.exec (step sampleConfig)
      (onCommit fun sys request => decide (IfMatchNotAhead sys request))
      (System.boot staffedStore []) (overtakenAssignment ⟨1, by decide, by decide⟩)).map (fun sys =>
        (sys.store.incidents.map fun row => (row.stage, row.severity, row.assignedInvestigatorId),
          sys.store.users.map fun user => (user.id, user.clearanceLevel))) =
      some ([(.investigation, .high, some "investigator")], [("admin", 4), ("investigator", 1)]) :=
    by decide
  obtain ⟨sys, executed, facts⟩ := Option.map_eq_some_iff.mp ran
  simp only [Prod.mk.injEq] at facts
  obtain ⟨row, only, shown⟩ := List.map_eq_singleton_iff.mp facts.1
  simp only [Prod.mk.injEq] at shown
  obtain ⟨stage, severity, assignee⟩ := shown
  obtain ⟨user, among, named, enough⟩ := cleared sampleConfig staffedStore []
    ⟨by decide, by decide⟩ (by simp [staffedStore]) sys
    (Machine.reaches_of_exec _ (onCommit_sound fun _ _ => of_decide_eq_true) _ _ _ executed) row
    (by simp [only]) (by simp [stage]) "investigator" assignee
  have listed : (user.id, user.clearanceLevel) ∈ [("admin", 4), ("investigator", 1)] :=
    facts.2 ▸ List.mem_map_of_mem among
  rw [severity] at enough
  simp [named] at listed
  simp [listed, severityRank] at enough

end IncidentApi.Properties
