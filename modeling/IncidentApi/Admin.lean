import IncidentApi.Incidents

/-!
# Changing a clearance

`changeClearance` of `admin.service.ts` and the clearance cascade it commits: the target user and
the stranded incidents are read first, then one transaction updates the user and unassigns each
incident through its own version.
-/
namespace IncidentApi

structure AssignedIncidentRow where
  id : Id
  reference : String
  severity : Severity
  stage : Stage
  version : Nat
  deriving DecidableEq, Repr

def Incident.assigned (row : Incident) : AssignedIncidentRow :=
  ⟨row.id, row.reference, row.severity, row.stage, row.version⟩

def findAssignedNonClosedIncidents (store : Store) (userId : Id) : List AssignedIncidentRow :=
  (store.incidents.filter fun row =>
    row.assignedInvestigatorId = some userId && row.stage ≠ .closed).map (·.assigned)

def computeClearanceImpact (store : Store) (userId : Id) (newClearance : Nat) :
    List AssignedIncidentRow :=
  (findAssignedNonClosedIncidents store userId).filter fun incident =>
    mustUnassignOnRaise newClearance incident.severity

def assertNotSelf (actor : Actor) (targetId : Id) : Except AppError Unit :=
  if actor.id = targetId then .error SelfModificationForbiddenError else .ok ()

def loadTargetOrThrow (store : Store) (targetId : Id) : Except AppError User :=
  match store.userById targetId with
  | some user => .ok user
  | none => .error (NotFoundError "User" targetId)

/-- `ChangeClearanceRequestSchema`, which agrees with the `clearance_range` constraint. -/
structure ClearanceLevel where
  level : Nat
  atLeast : 1 ≤ level
  atMost : level ≤ 4

def updateUserClearance (store : Store) (id : Id) (clearance : ClearanceLevel) :
    Except AppError Store :=
  if store.users.any (·.id = id) then
    .ok { store with
      users := store.users.map fun user =>
        if user.id = id then { user with clearanceLevel := clearance.level } else user }
  else .error InternalError

def cascadeRecord (actor : Actor) (targetId : Id) (incident : AssignedIncidentRow) (now : Date) :
    CreateAuditEventInput where
  incidentId := some incident.id
  actorId := some actor.id
  type := .investigatorUnassigned
  fromValue := some targetId
  reason := some "ADMIN_CLEARANCE_LOWERED"
  occurredAt := now

/-- What the cascade writes to one stranded incident. -/
def cascade (actor : Actor) (targetId : Id) (incident : AssignedIncidentRow) (now : Date) :
    Mutation :=
  let returned := incident.stage = .investigation
  { data :=
      { assignedInvestigatorId := some none
        stage := if returned then some .triage else none }
    records :=
      cascadeRecord actor targetId incident now ::
        -- an investigation without its investigator goes back to triage
        if returned then
          [{ incidentId := some incident.id
             actorId := some actor.id
             type := .stageChanged
             fromValue := some incident.stage.text
             toValue := some Stage.triage.text
             reason := some "ADMIN_CLEARANCE_LOWERED"
             occurredAt := now }]
        else [] }

/-- The loop over the affected incidents; the first stale version undoes the transaction. -/
def cascadeAll (actor : Actor) (targetId : Id) (now wall : Date) (ids : Nat → Nat → Id) :
    List AssignedIncidentRow → Nat → Store → Except AppError Store
  | [], _, store => .ok store
  | incident :: rest, index, store => do
    let written ← commitMutation store incident.id incident.version
      (cascade actor targetId incident now) wall (ids index)
    cascadeAll actor targetId now wall ids rest (index + 1) written

def clearanceRecord (actor : Actor) (target : User) (clearance : ClearanceLevel) (now : Date) :
    CreateAuditEventInput where
  actorId := some actor.id
  type := .userClearanceChanged
  fromValue := some (toString target.clearanceLevel)
  toValue := some (toString clearance.level)
  payload := some [("targetUserId", .str target.id),
    ("targetDisplayName", .str target.displayName)]
  occurredAt := now

/-- The transaction of `changeClearance`. -/
def commitClearance (store : Store) (actor : Actor) (target : User) (clearance : ClearanceLevel)
    (affected : List AssignedIncidentRow) (now wall : Date) (ids : Nat → Nat → Id) :
    Except AppError Store := do
  let updated ← updateUserClearance store target.id clearance
  cascadeAll actor target.id now wall ids affected 1
    (updated.record [clearanceRecord actor target clearance now] (ids 0))

/-- The affected set is read only for a lowering. -/
def clearanceImpact (store : Store) (target : User) (clearance : ClearanceLevel) :
    List AssignedIncidentRow :=
  if clearance.level < target.clearanceLevel then
    computeClearanceImpact store target.id clearance.level
  else []

theorem mem_clearanceImpact {store : Store} {target : User} {clearance : ClearanceLevel}
    {incident : AssignedIncidentRow} (member : incident ∈ clearanceImpact store target clearance) :
    ∃ row ∈ store.incidents, row.assigned = incident ∧ row.stage ≠ .closed ∧
      row.assignedInvestigatorId = some target.id := by
  unfold clearanceImpact at member
  split at member
  · simp only [computeClearanceImpact, findAssignedNonClosedIncidents, List.mem_filter,
      List.mem_map, Bool.and_eq_true, decide_eq_true_eq] at member
    obtain ⟨⟨row, ⟨stored, assignee, opened⟩, equal⟩, _⟩ := member
    exact ⟨row, stored, equal, opened, assignee⟩
  · simp at member

end IncidentApi
