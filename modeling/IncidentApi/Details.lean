import IncidentApi.Listings

/-!
# One incident

`getById` and the mapper behind it: the redaction by role and assignment, and the `_actions` hints.
-/
namespace IncidentApi

/-- `INCIDENT_DETAIL_INCLUDE`. -/
structure IncidentDetailRow extends Incident where
  reporter : Option UserRef
  assignee : Option UserRef
  acknowledger : Option UserRef
  closer : Option UserRef

def joinDetail (store : Store) (row : Incident) : IncidentDetailRow :=
  { row with
    reporter := userRef store (some row.reporterId)
    assignee := userRef store row.assignedInvestigatorId
    acknowledger := userRef store row.acknowledgedById
    closer := userRef store row.closedById }

def findByIdScoped (store : Store) (id : Id) (actor : Actor) : Option IncidentDetailRow :=
  (store.incidents.find? fun row => row.id = id && visibilityScope actor row).map
    (joinDetail store)

/-! ### The hints -/

structure IncidentActions where
  canTriage : Bool
  canAssign : Bool
  canAcknowledge : Bool
  canReadNotes : Bool
  canAddNote : Bool
  canProposeClosure : Bool
  canApproveClosure : Bool
  deriving DecidableEq, Repr

def canManage (actor : Actor) : Bool := actor.role = .triageManager || actor.role = .admin

def isAssigneeOrAdmin (actor : Actor) (incident : Incident) : Bool :=
  actor.role = .admin || incident.assignedInvestigatorId = some actor.id

def computeActions (actor : Actor) (incident : Incident) : IncidentActions where
  canTriage := canManage actor && canTransition incident.stage .triage
  canAssign := canManage actor && incident.stage ≠ .closed
  canAcknowledge := canManage actor && highBandRank ≤ severityRank incident.severity &&
    incident.acknowledgedAt = none && incident.stage ≠ .closed
  canReadNotes := IncidentApi.canReadNotes actor incident
  canAddNote := canWriteNotes actor incident
  canProposeClosure := isAssigneeOrAdmin actor incident &&
    canTransition incident.stage .pendingClosure
  canApproveClosure := canManage actor && incident.stage = .pendingClosure &&
    hasClosureRequirements incident

/-! ### The response -/

structure IncidentClosure where
  closedAt : Date
  closedBy : Option UserRef
  deriving DecidableEq, Repr

structure IncidentAcknowledgement where
  acknowledgedAt : Date
  acknowledgedBy : Option UserRef
  deriving DecidableEq, Repr

structure IncidentEscalation where
  currentEscalationLevel : Nat
  highSeveritySince : Option Date
  lastEscalatedAt : Option Date
  deriving DecidableEq, Repr

/-- The outer `none` of `assignedInvestigator`, `acknowledgement` and `escalation` leaves the field
out; an inner `none` is a `null`. -/
structure IncidentDetail where
  id : Id
  reference : String
  type : IncidentType
  severity : Severity
  stage : Stage
  title : String
  description : String
  imageUrl : Option String
  noImageReason : Option String
  reporter : Option UserRef
  assignedInvestigator : Option (Option UserRef)
  rootCause : Option String
  correctiveAction : Option String
  closure : Option IncidentClosure
  acknowledgement : Option (Option IncidentAcknowledgement)
  escalation : Option IncidentEscalation
  version : Nat
  createdAt : Date
  updatedAt : Date
  actions : IncidentActions
  deriving DecidableEq, Repr

/-- `sign` is `getSignedIncidentImageUrl`. An empty path has no link. -/
def toIncidentDetail (sign : String → Option String) (incident : IncidentDetailRow)
    (actor : Actor) : IncidentDetail :=
  let canSeeAssignment := canManage actor || incident.assignedInvestigatorId = some actor.id
  let canSeeEscalation := canManage actor
  { id := incident.id
    reference := incident.reference
    type := incident.type
    severity := incident.severity
    stage := incident.stage
    title := incident.title
    description := incident.description
    imageUrl := (incident.imagePath.filter (· ≠ "")).bind sign
    noImageReason := incident.noImageReason
    reporter := incident.reporter
    assignedInvestigator := if canSeeAssignment then some incident.assignee else none
    rootCause := incident.rootCause
    correctiveAction := incident.correctiveAction
    closure := incident.closedAt.map fun closedAt => ⟨closedAt, incident.closer⟩
    acknowledgement :=
      if canSeeEscalation then
        some (incident.acknowledgedAt.map fun instant => ⟨instant, incident.acknowledger⟩)
      else none
    escalation :=
      if canSeeEscalation then
        some ⟨incident.currentEscalationLevel, incident.highSeveritySince,
          incident.lastEscalatedAt⟩
      else none
    version := incident.version
    createdAt := incident.createdAt
    updatedAt := incident.updatedAt
    actions := computeActions actor incident.toIncident }

def getById (sign : String → Option String) (store : Store) (actor : Actor) (id : Id) :
    Except AppError IncidentDetail :=
  (loadForActorOrThrow store id actor findByIdScoped).map fun incident =>
    toIncidentDetail sign incident actor

end IncidentApi
