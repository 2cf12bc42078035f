import IncidentApi.Types

/-!
# The relational store

One record per table of `schema.prisma`, with the columns the modelled code reads or writes, and
`Store`, the database at a point in time. A table is the list of its rows in insertion order.
-/
namespace IncidentApi

structure User where
  id : Id
  email : String
  displayName : String
  role : Role
  clearanceLevel : Nat
  isActive : Bool
  createdAt : Date
  deriving DecidableEq, Repr

structure Incident where
  id : Id
  reference : String
  type : IncidentType
  severity : Severity
  stage : Stage
  title : String
  description : String
  imagePath : Option String
  noImageReason : Option String
  reporterId : Id
  assignedInvestigatorId : Option Id
  acknowledgedById : Option Id
  acknowledgedAt : Option Date
  highSeveritySince : Option Date
  escalationCycle : Nat
  currentEscalationLevel : Nat
  lastEscalatedAt : Option Date
  rootCause : Option String
  correctiveAction : Option String
  closureProposedById : Option Id
  closureProposedAt : Option Date
  closedById : Option Id
  closedAt : Option Date
  version : Nat
  createdAt : Date
  updatedAt : Date
  deriving DecidableEq, Repr

structure InvestigationNote where
  id : Id
  incidentId : Id
  authorId : Id
  body : String
  createdAt : Date
  deriving DecidableEq, Repr

structure AuditEvent where
  id : Id
  incidentId : Option Id
  actorId : Option Id
  type : AuditEventType
  fromValue : Option String
  toValue : Option String
  reason : Option String
  payload : Option Payload
  occurredAt : Date

/-- `Tier`: what the job and the tier endpoints read of an `EscalationTier` row. -/
structure Tier where
  severity : Severity
  level : Nat
  thresholdMinutes : Nat
  deriving DecidableEq, Repr

/-- The largest number that an `INT4` column holds. -/
def int4Max : Nat := 2147483647

/-- The columns of a row can hold the tier. -/
def Tier.fits (tier : Tier) : Bool := tier.level ≤ int4Max && tier.thresholdMinutes ≤ int4Max

structure EscalationTier extends Tier where
  isActive : Bool
  updatedById : Option Id
  deriving DecidableEq, Repr

structure EscalationEvent where
  id : Id
  incidentId : Id
  cycle : Nat
  level : Nat
  severityAtEscalation : Severity
  dueAt : Date
  triggeredAt : Date
  deriving DecidableEq, Repr

structure NotificationLog where
  id : Id
  escalationEventId : Id
  recipientId : Id
  channel : String
  readAt : Option Date
  createdAt : Date
  deriving DecidableEq, Repr

inductive JobOutcome where
  | completed | skippedLocked | failed
  deriving DecidableEq, Repr

structure JobRun where
  id : Id
  jobName : String
  startedAt : Date
  finishedAt : Option Date
  outcome : Option JobOutcome
  scanned : Nat
  escalated : Nat
  notified : Nat
  error : Option String
  deriving DecidableEq, Repr

/-- The `JobLease` row of the `'escalation'` job, which the first migration seeds. -/
structure JobLease where
  ownerRunId : Option Id
  heldUntil : Option Date
  deriving DecidableEq, Repr

structure Store where
  users : List User
  incidents : List Incident
  notes : List InvestigationNote
  auditEvents : List AuditEvent
  escalationTiers : List EscalationTier
  escalationEvents : List EscalationEvent
  notificationLog : List NotificationLog
  jobRuns : List JobRun
  jobLease : JobLease
  /-- The next value of `incident_reference_seq`. -/
  incidentReferenceSeq : Nat

/-- The columns of the `EscalationEvent_incidentId_cycle_level_key` index. -/
def EscalationEvent.key (event : EscalationEvent) : Id × Nat × Nat :=
  (event.incidentId, event.cycle, event.level)

/-- The columns of the `NotificationLog_escalationEventId_recipientId_key` index. -/
def NotificationLog.key (row : NotificationLog) : Id × Id :=
  (row.escalationEventId, row.recipientId)

/-- `findUnique({ where: { id } })` on the users. -/
def Store.userById (store : Store) (id : Id) : Option User :=
  store.users.find? (·.id = id)

def Store.incidentById (store : Store) (id : Id) : Option Incident :=
  store.incidents.find? (·.id = id)

def Store.eventById (store : Store) (id : Id) : Option EscalationEvent :=
  store.escalationEvents.find? (·.id = id)

/-- The primary keys of the users and the incidents. -/
structure Store.UniqueIds (store : Store) : Prop where
  users : (store.users.map User.id).Nodup
  incidents : (store.incidents.map Incident.id).Nodup

end IncidentApi
