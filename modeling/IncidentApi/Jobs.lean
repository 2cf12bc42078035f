import IncidentApi.Tiers
import IncidentApi.Incidents
import IncidentApi.Library.Keyset
import Mathlib.Order.Lex
import Mathlib.Data.Prod.Lex

/-!
# The escalation job

`escalation.job.ts`, statement by statement. The statements of a batch transaction are shared by
two readings of the job: the functions of this module run it without interruption, and
`Concurrency` interleaves the same statements with everything else.
-/
namespace IncidentApi

/-- `ESCALATION_BATCH_SIZE` and `ESCALATION_LEASE_MS`, both validated positive. -/
structure JobConfig where
  batchSize : Nat
  leaseMs : Int
  batchPositive : 1 ≤ batchSize
  leasePositive : 1 ≤ leaseMs

structure BatchRow where
  id : Id
  severity : Severity
  highSeveritySince : Option Date
  escalationCycle : Nat
  currentEscalationLevel : Nat
  deriving DecidableEq, Repr

structure EscalationCandidate where
  id : Id
  severity : Severity
  highSeveritySince : Date
  escalationCycle : Nat
  currentEscalationLevel : Nat
  deriving DecidableEq, Repr

structure DueTier where
  level : Nat
  thresholdMinutes : Nat
  deriving DecidableEq, Repr

/-- One element of `due`: a candidate and a tier it has crossed. -/
structure Due where
  candidate : EscalationCandidate
  tier : DueTier
  deriving DecidableEq, Repr

def minuteMs : Int := 60000

/-- `elapsedMinutes >= t.thresholdMinutes`, without the division. -/
def hasElapsed (since now : Date) (thresholdMinutes : Nat) : Bool :=
  thresholdMinutes * minuteMs ≤ now - since

def tiersDueFor (incident : EscalationCandidate) (tiers : List Tier) (now : Date) :
    List DueTier :=
  tiers
    |>.filter (fun t => t.severity = incident.severity)
    |>.filter (fun t => incident.currentEscalationLevel < t.level)
    |>.filter (fun t => hasElapsed incident.highSeveritySince now t.thresholdMinutes)
    |>.insertionSort (fun a b => a.level ≤ b.level)
    |>.map fun t => ⟨t.level, t.thresholdMinutes⟩

def recipientsFor (store : Store) (severity : Severity) : List Id :=
  (store.users.filter fun user =>
    user.isActive && user.role ∈ [Role.triageManager, Role.admin] &&
      severityRank severity ≤ user.clearanceLevel).map User.id

/-- `recipientsBySeverity`. -/
structure Recipients where
  high : List Id
  critical : List Id
  deriving DecidableEq, Repr

/-- A candidate is `HIGH` or `CRITICAL`, so the other keys are never looked up. -/
def Recipients.get (recipients : Recipients) : Severity → List Id
  | .high => recipients.high
  | .critical => recipients.critical
  | _ => []

/-! ### The lease -/

def leaseFree (lease : JobLease) (now : Date) : Bool :=
  match lease.heldUntil with
  | none => true
  -- an expired lease is free, whoever owns it
  | some until_ => until_ ≤ now

/-- `claimLease`, once the advisory lock is held. -/
def claimLease (config : JobConfig) (runId : Id) (now : Date) (store : Store) : Option Store :=
  if leaseFree store.jobLease now then
    some { store with jobLease := ⟨some runId, some (now + config.leaseMs)⟩ }
  else none

def renewLease (config : JobConfig) (runId : Id) (now : Date) (store : Store) : Store :=
  if store.jobLease.ownerRunId = some runId then
    { store with
      jobLease := { store.jobLease with heldUntil := some (now + config.leaseMs) } }
  else store

def releaseLease (runId : Id) (store : Store) : Store :=
  if store.jobLease.ownerRunId = some runId then { store with jobLease := ⟨none, none⟩ }
  else store

/-! ### Job runs -/

structure Counts where
  scanned : Nat
  escalated : Nat
  notified : Nat
  deriving DecidableEq, Repr

def Counts.plus (counts : Counts) (scanned escalated notified : Nat) : Counts :=
  ⟨counts.scanned + scanned, counts.escalated + escalated, counts.notified + notified⟩

def startJobRun (id : Id) (startedAt : Date) (store : Store) : Store :=
  { store with
    jobRuns := store.jobRuns ++
      [⟨id, "escalation", startedAt, none, none, 0, 0, 0, none⟩] }

/-- `finish` touches only a run that is still open. -/
def finishJobRun (id : Id) (outcome : JobOutcome) (counts : Counts) (error : Option String)
    (finishedAt : Date) (store : Store) : Store :=
  { store with
    jobRuns := store.jobRuns.map fun run =>
      if run.id = id ∧ run.finishedAt = none then
        { run with
          finishedAt := some finishedAt
          outcome := some outcome
          scanned := counts.scanned
          escalated := counts.escalated
          notified := counts.notified
          error := error }
      else run }

/-! ### The scan -/

/-- The fixed part of the scan's `where`. -/
def isCandidate (row : Incident) : Bool :=
  row.acknowledgedAt.isNone && row.stage ≠ .closed && row.severity.inHighBand &&
    row.highSeveritySince.isSome

abbrev Cursor := Option (Date × Id)

def afterCursor (cursor : Cursor) (row : Incident) : Bool :=
  match cursor, row.highSeveritySince with
  | none, _ => true
  | some _, none => false
  | some (since, id), some rowSince => since < rowSince || (rowSince = since && id < row.id)

/-- `orderBy: [{ highSeveritySince: 'asc' }, { id: 'asc' }]`; the clock is never null here. -/
def scanKey (row : Incident) : Date ×ₗ Id := toLex (row.highSeveritySince.getD 0, row.id)

def Incident.batchRow (row : Incident) : BatchRow :=
  ⟨row.id, row.severity, row.highSeveritySince, row.escalationCycle, row.currentEscalationLevel⟩

def findBatch (config : JobConfig) (store : Store) (cursor : Cursor) : List BatchRow :=
  ((Keyset.sortOn scanKey (store.incidents.filter fun row =>
    isCandidate row && afterCursor cursor row)).take config.batchSize).map (·.batchRow)

/-- The clock of a scanned row is not null: the `where` clause filtered on it. -/
def BatchRow.candidate (row : BatchRow) : EscalationCandidate :=
  ⟨row.id, row.severity, row.highSeveritySince.getD 0, row.escalationCycle,
    row.currentEscalationLevel⟩

def dueOf (tiers : List Tier) (now : Date) (row : BatchRow) : List Due :=
  (tiersDueFor row.candidate tiers now).map fun tier => ⟨row.candidate, tier⟩

/-! ### The statements of a batch transaction -/

/-- The `WHERE` of the `INSERT … SELECT`, which re-checks candidacy at statement time. -/
def stillCandidate (due : Due) (row : Incident) : Bool :=
  row.id = due.candidate.id && row.escalationCycle = due.candidate.escalationCycle &&
    row.currentEscalationLevel < due.tier.level && row.acknowledgedAt.isNone &&
    row.stage ≠ .closed && row.severity.inHighBand

def dueAt (due : Due) : Date :=
  due.candidate.highSeveritySince + due.tier.thresholdMinutes * minuteMs

def eventFor (due : Due) (row : Incident) (now : Date) (eventId : Id) : EscalationEvent :=
  ⟨eventId, row.id, row.escalationCycle, due.tier.level, row.severity, dueAt due, now⟩

/-- `INSERT … SELECT … ON CONFLICT ("incidentId","cycle","level") DO NOTHING RETURNING "id"`. -/
def insertEvent (store : Store) (due : Due) (now : Date) (eventId : Id) :
    Option EscalationEvent :=
  match store.incidents.find? (stillCandidate due) with
  | none => none
  | some row =>
    let event := eventFor due row now eventId
    -- the conflict clause returns no row, like a candidate that is gone
    if store.escalationEvents.any (·.key = event.key) then none else some event

/-- `createMany` with `skipDuplicates`: the rows that meet no row of the same unique key. -/
def skipDuplicates (existing : List NotificationLog) : List NotificationLog → List NotificationLog
  | [] => []
  | row :: rest =>
    if existing.any (·.key = row.key) then skipDuplicates existing rest
    else row :: skipDuplicates (row :: existing) rest

def notificationsFor (eventId : Id) (recipients : List Id) (now : Date) (ids : Id → Id) :
    List NotificationLog :=
  recipients.map fun recipient => ⟨ids recipient, eventId, recipient, "IN_APP", none, now⟩

def escalatedRecord (due : Due) (eventId : Id) (now : Date) : CreateAuditEventInput where
  incidentId := some due.candidate.id
  type := .incidentEscalated
  fromValue := some (toString due.candidate.currentEscalationLevel)
  toValue := some (toString due.tier.level)
  payload := some [("cycle", .num due.candidate.escalationCycle), ("level", .num due.tier.level),
    ("escalationEventId", .str eventId)]
  occurredAt := now

/-- `updateMany({ where: { id, currentEscalationLevel: { lt: level } } })`. -/
def bumpRow (id : Id) (level : Nat) (now wall : Date) (row : Incident) : Incident :=
  if row.id = id ∧ row.currentEscalationLevel < level then
    { row with
      currentEscalationLevel := level
      lastEscalatedAt := some now
      updatedAt := wall }
  else row

/-- What a statement of the batch transaction leaves in the database. -/
inductive Write where
  | event (event : EscalationEvent)
  | notifications (rows : List NotificationLog)
  | audit (row : AuditEvent)
  | bump (id : Id) (level : Nat) (now wall : Date)

def Write.apply (store : Store) : Write → Store
  | .event inserted =>
    { store with escalationEvents := store.escalationEvents ++ [inserted] }
  | .notifications rows => { store with notificationLog := store.notificationLog ++ rows }
  | .audit row => { store with auditEvents := store.auditEvents ++ [row] }
  | .bump id level now wall =>
    { store with incidents := store.incidents.map (bumpRow id level now wall) }

/-! ### The job without interruption -/

/-- What `newId()`, the column defaults and Prisma's clock answer during one run. A run treats a
pair of incident and level at most once, so the pair names the answer. -/
structure RunIds where
  event : Id → Nat → Id
  notification : Id → Nat → Id → Id
  audit : Id → Nat → Id
  wall : Id → Nat → Date

structure RunEnv where
  jobRunId : Id
  runId : Id
  now : Date
  startedAt : Date
  finishedAt : Date
  ids : RunIds

/-- One turn of the loop in `escalateBatch`, with the numbers of new events and notifications. -/
def escalateOne (recipients : Recipients) (env : RunEnv) (store : Store) (due : Due) :
    Store × Nat × Nat :=
  let id := due.candidate.id
  let level := due.tier.level
  match insertEvent store due env.now (env.ids.event id level) with
  | none => (store, 0, 0)
  | some event =>
    let inserted := Write.apply store (.event event)
    let rows := skipDuplicates inserted.notificationLog
      (notificationsFor event.id (recipients.get due.candidate.severity) env.now
        (env.ids.notification id level))
    let notified := Write.apply inserted (.notifications rows)
    let audited := Write.apply notified
      (.audit ((escalatedRecord due event.id env.now).row (env.ids.audit id level)))
    (Write.apply audited (.bump id level env.now (env.ids.wall id level)), 1, rows.length)

def escalateBatch (recipients : Recipients) (env : RunEnv) : Store → List Due → Store × Nat × Nat
  | store, [] => (store, 0, 0)
  | store, due :: rest =>
    let (next, escalated, notified) := escalateOne recipients env store due
    let (final, moreEscalated, moreNotified) := escalateBatch recipients env next rest
    (final, escalated + moreEscalated, notified + moreNotified)

def cursorOf (row : BatchRow) : Cursor := some (row.highSeveritySince.getD 0, row.id)

/-- The scan loop; `none` means that `fuel` turns were not enough. -/
def scanLoop (config : JobConfig) (env : RunEnv) (tiers : List Tier) (recipients : Recipients) :
    Nat → Cursor → Counts → Store → Option (Counts × Store)
  | 0, _, _, _ => none
  | fuel + 1, cursor, counts, store =>
    let batch := findBatch config store cursor
    match batch.getLast? with
    | none => some (counts, store)
    | some last =>
      let (escalated, newEvents, newNotifications) :=
        escalateBatch recipients env store (batch.flatMap (dueOf tiers env.now))
      let counted := counts.plus batch.length newEvents newNotifications
      -- a short batch is the last one: no further query
      if batch.length < config.batchSize then some (counted, escalated)
      else
        scanLoop config env tiers recipients fuel (cursorOf last) counted
          (renewLease config env.runId env.now escalated)

structure EscalationRunResult where
  outcome : JobOutcome
  counts : Counts
  deriving DecidableEq, Repr

/-- `runEscalationJob` when nothing else happens and no statement fails. -/
def runEscalationJob (config : JobConfig) (env : RunEnv) (fuel : Nat) (store : Store) :
    Option (EscalationRunResult × Store) :=
  let started := startJobRun env.jobRunId env.startedAt store
  match claimLease config env.runId env.now started with
  | none =>
    some (⟨.skippedLocked, ⟨0, 0, 0⟩⟩,
      finishJobRun env.jobRunId .skippedLocked ⟨0, 0, 0⟩ none env.finishedAt started)
  | some claimed =>
    let tiers := activeTiers claimed
    let recipients : Recipients := ⟨recipientsFor claimed .high, recipientsFor claimed .critical⟩
    (scanLoop config env tiers recipients fuel none ⟨0, 0, 0⟩ claimed).map
      fun (counts, scanned) =>
        (⟨.completed, counts⟩,
          releaseLease env.runId
            (finishJobRun env.jobRunId .completed counts none env.finishedAt scanned))

end IncidentApi
