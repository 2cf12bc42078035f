import IncidentApi.Triage
import IncidentApi.Admin
import IncidentApi.Jobs
import IncidentApi.Notifications
import IncidentApi.Library.Machine

/-!
# Everything at once

The service as a machine whose steps are the database statements of its requests and of any
number of job runs. Under `READ COMMITTED` a statement sees what was committed when it started
and what its own transaction wrote. A mutation is two or three steps (its reads, then the
transaction that ends in its versioned write); a batch transaction of the job is one step for each
statement, and what it has written so far lies in the run until it commits.
-/
namespace IncidentApi

/-! ### Requests in flight -/

/-- A mutation past `getByIdForActor`; an assignment reads its investigator in a further step. -/
structure Request where
  actor : Actor
  id : Id
  operation : Operation
  expectedVersion : Nat
  row : TriageIncidentRow
  investigator : Option (Option User)

/-- A `changeClearance` past the read of its target. -/
structure ClearanceRequest where
  actor : Actor
  target : User
  clearance : ClearanceLevel
  affected : Option (List AssignedIncidentRow)

/-- `authenticate`: role and clearance are those the user row has now. -/
def authenticate (store : Store) (userId : Id) : Except AppError Actor :=
  match store.userById userId with
  | some user =>
    if user.isActive then .ok ⟨user.id, user.role, user.clearanceLevel⟩
    else .error UnauthenticatedError
  | none => .error UnauthenticatedError

def authorizeRole (roles : List Role) (actor : Actor) : Except AppError Unit :=
  if actor.role ∈ roles then .ok () else .error (InsufficientRoleError roles)

def Operation.investigatorId : Operation → Option Id
  | .assignInvestigator id => some id
  | _ => none

/-- The load half of a mutation. -/
def loadRequest (store : Store) (userId : Id) (operation : Operation) (id : Id)
    (expectedVersion : Nat) : Except AppError Request := do
  let actor ← authenticate store userId
  authorizeRole operation.roles actor
  let row ← getByIdForActor store actor id
  return ⟨actor, id, operation, expectedVersion, row, none⟩

def Request.decide (request : Request) (now : Date) : Except AppError Mutation :=
  request.operation.decide request.actor request.id request.row (request.investigator.getD none) now

/-- The commit half: the decision on the loaded row, then the transaction. -/
def commitRequest (store : Store) (request : Request) (now wall : Date) (ids : Nat → Id) :
    Except AppError Store := do
  let mutation ← request.decide now
  commitMutation store request.id request.expectedVersion mutation wall ids

/-- The load half of `changeClearance`; the impact is read in a further step. -/
def loadClearance (store : Store) (userId targetId : Id) (clearance : ClearanceLevel) :
    Except AppError ClearanceRequest := do
  let actor ← authenticate store userId
  authorizeRole [.admin] actor
  assertNotSelf actor targetId
  let target ← loadTargetOrThrow store targetId
  return ⟨actor, target, clearance, none⟩

/-! ### Batch transactions in flight -/

/-- One pair a batch has escalated: the rows it wrote, and the wall clock of the bump if the
`updateMany` matched. -/
structure Escalation where
  due : Due
  event : EscalationEvent
  notifications : List NotificationLog
  audit : AuditEvent
  bumped : Option Date

/-- Where the turn of the loop stands for the first pair of `todo`. -/
inductive Statement where
  | select
  | conflict (event : EscalationEvent)
  | notify (event : EscalationEvent)
  | audit (event : EscalationEvent) (rows : List NotificationLog)
  | bump (event : EscalationEvent) (rows : List NotificationLog) (audit : AuditEvent)

structure Batch where
  now : Date
  length : Nat
  last : BatchRow
  todo : List Due
  statement : Statement
  escalations : List Escalation

def Escalation.writes (escalation : Escalation) (now : Date) : List Write :=
  [.event escalation.event, .notifications escalation.notifications, .audit escalation.audit] ++
    escalation.bumped.toList.map fun wall =>
      .bump escalation.due.candidate.id escalation.due.tier.level now wall

def Statement.writes : Statement → List Write
  | .select => []
  | .conflict _ => []
  | .notify inserted => [.event inserted]
  | .audit inserted rows => [.event inserted, .notifications rows]
  | .bump inserted rows record => [.event inserted, .notifications rows, .audit record]

/-- What the transaction has written, in order. -/
def Batch.writes (batch : Batch) : List Write :=
  batch.escalations.flatMap (·.writes batch.now) ++ batch.statement.writes

def Store.applyAll (store : Store) (writes : List Write) : Store := writes.foldl Write.apply store

/-- What a statement of the transaction sees. -/
def Batch.view (batch : Batch) (store : Store) : Store := store.applyAll batch.writes

inductive Failure where
  | interrupted | uniqueViolation
  deriving DecidableEq, Repr

inductive Phase where
  | claiming
  | loadingTiers
  | loadingHigh
  | loadingCritical
  | scanning
  | batch (batch : Batch)
  | renewing
  | finishing (outcome : JobOutcome)
  | releasing
  | finished

structure Run where
  jobRunId : Id
  runId : Id
  tiers : List Tier
  recipients : Recipients
  cursor : Cursor
  counts : Counts
  phase : Phase
  /-- What the run has committed so far, and why it failed; no step reads them. -/
  committed : List Escalation
  failure : Option Failure

def Run.open? (run : Run) : Option Batch :=
  match run.phase with
  | .batch batch => some batch
  | _ => none

def Run.writes (run : Run) : List Write := (run.open?.map Batch.writes).getD []

def pendingKey (key : Id × Nat × Nat) : Write → Bool
  | .event event => event.key = key
  | _ => false

def locksRow (id : Id) : Write → Bool
  | .bump bumped _ _ _ => bumped = id
  | _ => false

/-- What the environment answers a step of a run: both clocks, `newId()` for each kind of row, and
whether another session holds the advisory lock. -/
structure Reading where
  now : Date
  wall : Date
  id : Id
  auditId : Id
  notificationIds : Id → Id
  lockTaken : Bool

/-- After a batch: the early exit on a short page, else the cursor moves on. -/
def afterBatch (config : JobConfig) (run : Run) (length : Nat) (last : BatchRow)
    (escalations : List Escalation) : Run :=
  let counted := run.counts.plus length escalations.length
    (escalations.map (·.notifications.length)).sum
  -- `if (batch.length < ESCALATION_BATCH_SIZE || !last) break`
  if length < config.batchSize then { run with counts := counted, phase := .finishing .completed }
  else { run with counts := counted, cursor := cursorOf last, phase := .renewing }

/-- One statement of a batch transaction; `others` are the uncommitted writes of the other runs.
`none` means that the statement waits for one of them. -/
def batchStep (config : JobConfig) (others : List Write) (store : Store) (run : Run)
    (batch : Batch) (reading : Reading) : Option (Store × Run) :=
  let continue_ (next : Batch) : Option (Store × Run) :=
    some (store, { run with phase := .batch next })
  match batch.todo, batch.statement with
  -- the transaction commits
  | [], _ =>
    some (batch.view store,
      { afterBatch config run batch.length batch.last batch.escalations with
        committed := run.committed ++ batch.escalations })
  | due :: rest, .select =>
    match (batch.view store).incidents.find? (stillCandidate due) with
    -- `INSERT … SELECT` found no row that still qualifies
    | none => continue_ { batch with todo := rest }
    | some row =>
      continue_ { batch with statement := .conflict (eventFor due row batch.now reading.id) }
  | _ :: rest, .conflict event =>
    -- an uncommitted row of the same key makes `ON CONFLICT` wait for its transaction
    if others.any (pendingKey event.key) then none
    else if (batch.view store).escalationEvents.any (·.key = event.key) then
      continue_ { batch with todo := rest, statement := .select }
    -- the primary key is no target of `ON CONFLICT`, so the statement throws
    else if (batch.view store).escalationEvents.any (·.id = event.id) then
      some (store, { run with
        phase := .finishing .failed
        failure := some .uniqueViolation })
    else continue_ { batch with statement := .notify event }
  | due :: _, .notify event =>
    let rows := skipDuplicates (batch.view store).notificationLog
      (notificationsFor event.id (run.recipients.get due.candidate.severity) batch.now
        reading.notificationIds)
    continue_ { batch with statement := .audit event rows }
  | due :: _, .audit event rows =>
    let audit := (escalatedRecord due event.id batch.now).row reading.auditId
    continue_ { batch with statement := .bump event rows audit }
  | due :: rest, .bump event rows audit =>
    -- `updateMany` waits for the lock of a row that another batch has bumped
    if others.any (locksRow due.candidate.id) then none
    else
      let matched := (batch.view store).incidents.any fun row =>
        row.id = due.candidate.id && row.currentEscalationLevel < due.tier.level
      continue_ { batch with
        todo := rest
        statement := .select
        escalations := batch.escalations ++
          [⟨due, event, rows, audit, if matched then some reading.wall else none⟩] }

/-- One statement of a run. -/
def runStep (config : JobConfig) (others : List Write) (store : Store) (run : Run)
    (reading : Reading) : Option (Store × Run) :=
  match run.phase with
  | .claiming =>
    -- the advisory lock is tried without waiting, then the lease
    match if reading.lockTaken then none else claimLease config reading.id reading.now store with
    | none => some (store, { run with phase := .finishing .skippedLocked })
    | some claimed => some (claimed, { run with runId := reading.id, phase := .loadingTiers })
  | .loadingTiers => some (store, { run with tiers := activeTiers store, phase := .loadingHigh })
  | .loadingHigh =>
    some (store, { run with
      recipients := { run.recipients with high := recipientsFor store .high }
      phase := .loadingCritical })
  | .loadingCritical =>
    some (store, { run with
      recipients := { run.recipients with critical := recipientsFor store .critical }
      phase := .scanning })
  | .scanning =>
    -- each page is read outside a transaction, from what is committed
    let batch := findBatch config store run.cursor
    match batch.getLast? with
    | none => some (store, { run with phase := .finishing .completed })
    | some last =>
      match batch.flatMap (dueOf run.tiers reading.now) with
      -- no transaction is opened when nothing is due
      | [] => some (store, afterBatch config run batch.length last [])
      | todo =>
        some (store, { run with
          phase := .batch ⟨reading.now, batch.length, last, todo, .select, []⟩ })
  | .batch batch => batchStep config others store run batch reading
  | .renewing =>
    some (renewLease config run.runId reading.now store, { run with phase := .scanning })
  | .finishing outcome =>
    some (finishJobRun run.jobRunId outcome
        (if outcome = .skippedLocked then ⟨0, 0, 0⟩ else run.counts)
        (if outcome = .failed then some "error" else none) reading.wall store,
      { run with phase := if outcome = .skippedLocked then .finished else .releasing })
  | .releasing => some (releaseLease run.runId store, { run with phase := .finished })
  | .finished => none

/-- A statement throws: an open transaction is undone, and the run goes to its `catch` and
`finally` blocks. A claim that throws is outside them. -/
def interruptRun (run : Run) : Run :=
  match run.phase with
  | .claiming => { run with phase := .finished, failure := some .interrupted }
  | .finishing .skippedLocked => { run with phase := .finished, failure := some .interrupted }
  | .finishing .failed => { run with phase := .releasing, failure := some .interrupted }
  | .releasing => { run with phase := .finished, failure := some .interrupted }
  | .finished => run
  | _ => { run with phase := .finishing .failed, failure := some .interrupted }

/-! ### The system -/

structure System where
  store : Store
  requests : List Request
  clearances : List ClearanceRequest
  runs : List Run
  /-- The event ids `newId()` has answered. -/
  issued : List Id

inductive Action where
  | create (userId : Id) (input : CreateIncidentRequest) (image : Upload) (id : Id)
      (now wall : Date) (ids : Nat → Id)
  | load (userId : Id) (operation : Operation) (id : Id) (expectedVersion : Nat)
  | readInvestigator (k : Nat)
  | commit (k : Nat) (now wall : Date) (ids : Nat → Id)
  | loadClearance (userId targetId : Id) (clearance : ClearanceLevel)
  | readImpact (k : Nat)
  | commitClearance (k : Nat) (now wall : Date) (ids : Nat → Nat → Id)
  | putTiers (userId : Id) (request : TierSetRequest)
  | markRead (userId id : Id) (now : Date)
  | recordDenial (incidentId actorId auditId : Id) (clearanceLevel : Nat) (now : Date)
  | startRun (jobRunId : Id) (startedAt : Date)
  | job (k : Nat) (reading : Reading)
  | interrupt (k : Nat)
  | crash (k : Nat)

def System.othersWrites (sys : System) (k : Nat) : List Write :=
  (sys.runs.eraseIdx k).flatMap Run.writes

/-- An update of the row would wait for a batch transaction that has bumped it. -/
def System.locked (sys : System) (id : Id) : Bool :=
  (sys.runs.flatMap Run.writes).any (locksRow id)

def denialRecord (incidentId actorId : Id) (clearanceLevel : Nat) (now : Date) :
    CreateAuditEventInput where
  incidentId := some incidentId
  actorId := some actorId
  type := .accessDenied
  reason := some "CLEARANCE"
  payload := some [("clearanceLevel", .num clearanceLevel)]
  occurredAt := now

def denialDedupeWindowMs : Int := 60000

def findRecentAccessDenied (store : Store) (actorId incidentId : Id) (since : Date) : Bool :=
  store.auditEvents.any fun event =>
    event.type = .accessDenied && event.actorId = some actorId &&
      event.incidentId = some incidentId && since ≤ event.occurredAt

/-- A run asks `newId()` for the event id when it starts a pair. -/
def drawsEventId (run : Run) : Bool :=
  match run.phase with
  | .batch ⟨_, _, _, _ :: _, .select, _⟩ => true
  | _ => false

/-- A request that is answered with an error changes nothing. -/
def System.accept {T : Type} (sys : System) (result : Except AppError T) (next : T → System) :
    Option System :=
  match result with
  | .ok value => some (next value)
  | .error _ => some sys

def step (config : JobConfig) (sys : System) : Action → Option System
  | .create userId input image id now wall ids =>
    sys.accept (authenticate sys.store userId) fun actor =>
      { sys with store := (create sys.store actor input image id now wall ids).2 }
  | .load userId operation id expectedVersion =>
    sys.accept (loadRequest sys.store userId operation id expectedVersion) fun request =>
      { sys with requests := sys.requests ++ [request] }
  | .readInvestigator k =>
    (sys.requests[k]?).bind fun request => request.operation.investigatorId.map fun id =>
      { sys with
        requests := sys.requests.set k
          { request with investigator := some (sys.store.userById id) } }
  | .commit k now wall ids =>
    (sys.requests[k]?).bind fun request =>
      -- `updateMany` would wait for the lock, and an assignment reads its investigator first
      if sys.locked request.id ∨
          (request.operation.investigatorId.isSome ∧ request.investigator.isNone) then none
      else
        let answered := { sys with requests := sys.requests.eraseIdx k }
        answered.accept (commitRequest sys.store request now wall ids) fun store =>
          { answered with store := store }
  | .loadClearance userId targetId clearance =>
    sys.accept (loadClearance sys.store userId targetId clearance) fun request =>
      { sys with clearances := sys.clearances ++ [request] }
  | .readImpact k =>
    (sys.clearances[k]?).map fun request =>
      { sys with
        clearances := sys.clearances.set k
          { request with
            affected := some (clearanceImpact sys.store request.target request.clearance) } }
  | .commitClearance k now wall ids =>
    (sys.clearances[k]?).bind fun request =>
      request.affected.bind fun affected =>
        if affected.any fun incident => sys.locked incident.id then none
        else
          let answered := { sys with clearances := sys.clearances.eraseIdx k }
          -- `changeClearance` returns early when the level stays as it is
          if request.target.clearanceLevel = request.clearance.level then some answered
          else
            answered.accept
              (commitClearance sys.store request.actor request.target request.clearance affected
                now wall ids)
              fun store => { answered with store := store }
  | .putTiers userId request =>
    sys.accept (authenticate sys.store userId >>= fun actor =>
        authorizeRole [.admin] actor >>= fun _ => replaceTierSet sys.store request actor.id)
      fun store => { sys with store := store }
  | .markRead userId id now =>
    sys.accept (authenticate sys.store userId >>= fun actor =>
        markNotificationRead sys.store actor id now) fun result =>
      { sys with store := result.2 }
  | .recordDenial incidentId actorId auditId clearanceLevel now =>
    if findRecentAccessDenied sys.store actorId incidentId (now - denialDedupeWindowMs) then
      some sys
    else
      some { sys with
        store := sys.store.record [denialRecord incidentId actorId clearanceLevel now]
          fun _ => auditId }
  | .startRun jobRunId startedAt =>
    some { sys with
      store := startJobRun jobRunId startedAt sys.store
      runs := sys.runs ++
        [⟨jobRunId, "", [], ⟨[], []⟩, none, ⟨0, 0, 0⟩, .claiming, [], none⟩] }
  | .job k reading =>
    (sys.runs[k]?).bind fun run =>
      if drawsEventId run ∧ reading.id ∈ sys.issued then none
      else
        (runStep config (sys.othersWrites k) sys.store run reading).map fun (store, next) =>
          { sys with
            store := store
            runs := sys.runs.set k next
            issued := if drawsEventId run then reading.id :: sys.issued else sys.issued }
  | .interrupt k =>
    (sys.runs[k]?).map fun run => { sys with runs := sys.runs.set k (interruptRun run) }
  | .crash k =>
    (sys.runs[k]?).map fun run =>
      { sys with
        runs := sys.runs.set k { run with phase := .finished, failure := some .interrupted } }

/-- A service that has just started on a database. -/
def System.boot (store : Store) (issued : List Id) : System := ⟨store, [], [], [], issued⟩

end IncidentApi
