import IncidentApi.Policy

/-!
# Incidents: rows, reads and the versioned write

`incident.repository.ts`, the audit writer and the parts of `incident.service.ts` every mutation
goes through: creation, the clearance-scoped load that decides between 403 and 404, and
`updateVersioned`, the only write to an incident row outside creation and the escalation job.
-/
namespace IncidentApi

/-! ### Audit rows -/

structure CreateAuditEventInput where
  incidentId : Option Id := none
  actorId : Option Id := none
  type : AuditEventType
  fromValue : Option String := none
  toValue : Option String := none
  reason : Option String := none
  payload : Option Payload := none
  occurredAt : Date

def CreateAuditEventInput.row (input : CreateAuditEventInput) (id : Id) : AuditEvent where
  id := id
  incidentId := input.incidentId
  actorId := input.actorId
  type := input.type
  fromValue := input.fromValue
  toValue := input.toValue
  reason := input.reason
  payload := input.payload
  occurredAt := input.occurredAt

/-- `auditService.record` for each input in turn; `ids` is what `newId()` answers. -/
def auditRows (inputs : List CreateAuditEventInput) (ids : Nat → Id) : List AuditEvent :=
  inputs.zipIdx.map fun entry => entry.1.row (ids entry.2)

def Store.record (store : Store) (inputs : List CreateAuditEventInput) (ids : Nat → Id) : Store :=
  { store with auditEvents := store.auditEvents ++ auditRows inputs ids }

theorem mem_auditRows (inputs : List CreateAuditEventInput) (ids : Nat → Id) (event : AuditEvent) :
    event ∈ auditRows inputs ids ↔
      ∃ input i, (input, i) ∈ inputs.zipIdx ∧ event = input.row (ids i) := by
  simp only [auditRows, List.mem_map, Prod.exists, eq_comm (a := event)]

theorem exists_auditRow {inputs : List CreateAuditEventInput} {input : CreateAuditEventInput}
    (member : input ∈ inputs) (ids : Nat → Id) : ∃ i, input.row (ids i) ∈ auditRows inputs ids := by
  obtain ⟨i, bound, found⟩ := List.mem_iff_getElem.mp member
  refine ⟨i, (mem_auditRows inputs ids _).mpr ⟨input, i, ?_, rfl⟩⟩
  simp [List.mem_zipIdx_iff_getElem?, found, bound]

theorem auditRow_input {inputs : List CreateAuditEventInput} {ids : Nat → Id} {event : AuditEvent}
    (member : event ∈ auditRows inputs ids) : ∃ input ∈ inputs, ∃ id, event = input.row id := by
  obtain ⟨input, i, found, rfl⟩ := (mem_auditRows inputs ids event).mp member
  exact ⟨input, (List.mem_zipIdx' found).2 ▸ List.getElem_mem _, ids i, rfl⟩

/-! ### Creation -/

structure CreateIncidentRequest where
  type : IncidentType
  severity : Severity
  title : TrimmedText 5 160
  description : TrimmedText 20 5000
  noImageReason : Option (TrimmedText 10 500)

/-- The photo of a report: none attached, its object key in the bucket, or a refused upload. -/
inductive Upload where
  | missing | stored (path : String) | refused
  deriving DecidableEq, Repr

structure IncidentReceipt where
  id : Id
  reference : String
  createdAt : Date
  severity : Severity
  visibleToYou : Bool
  deriving DecidableEq, Repr

def formatIncidentReference (year : Int) (sequence : Nat) : String :=
  "INC-" ++ toString year ++ "-" ++ padStart 6 (toString sequence)

/-- The row of `createIncident`, with the column defaults of the first migration. -/
def newIncident (actor : Actor) (input : CreateIncidentRequest) (imagePath : Option String)
    (id : Id) (reference : String) (now wall : Date) : Incident :=
  let isHighBand := highBandRank ≤ severityRank input.severity
  { id := id
    reference := reference
    type := input.type
    severity := input.severity
    stage := .reported
    title := input.title.value
    description := input.description.value
    imagePath := imagePath
    noImageReason := if imagePath.isSome then none else input.noImageReason.map (·.value)
    reporterId := actor.id
    assignedInvestigatorId := none
    acknowledgedById := none
    acknowledgedAt := none
    highSeveritySince := if isHighBand then some now else none
    escalationCycle := if isHighBand then 1 else 0
    currentEscalationLevel := 0
    lastEscalatedAt := none
    rootCause := none
    correctiveAction := none
    closureProposedById := none
    closureProposedAt := none
    closedById := none
    closedAt := none
    version := 0
    createdAt := now
    updatedAt := wall }

def creationRecord (actor : Actor) (created : Incident) (now : Date) : CreateAuditEventInput where
  incidentId := some created.id
  actorId := some actor.id
  type := .incidentCreated
  toValue := some created.severity.text
  payload := some [("type", .str created.type.text), ("stage", .str created.stage.text)]
  occurredAt := now

/-- `create`. The sequence number stays taken when a unique index refuses the row: `nextval` is
not undone by a rollback. -/
def create (store : Store) (actor : Actor) (input : CreateIncidentRequest) (image : Upload)
    (id : Id) (now wall : Date) (ids : Nat → Id) : Except AppError IncidentReceipt × Store :=
  match image with
  | .refused => (.error ImageUploadFailedError, store)
  | .missing =>
    if input.noImageReason.isNone then (.error ImageOrReasonRequiredError, store)
    else insert none
  | .stored path => insert (some path)
where
  insert (imagePath : Option String) : Except AppError IncidentReceipt × Store :=
    let drawn := { store with incidentReferenceSeq := store.incidentReferenceSeq + 1 }
    let reference := formatIncidentReference (getUTCFullYear now) store.incidentReferenceSeq
    let created := newIncident actor input imagePath id reference now wall
    -- the primary key and the unique index on `reference`
    if store.incidents.any fun row => row.id = id || row.reference = reference then
      (.error InternalError, drawn)
    else
      (.ok ⟨id, reference, now, input.severity, canViewSeverity actor input.severity⟩,
        { drawn with incidents := store.incidents ++ [created] }.record
          [creationRecord actor created now] ids)

/-! ### The scoped load -/

structure AssigneeRow where
  id : Id
  displayName : String
  clearanceLevel : Nat
  deriving DecidableEq, Repr

/-- An incident with its assignee joined in, as the mutations read it. -/
structure TriageIncidentRow extends Incident where
  assignee : Option AssigneeRow
  deriving DecidableEq, Repr

def joinAssignee (store : Store) (row : Incident) : TriageIncidentRow :=
  { row with
    assignee := row.assignedInvestigatorId.bind fun id =>
      (store.userById id).map fun user => ⟨user.id, user.displayName, user.clearanceLevel⟩ }

def findTriageRowScoped (store : Store) (id : Id) (actor : Actor) : Option TriageIncidentRow :=
  (store.incidents.find? fun row => row.id = id && visibilityScope actor row).map
    (joinAssignee store)

def existsById (store : Store) (id : Id) : Bool := store.incidents.any (·.id = id)

def loadForActorOrThrow {T : Type} (store : Store) (id : Id) (actor : Actor)
    (finder : Store → Id → Actor → Option T) : Except AppError T :=
  match finder store id actor with
  | some row => .ok row
  | none =>
    -- a second query without the scope decides between 403 and 404
    if existsById store id then .error (InsufficientClearanceError id)
    else .error (NotFoundError "Incident" id)

def getByIdForActor (store : Store) (actor : Actor) (id : Id) : Except AppError TriageIncidentRow :=
  loadForActorOrThrow store id actor findTriageRowScoped

@[simp] theorem joinAssignee_toIncident (store : Store) (row : Incident) :
    (joinAssignee store row).toIncident = row := rfl

/-- A successful load is a stored row the actor may see, with its assignee's current columns. -/
theorem getByIdForActor_ok (store : Store) (actor : Actor) (id : Id) (row : TriageIncidentRow)
    (loaded : getByIdForActor store actor id = .ok row) :
    row.toIncident ∈ store.incidents ∧ row.id = id ∧ visibilityScope actor row.toIncident = true ∧
      row = joinAssignee store row.toIncident := by
  simp only [getByIdForActor, loadForActorOrThrow, findTriageRowScoped] at loaded
  cases found : store.incidents.find? fun row => row.id = id && visibilityScope actor row with
  | none => simp only [found, Option.map_none] at loaded; split at loaded <;> simp at loaded
  | some stored =>
    simp only [found, Option.map_some, Except.ok.injEq] at loaded
    subst loaded
    have selected := List.find?_some found
    simp only [Bool.and_eq_true, decide_eq_true_eq] at selected
    exact ⟨List.mem_of_find?_eq_some found, selected.1, selected.2, rfl⟩

/-! ### The versioned write -/

/-- A field that is `none` is left out of the update; `some none` stores SQL `NULL`. -/
structure UpdateIncidentStateInput where
  stage : Option Stage := none
  severity : Option Severity := none
  assignedInvestigatorId : Option (Option Id) := none
  acknowledgedAt : Option (Option Date) := none
  acknowledgedById : Option (Option Id) := none
  highSeveritySince : Option (Option Date) := none
  escalationCycle : Option Nat := none
  currentEscalationLevel : Option Nat := none
  rootCause : Option (Option String) := none
  correctiveAction : Option (Option String) := none
  closureProposedById : Option (Option Id) := none
  closureProposedAt : Option (Option Date) := none
  closedById : Option (Option Id) := none
  closedAt : Option (Option Date) := none

/-- The row after `data`, `version: { increment: 1 }` and Prisma's `@updatedAt`. -/
def UpdateIncidentStateInput.write (data : UpdateIncidentStateInput) (wall : Date)
    (row : Incident) : Incident :=
  { row with
    stage := data.stage.getD row.stage
    severity := data.severity.getD row.severity
    assignedInvestigatorId := data.assignedInvestigatorId.getD row.assignedInvestigatorId
    acknowledgedAt := data.acknowledgedAt.getD row.acknowledgedAt
    acknowledgedById := data.acknowledgedById.getD row.acknowledgedById
    highSeveritySince := data.highSeveritySince.getD row.highSeveritySince
    escalationCycle := data.escalationCycle.getD row.escalationCycle
    currentEscalationLevel := data.currentEscalationLevel.getD row.currentEscalationLevel
    rootCause := data.rootCause.getD row.rootCause
    correctiveAction := data.correctiveAction.getD row.correctiveAction
    closureProposedById := data.closureProposedById.getD row.closureProposedById
    closureProposedAt := data.closureProposedAt.getD row.closureProposedAt
    closedById := data.closedById.getD row.closedById
    closedAt := data.closedAt.getD row.closedAt
    version := row.version + 1
    updatedAt := wall }

def charLengthAtLeast (length : Nat) : Option String → Bool
  | none => false
  | some text => length ≤ trimmedCharLength text

/-- The `closed_requires_rca` constraint. -/
def closedRequiresRca (row : Incident) : Bool :=
  row.stage ≠ .closed ||
    (charLengthAtLeast 20 row.rootCause && charLengthAtLeast 20 row.correctiveAction)

/-- The `high_severity_clock` constraint. -/
def highSeverityClock (row : Incident) : Bool :=
  !row.severity.inHighBand || row.highSeveritySince.isSome

def checksHold (row : Incident) : Bool := closedRequiresRca row && highSeverityClock row

def pinned (id : Id) (expectedVersion : Nat) (row : Incident) : Bool :=
  row.id = id && row.version = expectedVersion

/-- `updateMany({ where: { id, version }, data })`: the count of matching rows and the table
after it. A row that breaks a `CHECK` fails the statement. -/
def updateVersioned (store : Store) (id : Id) (expectedVersion : Nat)
    (data : UpdateIncidentStateInput) (wall : Date) : Except AppError (Nat × Store) :=
  let matching := store.incidents.filter (pinned id expectedVersion)
  -- the constraints are checked on the rows as they would be stored
  if matching.all fun row => checksHold (data.write wall row) then
    .ok (matching.length,
      { store with
        incidents := store.incidents.map fun row =>
          if pinned id expectedVersion row then data.write wall row else row })
  else .error InternalError

/-- What an operation decided to write, from the row it loaded. -/
structure Mutation where
  data : UpdateIncidentStateInput
  records : List CreateAuditEventInput

/-- The transaction every mutation ends in. -/
def commitMutation (store : Store) (id : Id) (expectedVersion : Nat) (mutation : Mutation)
    (wall : Date) (ids : Nat → Id) : Except AppError Store := do
  let (count, written) ← updateVersioned store id expectedVersion mutation.data wall
  if count ≠ 1 then .error (StaleVersionError expectedVersion)
  else .ok (written.record mutation.records ids)

/-- A committed mutation overwrites the row pinned by id and version, which keeps the `CHECK`
constraints, and appends its audit rows; nothing else changes. -/
theorem commitMutation_ok (store after : Store) (id : Id) (expectedVersion : Nat)
    (mutation : Mutation) (wall : Date) (ids : Nat → Id)
    (committed : commitMutation store id expectedVersion mutation wall ids = .ok after) :
    (∃ row ∈ store.incidents, row.id = id ∧ row.version = expectedVersion ∧
      checksHold (mutation.data.write wall row) = true) ∧
    after = { store with
      incidents := store.incidents.map fun row =>
        if pinned id expectedVersion row then mutation.data.write wall row else row
      auditEvents := store.auditEvents ++ auditRows mutation.records ids } := by
  unfold commitMutation updateVersioned at committed
  simp only [bind, Except.bind] at committed
  split at committed
  next => simp at committed
  next result counted =>
    split at counted
    next checks =>
      simp only [Except.ok.injEq] at counted
      subst counted
      split at committed
      · simp at committed
      next single =>
        simp only [Except.ok.injEq, Store.record] at committed
        refine ⟨?_, committed.symm⟩
        -- the count was compared with 1, so exactly one row matched
        have one : (store.incidents.filter (pinned id expectedVersion)).length = 1 := by
          simpa using single
        obtain ⟨row, only⟩ := List.length_eq_one_iff.mp one
        have member : row ∈ store.incidents.filter (pinned id expectedVersion) := by simp [only]
        simp only [only, List.all_cons, List.all_nil, Bool.and_true] at checks
        obtain ⟨stored, matched⟩ := List.mem_filter.mp member
        simp only [pinned, Bool.and_eq_true, decide_eq_true_eq] at matched
        exact ⟨row, stored, matched.1, matched.2, checks⟩
    · simp at counted

end IncidentApi
