import IncidentApi.NoteTaking
import IncidentApi.Timeline

/-!
# What the writers of the log mean

Every service that writes audit rows about an incident has something typed to say: two stages, a
severity, the length of a text. The log keeps it in four text columns and a JSON payload, and the
mapper of the timeline reads it back. Here stands what each writer has to say, from its own input
and the rows it has loaded, and the event that says the same to a reader.
-/
namespace IncidentApi

inductive Happening where
  | created (severity : Severity) (type : IncidentType) (stage : Stage)
  | stageChanged (source target : Stage) (reason : Option String)
  | severityChanged (source target : Severity) (reason : String)
  | assigned (investigatorId : Id)
  | unassigned (investigatorId : Id) (reason : String)
  | acknowledged
  | noteAdded (noteId : Id) (length : Nat)
  | closureProposed (rootCauseLength correctiveActionLength : Nat)
  | closureApproved
  | closureRejected (reason : String)
  | escalated (eventId : Id) (fromLevel toLevel cycle : Nat)
  | accessDenied (reason : String) (clearanceLevel : Nat)

/-- A happening, to which incident, by whom and when. -/
structure Telling where
  incidentId : Id
  actorId : Option Id
  occurredAt : Date
  happening : Happening

def Happening.type : Happening → AuditEventType
  | .created .. => .incidentCreated
  | .stageChanged .. => .stageChanged
  | .severityChanged .. => .severityChanged
  | .assigned .. => .investigatorAssigned
  | .unassigned .. => .investigatorUnassigned
  | .acknowledged => .incidentAcknowledged
  | .noteAdded .. => .noteAdded
  | .closureProposed .. => .closureProposed
  | .closureApproved => .closureApproved
  | .closureRejected .. => .closureRejected
  | .escalated .. => .incidentEscalated
  | .accessDenied .. => .accessDenied

/-- The investigator whom a happening names. -/
def Happening.investigator : Happening → Option Id
  | .assigned investigatorId => some investigatorId
  | .unassigned investigatorId _ => some investigatorId
  | _ => none

/-- What a reader of the notes is to see. -/
def Telling.event (store : Store) (telling : Telling) (rowId : Id) : TimelineEvent :=
  let base : EventBase := ⟨rowId, telling.occurredAt, userRef store telling.actorId⟩
  match telling.happening with
  | .created severity type stage =>
    .incidentCreated base (some severity.text) (.str type.text) (.str stage.text)
  | .stageChanged source target reason =>
    .stageChanged base (some source.text) (some target.text) reason
  | .severityChanged source target reason =>
    .severityChanged base (some source.text) (some target.text) (some reason)
  | .assigned investigatorId =>
    .investigatorAssigned base (userRef store (some investigatorId))
  | .unassigned investigatorId reason =>
    .investigatorUnassigned base (userRef store (some investigatorId)) (some reason)
  | .acknowledged => .incidentAcknowledged base
  | .noteAdded noteId length => .noteAdded base false (.str noteId) (.num length)
  | .closureProposed rootCauseLength correctiveActionLength =>
    .closureProposed base (.num rootCauseLength) (.num correctiveActionLength)
  | .closureApproved => .closureApproved base
  | .closureRejected reason => .closureRejected base (some reason)
  | .escalated _ fromLevel toLevel cycle =>
    .incidentEscalated base (.num fromLevel) (.num toLevel) (.num cycle)
  | .accessDenied reason clearanceLevel =>
    .accessDenied base (some reason) (.num clearanceLevel)

/-! ### The writers -/

/-- What an operation has to say, from the row it has loaded and the investigator it has read. -/
def Operation.story (operation : Operation) (incident : TriageIncidentRow)
    (investigator : Option User) : List Happening :=
  match operation with
  | .triage => [.stageChanged incident.stage .triage none]
  | .changeSeverity input =>
    let stranded := incident.assignee.filter fun assignee =>
      mustUnassignOnRaise assignee.clearanceLevel input.severity
    .severityChanged incident.severity input.severity input.reason.value ::
      (stranded.toList.map fun assignee =>
        .unassigned assignee.id "CLEARANCE_BELOW_NEW_SEVERITY") ++
      if stranded.isSome && incident.stage = .investigation then
        [.stageChanged .investigation .triage (some "CLEARANCE_BELOW_NEW_SEVERITY")]
      else []
  | .assignInvestigator _ =>
    match investigator with
    | none => []
    | some investigator =>
      ((incident.assignee.filter (·.id ≠ investigator.id)).toList.map fun assignee =>
        .unassigned assignee.id "REASSIGNED") ++
      [.assigned investigator.id] ++
      if incident.stage = .triage then [.stageChanged .triage .investigation none] else []
  | .unassignInvestigator =>
    (incident.assignedInvestigatorId.toList.map fun removed => .unassigned removed "MANUAL") ++
      if incident.stage = .investigation then [.stageChanged .investigation .triage none] else []
  | .acknowledge => [.acknowledged]
  | .propose input =>
    [.closureProposed (jsLength input.rootCause.value) (jsLength input.correctiveAction.value),
      .stageChanged incident.stage .pendingClosure none]
  | .approve => [.closureApproved, .stageChanged incident.stage .closed none]
  | .reject reason =>
    [.closureRejected reason.value,
      .stageChanged .pendingClosure .investigation (some reason.value)]

/-- What the cascade has to say of one incident. -/
def cascadeStory (targetId : Id) (incident : AssignedIncidentRow) : List Happening :=
  .unassigned targetId "ADMIN_CLEARANCE_LOWERED" ::
    if incident.stage = .investigation then
      [.stageChanged .investigation .triage (some "ADMIN_CLEARANCE_LOWERED")]
    else []

def tellAll (incidentId actorId : Id) (now : Date) (story : List Happening) : List Telling :=
  story.map fun happening => ⟨incidentId, some actorId, now, happening⟩

/-- Only a transaction that commits has said anything. -/
def ifCommitted {T : Type} (result : Except AppError T) (told : List Telling) : List Telling :=
  match result with
  | .ok _ => told
  | .error _ => []

def Request.tells (store : Store) (request : Request) (now wall : Date) (ids : Nat → Id) :
    List Telling :=
  ifCommitted (commitRequest store request now wall ids)
    (tellAll request.id request.actor.id now
      (request.operation.story request.row (request.investigator.getD none)))

def ClearanceRequest.tells (store : Store) (request : ClearanceRequest) (now wall : Date)
    (ids : Nat → Nat → Id) : List Telling :=
  match request.affected with
  | none => []
  | some affected =>
    if request.target.clearanceLevel = request.clearance.level then []
    else
      ifCommitted (commitClearance store request.actor request.target request.clearance affected
          now wall ids)
        (affected.flatMap fun incident =>
          tellAll incident.id request.actor.id now (cascadeStory request.target.id incident))

/-- A batch has spoken once it commits. -/
def Run.tells (run : Run) : List Telling :=
  match run.phase with
  | .batch batch =>
    if batch.todo = [] then
      batch.escalations.map fun made =>
        ⟨made.due.candidate.id, none, batch.now,
          .escalated made.event.id made.due.candidate.currentEscalationLevel made.due.tier.level
            made.due.candidate.escalationCycle⟩
    else []
  | _ => []

def System.tells (sys : System) : Action → List Telling
  | .create userId input image id now wall ids =>
    match authenticate sys.store userId with
    | .ok actor =>
      ifCommitted (create sys.store actor input image id now wall ids).1
        (tellAll id actor.id now [.created input.severity input.type .reported])
    | .error _ => []
  | .commit k now wall ids =>
    (sys.requests[k]?).elim [] fun request => request.tells sys.store now wall ids
  | .commitClearance k now wall ids =>
    (sys.clearances[k]?).elim [] fun request => request.tells sys.store now wall ids
  | .recordDenial incidentId actorId _ clearanceLevel now =>
    if findRecentAccessDenied sys.store actorId incidentId (now - denialDedupeWindowMs) then []
    else tellAll incidentId actorId now [.accessDenied "CLEARANCE" clearanceLevel]
  | .job k _ => (sys.runs[k]?).elim [] Run.tells
  | _ => []

def NoteRequest.tells (store : Store) (request : NoteRequest) (now : Date) (noteId : Id)
    (ids : Nat → Id) : List Telling :=
  ifCommitted (request.commit store now noteId ids)
    (tellAll request.incidentId request.actor.id now
      [.noteAdded noteId (jsLength request.body.value)])

/-- The changes of accounts say nothing of an incident. -/
def NoteSystem.tells (sys : NoteSystem) : NoteAction → List Telling
  | .account (.service action) => sys.service.tells action
  | .write k now noteId ids =>
    (sys.notes[k]?).elim [] fun request => request.tells sys.store now noteId ids
  | _ => []

/-- The service, with all that its writers have said since the start; no step reads it. -/
structure ToldSystem where
  sys : NoteSystem
  told : List Telling

def toldStep (config : JobConfig) (state : ToldSystem) (action : NoteAction) :
    Option ToldSystem :=
  (noteStep config state.sys action).map fun next => ⟨next, state.told ++ state.sys.tells action⟩

def ToldSystem.boot (store : Store) (issued : List Id) : ToldSystem := ⟨.boot store issued, []⟩

/-! ### The fallbacks of the mapper -/

/-- `value ?? fallback` answers the fallback. -/
def isMissing : Option Json → Bool
  | none => true
  | some .null => true
  | some _ => false

/-- `toTimelineEvent` reads an absent column or field of the row. -/
def readsAbsent (row : AuditEvent) : Bool :=
  let missing (name : String) : Bool := isMissing (payloadField row.payload name)
  match row.type with
  | .incidentCreated => row.toValue.isNone || missing "type" || missing "stage"
  | .stageChanged => row.fromValue.isNone || row.toValue.isNone
  | .severityChanged => row.fromValue.isNone || row.toValue.isNone || row.reason.isNone
  | .investigatorAssigned => (namedUser row.toValue).isNone
  | .investigatorUnassigned => (namedUser row.fromValue).isNone || row.reason.isNone
  | .noteAdded => missing "noteId" || missing "length"
  | .closureProposed => missing "rootCauseLength" || missing "correctiveActionLength"
  | .closureRejected => row.reason.isNone
  | .incidentEscalated => row.fromValue.isNone || row.toValue.isNone || missing "cycle"
  | .accessDenied => row.reason.isNone || missing "clearanceLevel"
  | .incidentAcknowledged | .closureApproved => false
  | .userClearanceChanged | .userRoleChanged => true

end IncidentApi
