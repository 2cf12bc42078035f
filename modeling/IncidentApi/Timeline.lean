import IncidentApi.Notes

/-!
# The timeline of an incident

`timeline.service.ts` and `audit.mapper.ts`: one audit row becomes one event, with the note payload
redacted for a viewer who cannot read notes.
-/
namespace IncidentApi

structure AuditEventRow extends AuditEvent where
  actor : Option UserRef

def joinActor (store : Store) (event : AuditEvent) : AuditEventRow :=
  { event with actor := userRef store event.actorId }

/-! ### The query -/

def findTimelinePage (store : Store) (incidentId : Id) (cursor : Option TimeIdCursor)
    (pageSize : Nat) (includeAccessDenied : Bool) : List AuditEventRow :=
  let rows := store.auditEvents.filter fun event => event.incidentId = some incidentId &&
    (includeAccessDenied || event.type ≠ .accessDenied) &&
    cursor.all fun position => beforeTimeId position event.occurredAt event.id
  ((Keyset.sortOn (fun event => newestKey event.occurredAt event.id) rows).take
    (pageSize + 1)).map (joinActor store)

def findUserRefsByIds (store : Store) (ids : List Id) : List UserRef :=
  (store.users.filter (·.id ∈ ids)).map fun user => ⟨user.id, user.displayName⟩

/-! ### The events -/

/-- The fields every event carries. -/
structure EventBase where
  id : Id
  occurredAt : Date
  actor : Option UserRef
  deriving DecidableEq, Repr

/-- The columns are cast, not checked, so a text column stays text and a payload field JSON. -/
inductive TimelineEvent where
  | incidentCreated (base : EventBase) (severity : Option String) (incidentType stage : Json)
  | stageChanged (base : EventBase) (source target reason : Option String)
  | severityChanged (base : EventBase) (source target reason : Option String)
  | investigatorAssigned (base : EventBase) (investigator : Option UserRef)
  | investigatorUnassigned (base : EventBase) (investigator : Option UserRef)
      (reason : Option String)
  | incidentAcknowledged (base : EventBase)
  | noteAdded (base : EventBase) (redacted : Bool) (noteId length : Json)
  | closureProposed (base : EventBase) (rootCauseLength correctiveActionLength : Json)
  | closureApproved (base : EventBase)
  | closureRejected (base : EventBase) (reason : Option String)
  | incidentEscalated (base : EventBase) (fromLevel toLevel cycle : Json)
  | accessDenied (base : EventBase) (reason : Option String) (clearanceLevel : Json)

/-- `value ?? fallback`. -/
def coalesce (value : Option Json) (fallback : Json) : Json :=
  match value with
  | none => fallback
  | some .null => fallback
  | some value => value

/-- `payload?.name`. -/
def payloadField (payload : Option Payload) (name : String) : Option Json :=
  payload.bind fun fields => Json.field fields name

/-- The id of an assignment event's column, which the empty text stands for none of. -/
def namedUser (value : Option String) : Option Id := value.filter (· ≠ "")

/-- `userRefs.get(id) ?? null`, where the map was filled in list order. -/
def userRefOf (refs : List UserRef) (value : Option String) : Option UserRef :=
  (namedUser value).bind fun id => (refs.filter (·.id = id)).getLast?

def toTimelineEvent (js : JsRuntime) (row : AuditEventRow) (canReadNotes : Bool)
    (userRefs : List UserRef) : Except AppError TimelineEvent :=
  let base : EventBase := ⟨row.id, row.occurredAt, row.actor⟩
  let field := payloadField row.payload
  match row.type with
  | .incidentCreated =>
    .ok (.incidentCreated base row.toValue (coalesce (field "type") (.str "OTHER"))
      (coalesce (field "stage") (.str "REPORTED")))
  | .stageChanged => .ok (.stageChanged base row.fromValue row.toValue row.reason)
  | .severityChanged => .ok (.severityChanged base row.fromValue row.toValue row.reason)
  | .investigatorAssigned => .ok (.investigatorAssigned base (userRefOf userRefs row.toValue))
  | .investigatorUnassigned =>
    .ok (.investigatorUnassigned base (userRefOf userRefs row.fromValue) row.reason)
  | .incidentAcknowledged => .ok (.incidentAcknowledged base)
  | .noteAdded =>
    if canReadNotes then
      .ok (.noteAdded base false (coalesce (field "noteId") .null)
        (coalesce (field "length") .null))
    -- the author of a note is part of what the redaction hides
    else .ok (.noteAdded { base with actor := none } true .null .null)
  | .closureProposed =>
    .ok (.closureProposed base (coalesce (field "rootCauseLength") (.num 0))
      (coalesce (field "correctiveActionLength") (.num 0)))
  | .closureApproved => .ok (.closureApproved base)
  | .closureRejected => .ok (.closureRejected base row.reason)
  | .incidentEscalated =>
    .ok (.incidentEscalated base
      (js.number (coalesce (row.fromValue.map .str) (.num 0)))
      (js.number (coalesce (row.toValue.map .str) (coalesce (field "level") (.num 0))))
      (coalesce (field "cycle") (.num 0)))
  | .accessDenied =>
    .ok (.accessDenied base row.reason (coalesce (field "clearanceLevel") .null))
  | .userClearanceChanged => .error InternalError
  | .userRoleChanged => .error InternalError

/-! ### The service -/

/-- The ids that the assignment events of a page mention. -/
def mentionedUsers (page : List AuditEventRow) : List Id :=
  page.filterMap fun row =>
    match row.type with
    | .investigatorAssigned => namedUser row.toValue
    | .investigatorUnassigned => namedUser row.fromValue
    | _ => none

def timeline (js : JsRuntime) (store : Store) (actor : Actor) (incidentId : Id)
    (cursorRaw : Option String) (pageSize : Nat) : Except AppError (CursorPage TimelineEvent) := do
  let incident ← getByIdForActor store actor incidentId
  let canSeeNotes := canReadNotes actor incident.toIncident
  let cursor ← decodeOptional (decodeOccurredAtIdCursor js) cursorRaw
  -- only an admin sees the refused accesses
  let rows := findTimelinePage store incidentId cursor pageSize (actor.role = .admin)
  let page := cursorPage rows pageSize (fun row => row) fun row =>
    encodeOccurredAtIdCursor js row.occurredAt row.id
  let userRefs := findUserRefsByIds store (mentionedUsers page.items)
  let items ← page.items.mapM fun row => toTimelineEvent js row canSeeNotes userRefs
  return { items := items, nextCursor := page.nextCursor, hasMore := page.hasMore }

end IncidentApi
