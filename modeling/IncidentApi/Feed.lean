import IncidentApi.Listings
import IncidentApi.Notifications
import Mathlib.Order.WithBot

/-!
# The escalation feed

`escalation.service.ts` and `escalation.repository.ts`: the actively escalated incidents, each with
the event at its counter, and the event history of one incident.
-/
namespace IncidentApi

def activeEscalationWhere (actor : Actor) (row : Incident) : Bool :=
  visibilityScope actor row && 0 < row.currentEscalationLevel && row.acknowledgedAt = none &&
    row.stage ≠ .closed

/-- `ORDER BY currentEscalationLevel DESC, highSeveritySince ASC, id ASC`, a `NULL` last. -/
def feedKey (row : Incident) : Natᵒᵈ ×ₗ WithTop Date ×ₗ Id :=
  let since : WithTop Date := row.highSeveritySince
  toLex (OrderDual.toDual row.currentEscalationLevel, toLex (since, row.id))

def findActiveEscalationsPage (store : Store) (actor : Actor) (cursor : Option FeedCursor)
    (pageSize : Nat) : List IncidentListRow :=
  let rows := store.incidents.filter fun row => activeEscalationWhere actor row &&
    cursor.all fun position =>
      afterFeedCursor position row.currentEscalationLevel row.highSeveritySince row.id
  ((Keyset.sortOn feedKey rows).take (pageSize + 1)).map (joinListRow store)

def currentEventKey (incident : Incident) : Id × Nat × Nat :=
  (incident.id, incident.escalationCycle, incident.currentEscalationLevel)

def findCurrentEvents (store : Store) (keys : List (Id × Nat × Nat)) : List EscalationEvent :=
  store.escalationEvents.filter (·.key ∈ keys)

structure EscalationFeedItem where
  incidentId : Id
  incidentReference : String
  incidentTitle : String
  severity : Severity
  level : Nat
  cycle : Nat
  dueAt : Date
  triggeredAt : Date
  assignedInvestigator : Option UserRef
  version : Nat
  deriving DecidableEq, Repr

def toEscalationFeedItem (incident : IncidentListRow) (event : EscalationEvent) :
    EscalationFeedItem where
  incidentId := incident.id
  incidentReference := incident.reference
  incidentTitle := incident.title
  severity := incident.severity
  level := event.level
  cycle := event.cycle
  dueAt := event.dueAt
  triggeredAt := event.triggeredAt
  assignedInvestigator := incident.assignee
  version := incident.version

/-- `eventByIncidentId.get(id)`, where the map was filled in list order. -/
def eventOf (events : List EscalationEvent) (incidentId : Id) : Option EscalationEvent :=
  (events.filter (·.incidentId = incidentId)).getLast?

/-- The cursor of the last row; `toISOString` of a `null` clock throws. -/
def feedCursorOf (js : JsRuntime) (last : Incident) : Except AppError String :=
  match last.highSeveritySince with
  | some since => .ok (encodeEscalationFeedCursor js last.currentEscalationLevel since last.id)
  | none => .error InternalError

def feedItems (events : List EscalationEvent) (page : List IncidentListRow) :
    List EscalationFeedItem :=
  page.flatMap fun incident =>
    match eventOf events incident.id with
    | some event => [toEscalationFeedItem incident event]
    | none => []

def listFeed (js : JsRuntime) (store : Store) (actor : Actor) (cursorRaw : Option String)
    (pageSize : Nat) : Except AppError (CursorPage EscalationFeedItem) := do
  let cursor ← decodeOptional (decodeEscalationFeedCursor js) cursorRaw
  let rows := findActiveEscalationsPage store actor cursor pageSize
  let hasMore := pageSize < rows.length
  let page := if hasMore then rows.take pageSize else rows
  -- One query for the page; an incident whose counter has no event yet is left out of the items.
  let events := findCurrentEvents store (page.map fun row => currentEventKey row.toIncident)
  let nextCursor ← match page.getLast? with
    | some last => if hasMore then (feedCursorOf js last.toIncident).map some else pure none
    | none => pure none
  return { items := feedItems events page, hasMore := hasMore, nextCursor := nextCursor }

/-! ### The history of one incident -/

structure EscalationEventDto where
  id : Id
  cycle : Nat
  level : Nat
  dueAt : Date
  triggeredAt : Date
  deriving DecidableEq, Repr

def toEscalationEventDto (event : EscalationEvent) : EscalationEventDto where
  id := event.id
  cycle := event.cycle
  level := event.level
  dueAt := event.dueAt
  triggeredAt := event.triggeredAt

/-- `ORDER BY level ASC, triggeredAt ASC`, with its ties broken. -/
def eventOrder (ties : TieOrder) (event : EscalationEvent) : Nat ×ₗ Date ×ₗ Id :=
  toLex (event.level, toLex (event.triggeredAt, ties.rank event.id))

def findEventsForIncident (ties : TieOrder) (store : Store) (incidentId : Id) :
    List EscalationEvent :=
  Keyset.sortOn (eventOrder ties) (store.escalationEvents.filter (·.incidentId = incidentId))

def listEventsForIncident (ties : TieOrder) (store : Store) (actor : Actor) (incidentId : Id) :
    Except AppError (List EscalationEventDto) := do
  let _ ← getByIdForActor store actor incidentId
  return (findEventsForIncident ties store incidentId).map toEscalationEventDto

end IncidentApi
