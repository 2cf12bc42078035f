import IncidentApi.Policy
import IncidentApi.Pagination
import IncidentApi.Library.Keyset
import Mathlib.Order.Lex
import Mathlib.Data.Prod.Lex

/-!
# Notifications

`notification.repository.ts`, its mapper and `notification.service.ts`.
-/
namespace IncidentApi

/-- A notification with the event and the incident Prisma joins to it. -/
structure NotificationRow where
  row : NotificationLog
  event : EscalationEvent
  incident : Incident

def joinNotification (store : Store) (row : NotificationLog) : Option NotificationRow := do
  let event ← store.eventById row.escalationEventId
  let incident ← store.incidentById event.incidentId
  return ⟨row, event, incident⟩

theorem joinNotification_row {store : Store} {row : NotificationLog} {joined : NotificationRow}
    (found : joinNotification store row = some joined) : joined.row = row := by
  simp only [joinNotification, Option.bind_eq_bind, Option.bind_eq_some_iff] at found
  obtain ⟨event, _, incident, _, equal⟩ := found
  exact Option.some.inj equal ▸ rfl

structure NotificationItem where
  id : Id
  incidentId : Id
  incidentReference : String
  incidentTitle : String
  severity : Severity
  level : Nat
  dueAt : Date
  readAt : Option Date
  createdAt : Date
  deriving DecidableEq, Repr

def toNotificationItem (joined : NotificationRow) : NotificationItem where
  id := joined.row.id
  incidentId := joined.incident.id
  incidentReference := joined.incident.reference
  incidentTitle := joined.incident.title
  severity := joined.incident.severity
  level := joined.event.level
  dueAt := joined.event.dueAt
  readAt := joined.row.readAt
  createdAt := joined.row.createdAt

/-- `ownNotificationsWhere`: the recipient's rows whose incident is in scope. -/
def ownNotifications (store : Store) (actor : Actor) : List NotificationRow :=
  ((store.notificationLog.filter (·.recipientId = actor.id)).filterMap
    (joinNotification store)).filter fun joined => visibilityScope actor joined.incident

/-- `ORDER BY createdAt DESC, id DESC`. -/
def notificationKey (joined : NotificationRow) : (Date ×ₗ Id)ᵒᵈ :=
  OrderDual.toDual (toLex (joined.row.createdAt, joined.row.id))

def findNotificationsPage (store : Store) (actor : Actor) (cursor : Option TimeIdCursor)
    (pageSize : Nat) : List NotificationRow :=
  (Keyset.sortOn notificationKey ((ownNotifications store actor).filter fun joined =>
    cursor.all fun position => beforeTimeId position joined.row.createdAt joined.row.id)).take
      (pageSize + 1)

/-- The rows `countUnread` counts. -/
def unreadNotifications (store : Store) (actor : Actor) : List NotificationRow :=
  (ownNotifications store actor).filter fun joined => joined.row.readAt = none

def countUnread (store : Store) (actor : Actor) : Nat := (unreadNotifications store actor).length

structure NotificationsResponse extends CursorPage NotificationItem where
  unreadCount : Nat

/-- The optional `cursor` of a query string; the empty text counts as absent. -/
def decodeOptional {C : Type} (decode : String → Except AppError C) :
    Option String → Except AppError (Option C)
  | none => .ok none
  | some "" => .ok none
  | some raw => (decode raw).map some

/-- Any text but the empty one is a cursor. -/
theorem decodeOptional_given {C : Type} (decode : String → Except AppError C) {raw : String}
    (given : raw ≠ "") : decodeOptional decode (some raw) = (decode raw).map some := by
  unfold decodeOptional
  split
  next absent => simp at absent
  next absent => exact absurd (Option.some.inj absent) given
  next other _ same => rw [Option.some.inj same]

def listNotifications (js : JsRuntime) (store : Store) (actor : Actor) (cursorRaw : Option String)
    (pageSize : Nat) : Except AppError NotificationsResponse := do
  let cursor ← decodeOptional (decodeCreatedAtIdCursor js) cursorRaw
  let page := cursorPage (findNotificationsPage store actor cursor pageSize) pageSize
    toNotificationItem fun joined => encodeCreatedAtIdCursor js joined.row.createdAt joined.row.id
  return { toCursorPage := page, unreadCount := countUnread store actor }

/-- No `visibilityScope` here: ownership alone selects the row. -/
def findOwnNotification (store : Store) (actor : Actor) (id : Id) : Option NotificationRow :=
  (store.notificationLog.find? fun row => row.id = id && row.recipientId = actor.id).bind
    (joinNotification store)

def markRead (store : Store) (id : Id) (now : Date) : Store :=
  { store with
    notificationLog := store.notificationLog.map fun row =>
      if row.id = id ∧ row.readAt = none then { row with readAt := some now } else row }

def markNotificationRead (store : Store) (actor : Actor) (id : Id) (now : Date) :
    Except AppError (NotificationItem × Store) :=
  match findOwnNotification store actor id with
  | none => .error (NotFoundError "Notification" id)
  | some existing =>
    -- `existing.readAt ?? now`: a second reading keeps the first instant
    .ok (toNotificationItem
        { existing with row := { existing.row with readAt := existing.row.readAt.or (some now) } },
      markRead store id now)

end IncidentApi
