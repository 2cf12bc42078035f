import IncidentApi.Properties.Noninterference
import IncidentApi.Properties.Suppression

/-!
# Revoked clearance on the notification surfaces

The list and its unread count join the clearance scope; marking a notification read does not, and
discloses an incident that the recipient may no longer see.
-/
namespace IncidentApi.Properties

/-- The incident a notification is about. -/
def incidentOf (store : Store) (row : NotificationLog) : Option Incident :=
  (store.eventById row.escalationEventId).bind fun event => store.incidentById event.incidentId

/-- The actor's own notification of that id, if there is one, is about an incident within the
actor's clearance. -/
def OwnWithinClearance (store : Store) (actor : Actor) (id : Id) : Prop :=
  ∀ row, store.notificationLog.find? (fun row => row.id = id && row.recipientId = actor.id) =
      some row →
    ∀ incident, incidentOf store row = some incident →
      severityRank incident.severity ≤ actor.clearanceLevel

/-- An unread notification of the actor about an incident within the clearance. -/
def countsAsUnread (store : Store) (actor : Actor) (row : NotificationLog) : Bool :=
  row.recipientId = actor.id && row.readAt = none &&
    (incidentOf store row).any fun incident => severityRank incident.severity ≤ actor.clearanceLevel

section Surfaces
variable {store : Store} {actor : Actor}

theorem incidentOf_eq (row : NotificationLog) :
    incidentOf store row = (joinNotification store row).map (·.incident) := by
  simp [incidentOf, joinNotification, Option.map_bind]

theorem incidentOf_mem {row : NotificationLog} {incident : Incident}
    (about : incidentOf store row = some incident) : incident ∈ store.incidents := by
  obtain ⟨event, _, found⟩ := Option.bind_eq_some_iff.mp about
  exact List.mem_of_find?_eq_some found

theorem ownNotifications_shown {joined : NotificationRow}
    (member : joined ∈ ownNotifications store actor) :
    Shown actor.clearanceLevel store joined.incident.id := by
  simp only [ownNotifications, List.mem_filter, List.mem_filterMap, visibilityScope_iff] at member
  obtain ⟨⟨row, _, found⟩, covered⟩ := member
  have about : incidentOf store row = some joined.incident := by simp [incidentOf_eq, found]
  exact ⟨joined.incident, incidentOf_mem about, rfl, covered⟩

theorem countUnread_eq :
    countUnread store actor = store.notificationLog.countP (countsAsUnread store actor) := by
  simp only [countUnread, unreadNotifications, ownNotifications, List.filter_filterMap,
    List.filterMap_filter, List.length_filterMap_eq_countP]
  apply List.countP_congr
  intro row _
  cases found : joinNotification store row with
  | none => simp [countsAsUnread, incidentOf_eq, found]
  | some joined =>
    obtain rfl := joinNotification_row found
    by_cases own : joined.row.recipientId = actor.id <;>
      by_cases covered : severityRank joined.incident.severity ≤ actor.clearanceLevel <;>
      simp [countsAsUnread, incidentOf_eq, found, own, covered, Option.filter]

theorem listNotifications_shown {js : JsRuntime} {cursor : Option String} {pageSize : Nat}
    {response : NotificationsResponse}
    (answered : listNotifications js store actor cursor pageSize = .ok response) :
    (∀ item ∈ response.items, Shown actor.clearanceLevel store item.incidentId) ∧
      response.unreadCount = store.notificationLog.countP (countsAsUnread store actor) := by
  obtain ⟨position, _, equal⟩ := bind_ok answered
  obtain rfl := Except.ok.inj equal
  refine ⟨fun item member => ?_, countUnread_eq⟩
  obtain ⟨joined, among, rfl⟩ := mem_cursorPage member
  have own := (Keyset.mem_sortOn _ _ _).mp (List.mem_of_mem_take among)
  exact ownNotifications_shown (List.mem_of_mem_filter own)

/-- Marking a notification read stays within the clearance exactly if the notification does. -/
theorem markNotificationRead_shown (unique : store.UniqueIds) (id : Id) (now : Date) :
    (∀ item next, markNotificationRead store actor id now = .ok (item, next) →
      Shown actor.clearanceLevel store item.incidentId) ↔ OwnWithinClearance store actor id := by
  constructor
  · intro shown row own incident about
    rw [incidentOf_eq, Option.map_eq_some_iff] at about
    obtain ⟨existing, joined, rfl⟩ := about
    have found : findOwnNotification store actor id = some existing := by
      rw [findOwnNotification, own, Option.bind_some, joined]
    -- Marking it read answers with its incident, so that one is within the clearance.
    obtain ⟨stored, member, named, covered⟩ := shown _ _ (by
      simp only [markNotificationRead, found]
      exact rfl)
    have about : incidentOf store row = some existing.incident := by
      rw [incidentOf_eq, joined, Option.map_some]
    rwa [← List.inj_on_of_nodup_map unique.incidents member (incidentOf_mem about) named]
  · intro within item next answered
    simp only [markNotificationRead] at answered
    split at answered
    · simp at answered
    next existing found =>
      simp only [Except.ok.injEq, Prod.mk.injEq] at answered
      obtain ⟨rfl, _⟩ := answered
      -- `findOwnNotification` does not join the scope: all it knows is the recipient.
      obtain ⟨row, own, joined⟩ := Option.bind_eq_some_iff.mp found
      have about : incidentOf store row = some existing.incident := by simp [incidentOf_eq, joined]
      exact ⟨existing.incident, incidentOf_mem about, rfl, within row own _ about⟩

end Surfaces

/-- In every reachable state the list of notifications and its unread count stay within the
actor's current clearance, and marking one read does exactly if it is about an incident that the
actor may still see. -/
theorem notifications_within_clearance (config : JobConfig) (start : Store) (issued : List Id)
    (unique : start.UniqueIds) (sys : System)
    (reached : Machine.Reaches (step config) Machine.anyAction (System.boot start issued) sys)
    (js : JsRuntime) (actor : Actor) :
    (∀ cursor pageSize response,
      listNotifications js sys.store actor cursor pageSize = .ok response →
        (∀ item ∈ response.items, Shown actor.clearanceLevel sys.store item.incidentId) ∧
        response.unreadCount =
          sys.store.notificationLog.countP (countsAsUnread sys.store actor)) ∧
    ∀ id now,
      (∀ item next, markNotificationRead sys.store actor id now = .ok (item, next) →
        Shown actor.clearanceLevel sys.store item.incidentId) ↔
      OwnWithinClearance sys.store actor id :=
  ⟨fun _ _ _ => listNotifications_shown,
    markNotificationRead_shown (reached_snapshots unique reached).unique⟩

/-! ### A notification that outlives its clearance -/

/-- A manager who may see the reported incident, and no worse. -/
def watchedStore : Store :=
  { staffedStore with
    users := [sampleAdmin, { sampleManager with clearanceLevel := 3 }] }

/-- The incident escalates, both managers are notified, and its severity is raised. -/
def raisedAfterNotice : List Action :=
  beforeBump ++ afterBump ++ performed (.changeSeverity raisingInput) 0 1800001

theorem notifications_within_clearance_sample :
    ∃ sys, Machine.exec (step sampleConfig) (fun _ _ => true) (System.boot watchedStore [])
        raisedAfterNotice = some sys ∧
      sys.store.notificationLog.map (·.id) = ["e0admin", "e0manager"] ∧
      ((∀ item next, markNotificationRead sys.store ⟨"admin", .admin, 4⟩ "e0admin" 1800002 =
          .ok (item, next) → Shown 4 sys.store item.incidentId) ↔
        OwnWithinClearance sys.store ⟨"admin", .admin, 4⟩ "e0admin") := by
  have ran : (Machine.exec (step sampleConfig) (fun _ _ => true) (System.boot watchedStore [])
      raisedAfterNotice).map (fun sys => sys.store.notificationLog.map (·.id)) =
      some ["e0admin", "e0manager"] := by decide
  obtain ⟨sys, executed, notified⟩ := Option.map_eq_some_iff.mp ran
  refine ⟨sys, executed, notified, ?_⟩
  exact (notifications_within_clearance sampleConfig watchedStore [] ⟨by decide, by decide⟩ sys
    (Machine.reaches_of_exec (fun _ _ => true) (fun _ _ _ => trivial) _ _ _ executed)
    samplePlatform.js ⟨"admin", .admin, 4⟩).2 "e0admin" 1800002

/-- The manager marks the notification read and is shown the incident above the clearance. -/
theorem markRead_discloses_revoked_incident :
    ¬ ∀ (config : JobConfig) (start : Store) (issued : List Id), start.UniqueIds →
      ∀ sys, Machine.Reaches (step config) Machine.anyAction (System.boot start issued) sys →
      ∀ (js : JsRuntime) (userId : Id) (actor : Actor), authenticate sys.store userId = .ok actor →
        (∀ cursor pageSize response,
          listNotifications js sys.store actor cursor pageSize = .ok response →
            (∀ item ∈ response.items, Shown actor.clearanceLevel sys.store item.incidentId) ∧
            response.unreadCount =
              sys.store.notificationLog.countP (countsAsUnread sys.store actor)) ∧
        ∀ id now item next, markNotificationRead sys.store actor id now = .ok (item, next) →
          Shown actor.clearanceLevel sys.store item.incidentId := by
  intro within
  have ran : ((Machine.exec (step sampleConfig) (fun _ _ => true) (System.boot watchedStore [])
      raisedAfterNotice).bind fun sys =>
        (authenticate sys.store "manager").toOption.bind fun actor =>
          (markNotificationRead sys.store actor "e0manager" 1800002).toOption.map fun answer =>
            decide (∃ row ∈ sys.store.incidents, row.id = answer.1.incidentId ∧
              severityRank row.severity ≤ actor.clearanceLevel)) = some false := by decide
  obtain ⟨sys, executed, ran⟩ := Option.bind_eq_some_iff.mp ran
  obtain ⟨actor, known, ran⟩ := Option.bind_eq_some_iff.mp ran
  obtain ⟨⟨item, next⟩, answered, above⟩ := Option.map_eq_some_iff.mp ran
  have shown := (within sampleConfig watchedStore [] ⟨by decide, by decide⟩ sys
    (Machine.reaches_of_exec (fun _ _ => true) (fun _ _ _ => trivial) _ _ _ executed)
    samplePlatform.js "manager" actor (eq_ok_of_toOption known)).2 "e0manager" 1800002 item next
    (eq_ok_of_toOption answered)
  exact of_decide_eq_false above shown

end IncidentApi.Properties
