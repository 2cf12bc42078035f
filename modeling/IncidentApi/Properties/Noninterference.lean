import IncidentApi.Reads
import IncidentApi.Properties.Refinement

/-!
# Clearance noninterference of the read side

Two databases that agree on what an actor's clearance covers, and on which incident ids exist,
give the actor the same response to every read. Each query composes the clearance scope in its own
way; what they share is in `Scope`.
-/
namespace IncidentApi.Properties

open Scope

/-! ### What the actor may learn -/

/-- The primary keys of the tables that are read, and the unique key of the events. -/
structure PrimaryKeys (store : Store) : Prop extends store.UniqueIds where
  notes : (store.notes.map InvestigationNote.id).Nodup
  auditEvents : (store.auditEvents.map AuditEvent.id).Nodup
  escalationEvents : (store.escalationEvents.map EscalationEvent.id).Nodup
  escalationKeys : (store.escalationEvents.map EscalationEvent.key).Nodup
  notificationLog : (store.notificationLog.map NotificationLog.id).Nodup

/-- The id is that of an incident the clearance covers. -/
def Shown (clearance : Nat) (store : Store) (id : Id) : Prop :=
  ∃ row ∈ store.incidents, row.id = id ∧ severityRank row.severity ≤ clearance

/-- The databases differ only in incidents above the clearance and in what belongs to those. -/
structure LowEquivalent (clearance : Nat) (store other : Store) : Prop where
  users : ∀ user, user ∈ store.users ↔ user ∈ other.users
  tiers : ∀ tier, tier ∈ store.escalationTiers ↔ tier ∈ other.escalationTiers
  ids : ∀ id, existsById store id = existsById other id
  incidents : Agree (fun row => severityRank row.severity ≤ clearance) store.incidents
    other.incidents
  notes : Agree (fun note => Shown clearance store note.incidentId) store.notes other.notes
  auditEvents : Agree (fun event => ∃ id, event.incidentId = some id ∧ Shown clearance store id)
    store.auditEvents other.auditEvents
  escalationEvents : Agree (fun event => Shown clearance store event.incidentId)
    store.escalationEvents other.escalationEvents
  notificationLog : Agree (fun row => ∃ event ∈ store.escalationEvents,
    event.id = row.escalationEventId ∧ Shown clearance store event.incidentId)
    store.notificationLog other.notificationLog

/-- Two databases with sound keys that look alike from a clearance. -/
structure Alike (clearance : Nat) (store other : Store) : Prop where
  keyed : PrimaryKeys store
  keyedOther : PrimaryKeys other
  low : LowEquivalent clearance store other

section Surfaces
variable {actor : Actor} {store other : Store}

theorem noteScopeWhere_shown {id : Id} {note : InvestigationNote}
    (chosen : noteScopeWhere store actor id note = true) :
    Shown actor.clearanceLevel store note.incidentId := by
  simp only [noteScopeWhere, Bool.and_eq_true, List.any_eq_true, decide_eq_true_eq] at chosen
  obtain ⟨_, row, member, ⟨named, visible⟩, _⟩ := chosen
  exact ⟨row, member, named, (visibilityScope_iff actor row).mp visible⟩

/-- A load that succeeds shows its incident. -/
theorem shown_of_load {id : Id} {row : TriageIncidentRow}
    (loaded : getByIdForActor store actor id = .ok row) : Shown actor.clearanceLevel store id := by
  obtain ⟨stored, named, visible, _⟩ := getByIdForActor_ok _ _ _ _ loaded
  exact ⟨row.toIncident, stored, named, (visibilityScope_iff _ _).mp visible⟩

theorem newestKey_id {instant late : Date} {id new : Id}
    (same : newestKey instant id = newestKey late new) : id = new :=
  congrArg (fun key => (ofLex (OrderDual.ofDual key)).2) same

theorem mem_activePage {cursor : Option FeedCursor} {pageSize : Nat} {row : IncidentListRow}
    (member : row ∈ findActiveEscalationsPage store actor cursor pageSize) :
    row.toIncident ∈ store.incidents ∧ activeEscalationWhere actor row.toIncident = true := by
  obtain ⟨stored, among, rfl⟩ := List.mem_map.mp member
  have kept := (Keyset.mem_sortOn _ _ _).mp (List.mem_of_mem_take among)
  simp only [List.mem_filter, Bool.and_eq_true] at kept
  exact ⟨kept.1, kept.2.1⟩

/-- A row of the feed is a stored incident the actor may see. -/
theorem mem_findActiveEscalationsPage {cursor : Option FeedCursor} {pageSize : Nat}
    {row : IncidentListRow} (member : row ∈ findActiveEscalationsPage store actor cursor pageSize) :
    row.toIncident ∈ store.incidents ∧
      severityRank row.severity ≤ actor.clearanceLevel := by
  obtain ⟨stored, chosen⟩ := mem_activePage member
  simp only [activeEscalationWhere, Bool.and_eq_true] at chosen
  exact ⟨stored, (visibilityScope_iff actor row.toIncident).mp chosen.1.1.1⟩

/-- A notification with its event and its incident, if the actor may see that. -/
def visibleNotification (store : Store) (actor : Actor) (row : NotificationLog) :
    Option NotificationRow :=
  (joinNotification store row).filter fun joined => visibilityScope actor joined.incident

theorem visibleNotification_iff (keys : PrimaryKeys store) (row : NotificationLog)
    (joined : NotificationRow) :
    visibleNotification store actor row = some joined ↔
      joined.row = row ∧
      (joined.event ∈ store.escalationEvents ∧ joined.event.id = row.escalationEventId) ∧
      (joined.incident ∈ store.incidents ∧ joined.incident.id = joined.event.incidentId) ∧
      severityRank joined.incident.severity ≤ actor.clearanceLevel := by
  have event (found : EscalationEvent) : store.eventById row.escalationEventId = some found ↔
      found ∈ store.escalationEvents ∧ found.id = row.escalationEventId := by
    simpa [Store.eventById] using find?_eq_some_iff_mem keys.escalationEvents
      (fun event => event.id = row.escalationEventId) row.escalationEventId (by simp) found
  have incident (id : Id) (found : Incident) : store.incidentById id = some found ↔
      found ∈ store.incidents ∧ found.id = id := by
    simpa [Store.incidentById] using
      find?_eq_some_iff_mem keys.incidents (fun row => row.id = id) id (by simp) found
  simp only [visibleNotification, joinNotification, Option.filter_eq_some_iff, Option.bind_eq_bind,
    Option.bind_eq_some_iff, event, incident, visibilityScope_iff]
  constructor
  · rintro ⟨⟨found, isEvent, row', isIncident, equal⟩, covered⟩
    obtain rfl := Option.some.inj equal
    exact ⟨rfl, isEvent, isIncident, covered⟩
  · rintro ⟨rfl, isEvent, isIncident, covered⟩
    exact ⟨⟨joined.event, isEvent, joined.incident, isIncident, rfl⟩, covered⟩

theorem ownNotifications_eq (store : Store) (actor : Actor) :
    ownNotifications store actor =
      (store.notificationLog.filter fun row => row.recipientId = actor.id &&
        (visibleNotification store actor row).isSome).filterMap
          (visibleNotification store actor) := by
  have own : ownNotifications store actor =
      (store.notificationLog.filter (·.recipientId = actor.id)).filterMap
        (visibleNotification store actor) := List.filter_filterMap
  rw [own, List.filterMap_filter, List.filterMap_filter]
  apply List.filterMap_congr
  intro row _
  cases visibleNotification store actor row <;> simp

theorem periodSql_covered {filters : AnalyticsPeriodFilters} {row : Incident}
    (chosen : periodSql actor filters row = true) :
    severityRank row.severity ≤ actor.clearanceLevel := by
  simp only [periodSql, Bool.and_eq_true, decide_eq_true_eq] at chosen
  exact (mem_visibleSeverities _ _).mp chosen.1.1.2

theorem percentileCont_perm (fraction : Rat) {values others : List Rat}
    (perm : values.Perm others) :
    percentileCont fraction values = percentileCont fraction others := by
  simp only [percentileCont, Keyset.insertionSort_congr perm]

/-! ### Joins -/

section Joins
variable (alike : Alike actor.clearanceLevel store other)
include alike

theorem users_agree : Agree (fun _ => True) store.users other.users :=
  fun user _ => alike.low.users user

theorem userById_eq (id : Id) : store.userById id = other.userById id :=
  (users_agree alike).find? alike.keyed.users alike.keyedOther.users _ id (by simp) (by simp)

theorem userRef_eq (id : Option Id) : userRef store id = userRef other id := by
  simp only [userRef, userById_eq alike]

theorem joinListRow_eq : joinListRow store = joinListRow other := by
  funext row
  simp only [joinListRow, userRef_eq alike]

theorem joinDetail_eq : joinDetail store = joinDetail other := by
  funext row
  simp only [joinDetail, userRef_eq alike]

theorem joinAssignee_eq : joinAssignee store = joinAssignee other := by
  funext row
  simp only [joinAssignee, userById_eq alike]

theorem joinAuthor_eq : joinAuthor store = joinAuthor other := by
  funext note
  simp only [joinAuthor, userRef_eq alike]

theorem joinActor_eq : joinActor store = joinActor other := by
  funext event
  simp only [joinActor, userRef_eq alike]

/-! ### One incident -/

/-- A condition inside the scope that names an id finds the same incident. -/
theorem find_scoped_eq (id : Id) :
    store.incidents.find? (fun row => row.id = id && visibilityScope actor row) =
      other.incidents.find? (fun row => row.id = id && visibilityScope actor row) :=
  alike.low.incidents.find? alike.keyed.incidents alike.keyedOther.incidents _ id
    (by simp +contextual)
    (fun row chosen => (visibilityScope_iff actor row).mp (Bool.and_eq_true _ _ ▸ chosen).2)

theorem getByIdForActor_eq (id : Id) :
    getByIdForActor store actor id = getByIdForActor other actor id := by
  simp only [getByIdForActor, loadForActorOrThrow, findTriageRowScoped,
    find_scoped_eq alike, joinAssignee_eq alike, alike.low.ids]

theorem getById_eq (sign : String → Option String) (id : Id) :
    getById sign store actor id = getById sign other actor id := by
  simp only [getById, loadForActorOrThrow, findByIdScoped, find_scoped_eq alike,
    joinDetail_eq alike, alike.low.ids]

/-! ### Lists -/

/-- A page of incidents under any condition that implies the scope. -/
theorem findPage_eq {κ : Type} [LinearOrder κ] (ties : TieOrder) (selects : Incident → Bool)
    (inside : ∀ row, selects row = true → severityRank row.severity ≤ actor.clearanceLevel)
    (order : Incident → κ) (page pageSize : Nat) :
    findPage ties store selects order page pageSize =
      findPage ties other selects order page pageSize := by
  have sorted := alike.low.incidents.sorted alike.keyed.incidents alike.keyedOther.incidents
    selects inside (tied ties order)
    (fun a b same => ties.injective (congrArg (fun key => (ofLex key).2) same))
  have total := (alike.low.incidents.filter alike.keyed.incidents alike.keyedOther.incidents selects
    inside).length_eq
  simp only [findPage, sorted, total, joinListRow_eq alike]

theorem list_eq {js : JsRuntime} (search : TextSearch) (ties : TieOrder)
    (query : ListIncidentsQuery js) :
    list search ties store actor query = list search ties other actor query := by
  simp only [list, countAndFindPage]
  rw [findPage_eq alike]
  intro row chosen
  simp only [buildWhere, Bool.and_eq_true] at chosen
  exact (visibilityScope_iff actor row).mp (by simp only [chosen])

theorem scoped_page_eq {κ : Type} [LinearOrder κ] (ties : TieOrder) (condition : Incident → Bool)
    (order : Incident → κ) (page pageSize : Nat) :
    findPage ties store (fun row => visibilityScope actor row && condition row) order page
        pageSize =
      findPage ties other (fun row => visibilityScope actor row && condition row) order page
        pageSize := by
  refine findPage_eq alike ties _ (fun row chosen => ?_) order page pageSize
  exact (visibilityScope_iff actor row).mp (Bool.and_eq_true _ _ ▸ chosen).1

theorem getTriageQueue_eq (ties : TieOrder) (page pageSize : Nat) :
    getTriageQueue ties store actor page pageSize =
      getTriageQueue ties other actor page pageSize :=
  congrArg (listResponse · page pageSize) (scoped_page_eq alike ties _ mostEscalatedFirst page
    pageSize)

theorem summary_eq : summary store actor = summary other actor := by
  have counted := alike.low.incidents.filter alike.keyed.incidents alike.keyedOther.incidents
    (visibilityScope actor) fun row => (visibilityScope_iff actor row).mp
  simp only [summary, countByStage, countOf_groupBy, counted.countP_eq]

/-! ### What belongs to an incident -/

theorem noteScopeWhere_eq (id : Id) :
    noteScopeWhere store actor id = noteScopeWhere other actor id := by
  funext note
  simp only [noteScopeWhere]
  congr 1
  rw [Bool.eq_iff_iff, List.any_eq_true, List.any_eq_true]
  refine exists_congr fun row => and_congr_left fun chosen => alike.low.incidents row ?_
  simp only [Bool.and_eq_true] at chosen
  exact (visibilityScope_iff actor row).mp chosen.1.2

theorem listNotes_eq (js : JsRuntime) (id : Id) (cursor : Option String) (pageSize : Nat) :
    listNotes js store actor id cursor pageSize = listNotes js other actor id cursor pageSize := by
  have found (position : Option TimeIdCursor) : findNotesPage store actor id position pageSize =
      findNotesPage other actor id position pageSize := by
    simp only [findNotesPage, ← noteScopeWhere_eq alike,
      ← joinAuthor_eq alike]
    rw [alike.low.notes.sorted alike.keyed.notes alike.keyedOther.notes]
    · intro note chosen
      exact noteScopeWhere_shown (Bool.and_eq_true _ _ ▸ chosen).1
    · exact fun a b => newestKey_id
  simp only [listNotes, assertReadAccess, getByIdForActor_eq alike, found]

/-- A read that starts by loading its incident may assume that the incident is shown. -/
theorem load_bind_eq {T : Type} (id : Id) (first second : TriageIncidentRow → Except AppError T)
    (same : Shown actor.clearanceLevel store id → ∀ row, first row = second row) :
    (getByIdForActor store actor id >>= first) = (getByIdForActor other actor id >>= second) := by
  rw [← getByIdForActor_eq alike]
  cases loaded : getByIdForActor store actor id with
  | error refusal => rfl
  | ok row => exact same (shown_of_load loaded) row

/-- The lookup table of a page's assignment events. -/
theorem userRefOf_eq (ids : List Id) :
    userRefOf (findUserRefsByIds store ids) = userRefOf (findUserRefsByIds other ids) := by
  funext value
  refine Option.bind_congr fun id _ => congrArg List.getLast? ?_
  simp only [findUserRefsByIds, List.filter_map, List.filter_filter]
  congr 1
  refine (users_agree alike).filter_eq alike.keyed.users alike.keyedOther.users _
    (fun a _ first b _ second => ?_) (by simp)
  simp only [Function.comp_def, Bool.and_eq_true, decide_eq_true_eq] at first second
  exact first.1.trans second.1.symm

theorem findTimelinePage_eq {id : Id} (shown : Shown actor.clearanceLevel store id)
    (cursor : Option TimeIdCursor) (pageSize : Nat) (denials : Bool) :
    findTimelinePage store id cursor pageSize denials =
      findTimelinePage other id cursor pageSize denials := by
  simp only [findTimelinePage, ← joinActor_eq alike]
  rw [alike.low.auditEvents.sorted alike.keyed.auditEvents alike.keyedOther.auditEvents]
  · intro event chosen
    simp only [Bool.and_eq_true, decide_eq_true_eq] at chosen
    exact ⟨id, chosen.1.1, shown⟩
  · exact fun a b => newestKey_id

theorem timeline_eq (js : JsRuntime) (id : Id) (cursor : Option String) (pageSize : Nat) :
    timeline js store actor id cursor pageSize = timeline js other actor id cursor pageSize := by
  apply load_bind_eq alike id _ _
  intro shown row
  have event : ∀ ids canSee event,
      toTimelineEvent js event canSee (findUserRefsByIds store ids) =
        toTimelineEvent js event canSee (findUserRefsByIds other ids) := by
    intro ids canSee event
    simp only [toTimelineEvent, userRefOf_eq alike ids]
  simp only [findTimelinePage_eq alike shown, event]

theorem listEventsForIncident_eq (ties : TieOrder) (id : Id) :
    listEventsForIncident ties store actor id = listEventsForIncident ties other actor id := by
  apply load_bind_eq alike id _ _
  intro shown _
  have sorted : findEventsForIncident ties store id = findEventsForIncident ties other id := by
    refine alike.low.escalationEvents.sorted alike.keyed.escalationEvents
      alike.keyedOther.escalationEvents _ (fun event chosen => ?_) (eventOrder ties) ?_
    · exact of_decide_eq_true chosen ▸ shown
    · exact fun a b same =>
        ties.injective (congrArg (fun key => (ofLex (ofLex key).2).2) same)
  simp only [sorted]

/-! ### The feed -/

theorem findActiveEscalationsPage_eq (cursor : Option FeedCursor) (pageSize : Nat) :
    findActiveEscalationsPage store actor cursor pageSize =
      findActiveEscalationsPage other actor cursor pageSize := by
  simp only [findActiveEscalationsPage, ← joinListRow_eq alike]
  rw [alike.low.incidents.sorted alike.keyed.incidents alike.keyedOther.incidents]
  · intro row chosen
    simp only [activeEscalationWhere, Bool.and_eq_true] at chosen
    exact (visibilityScope_iff actor row).mp chosen.1.1.1.1
  · exact fun a b same => congrArg (fun key => (ofLex (ofLex key).2).2) same

/-- The events of a page of visible incidents, each found by the incident's own key. -/
theorem feedItems_eq (page : List IncidentListRow)
    (visible : ∀ row ∈ page, row.toIncident ∈ store.incidents ∧
      severityRank row.severity ≤ actor.clearanceLevel) :
    feedItems (findCurrentEvents store (page.map fun row => currentEventKey row.toIncident)) page =
      feedItems (findCurrentEvents other (page.map fun row => currentEventKey row.toIncident))
        page := by
  apply List.flatMap_congr
  intro incident member
  obtain ⟨stored, covered⟩ := visible incident member
  -- An event fetched for some incident of the page carries that incident's current key, so at most
  -- one is fetched for each.
  have own : ∀ event : EscalationEvent,
      (event.incidentId = incident.id ∧ ∃ row ∈ page, currentEventKey row.toIncident = event.key) →
        event.key = currentEventKey incident.toIncident := by
    rintro event ⟨named, row, among, key⟩
    have same : row.toIncident.id = incident.toIncident.id :=
      (congrArg Prod.fst key).trans named
    rw [← key, List.inj_on_of_nodup_map alike.keyed.incidents (visible row among).1 stored same]
  have found : eventOf (findCurrentEvents store (page.map fun row =>
      currentEventKey row.toIncident)) incident.id =
        eventOf (findCurrentEvents other (page.map fun row =>
          currentEventKey row.toIncident)) incident.id := by
    simp only [eventOf, findCurrentEvents, List.filter_filter]
    congr 1
    refine alike.low.escalationEvents.filter_eq alike.keyed.escalationKeys
      alike.keyedOther.escalationKeys _ (fun a _ first b _ second => ?_) fun event chosen => ?_
    · simp only [Bool.and_eq_true, decide_eq_true_eq, List.mem_map] at first second
      exact (own a first).trans (own b second).symm
    · simp only [Bool.and_eq_true, decide_eq_true_eq] at chosen
      exact ⟨incident.toIncident, stored, chosen.1.symm, covered⟩
  rw [found]

theorem listFeed_eq (js : JsRuntime) (cursor : Option String) (pageSize : Nat) :
    listFeed js store actor cursor pageSize = listFeed js other actor cursor pageSize := by
  simp only [listFeed, ← findActiveEscalationsPage_eq alike]
  refine congrArg _ (funext fun position => ?_)
  rw [feedItems_eq alike]
  intro row member
  have inRows : row ∈ findActiveEscalationsPage store actor position pageSize := by
    split at member
    · exact List.mem_of_mem_take member
    · exact member
  exact mem_findActiveEscalationsPage inRows

/-! ### Notifications -/

theorem visibleNotification_eq :
    visibleNotification store actor = visibleNotification other actor := by
  funext row
  apply Option.ext
  intro joined
  rw [visibleNotification_iff alike.keyed, visibleNotification_iff alike.keyedOther]
  apply and_congr_right
  intro _
  constructor
  · rintro ⟨⟨event, named⟩, ⟨incident, owner⟩, covered⟩
    have shown : Shown actor.clearanceLevel store joined.event.incidentId :=
      ⟨joined.incident, incident, owner, covered⟩
    exact ⟨⟨(alike.low.escalationEvents _ shown).mp event, named⟩,
      ⟨(alike.low.incidents _ covered).mp incident, owner⟩, covered⟩
  · rintro ⟨⟨event, named⟩, ⟨incident, owner⟩, covered⟩
    have stored := (alike.low.incidents _ covered).mpr incident
    have shown : Shown actor.clearanceLevel store joined.event.incidentId :=
      ⟨joined.incident, stored, owner, covered⟩
    exact ⟨⟨(alike.low.escalationEvents _ shown).mpr event, named⟩, ⟨stored, owner⟩, covered⟩

theorem ownNotifications_perm :
    (ownNotifications store actor).Perm (ownNotifications other actor) := by
  rw [ownNotifications_eq, ownNotifications_eq, ← visibleNotification_eq alike]
  refine (alike.low.notificationLog.filter alike.keyed.notificationLog
    alike.keyedOther.notificationLog _ fun row chosen => ?_).filterMap _
  simp only [Bool.and_eq_true, Option.isSome_iff_exists] at chosen
  obtain ⟨_, joined, found⟩ := chosen
  obtain ⟨rfl, ⟨event, named⟩, ⟨incident, owner⟩, covered⟩ :=
    (visibleNotification_iff alike.keyed row joined).mp found
  exact ⟨joined.event, event, named, joined.incident, incident, owner, covered⟩

omit alike in
theorem ownNotifications_keys (keys : PrimaryKeys store) :
    ((ownNotifications store actor).map notificationKey).Nodup := by
  have joined : ∀ found ∈ ownNotifications store actor, found.row ∈ store.notificationLog ∧
      visibleNotification store actor found.row = some found := by
    intro found member
    rw [ownNotifications_eq] at member
    obtain ⟨row, among, visible⟩ := List.mem_filterMap.mp member
    obtain ⟨rfl, _⟩ := (visibleNotification_iff keys row found).mp visible
    exact ⟨List.mem_of_mem_filter among, visible⟩
  refine List.Nodup.map_on (fun a first b second same => ?_) ?_
  -- The second part of the key is the id of the log row, which determines the joined row.
  · have id : a.row.id = b.row.id :=
      congrArg (fun key => (ofLex (OrderDual.ofDual key)).2) same
    have row := List.inj_on_of_nodup_map keys.notificationLog (joined a first).1
      (joined b second).1 id
    exact Option.some.inj ((joined a first).2.symm.trans (row ▸ (joined b second).2))
  · rw [ownNotifications_eq]
    apply ((List.Nodup.of_map _ keys.notificationLog).filter _).filterMap
    intro a b found first second
    exact ((visibleNotification_iff keys a found).mp first).1.symm.trans
      ((visibleNotification_iff keys b found).mp second).1

theorem listNotifications_eq (js : JsRuntime) (cursor : Option String) (pageSize : Nat) :
    listNotifications js store actor cursor pageSize =
      listNotifications js other actor cursor pageSize := by
  have own := ownNotifications_perm alike
  have page (position : Option TimeIdCursor) :
      findNotificationsPage store actor position pageSize =
        findNotificationsPage other actor position pageSize := by
    simp only [findNotificationsPage]
    rw [Keyset.sortOn_congr _ _ (own.filter _)]
    exact (ownNotifications_keys alike.keyed).sublist (List.filter_sublist.map _)
  have unread : countUnread store actor = countUnread other actor := (own.filter _).length_eq
  simp only [listNotifications, page, unread]

/-! ### Analytics -/

theorem period_perm (filters : AnalyticsPeriodFilters) :
    (store.incidents.filter (periodSql actor filters)).Perm
      (other.incidents.filter (periodSql actor filters)) :=
  alike.low.incidents.filter alike.keyed.incidents alike.keyedOther.incidents _
    fun _ => periodSql_covered

theorem firstEscalation_eq {id : Id} (shown : Shown actor.clearanceLevel store id) :
    firstEscalation store id = firstEscalation other id := by
  have events := alike.low.escalationEvents.filter alike.keyed.escalationEvents
    alike.keyedOther.escalationEvents (·.incidentId = id)
    fun event named => of_decide_eq_true named ▸ shown
  apply Option.ext
  intro first
  simp only [firstEscalation, List.min?_eq_some_iff, (events.map _).mem_iff]

theorem period_first {filters : AnalyticsPeriodFilters} {row : Incident}
    (member : row ∈ store.incidents.filter (periodSql actor filters)) :
    firstEscalation store row.id = firstEscalation other row.id := by
  obtain ⟨stored, chosen⟩ := List.mem_filter.mp member
  exact firstEscalation_eq alike ⟨row, stored, rfl, periodSql_covered chosen⟩

/-- The incidents of the period that ever escalated. -/
theorem escalated_perm (filters : AnalyticsPeriodFilters) :
    ((store.incidents.filter (periodSql actor filters)).filter fun row =>
        (firstEscalation store row.id).isSome).Perm
      ((other.incidents.filter (periodSql actor filters)).filter fun row =>
        (firstEscalation other row.id).isSome) := by
  have same : ∀ row ∈ store.incidents.filter (periodSql actor filters),
      (firstEscalation store row.id).isSome = (firstEscalation other row.id).isSome :=
    fun row member => by rw [period_first alike member]
  rw [List.filter_congr same]
  exact (period_perm alike filters).filter _

/-- The times to acknowledge of any part of the period. -/
theorem seconds_perm {filters : AnalyticsPeriodFilters} {rows others : List Incident}
    (inside : rows ⊆ store.incidents.filter (periodSql actor filters)) (perm : rows.Perm others) :
    (rows.filterMap (ackSeconds store)).Perm (others.filterMap (ackSeconds other)) := by
  have same : ∀ row ∈ rows, ackSeconds store row = ackSeconds other row :=
    fun row member => by simp only [ackSeconds, period_first alike (inside member)]
  rw [List.filterMap_congr same]
  exact perm.filterMap _

theorem overview_eq {js : JsRuntime} (query : AnalyticsQuery js) :
    overview store actor query = overview other actor query := by
  have rows := period_perm alike (toFilters query)
  have escalated := (escalated_perm alike (toFilters query)).length_eq
  rw [← List.countP_eq_length_filter, ← List.countP_eq_length_filter] at escalated
  have seconds := seconds_perm alike (List.Subset.refl _) rows
  simp only [overview, overviewAggregate_eq, escalated, rows.length_eq,
    rows.countP_eq (fun row => decide (row.stage ≠ .closed)), percentileCont_perm _ seconds]

theorem matrix_eq {js : JsRuntime} (query : AnalyticsQuery js) :
    matrix store actor query = matrix other actor query := by
  have rows := period_perm alike (toFilters query)
  rw [funext (periodSql_eq actor (toFilters query))] at rows
  -- a cell is a count, which no order of the groups changes
  simp only [matrix, toMatrixResponse, groupIncidentsByTypeAndSeverity, countOf_groupBy,
    rows.countP_eq]

theorem trend_eq {js : JsRuntime} (query : AnalyticsQuery js) (bucket : Bucket) :
    trend store actor query bucket = trend other actor query bucket := by
  have groups := groupBy_perm (fun row : Incident => (dateTrunc bucket row.createdAt, row.severity))
    (period_perm alike (toFilters query))
  simp only [trend, trendAggregate]
  rw [Keyset.sortOn_congr _ _ groups]
  -- The sort key of a group is its bucket and severity, which the grouping keeps distinct.
  refine List.Nodup.map_on (fun a first b second same => ?_) ((groupBy_keys _ _).of_map _)
  apply List.inj_on_of_nodup_map (groupBy_keys _ _) first second
  exact Prod.ext (congrArg (fun key => (ofLex key).1) same)
    (severityRank_injective (congrArg (fun key => (ofLex key).2) same))

theorem escalationPerformance_eq {js : JsRuntime} (query : AnalyticsQuery js) :
    escalationPerformance store actor query = escalationPerformance other actor query := by
  have joined (base : Store) : (base.incidents.filter fun row =>
      periodSql actor (toFilters query) row && (firstEscalation base row.id).isSome) =
        (base.incidents.filter (periodSql actor (toFilters query))).filter fun row =>
          (firstEscalation base row.id).isSome := by
    simp only [List.filter_filter, Bool.and_comm]
  simp only [escalationPerformance, escalationPerformanceAggregate_eq, joined]
  congr 1
  apply List.filterMap_congr
  intro severity _
  -- each severity on its own
  have rows := (escalated_perm alike (toFilters query)).filter (·.severity = severity)
  have seconds := seconds_perm alike
    (fun row member => List.mem_of_mem_filter (List.mem_of_mem_filter member)) rows
  simp only [List.isEmpty_iff_length_eq_zero, rows.length_eq, rows.countP_eq,
    percentileCont_perm _ seconds]

end Joins

end Surfaces

/-- Every read, by every actor, depends on the database only through what the actor's clearance
covers and through which incident ids exist. -/
theorem reads_noninterfering (platform : Platform) (actor : Actor) (store other : Store)
    (keyed : PrimaryKeys store) (keyedOther : PrimaryKeys other)
    (low : LowEquivalent actor.clearanceLevel store other) (request : ReadRequest platform.js) :
    respond platform store actor request = respond platform other actor request := by
  have alike : Alike actor.clearanceLevel store other := ⟨keyed, keyedOther, low⟩
  cases request with
  | list query => simp only [respond, list_eq alike]
  | mine query => simp only [respond, mine, findMinePage, scoped_page_eq alike]
  | summary => simp only [respond, summary_eq alike]
  | triageQueue query => simp only [respond, getTriageQueue_eq alike]
  | myInvestigations query =>
    simp only [respond, myInvestigations, findMyInvestigationsPage, scoped_page_eq alike]
  | closuresPending query =>
    simp only [respond, getClosuresPending, findClosuresPendingPage, scoped_page_eq alike]
  | feed query => simp only [respond, listFeed_eq alike]
  | notifications query => simp only [respond, listNotifications_eq alike]
  | overview query => simp only [respond, overview_eq alike]
  | matrix query => simp only [respond, matrix_eq alike]
  | exportCsv query => simp only [respond, exportCsv, matrix_eq alike]
  | trend query bucket => simp only [respond, trend_eq alike]
  | escalationPerformance query => simp only [respond, escalationPerformance_eq alike]
  | getById id => simp only [respond, getById_eq alike]
  | listNotes id query => simp only [respond, listNotes_eq alike]
  | timeline id query => simp only [respond, timeline_eq alike]
  | eventsForIncident id => simp only [respond, listEventsForIncident_eq alike]

/-! ### An escalation above the clearance -/

/-- Nothing that the sample reads ask of the platform. -/
def samplePlatform : Platform where
  js := ⟨fun _ => "", fun _ => none, fun _ => none, fun _ => "", id⟩
  search := ⟨fun _ _ => false, fun _ _ => false, id⟩
  ties := ⟨id, Function.injective_id⟩
  sign := fun _ => none

/-- The sample database after its critical incident was escalated and commented on. -/
def escalatedStore : Store :=
  { sampleStore with
    incidents := [sampleIncident "b" .high,
      { sampleIncident "a" .critical with
        stage := .triage
        currentEscalationLevel := 1 }]
    notes := [⟨"n", "a", "manager", "The valve is stuck", 900000⟩]
    escalationEvents := [⟨"e", "a", 1, 1, .critical, 900000, 900000⟩]
    notificationLog := [⟨"l", "e", "manager", "IN_APP", none, 900000⟩] }

theorem escalatedStore_low : LowEquivalent 3 sampleStore escalatedStore := by
  have hidden : ¬ Shown 3 sampleStore "a" := by
    simp [Shown, sampleStore, sampleIncident, severityRank]
  refine ⟨fun _ => Iff.rfl, fun _ => Iff.rfl, fun id => rfl, fun row covered => ?_,
    fun note shown => ?_, fun event shown => Iff.rfl, fun event shown => ?_,
    fun row shown => ?_⟩
  · simp only [sampleStore, escalatedStore, List.mem_cons, List.not_mem_nil, or_false]
    refine or_congr_right ⟨?_, ?_⟩
    · rintro rfl
      simp [sampleIncident, severityRank] at covered
    · rintro rfl
      simp [sampleIncident, severityRank] at covered
  · suffices note.incidentId ≠ "a" by
      simp only [sampleStore, escalatedStore, List.mem_singleton, List.not_mem_nil, false_iff]
      rintro rfl
      exact this rfl
    exact fun named => hidden (named ▸ shown)
  · suffices event.incidentId ≠ "a" by
      simp only [sampleStore, escalatedStore, List.mem_singleton, List.not_mem_nil, false_iff]
      rintro rfl
      exact this rfl
    exact fun named => hidden (named ▸ shown)
  · obtain ⟨event, member, _⟩ := shown
    simp [sampleStore] at member

theorem reads_noninterfering_sample :
    sampleStore.incidents ≠ escalatedStore.incidents ∧
    respond samplePlatform sampleStore ⟨"manager", .triageManager, 3⟩
        (.notifications ⟨none, 25, by decide, by decide⟩) =
      respond samplePlatform escalatedStore ⟨"manager", .triageManager, 3⟩
        (.notifications ⟨none, 25, by decide, by decide⟩) :=
  ⟨by decide, reads_noninterfering samplePlatform ⟨"manager", .triageManager, 3⟩ sampleStore
    escalatedStore
    ⟨⟨by decide, by decide⟩, by decide, by decide, by decide, by decide, by decide⟩
    ⟨⟨by decide, by decide⟩, by decide, by decide, by decide, by decide, by decide⟩
    escalatedStore_low _⟩

end IncidentApi.Properties
