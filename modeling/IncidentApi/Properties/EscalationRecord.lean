import IncidentApi.Concurrency
import IncidentApi.Properties.CursorPages

/-!
# The level-by-level escalation record

The record of an incident's escalations is kept twice, as events and as audit rows. The detail, the
lists, the feed and the events route show an actor who is neither manager nor admin the same,
whatever lies in the past of the record; the timeline shows the audit rows to everyone.
-/
namespace IncidentApi.Properties

/-! ### The past of the record -/

/-- The route `GET /escalations/:incidentId/events`. -/
def eventsRoute (ties : TieOrder) (store : Store) (actor : Actor) (incidentId : Id) :
    Except AppError (List EscalationEventDto) := do
  authorizeRole [.triageManager, .admin] actor
  listEventsForIncident ties store actor incidentId

/-- An event of the incident other than the one at its current cycle and level. -/
def isPastEvent (store : Store) (id : Id) (event : EscalationEvent) : Bool :=
  event.incidentId = id &&
    store.incidents.all fun row => row.id ≠ id || event.key ≠ currentEventKey row

/-- An `INCIDENT_ESCALATED` row of the incident. -/
def isEscalationRow (id : Id) (event : AuditEvent) : Bool :=
  event.type = .incidentEscalated && event.incidentId = some id

theorem isEscalationRow_iff {id : Id} {event : AuditEvent} :
    isEscalationRow id event = true ↔
      event.type = .incidentEscalated ∧ event.incidentId = some id := by
  simp [isEscalationRow]

def withoutPastRecord (id : Id) (store : Store) : Store :=
  { store with
    escalationEvents := store.escalationEvents.filter fun event => !isPastEvent store id event
    auditEvents := store.auditEvents.filter fun event => !isEscalationRow id event }

/-- The databases differ in the past escalation record of one incident only. -/
def SameButPastRecord (id : Id) (store other : Store) : Prop :=
  withoutPastRecord id store = withoutPastRecord id other

/-- What the timeline tells of an escalation. -/
structure ShownEscalation where
  base : EventBase
  fromLevel : Json
  toLevel : Json
  cycle : Json

def shownEscalation (js : JsRuntime) (row : AuditEventRow) : ShownEscalation where
  base := ⟨row.id, row.occurredAt, row.actor⟩
  fromLevel := js.number (coalesce (row.fromValue.map .str) (.num 0))
  toLevel := js.number (coalesce (row.toValue.map .str)
    (coalesce (payloadField row.payload "level") (.num 0)))
  cycle := coalesce (payloadField row.payload "cycle") (.num 0)

def ShownEscalation.event (shown : ShownEscalation) : TimelineEvent :=
  .incidentEscalated shown.base shown.fromLevel shown.toLevel shown.cycle

theorem ShownEscalation.event_injective {first second : ShownEscalation}
    (same : first.event = second.event) : first = second := by
  cases first
  cases second
  simpa [ShownEscalation.event] using same

/-- The escalation rows of an incident, as far as the timeline tells of them. -/
def shownRecord (js : JsRuntime) (store : Store) (id : Id) : List ShownEscalation :=
  (store.auditEvents.filter (isEscalationRow id)).map fun event =>
    shownEscalation js (joinActor store event)

/-- The escalation rows agree in id, instant, actor, levels and cycle. -/
def RecordsShownAlike (js : JsRuntime) (store other : Store) (id : Id) : Prop :=
  ∀ shown, shown ∈ shownRecord js store id ↔ shown ∈ shownRecord js other id

/-- The reads that could tell an actor of the record answer from both databases alike. -/
structure AnswersAlike (platform : Platform) (store other : Store) (actor : Actor) : Prop where
  detail : ∀ id, getById platform.sign store actor id = getById platform.sign other actor id
  list : ∀ query : ListIncidentsQuery platform.js,
    list platform.search platform.ties store actor query =
      list platform.search platform.ties other actor query
  feed : ∀ cursor size, listFeed platform.js store actor cursor size =
    listFeed platform.js other actor cursor size
  timeline : ∀ id cursor size, timeline platform.js store actor id cursor size =
    timeline platform.js other actor id cursor size
  events : ∀ id, eventsRoute platform.ties store actor id = eventsRoute platform.ties other actor id

/-! ### The timeline by what it tells -/

/-- A row of the timeline, of which an escalation of the incident counts by what is told of it. -/
inductive TimelineView where
  | escalation (shown : ShownEscalation)
  | other (row : AuditEventRow)

def timelineView (js : JsRuntime) (id : Id) (row : AuditEventRow) : TimelineView :=
  if isEscalationRow id row.toAuditEvent then .escalation (shownEscalation js row) else .other row

namespace TimelineView

def position : TimelineView → Date × Id
  | escalation shown => (shown.base.occurredAt, shown.base.id)
  | other row => (row.occurredAt, row.id)

/-- The conditions of the query other than the cursor's. -/
def chosen (id target : Id) (includeAccessDenied : Bool) : TimelineView → Bool
  | escalation _ => id = target
  | other row => row.incidentId = some target && (includeAccessDenied || row.type ≠ .accessDenied)

def event (js : JsRuntime) (canReadNotes : Bool) (userRefs : List UserRef) :
    TimelineView → Except AppError TimelineEvent
  | escalation shown => .ok shown.event
  | other row => toTimelineEvent js row canReadNotes userRefs

def mentions : TimelineView → List Id
  | escalation _ => []
  | other row => mentionedUsers [row]

end TimelineView

section View
variable {js : JsRuntime} {id : Id}

theorem timelineView_escalation (row : AuditEventRow)
    (escalated : isEscalationRow id row.toAuditEvent = true) :
    timelineView js id row = .escalation (shownEscalation js row) := if_pos escalated

theorem timelineView_other {row : AuditEventRow}
    (other : ¬ isEscalationRow id row.toAuditEvent = true) :
    timelineView js id row = .other row := if_neg other

theorem timelineView_position (row : AuditEventRow) :
    (timelineView js id row).position = (row.occurredAt, row.id) := by
  unfold timelineView
  split <;> rfl

theorem timelineView_chosen (target : Id) (includeAccessDenied : Bool) (row : AuditEventRow) :
    (timelineView js id row).chosen id target includeAccessDenied =
      (decide (row.incidentId = some target) &&
        (includeAccessDenied || row.type ≠ .accessDenied)) := by
  by_cases escalated : isEscalationRow id row.toAuditEvent = true
  · rw [timelineView_escalation _ escalated]
    obtain ⟨kind, owner⟩ := isEscalationRow_iff.mp escalated
    simp [TimelineView.chosen, kind, owner]
  · rw [timelineView_other escalated]
    rfl

theorem timelineView_event (id : Id) (canReadNotes : Bool) (userRefs : List UserRef)
    (row : AuditEventRow) :
    (timelineView js id row).event js canReadNotes userRefs =
      toTimelineEvent js row canReadNotes userRefs := by
  by_cases escalated : isEscalationRow id row.toAuditEvent = true
  · rw [timelineView_escalation _ escalated]
    obtain ⟨kind, _⟩ := isEscalationRow_iff.mp escalated
    simp [TimelineView.event, toTimelineEvent, kind, shownEscalation, ShownEscalation.event]
  · rw [timelineView_other escalated]
    rfl

theorem timelineView_mentions (row : AuditEventRow) :
    (timelineView js id row).mentions = mentionedUsers [row] := by
  by_cases escalated : isEscalationRow id row.toAuditEvent = true
  · rw [timelineView_escalation _ escalated]
    obtain ⟨kind, _⟩ := isEscalationRow_iff.mp escalated
    simp [TimelineView.mentions, mentionedUsers, kind]
  · rw [timelineView_other escalated]
    rfl

end View

def timelineViews (js : JsRuntime) (id : Id) (store : Store) : List TimelineView :=
  store.auditEvents.map fun event => timelineView js id (joinActor store event)

/-- The views of the rows that a query of the timeline fetches. -/
def fetchedViews (js : JsRuntime) (id target : Id) (store : Store) (cursor : Option TimeIdCursor)
    (size : Nat) (includeAccessDenied : Bool) : List TimelineView :=
  (Keyset.sortOn (fun view => positionOrder view.position)
    ((timelineViews js id store).filter fun view => view.chosen id target includeAccessDenied &&
      cursor.all fun position => beforeTimeId position view.position.1 view.position.2)).take
        (size + 1)

/-- A page of the timeline, from the views of its rows. -/
def viewsPage (js : JsRuntime) (store : Store) (canReadNotes : Bool) (size : Nat)
    (views : List TimelineView) : Except AppError (CursorPage TimelineEvent) :=
  let page := cursorPage views size (fun view => view) fun view =>
    encodeOccurredAtIdCursor js view.position.1 view.position.2
  let userRefs := findUserRefsByIds store (page.items.flatMap TimelineView.mentions)
  (page.items.mapM (TimelineView.event js canReadNotes userRefs)).map fun items =>
    { items := items, nextCursor := page.nextCursor, hasMore := page.hasMore }

section Pages
variable {js : JsRuntime} {id : Id} {store : Store}

theorem findTimelinePage_views (target : Id) (cursor : Option TimeIdCursor) (size : Nat)
    (includeAccessDenied : Bool) :
    (findTimelinePage store target cursor size includeAccessDenied).map (timelineView js id) =
      fetchedViews js id target store cursor size includeAccessDenied := by
  unfold findTimelinePage fetchedViews timelineViews
  rw [List.filter_map, ← Keyset.map_sortOn
    (fun event : AuditEvent => newestKey event.occurredAt event.id) _
    (fun event => timelineView js id (joinActor store event))]
  · rw [List.map_map, ← List.map_take]
    simp only [Function.comp_def, timelineView_chosen, timelineView_position]
    rfl
  · intro event
    rw [timelineView_position]
    rfl

theorem mentionedUsers_views (page : List AuditEventRow) :
    mentionedUsers page = (page.map (timelineView js id)).flatMap TimelineView.mentions := by
  induction page with
  | nil => rfl
  | cons row rest ih =>
    rw [List.map_cons, List.flatMap_cons, timelineView_mentions, ← ih]
    unfold mentionedUsers
    rw [← List.filterMap_append, List.singleton_append]

/-- The timeline reads of its rows what their views hold. -/
theorem timeline_views (id : Id) (actor : Actor) (target : Id) (cursorRaw : Option String)
    (size : Nat) :
    timeline js store actor target cursorRaw size =
      (getByIdForActor store actor target >>= fun incident =>
        decodeOptional (decodeOccurredAtIdCursor js) cursorRaw >>= fun cursor =>
          viewsPage js store (canReadNotes actor incident.toIncident) size
            (fetchedViews js id target store cursor size (actor.role = .admin))) := by
  unfold timeline viewsPage
  simp only [← findTimelinePage_views, cursorPage_map, timelineView_position]
  cases getByIdForActor store actor target with
  | error refusal => rfl
  | ok incident =>
    simp only [bind, Except.bind]
    cases decodeOptional (decodeOccurredAtIdCursor js) cursorRaw with
    | error refusal => rfl
    | ok cursor =>
      dsimp only
      rw [cursorPage_items (timelineView js id)]
      dsimp only
      rw [← mentionedUsers_views, mapM_map_congr (fun row _ => timelineView_event _ _ _ row)]
      rfl

end Pages

/-! ### Records shown alike -/

section Alike
variable {js : JsRuntime} {id : Id} {store other : Store}

/-- A read that takes nothing from the past record answers alike. -/
theorem SameButPastRecord.read {R : Type} (same : SameButPastRecord id store other)
    (answer : Store → R)
    (ignores : ∀ database, answer (withoutPastRecord id database) = answer database) :
    answer store = answer other := by
  rw [← ignores store, ← ignores other, same]

theorem SameButPastRecord.view_mem (same : SameButPastRecord id store other)
    (told : ∀ shown ∈ shownRecord js store id, shown ∈ shownRecord js other id)
    {view : TimelineView} (member : view ∈ timelineViews js id store) :
    view ∈ timelineViews js id other := by
  obtain ⟨event, stored, rfl⟩ := List.mem_map.mp member
  by_cases escalated : isEscalationRow id event = true
  · have shown : shownEscalation js (joinActor store event) ∈ shownRecord js store id :=
      List.mem_map.mpr ⟨event, List.mem_filter.mpr ⟨stored, escalated⟩, rfl⟩
    obtain ⟨twin, kept, equal⟩ := List.mem_map.mp (told _ shown)
    obtain ⟨among, twinEscalated⟩ := List.mem_filter.mp kept
    refine List.mem_map.mpr ⟨twin, among, ?_⟩
    rw [timelineView_escalation (joinActor other twin) twinEscalated, equal,
      timelineView_escalation (joinActor store event) escalated]
  · have kept : event ∈ (withoutPastRecord id store).auditEvents :=
      List.mem_filter.mpr ⟨stored, by simpa using escalated⟩
    rw [show withoutPastRecord id store = withoutPastRecord id other from same] at kept
    rw [same.read joinActor fun _ => rfl]
    exact List.mem_map.mpr ⟨event, List.mem_of_mem_filter kept, rfl⟩

theorem timelineViews_keyed (js : JsRuntime) (id : Id)
    (unique : (store.auditEvents.map AuditEvent.id).Nodup) :
    ((timelineViews js id store).map fun view => positionOrder view.position).Nodup := by
  -- the id is part of the key
  apply List.Nodup.of_map (fun key => (ofLex (OrderDual.ofDual key)).2)
  simp only [timelineViews, List.map_map, Function.comp_def, timelineView_position]
  exact unique

theorem fetchedViews_alike (same : SameButPastRecord id store other)
    (unique : (store.auditEvents.map AuditEvent.id).Nodup)
    (uniqueOther : (other.auditEvents.map AuditEvent.id).Nodup)
    (alike : RecordsShownAlike js store other id) (target : Id) (cursor : Option TimeIdCursor)
    (size : Nat) (includeAccessDenied : Bool) :
    fetchedViews js id target store cursor size includeAccessDenied =
      fetchedViews js id target other cursor size includeAccessDenied := by
  have keyed := timelineViews_keyed js id unique
  have keyedOther := timelineViews_keyed js id uniqueOther
  have perm : (timelineViews js id store).Perm (timelineViews js id other) := by
    apply (List.perm_ext_iff_of_nodup (List.Nodup.of_map _ keyed)
      (List.Nodup.of_map _ keyedOther)).mpr
    intro view
    -- the past rows go by what they show, the others are the same
    constructor
    · exact same.view_mem fun shown member => (alike shown).mp member
    · exact SameButPastRecord.view_mem same.symm fun shown member => (alike shown).mpr member
  rw [fetchedViews, Keyset.sortOn_congr _ (keyed.sublist (List.filter_sublist.map _))
    (perm.filter _), fetchedViews]

theorem timeline_alike (same : SameButPastRecord id store other)
    (unique : (store.auditEvents.map AuditEvent.id).Nodup)
    (uniqueOther : (other.auditEvents.map AuditEvent.id).Nodup)
    (alike : RecordsShownAlike js store other id) (actor : Actor) (target : Id)
    (cursor : Option String) (size : Nat) :
    timeline js store actor target cursor size = timeline js other actor target cursor size := by
  have load : getByIdForActor store actor target = getByIdForActor other actor target :=
    same.read (fun database => getByIdForActor database actor target) fun _ => rfl
  have pages : viewsPage js store = viewsPage js other := same.read (viewsPage js) fun _ => rfl
  simp only [timeline_views id, load, pages,
    fetchedViews_alike same unique uniqueOther alike]

/-- The feed asks for the events at the counters only. -/
theorem findCurrentEvents_withoutPast {keys : List (Id × Nat × Nat)}
    (current : ∀ key ∈ keys, ∃ row ∈ store.incidents, currentEventKey row = key) :
    findCurrentEvents (withoutPastRecord id store) keys = findCurrentEvents store keys := by
  simp only [findCurrentEvents, withoutPastRecord, List.filter_filter]
  apply List.filter_congr
  intro event _
  by_cases asked : event.key ∈ keys
  · obtain ⟨row, stored, equal⟩ := current event.key asked
    have present : isPastEvent store id event = false := by
      simp only [isPastEvent, Bool.and_eq_false_iff, decide_eq_false_iff_not, List.all_eq_false]
      by_cases own : event.incidentId = id
      · refine Or.inr ⟨row, stored, ?_⟩
        have named : row.id = id := (congrArg Prod.fst equal).trans own
        simp [named, equal]
      · exact Or.inl own
    simp [asked, present]
  · simp [asked]

theorem listFeed_withoutPast (id : Id) (actor : Actor) (cursor : Option String) (size : Nat) :
    listFeed js (withoutPastRecord id store) actor cursor size =
      listFeed js store actor cursor size := by
  have rows (position : Option FeedCursor) :
      findActiveEscalationsPage (withoutPastRecord id store) actor position size =
        findActiveEscalationsPage store actor position size := rfl
  have events (page : List IncidentListRow) (position : Option FeedCursor)
      (inside : page ⊆ findActiveEscalationsPage store actor position size) :
      findCurrentEvents (withoutPastRecord id store)
          (page.map fun row => currentEventKey row.toIncident) =
        findCurrentEvents store (page.map fun row => currentEventKey row.toIncident) := by
    apply findCurrentEvents_withoutPast
    intro key member
    obtain ⟨row, among, rfl⟩ := List.mem_map.mp member
    exact ⟨row.toIncident, (mem_activePage (inside among)).1, rfl⟩
  unfold listFeed
  cases decodeOptional (decodeEscalationFeedCursor js) cursor with
  | error refusal => rfl
  | ok position =>
    simp only [bind, Except.bind, rows]
    rw [events _ position]
    intro row member
    split at member
    · exact List.mem_of_mem_take member
    · exact member

/-- Only the timeline can tell the two databases apart. -/
theorem answers_alike {platform : Platform} (same : SameButPastRecord id store other)
    {actor : Actor} (plain : actor.role ≠ .triageManager ∧ actor.role ≠ .admin)
    (timelines : ∀ target cursor size, timeline platform.js store actor target cursor size =
      timeline platform.js other actor target cursor size) :
    AnswersAlike platform store other actor := by
  have refused (ties : TieOrder) (database : Store) (target : Id) :
      eventsRoute ties database actor target =
        .error (InsufficientRoleError [.triageManager, .admin]) := by
    simp [eventsRoute, authorizeRole, plain.1, plain.2, bind, Except.bind]
  constructor
  case detail =>
    intro target
    exact same.read (fun database => getById platform.sign database actor target) fun _ => rfl
  case list =>
    intro query
    exact same.read (fun database => list platform.search platform.ties database actor query)
      fun _ => rfl
  case feed =>
    -- the feed reads events, but those at the counters only
    intro cursor size
    exact same.read (fun database => listFeed platform.js database actor cursor size)
      fun _ => listFeed_withoutPast id actor cursor size
  case timeline => exact timelines
  case events =>
    intro target
    rw [refused, refused]

/-! ### Records the timeline tells apart -/

theorem mem_mapM {R T : Type} {f : R → Except AppError T} {rows : List R} {items : List T}
    (mapped : rows.mapM f = .ok items) (item : T) :
    item ∈ items ↔ ∃ row ∈ rows, f row = .ok item := by
  induction rows generalizing items with
  | nil =>
    obtain rfl := Except.ok.inj mapped
    simp
  | cons row rest ih =>
    rw [List.mapM_cons] at mapped
    obtain ⟨first, answered, mapped⟩ := bind_ok mapped
    obtain ⟨others, later, mapped⟩ := bind_ok mapped
    obtain rfl := Except.ok.inj mapped
    rw [List.mem_cons, List.exists_mem_cons_iff, ih later, answered, Except.ok.injEq, eq_comm]

theorem toTimelineEvent_escalated {row : AuditEventRow} {canReadNotes : Bool}
    {userRefs : List UserRef} {shown : ShownEscalation}
    (told : toTimelineEvent js row canReadNotes userRefs = .ok shown.event) :
    row.type = .incidentEscalated := by
  unfold toTimelineEvent at told
  split at told
  case h_7 => split at told <;> simp [ShownEscalation.event] at told
  case h_11 kind => exact kind
  all_goals simp [ShownEscalation.event] at told

/-- Of the views that the timeline of an incident lists, those that answer an escalation are what
its record shows. -/
theorem view_tells {view : TimelineView} (stored : view ∈ timelineViews js id store)
    (chosen : view.chosen id id false = true) {canReadNotes : Bool} {userRefs : List UserRef}
    {shown : ShownEscalation} (told : view.event js canReadNotes userRefs = .ok shown.event) :
    shown ∈ shownRecord js store id := by
  obtain ⟨event, among, rfl⟩ := List.mem_map.mp stored
  rw [timelineView_event] at told
  rw [timelineView_chosen, Bool.and_eq_true, decide_eq_true_eq] at chosen
  have escalated : isEscalationRow id event = true :=
    isEscalationRow_iff.mpr ⟨toTimelineEvent_escalated told, chosen.1⟩
  have equal : shownEscalation js (joinActor store event) = shown := by
    rw [← timelineView_event id, timelineView_escalation
      (joinActor store event) escalated] at told
    exact ShownEscalation.event_injective (Except.ok.inj told)
  exact List.mem_map.mpr ⟨event, List.mem_filter.mpr ⟨among, escalated⟩, equal⟩

theorem mem_timelineViews {shown : ShownEscalation} (told : shown ∈ shownRecord js store id) :
    .escalation shown ∈ timelineViews js id store := by
  obtain ⟨event, kept, rfl⟩ := List.mem_map.mp told
  obtain ⟨stored, escalated⟩ := List.mem_filter.mp kept
  exact List.mem_map.mpr
    ⟨event, stored, timelineView_escalation (joinActor store event) escalated⟩

theorem view_answers (unshown : ∀ event ∈ store.auditEvents, event.incidentId = some id →
      event.type ≠ .userClearanceChanged ∧ event.type ≠ .userRoleChanged)
    {view : TimelineView} (stored : view ∈ timelineViews js id store)
    (chosen : view.chosen id id false = true) (canReadNotes : Bool) (userRefs : List UserRef) :
    ∃ event, view.event js canReadNotes userRefs = .ok event := by
  obtain ⟨event, among, rfl⟩ := List.mem_map.mp stored
  rw [timelineView_chosen, Bool.and_eq_true, decide_eq_true_eq] at chosen
  obtain ⟨clearance, role⟩ := unshown event among chosen.1
  rw [timelineView_event]
  exact toTimelineEvent_shows _ _ clearance role

/-- A page that holds the whole timeline tells of every escalation. -/
theorem whole_timeline (js : JsRuntime)
    (unshown : ∀ event ∈ store.auditEvents, event.incidentId = some id →
      event.type ≠ .userClearanceChanged ∧ event.type ≠ .userRoleChanged)
    {actor : Actor} (plain : actor.role ≠ .admin) {row : TriageIncidentRow}
    (loaded : getByIdForActor store actor id = .ok row) {size : Nat}
    (enough : store.auditEvents.length ≤ size) :
    ∃ page, timeline js store actor id none size = .ok page ∧
      ∀ shown : ShownEscalation, shown.event ∈ page.items ↔ shown ∈ shownRecord js store id := by
  -- No more rows are about the incident than the table has, so one page takes them all.
  have length : ((timelineViews js id store).filter fun view =>
      view.chosen id id false).length ≤ size := by
    have all := List.length_filter_le (fun view => TimelineView.chosen id id false view)
      (timelineViews js id store)
    rw [timelineViews, List.length_map] at all
    exact le_trans all enough
  have fetched : fetchedViews js id id store none size false =
      Keyset.sortOn (fun view => positionOrder view.position)
        ((timelineViews js id store).filter fun view => view.chosen id id false) := by
    simp only [fetchedViews, Option.all_none, Bool.and_true]
    exact List.take_of_length_le (by rw [Keyset.length_sortOn]; omega)
  have listed : ∀ view, view ∈ fetchedViews js id id store none size false ↔
      view ∈ timelineViews js id store ∧ view.chosen id id false = true := by
    intro view
    rw [fetched, Keyset.mem_sortOn, List.mem_filter]
  -- A page that is not full is returned as it was fetched.
  have whole : ∀ cursor : TimelineView → String,
      (cursorPage (fetchedViews js id id store none size false) size (fun view => view)
        cursor).items = fetchedViews js id id store none size false := by
    intro cursor
    have short : ¬ size < (fetchedViews js id id store none size false).length := by
      rw [fetched, Keyset.length_sortOn]
      omega
    simp [cursorPage, short]
  have role : decide (actor.role = .admin) = false := decide_eq_false plain
  rw [timeline_views id, loaded, role]
  change ∃ page,
    viewsPage js store _ size (fetchedViews js id id store none size false) = .ok page ∧ _
  -- `toTimelineEvent` answers for every row of the page, so the whole page is answered.
  obtain ⟨items, mapped⟩ := mapM_total (fun view member => by
    obtain ⟨stored, chosen⟩ := (listed view).mp member
    exact view_answers unshown stored chosen (canReadNotes actor row.toIncident)
      (findUserRefsByIds store ((fetchedViews js id id store none size false).flatMap
        TimelineView.mentions)))
  unfold viewsPage
  simp only [whole, mapped]
  refine ⟨_, rfl, fun shown => ?_⟩
  rw [mem_mapM mapped]
  constructor
  · rintro ⟨view, member, told⟩
    obtain ⟨stored, chosen⟩ := (listed view).mp member
    exact view_tells stored chosen told
  · intro told
    exact ⟨.escalation shown,
      (listed _).mpr ⟨mem_timelineViews told, by simp [TimelineView.chosen]⟩, rfl⟩

end Alike

/-- Account changes are logged under no incident. -/
def AccountChangesApart (store : Store) : Prop :=
  ∀ event ∈ store.auditEvents,
    event.type = .userClearanceChanged ∨ event.type = .userRoleChanged → event.incidentId = none

instance (store : Store) : Decidable (AccountChangesApart store) :=
  inferInstanceAs (Decidable (∀ event ∈ store.auditEvents,
    event.type = .userClearanceChanged ∨ event.type = .userRoleChanged → event.incidentId = none))

theorem AccountChangesApart.unshown {store : Store} (apart : AccountChangesApart store) (id : Id) :
    ∀ event ∈ store.auditEvents, event.incidentId = some id →
      event.type ≠ .userClearanceChanged ∧ event.type ≠ .userRoleChanged := by
  intro event stored owner
  constructor
  · intro kind
    have none := apart event stored (Or.inl kind)
    simp [owner] at none
  · intro kind
    have none := apart event stored (Or.inr kind)
    simp [owner] at none

/-- A stored incident that the clearance covers is loaded. -/
theorem getByIdForActor_covered {store : Store} {actor : Actor} {incident : Incident}
    (stored : incident ∈ store.incidents)
    (covered : severityRank incident.severity ≤ actor.clearanceLevel) :
    ∃ row, getByIdForActor store actor incident.id = .ok row := by
  unfold getByIdForActor loadForActorOrThrow findTriageRowScoped
  cases found : store.incidents.find? fun row =>
      row.id = incident.id && visibilityScope actor row with
  | none =>
    have passed := List.find?_eq_none.mp found incident stored
    simp [(visibilityScope_iff actor incident).mpr covered] at passed
  | some row => exact ⟨joinAssignee store row, rfl⟩

/-- An actor who is neither manager nor admin, and whose clearance covers the incident, gets the
same answers from two databases that differ in the past of its escalation record, exactly if its
escalation rows show alike in the timeline. -/
theorem past_record_hidden_iff (platform : Platform) (actor : Actor) (store other : Store)
    (incident : Incident) (plain : actor.role ≠ .triageManager ∧ actor.role ≠ .admin)
    (stored : incident ∈ store.incidents)
    (covered : severityRank incident.severity ≤ actor.clearanceLevel)
    (unique : (store.auditEvents.map AuditEvent.id).Nodup)
    (uniqueOther : (other.auditEvents.map AuditEvent.id).Nodup)
    (apart : AccountChangesApart store) (apartOther : AccountChangesApart other)
    (same : SameButPastRecord incident.id store other) :
    AnswersAlike platform store other actor ↔
      RecordsShownAlike platform.js store other incident.id := by
  constructor
  · intro answers shown
    obtain ⟨row, loaded⟩ := getByIdForActor_covered stored covered
    have loadedOther : getByIdForActor other actor incident.id = .ok row := by
      rw [← loaded]
      exact (same.read (fun database => getByIdForActor database actor incident.id)
        fun _ => rfl).symm
    -- a page of both lengths holds either timeline whole, and tells of its record
    obtain ⟨page, answered, tells⟩ := whole_timeline platform.js
      (apart.unshown incident.id) plain.2 loaded
      (Nat.le_add_right store.auditEvents.length other.auditEvents.length)
    obtain ⟨pageOther, answeredOther, tellsOther⟩ := whole_timeline platform.js
      (apartOther.unshown incident.id) plain.2 loadedOther
      (Nat.le_add_left other.auditEvents.length store.auditEvents.length)
    rw [answers.timeline, answeredOther] at answered
    obtain rfl := Except.ok.inj answered
    rw [← tells, tellsOther]
  · intro alike
    exact answers_alike same plain fun target cursor size =>
      timeline_alike same unique uniqueOther alike actor target cursor size

/-! ### An incident at its second level -/

/-- The sample platform with `Number` of the texts of the first levels. -/
def levelsPlatform : Platform :=
  { samplePlatform with
    js := { samplePlatform.js with
      number := fun json => match json with
        | .str "0" => .num 0
        | .str "1" => .num 1
        | .str "2" => .num 2
        | json => json } }

def escalationRow (id : Id) (source target : String) (level : Int) (now : Date) : AuditEvent where
  id := id
  incidentId := some "a"
  actorId := none
  type := .incidentEscalated
  fromValue := some source
  toValue := some target
  reason := none
  payload := some [("cycle", .num 1), ("level", .num level)]
  occurredAt := now

def secondLevelIncident : Incident :=
  { sampleIncident "a" .critical with currentEscalationLevel := 2 }

/-- The sample incident with the event and the audit row of its second level, and a past. -/
def secondLevel (events : List EscalationEvent) (rows : List AuditEvent) : Store :=
  { sampleStore with
    incidents := [secondLevelIncident]
    escalationEvents := events ++ [⟨"f", "a", 1, 2, .critical, 1800000, 1800000⟩]
    auditEvents := rows ++ [escalationRow "y" "1" "2" 2 1800000] }

def firstEvents : List EscalationEvent := [⟨"e", "a", 1, 1, .critical, 900000, 900000⟩]

def firstRows : List AuditEvent := [escalationRow "x" "0" "1" 1 900000]

/-- The event of the first level is gone, and its audit row stays. -/
theorem past_record_hidden_iff_sample :
    AnswersAlike levelsPlatform (secondLevel firstEvents firstRows) (secondLevel [] firstRows)
      ⟨"junior", .reporter, 4⟩ := by
  have hidden := past_record_hidden_iff levelsPlatform ⟨"junior", .reporter, 4⟩
    (secondLevel firstEvents firstRows) (secondLevel [] firstRows) secondLevelIncident (by decide)
    (by decide) (by decide) (by decide) (by decide) (by decide) (by decide) rfl
  exact hidden.mpr fun _ => Iff.rfl

/-- The audit row of the first level tells a reporter of it. -/
theorem past_record_shown_to_reporter :
    SameButPastRecord "a" (secondLevel firstEvents firstRows) (secondLevel [] []) ∧
      ¬ AnswersAlike levelsPlatform (secondLevel firstEvents firstRows) (secondLevel [] [])
        ⟨"junior", .reporter, 4⟩ := by
  refine ⟨rfl, fun answers => ?_⟩
  have counts := congrArg (fun answer => answer.toOption.map fun page => page.items.length)
    (answers.timeline "a" none 10)
  exact absurd counts (by decide)

end IncidentApi.Properties
