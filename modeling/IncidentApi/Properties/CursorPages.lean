import IncidentApi.Library.CursorWalk
import IncidentApi.Properties.Confidentiality

/-!
# Cursor walks through the newest-first lists

Notes, timeline and notifications are listed newest first, ties by id, and a cursor names the
instant and the id of the last item of its page. Whatever is inserted and deleted between the
requests, a walk loses nothing and repeats nothing.
-/
namespace IncidentApi.Properties

/-! ### Cursors -/

/-- What the cursors of some positions rely on: base64url and JSON read back what was printed, and
so does `new Date` the text of an instant. -/
structure ReadsTimeCursors (js : JsRuntime) (tag : String) (positions : Set (Date × Id)) :
    Prop where
  empty : js.decode "" = none
  decode : ∀ p ∈ positions,
    js.decode (encodeCursor js tag [.str (js.toISOString p.1), .str p.2]) =
      some (.obj [("k", .str tag), ("v", .arr [.str (js.toISOString p.1), .str p.2])])
  newDate : ∀ p ∈ positions, js.newDate (.str (js.toISOString p.1)) = some p.1

def timeIdCursorAt (position : Date × Id) : TimeIdCursor := ⟨position.1, some position.2⟩

def positionOrder (position : Date × Id) : (Date ×ₗ Id)ᵒᵈ := newestKey position.1 position.2

theorem decodeOptional_printed {js : JsRuntime} {tag : String} {positions : Set (Date × Id)}
    (reads : ReadsTimeCursors js tag positions) (start : Option (Date × Id))
    (known : ∀ p ∈ start, p ∈ positions) :
    decodeOptional (decodeTimeIdCursor js tag)
        (start.map fun p => encodeCursor js tag [.str (js.toISOString p.1), .str p.2]) =
      .ok (start.map timeIdCursorAt) := by
  cases start with
  | none => rfl
  | some p =>
    have printed := reads.decode p (known p rfl)
    have date := reads.newDate p (known p rfl)
    -- an empty cursor would count as none
    have given : encodeCursor js tag [.str (js.toISOString p.1), .str p.2] ≠ "" := by
      intro empty
      rw [empty, reads.empty] at printed
      simp at printed
    rw [Option.map_some, decodeOptional_given _ given]
    simp [decodeTimeIdCursor, decodeCursor, printed, Json.field, cursorId, date, bind,
      Except.bind, pure, Except.pure, Except.map, timeIdCursorAt]

/-! ### Lists ordered newest first -/

/-- A list behind time-and-id cursors: its answers hold a page, and its items tell their
positions. -/
def newestFirst {γ T : Type} (js : JsRuntime) (tag : String) (size : Nat) (page : γ → CursorPage T)
    (position : T → Date × Id) (request : Store → Option String → Except AppError γ)
    (rows : Store → List (Date × Id)) :
    CursorWalk.Surface Store AppError γ (Date × Id) String (Date ×ₗ Id)ᵒᵈ where
  request := request
  shown answer := (page answer).items.map position
  next answer := (page answer).nextCursor
  more answer := (page answer).hasMore
  rows := rows
  key := positionOrder
  print p := encodeCursor js tag [.str (js.toISOString p.1), .str p.2]
  size := size

section Pages
variable {R : Type} (at_ : R → Date × Id)

/-- What a query fetches from a position is the page of the positions after it. -/
theorem fetched_positions (table : List R) (start : Option (Date × Id)) (size : Nat) :
    ((Keyset.sortOn (fun row => positionOrder (at_ row)) (table.filter fun row =>
      (start.map timeIdCursorAt).all fun cursor =>
        beforeTimeId cursor (at_ row).1 (at_ row).2)).take (size + 1)).map at_ =
    Keyset.page positionOrder (table.map at_) size (start.map positionOrder) := by
  -- the condition that a cursor adds to the query is the order of the positions
  have condition : ∀ row, ((start.map timeIdCursorAt).all fun cursor =>
      beforeTimeId cursor (at_ row).1 (at_ row).2) =
        (start.map positionOrder).all (· < positionOrder (at_ row)) := by
    intro row
    cases start with
    | none => rfl
    | some p =>
      have same := beforeTimeId_iff p (at_ row).1 (at_ row).2
      simp only [Option.map_some, Option.all_some]
      exact Bool.eq_iff_iff.mpr (same.trans decide_eq_true_iff.symm)
  simp only [condition]
  rw [Keyset.page, List.filter_map, ← Keyset.map_sortOn (fun row => positionOrder (at_ row))
    positionOrder at_ (fun _ => rfl), List.map_take]
  rfl

theorem positions_keyed {table : List R} (unique : (table.map fun row => (at_ row).2).Nodup) :
    ((table.map at_).map positionOrder).Nodup := by
  -- the id is part of the key
  apply List.Nodup.of_map (fun key => (ofLex (OrderDual.ofDual key)).2)
  rw [List.map_map, List.map_map]
  exact unique

variable {γ T : Type} {js : JsRuntime} {tag : String} {size : Nat} {page : γ → CursorPage T}
  {position : T → Date × Id} {request : Store → Option String → Except AppError γ}
  {rows : Store → List (Date × Id)}

/-- An answer that shows the rows a cursor page keeps. -/
theorem newestFirst_answers (fetched : List R) (cursor : R → String) {answer : γ}
    (items : (page answer).items.map position =
      (cursorPage fetched size (fun row => row) cursor).items.map at_)
    (next : (page answer).nextCursor =
      (cursorPage fetched size (fun row => row) cursor).nextCursor)
    (more : (page answer).hasMore = (cursorPage fetched size (fun row => row) cursor).hasMore)
    (printed : ∀ row, cursor row =
      encodeCursor js tag [.str (js.toISOString (at_ row).1), .str (at_ row).2]) :
    (newestFirst js tag size page position request rows).Answers answer (fetched.map at_) := by
  have kept : (if size < fetched.length then fetched.take size else fetched) =
      fetched.take size := by
    split
    · rfl
    · rw [List.take_of_length_le (by omega)]
  refine ⟨?_, ?_, ?_⟩
  · change (page answer).items.map position = (fetched.map at_).take size
    rw [items, ← List.map_take]
    simp [cursorPage, kept]
  · simp only [newestFirst, next, cursorPage, kept, List.length_map, ← List.map_take,
      List.getLast?_map, Option.map_map]
    rw [show cursor = _ from funext printed]
    rfl
  · simp only [newestFirst, more, cursorPage, List.length_map]

end Pages

/-! ### The three lists -/

def notePosition (note : Note) : Date × Id := (note.createdAt, note.id)

/-- The notes of an incident. -/
def notesSurface (js : JsRuntime) (actor : Actor) (incidentId : Id) (size : Nat) :
    CursorWalk.Surface Store AppError (CursorPage Note) (Date × Id) String (Date ×ₗ Id)ᵒᵈ :=
  newestFirst js createdAtIdKey size (fun answer => answer) notePosition
    (fun store cursor => listNotes js store actor incidentId cursor size)
    fun store => (store.notes.filter (noteScopeWhere store actor incidentId)).map fun note =>
      (note.createdAt, note.id)

def eventBase : TimelineEvent → EventBase
  | .incidentCreated base _ _ _ => base
  | .stageChanged base _ _ _ => base
  | .severityChanged base _ _ _ => base
  | .investigatorAssigned base _ => base
  | .investigatorUnassigned base _ _ => base
  | .incidentAcknowledged base => base
  | .noteAdded base _ _ _ => base
  | .closureProposed base _ _ => base
  | .closureApproved base => base
  | .closureRejected base _ => base
  | .incidentEscalated base _ _ _ => base
  | .accessDenied base _ _ => base

def eventPosition (event : TimelineEvent) : Date × Id :=
  ((eventBase event).occurredAt, (eventBase event).id)

/-- The audit rows of an incident that an actor's timeline lists. -/
def timelineRows (store : Store) (actor : Actor) (incidentId : Id) : List AuditEvent :=
  store.auditEvents.filter fun event => event.incidentId = some incidentId &&
    (decide (actor.role = .admin) || event.type ≠ .accessDenied)

/-- The timeline of an incident. -/
def timelineSurface (js : JsRuntime) (actor : Actor) (incidentId : Id) (size : Nat) :
    CursorWalk.Surface Store AppError (CursorPage TimelineEvent) (Date × Id) String
      (Date ×ₗ Id)ᵒᵈ :=
  newestFirst js occurredAtIdKey size (fun answer => answer) eventPosition
    (fun store cursor => timeline js store actor incidentId cursor size)
    fun store => (timelineRows store actor incidentId).map fun event =>
      (event.occurredAt, event.id)

def itemPosition (item : NotificationItem) : Date × Id := (item.createdAt, item.id)

/-- The notifications of a user. -/
def notificationsSurface (js : JsRuntime) (actor : Actor) (size : Nat) :
    CursorWalk.Surface Store AppError NotificationsResponse (Date × Id) String (Date ×ₗ Id)ᵒᵈ :=
  newestFirst js createdAtIdKey size (fun answer => answer.toCursorPage) itemPosition
    (fun store cursor => listNotifications js store actor cursor size)
    fun store => (ownNotifications store actor).map fun joined =>
      (joined.row.createdAt, joined.row.id)

theorem map_ok {S T : Type} {result : Except AppError S} {f : S → T} {value : T}
    (mapped : result.map f = .ok value) :
    ∃ original, result = .ok original ∧ f original = value := by
  cases result with
  | error _ => simp [Except.map] at mapped
  | ok original => exact ⟨original, rfl, Except.ok.inj mapped⟩

section Notes
variable {js : JsRuntime} {actor : Actor} {incidentId : Id} {size : Nat} {store : Store}

theorem fetchedNotes (start : Option (Date × Id)) :
    (findNotesPage store actor incidentId (start.map timeIdCursorAt) size).map
        (fun row => (row.createdAt, row.id)) =
      (notesSurface js actor incidentId size).fetched store start := by
  have pages := fetched_positions (fun note : InvestigationNote => (note.createdAt, note.id))
    (store.notes.filter (noteScopeWhere store actor incidentId)) start size
  rw [List.filter_filter] at pages
  unfold findNotesPage
  simp only [Bool.and_comm (noteScopeWhere store actor incidentId _)]
  rw [List.map_map]
  exact pages

theorem notes_request {positions : Set (Date × Id)}
    (reads : ReadsTimeCursors js createdAtIdKey positions) (start : Option (Date × Id))
    (known : ∀ p ∈ start, p ∈ positions) :
    (notesSurface js actor incidentId size).request store
        (start.map (notesSurface js actor incidentId size).print) =
      (assertReadAccess store actor incidentId).map fun _ =>
        cursorPage (findNotesPage store actor incidentId (start.map timeIdCursorAt) size) size
          toInvestigationNote fun row => encodeCreatedAtIdCursor js row.createdAt row.id := by
  have decoded : decodeOptional (decodeCreatedAtIdCursor js)
      (start.map (notesSurface js actor incidentId size).print) =
        .ok (start.map timeIdCursorAt) := decodeOptional_printed reads start known
  change listNotes js store actor incidentId _ size = _
  rw [listNotes, decoded]
  cases assertReadAccess store actor incidentId <;> rfl

/-- A page of notes is cut from what its query fetched. -/
theorem notes_answers {positions : Set (Date × Id)}
    (reads : ReadsTimeCursors js createdAtIdKey positions) (start : Option (Date × Id))
    (known : ∀ p ∈ start, p ∈ positions) (page : CursorPage Note)
    (answered : (notesSurface js actor incidentId size).request store
      (start.map (notesSurface js actor incidentId size).print) = .ok page) :
    (notesSurface js actor incidentId size).Answers page
      ((notesSurface js actor incidentId size).fetched store start) := by
  rw [notes_request reads start known] at answered
  obtain ⟨_, _, rfl⟩ := map_ok answered
  rw [← fetchedNotes]
  apply newestFirst_answers (fun row : NoteRow => (row.createdAt, row.id))
    (findNotesPage store actor incidentId (start.map timeIdCursorAt) size)
    (fun row => encodeCreatedAtIdCursor js row.createdAt row.id)
  · simp only [cursorPage, List.map_map, List.map_id']
    rfl
  · rfl
  · rfl
  · exact fun _ => rfl

theorem notes_serves {positions : Set (Date × Id)}
    (reads : ReadsTimeCursors js createdAtIdKey positions)
    (unique : (store.notes.map InvestigationNote.id).Nodup)
    (listed : ∀ note ∈ store.notes, (note.createdAt, note.id) ∈ positions) :
    (notesSurface js actor incidentId size).Serves (· ∈ positions) store := by
  refine ⟨?_, notes_answers reads, fun start known more last isLast => ?_⟩
  · exact positions_keyed _ (unique.sublist (List.filter_sublist.map _))
  · have stored := (Keyset.mem_page (List.mem_of_mem_take (List.mem_of_getLast? isLast))).1
    obtain ⟨note, among, rfl⟩ := List.mem_map.mp stored
    exact listed note (List.mem_of_mem_filter among)

/-- Who may read the notes is answered at every cursor. -/
theorem notes_grants {positions : Set (Date × Id)}
    (reads : ReadsTimeCursors js createdAtIdKey positions)
    (granted : ∃ row, assertReadAccess store actor incidentId = .ok row) :
    (notesSurface js actor incidentId size).Grants (· ∈ positions) store := by
  intro start known
  obtain ⟨row, granted⟩ := granted
  rw [notes_request reads start known, granted]
  exact ⟨_, rfl⟩

end Notes

section Timeline
variable {js : JsRuntime} {actor : Actor} {incidentId : Id} {size : Nat} {store : Store}

theorem fetchedEvents (start : Option (Date × Id)) :
    (findTimelinePage store incidentId (start.map timeIdCursorAt) size
        (actor.role = .admin)).map (fun row => (row.occurredAt, row.id)) =
      (timelineSurface js actor incidentId size).fetched store start := by
  have pages := fetched_positions (fun event : AuditEvent => (event.occurredAt, event.id))
    (timelineRows store actor incidentId) start size
  rw [timelineRows, List.filter_filter] at pages
  unfold findTimelinePage
  simp only [Bool.and_comm (_ && _) (Option.all _ _)]
  rw [List.map_map]
  exact pages

/-- An event shows when its row was written and the id of the row. -/
theorem toTimelineEvent_position {row : AuditEventRow} {canReadNotes : Bool}
    {userRefs : List UserRef} {event : TimelineEvent}
    (shown : toTimelineEvent js row canReadNotes userRefs = .ok event) :
    eventPosition event = (row.occurredAt, row.id) := by
  unfold toTimelineEvent at shown
  split at shown
  case h_7 =>
    -- a note is shown with its excerpt or without
    split at shown
    · exact Except.ok.inj shown ▸ rfl
    · exact Except.ok.inj shown ▸ rfl
  case h_13 => simp at shown
  case h_14 => simp at shown
  all_goals exact Except.ok.inj shown ▸ rfl

/-- The mapper refuses the audit rows of account changes only. -/
theorem toTimelineEvent_shows {row : AuditEventRow} (canReadNotes : Bool)
    (userRefs : List UserRef) (clearance : row.type ≠ .userClearanceChanged)
    (role : row.type ≠ .userRoleChanged) :
    ∃ event, toTimelineEvent js row canReadNotes userRefs = .ok event := by
  unfold toTimelineEvent
  split
  case h_7 =>
    split
    · exact ⟨_, rfl⟩
    · exact ⟨_, rfl⟩
  case h_13 kind => exact absurd kind clearance
  case h_14 kind => exact absurd kind role
  all_goals exact ⟨_, rfl⟩

theorem mapM_positions {R T P : Type} {f : R → Except AppError T} {position : T → P} {at_ : R → P}
    (kept : ∀ row item, f row = .ok item → position item = at_ row) {rows : List R}
    {items : List T} (mapped : rows.mapM f = .ok items) : items.map position = rows.map at_ := by
  induction rows generalizing items with
  | nil =>
    obtain rfl := Except.ok.inj mapped
    rfl
  | cons row rest ih =>
    rw [List.mapM_cons] at mapped
    obtain ⟨item, first, mapped⟩ := bind_ok mapped
    obtain ⟨others, later, mapped⟩ := bind_ok mapped
    obtain rfl := Except.ok.inj mapped
    rw [List.map_cons, List.map_cons, kept row item first, ih later]

theorem mapM_total {R T : Type} {f : R → Except AppError T} {rows : List R}
    (each : ∀ row ∈ rows, ∃ item, f row = .ok item) : ∃ items, rows.mapM f = .ok items := by
  induction rows with
  | nil => exact ⟨[], rfl⟩
  | cons row rest ih =>
    obtain ⟨item, first⟩ := each row List.mem_cons_self
    obtain ⟨items, later⟩ := ih fun other member => each other (List.mem_cons_of_mem row member)
    exact ⟨item :: items, by simp [List.mapM_cons, first, later, bind, Except.bind, pure,
      Except.pure]⟩

/-- The rows of the page that the timeline maps. -/
def timelinePage (js : JsRuntime) (store : Store) (actor : Actor) (incidentId : Id) (size : Nat)
    (start : Option (Date × Id)) : CursorPage AuditEventRow :=
  cursorPage (findTimelinePage store incidentId (start.map timeIdCursorAt) size
    (actor.role = .admin)) size (fun row => row) fun row =>
      encodeOccurredAtIdCursor js row.occurredAt row.id

theorem timeline_request {positions : Set (Date × Id)}
    (reads : ReadsTimeCursors js occurredAtIdKey positions) (start : Option (Date × Id))
    (known : ∀ p ∈ start, p ∈ positions) :
    (timelineSurface js actor incidentId size).request store
        (start.map (timelineSurface js actor incidentId size).print) =
      (getByIdForActor store actor incidentId >>= fun incident =>
        ((timelinePage js store actor incidentId size start).items.mapM fun row =>
          toTimelineEvent js row (canReadNotes actor incident.toIncident) (findUserRefsByIds store
            (mentionedUsers (timelinePage js store actor incidentId size start).items))).map
          fun items =>
            { timelinePage js store actor incidentId size start with items := items }) := by
  have decoded : decodeOptional (decodeOccurredAtIdCursor js)
      (start.map (timelineSurface js actor incidentId size).print) =
        .ok (start.map timeIdCursorAt) := decodeOptional_printed reads start known
  change timeline js store actor incidentId _ size = _
  rw [timeline, decoded]
  rfl

theorem timeline_answers {positions : Set (Date × Id)}
    (reads : ReadsTimeCursors js occurredAtIdKey positions) (start : Option (Date × Id))
    (known : ∀ p ∈ start, p ∈ positions) (page : CursorPage TimelineEvent)
    (answered : (timelineSurface js actor incidentId size).request store
      (start.map (timelineSurface js actor incidentId size).print) = .ok page) :
    (timelineSurface js actor incidentId size).Answers page
      ((timelineSurface js actor incidentId size).fetched store start) := by
  rw [timeline_request reads start known] at answered
  obtain ⟨incident, _, answered⟩ := bind_ok answered
  obtain ⟨items, mapped, rfl⟩ := map_ok answered
  rw [← fetchedEvents]
  apply newestFirst_answers (fun row : AuditEventRow => (row.occurredAt, row.id))
    (findTimelinePage store incidentId (start.map timeIdCursorAt) size (actor.role = .admin))
    (fun row => encodeOccurredAtIdCursor js row.occurredAt row.id)
  · exact mapM_positions (fun row event shown => toTimelineEvent_position shown) mapped
  · rfl
  · rfl
  · exact fun _ => rfl

theorem timeline_serves {positions : Set (Date × Id)}
    (reads : ReadsTimeCursors js occurredAtIdKey positions)
    (unique : (store.auditEvents.map AuditEvent.id).Nodup)
    (listed : ∀ event ∈ store.auditEvents, (event.occurredAt, event.id) ∈ positions) :
    (timelineSurface js actor incidentId size).Serves (· ∈ positions) store := by
  refine ⟨?_, timeline_answers reads, fun start known more last isLast => ?_⟩
  · exact positions_keyed _ (unique.sublist (List.filter_sublist.map _))
  · have stored := (Keyset.mem_page (List.mem_of_mem_take (List.mem_of_getLast? isLast))).1
    obtain ⟨event, among, rfl⟩ := List.mem_map.mp stored
    exact listed event (List.mem_of_mem_filter among)

/-- The actor sees the incident, and no account change is logged under it. -/
def ShowsTimeline (actor : Actor) (incidentId : Id) (store : Store) : Prop :=
  (∃ row, getByIdForActor store actor incidentId = .ok row) ∧
    ∀ event ∈ store.auditEvents, event.incidentId = some incidentId →
      event.type ≠ .userClearanceChanged ∧ event.type ≠ .userRoleChanged

theorem timeline_grants {positions : Set (Date × Id)}
    (reads : ReadsTimeCursors js occurredAtIdKey positions)
    (granted : ShowsTimeline actor incidentId store) :
    (timelineSurface js actor incidentId size).Grants (· ∈ positions) store := by
  intro start known
  obtain ⟨⟨incident, loaded⟩, shown⟩ := granted
  rw [timeline_request reads start known, loaded]
  have each : ∀ row ∈ (timelinePage js store actor incidentId size start).items, ∃ event,
      toTimelineEvent js row (canReadNotes actor incident.toIncident) (findUserRefsByIds store
        (mentionedUsers (timelinePage js store actor incidentId size start).items)) =
          .ok event := by
    intro row member
    obtain ⟨_, found, rfl⟩ := mem_cursorPage member
    obtain ⟨event, taken, rfl⟩ := List.mem_map.mp found
    have kept := (Keyset.mem_sortOn _ _ _).mp (List.mem_of_mem_take taken)
    obtain ⟨stored, chosen⟩ := List.mem_filter.mp kept
    simp only [Bool.and_eq_true, decide_eq_true_eq] at chosen
    obtain ⟨clearance, role⟩ := shown event stored chosen.1.1
    exact toTimelineEvent_shows _ _ clearance role
  obtain ⟨items, mapped⟩ := mapM_total each
  simp only [bind, Except.bind, mapped]
  exact ⟨_, rfl⟩

end Timeline

section Notifications
variable {js : JsRuntime} {actor : Actor} {size : Nat} {store : Store}

theorem fetchedNotifications (start : Option (Date × Id)) :
    (findNotificationsPage store actor (start.map timeIdCursorAt) size).map
        (fun joined => (joined.row.createdAt, joined.row.id)) =
      (notificationsSurface js actor size).fetched store start :=
  fetched_positions (fun joined : NotificationRow => (joined.row.createdAt, joined.row.id))
    (ownNotifications store actor) start size

theorem notifications_request {positions : Set (Date × Id)}
    (reads : ReadsTimeCursors js createdAtIdKey positions) (start : Option (Date × Id))
    (known : ∀ p ∈ start, p ∈ positions) :
    (notificationsSurface js actor size).request store
        (start.map (notificationsSurface js actor size).print) =
      .ok { toCursorPage := cursorPage (findNotificationsPage store actor
              (start.map timeIdCursorAt) size) size toNotificationItem fun joined =>
                encodeCreatedAtIdCursor js joined.row.createdAt joined.row.id
            unreadCount := countUnread store actor } := by
  have decoded : decodeOptional (decodeCreatedAtIdCursor js)
      (start.map (notificationsSurface js actor size).print) =
        .ok (start.map timeIdCursorAt) := decodeOptional_printed reads start known
  change listNotifications js store actor _ size = _
  rw [listNotifications, decoded]
  rfl

theorem notifications_answers {positions : Set (Date × Id)}
    (reads : ReadsTimeCursors js createdAtIdKey positions) (start : Option (Date × Id))
    (known : ∀ p ∈ start, p ∈ positions) (answer : NotificationsResponse)
    (answered : (notificationsSurface js actor size).request store
      (start.map (notificationsSurface js actor size).print) = .ok answer) :
    (notificationsSurface js actor size).Answers answer
      ((notificationsSurface js actor size).fetched store start) := by
  rw [notifications_request reads start known] at answered
  obtain rfl := Except.ok.inj answered
  rw [← fetchedNotifications]
  apply newestFirst_answers (fun joined : NotificationRow => (joined.row.createdAt, joined.row.id))
    (findNotificationsPage store actor (start.map timeIdCursorAt) size)
    (fun joined => encodeCreatedAtIdCursor js joined.row.createdAt joined.row.id)
  · simp only [cursorPage, List.map_map, List.map_id']
    rfl
  · rfl
  · rfl
  · exact fun _ => rfl

theorem ownNotifications_ids (unique : (store.notificationLog.map NotificationLog.id).Nodup) :
    ((ownNotifications store actor).map fun joined => joined.row.id).Nodup := by
  -- the join drops rows and keeps the ids of the others
  have joined : ∀ rows : List NotificationLog, ((rows.filterMap (joinNotification store)).map
      fun joined => joined.row.id).Sublist (rows.map NotificationLog.id) := by
    intro rows
    induction rows with
    | nil => exact List.Sublist.slnil
    | cons row rest ih =>
      cases found : joinNotification store row with
      | none =>
        rw [List.filterMap_cons_none found]
        exact ih.cons row.id
      | some joined =>
        rw [List.filterMap_cons_some found, List.map_cons, joinNotification_row found]
        exact ih.cons_cons row.id
  have own := (joined _).trans ((List.filter_sublist (p := (·.recipientId = actor.id))
    (l := store.notificationLog)).map NotificationLog.id)
  exact unique.sublist ((List.filter_sublist.map _).trans own)

theorem notifications_serves {positions : Set (Date × Id)}
    (reads : ReadsTimeCursors js createdAtIdKey positions)
    (unique : (store.notificationLog.map NotificationLog.id).Nodup)
    (listed : ∀ row ∈ store.notificationLog, (row.createdAt, row.id) ∈ positions) :
    (notificationsSurface js actor size).Serves (· ∈ positions) store := by
  refine ⟨?_, notifications_answers reads, fun start known more last isLast => ?_⟩
  · exact positions_keyed _ (ownNotifications_ids unique)
  · have stored := (Keyset.mem_page (List.mem_of_mem_take (List.mem_of_getLast? isLast))).1
    obtain ⟨joined, own, rfl⟩ := List.mem_map.mp stored
    obtain ⟨row, among, found⟩ := List.mem_filterMap.mp (List.mem_of_mem_filter own)
    rw [joinNotification_row found]
    exact listed row (List.mem_of_mem_filter among)

theorem notifications_grants {positions : Set (Date × Id)}
    (reads : ReadsTimeCursors js createdAtIdKey positions) :
    (notificationsSurface js actor size).Grants (· ∈ positions) store := by
  intro start known
  rw [notifications_request reads start known]
  exact ⟨_, rfl⟩

end Notifications

end IncidentApi.Properties
