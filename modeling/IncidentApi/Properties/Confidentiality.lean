import IncidentApi.Properties.Noninterference
import IncidentApi.Properties.Frames

/-!
# Confidentiality of notes

A database without the notes of one incident, and with its `NOTE_ADDED` rows stripped of author
and payload, gives an actor who may not read these notes the response to every read that the full
database gives. For an actor who may, the pages of `findNotesPage` are the notes of the incident.
-/
namespace IncidentApi.Properties

/-! ### What the notes of an incident are -/

/-- A `NOTE_ADDED` row of the incident without who wrote the note, its id and its length. -/
def hideNote (id : Id) (event : AuditEvent) : AuditEvent :=
  if event.type = .noteAdded ∧ event.incidentId = some id then
    { event with actorId := none, payload := none }
  else event

def withoutNotes (id : Id) (store : Store) : Store :=
  { store with
    notes := store.notes.filter (·.incidentId ≠ id)
    auditEvents := store.auditEvents.map (hideNote id) }

/-- The databases differ in the notes of one incident only. -/
def SameButNotes (id : Id) (store other : Store) : Prop :=
  withoutNotes id store = withoutNotes id other

/-- No row of the incident lets the actor read its notes. -/
def NotesHidden (store : Store) (actor : Actor) (id : Id) : Prop :=
  ∀ row ∈ store.incidents, row.id = id → canReadNotes actor row = false

instance (store : Store) (actor : Actor) (id : Id) : Decidable (NotesHidden store actor id) :=
  inferInstanceAs
    (Decidable (∀ row ∈ store.incidents, row.id = id → canReadNotes actor row = false))

/-! ### The timeline -/

section HideNote
variable (id : Id) (event : AuditEvent)

@[simp] theorem hideNote_id : (hideNote id event).id = event.id := by
  unfold hideNote
  split <;> rfl

@[simp] theorem hideNote_incidentId : (hideNote id event).incidentId = event.incidentId := by
  unfold hideNote
  split <;> rfl

@[simp] theorem hideNote_type : (hideNote id event).type = event.type := by
  unfold hideNote
  split <;> rfl

@[simp] theorem hideNote_occurredAt : (hideNote id event).occurredAt = event.occurredAt := by
  unfold hideNote
  split <;> rfl

end HideNote

/-- The joined row of a hidden note. -/
def hideNoteRow (id : Id) (row : AuditEventRow) : AuditEventRow :=
  if row.type = .noteAdded ∧ row.incidentId = some id then
    { row with actorId := none, payload := none, actor := none }
  else row

theorem hideNoteRow_note {id : Id} {row : AuditEventRow}
    (note : row.type = .noteAdded ∧ row.incidentId = some id) :
    hideNoteRow id row = { row with actorId := none, payload := none, actor := none } :=
  if_pos note

theorem hideNoteRow_other {id : Id} {row : AuditEventRow}
    (other : ¬ (row.type = .noteAdded ∧ row.incidentId = some id)) : hideNoteRow id row = row :=
  if_neg other

@[simp] theorem hideNoteRow_id (id : Id) (row : AuditEventRow) :
    (hideNoteRow id row).id = row.id := by
  unfold hideNoteRow
  split <;> rfl

@[simp] theorem hideNoteRow_occurredAt (id : Id) (row : AuditEventRow) :
    (hideNoteRow id row).occurredAt = row.occurredAt := by
  unfold hideNoteRow
  split <;> rfl

theorem joinActor_hideNote (id : Id) (store : Store) (event : AuditEvent) :
    joinActor (withoutNotes id store) (hideNote id event) =
      hideNoteRow id (joinActor store event) := by
  by_cases note : event.type = .noteAdded ∧ event.incidentId = some id
  · rw [@hideNoteRow_note _ (joinActor store event) note, hideNote, if_pos note]
    rfl
  · rw [@hideNoteRow_other _ (joinActor store event) note, hideNote, if_neg note]
    rfl

theorem findTimelinePage_withoutNotes (id incidentId : Id) (store : Store)
    (cursor : Option TimeIdCursor) (pageSize : Nat) (includeAccessDenied : Bool) :
    findTimelinePage (withoutNotes id store) incidentId cursor pageSize includeAccessDenied =
      (findTimelinePage store incidentId cursor pageSize includeAccessDenied).map
        (hideNoteRow id) := by
  -- neither the condition nor the order of the query reads what is hidden
  simp only [findTimelinePage, withoutNotes, List.filter_map, Function.comp_def,
    hideNote_incidentId, hideNote_type, hideNote_occurredAt, hideNote_id]
  rw [← Keyset.map_sortOn (fun event => newestKey event.occurredAt event.id)
    (fun event => newestKey event.occurredAt event.id) (hideNote id) (by simp)]
  rw [← List.map_take, List.map_map, List.map_map]
  apply List.map_congr_left
  intro event _
  exact joinActor_hideNote id store event

/-- A hidden note is no assignment, so it names no user. -/
theorem mentionedUsers_hideNoteRow (id : Id) (page : List AuditEventRow) :
    mentionedUsers (page.map (hideNoteRow id)) = mentionedUsers page := by
  rw [mentionedUsers, mentionedUsers, List.filterMap_map]
  apply List.filterMap_congr
  intro row _
  by_cases note : row.type = .noteAdded ∧ row.incidentId = some id
  · rw [Function.comp_apply, hideNoteRow_note note]
  · rw [Function.comp_apply, hideNoteRow_other note]

/-- A viewer without note access gets the same event from a hidden row. -/
theorem toTimelineEvent_hideNoteRow (js : JsRuntime) (id : Id) (row : AuditEventRow)
    (userRefs : List UserRef) :
    toTimelineEvent js (hideNoteRow id row) false userRefs =
      toTimelineEvent js row false userRefs := by
  by_cases note : row.type = .noteAdded ∧ row.incidentId = some id
  · rw [hideNoteRow_note note]
    simp [toTimelineEvent, note.1]
  · rw [hideNoteRow_other note]

theorem mem_findTimelinePage {store : Store} {incidentId : Id} {cursor : Option TimeIdCursor}
    {pageSize : Nat} {includeAccessDenied : Bool} {row : AuditEventRow}
    (member : row ∈ findTimelinePage store incidentId cursor pageSize includeAccessDenied) :
    row.incidentId = some incidentId := by
  obtain ⟨event, taken, rfl⟩ := List.mem_map.mp member
  obtain ⟨_, chosen⟩ :=
    List.mem_filter.mp ((Keyset.mem_sortOn _ _ _).mp (List.mem_of_mem_take taken))
  simp only [Bool.and_eq_true, decide_eq_true_eq] at chosen
  exact chosen.1.1

theorem mapM_map_congr {R S T : Type} {rows : List R} {f : R → S}
    {first : S → Except AppError T} {second : R → Except AppError T}
    (same : ∀ row ∈ rows, first (f row) = second row) :
    (rows.map f).mapM first = rows.mapM second := by
  induction rows with
  | nil => rfl
  | cons row rest ih =>
    have later := ih fun other member => same other (List.mem_cons_of_mem row member)
    rw [List.map_cons, List.mapM_cons, List.mapM_cons, later, same row List.mem_cons_self]

theorem timeline_withoutNotes (js : JsRuntime) {store : Store} {actor : Actor} {id : Id}
    (hidden : NotesHidden store actor id) (incidentId : Id) (cursor : Option String)
    (pageSize : Nat) :
    timeline js (withoutNotes id store) actor incidentId cursor pageSize =
      timeline js store actor incidentId cursor pageSize := by
  have load : getByIdForActor (withoutNotes id store) actor incidentId =
      getByIdForActor store actor incidentId := rfl
  have users (ids : List Id) :
      findUserRefsByIds (withoutNotes id store) ids = findUserRefsByIds store ids := rfl
  simp only [timeline, load, users, findTimelinePage_withoutNotes, cursorPage_map]
  cases loaded : getByIdForActor store actor incidentId with
  | error refusal => rfl
  | ok incident =>
    obtain ⟨stored, named, _, _⟩ := getByIdForActor_ok _ _ _ _ loaded
    simp only [bind, Except.bind]
    cases decodeOptional (decodeOccurredAtIdCursor js) cursor with
    | error refusal => rfl
    | ok position =>
      dsimp only
      simp only [hideNoteRow_id, hideNoteRow_occurredAt]
      rw [cursorPage_items (hideNoteRow id)]
      dsimp only
      rw [mentionedUsers_hideNoteRow]
      rw [mapM_map_congr]
      -- every row of the page belongs to the incident that was loaded
      intro row member
      obtain ⟨_, found, rfl⟩ := mem_cursorPage member
      have owned := mem_findTimelinePage found
      by_cases own : incidentId = id
      · have unseen : canReadNotes actor incident.toIncident = false :=
          hidden incident.toIncident stored (named.trans own)
        rw [unseen, toTimelineEvent_hideNoteRow]
      · rw [hideNoteRow_other]
        rintro ⟨_, other⟩
        rw [owned] at other
        exact own (Option.some.inj other)

/-! ### The other reads -/

/-- Where the notes are hidden, the service refuses before it reads any. -/
theorem assertReadAccess_hidden {store : Store} {actor : Actor} {id : Id}
    (hidden : NotesHidden store actor id) : ∃ refusal,
      assertReadAccess store actor id = .error refusal := by
  cases passed : assertReadAccess store actor id with
  | error refusal => exact ⟨refusal, rfl⟩
  | ok row =>
    obtain ⟨loaded, readable⟩ := assertReadAccess_ok passed
    obtain ⟨stored, named, _, _⟩ := getByIdForActor_ok _ _ _ _ loaded
    rw [hidden row.toIncident stored named] at readable
    simp at readable

theorem findNotesPage_withoutNotes {id incidentId : Id} (differ : incidentId ≠ id) (store : Store)
    (actor : Actor) (cursor : Option TimeIdCursor) (pageSize : Nat) :
    findNotesPage (withoutNotes id store) actor incidentId cursor pageSize =
      findNotesPage store actor incidentId cursor pageSize := by
  have condition (note : InvestigationNote) : noteScopeWhere (withoutNotes id store) actor
      incidentId note = noteScopeWhere store actor incidentId note := rfl
  have author : joinAuthor (withoutNotes id store) = joinAuthor store := rfl
  have rows : (store.notes.filter (·.incidentId ≠ id)).filter (fun note =>
        noteScopeWhere store actor incidentId note &&
          cursor.all fun position => beforeTimeId position note.createdAt note.id) =
      store.notes.filter fun note => noteScopeWhere store actor incidentId note &&
        cursor.all fun position => beforeTimeId position note.createdAt note.id := by
    rw [List.filter_filter]
    apply List.filter_congr
    intro note _
    -- what the query selects belongs to the other incident
    by_cases owned : note.incidentId = incidentId
    · simp [owned, differ]
    · simp [noteScopeWhere, owned]
  simp only [findNotesPage, condition, author]
  rw [← rows]
  rfl

theorem listNotes_withoutNotes (js : JsRuntime) {store : Store} {actor : Actor} {id : Id}
    (hidden : NotesHidden store actor id) (incidentId : Id) (cursor : Option String)
    (pageSize : Nat) :
    listNotes js (withoutNotes id store) actor incidentId cursor pageSize =
      listNotes js store actor incidentId cursor pageSize := by
  have access : assertReadAccess (withoutNotes id store) actor incidentId =
      assertReadAccess store actor incidentId := rfl
  by_cases own : incidentId = id
  · subst own
    obtain ⟨refusal, refused⟩ := assertReadAccess_hidden hidden
    simp only [listNotes, access, refused]
    rfl
  · simp only [listNotes, access, findNotesPage_withoutNotes own]

/-- No read tells an actor without note access anything of the notes. -/
theorem respond_withoutNotes (platform : Platform) {store : Store} {actor : Actor} {id : Id}
    (hidden : NotesHidden store actor id) (request : ReadRequest platform.js) :
    respond platform (withoutNotes id store) actor request =
      respond platform store actor request := by
  cases request with
  | listNotes incidentId query =>
    simp only [respond, listNotes_withoutNotes platform.js hidden]
  | timeline incidentId query =>
    simp only [respond, timeline_withoutNotes platform.js hidden]
  -- the other reads look at neither table
  | _ => rfl

/-! ### The pages of a reader -/

theorem mem_findNotesPage {store : Store} {actor : Actor} {incidentId : Id}
    {cursor : Option TimeIdCursor} {pageSize : Nat} {row : NoteRow}
    (member : row ∈ findNotesPage store actor incidentId cursor pageSize) :
    row.incidentId = incidentId ∧
      ∃ incident ∈ store.incidents, incident.id = incidentId ∧
        canReadNotes actor incident = true := by
  obtain ⟨note, taken, rfl⟩ := List.mem_map.mp member
  obtain ⟨_, chosen⟩ :=
    List.mem_filter.mp ((Keyset.mem_sortOn _ _ _).mp (List.mem_of_mem_take taken))
  simp only [noteScopeWhere, Bool.and_eq_true, List.any_eq_true, decide_eq_true_eq] at chosen
  obtain ⟨⟨owned, incident, stored, ⟨named, visible⟩, entitled⟩, _⟩ := chosen
  refine ⟨owned, incident, stored, named.trans owned, ?_⟩
  rw [canReadNotes, canViewSeverity_eq_visibilityScope, visible, Bool.true_and]
  exact entitled

/-- The where clause repeats the policy: for a reader it selects every note of the incident. -/
theorem noteScopeWhere_reader {store : Store} {actor : Actor} {incident : Incident}
    (stored : incident ∈ store.incidents) (readable : canReadNotes actor incident = true)
    (note : InvestigationNote) :
    noteScopeWhere store actor incident.id note = decide (note.incidentId = incident.id) := by
  rw [canReadNotes, canViewSeverity_eq_visibilityScope, Bool.and_eq_true] at readable
  by_cases owned : note.incidentId = incident.id
  · simp only [noteScopeWhere, owned, decide_true, Bool.true_and, List.any_eq_true]
    refine ⟨incident, stored, ?_⟩
    rw [readable.1, readable.2]
    simp
  · simp [noteScopeWhere, owned]

/-- The pages of an incident's notes, each from the position of the last note of the one before. -/
def notesWalk (store : Store) (actor : Actor) (incidentId : Id) (pageSize turns : Nat) :
    List (List NoteRow) :=
  Keyset.walk (fun row : NoteRow => some (row.createdAt, row.id)) pageSize
    (List.replicate turns fun position : Option (Date × Id) =>
      findNotesPage store actor incidentId (position.map fun at_ => ⟨at_.1, some at_.2⟩) pageSize)
    none

theorem beforeTimeId_iff (cursor : Date × Id) (instant : Date) (id : Id) :
    beforeTimeId ⟨cursor.1, some cursor.2⟩ instant id = true ↔
      newestKey cursor.1 cursor.2 < newestKey instant id := by
  simp [beforeTimeId, newestKey, Prod.Lex.toLex_lt_toLex]

/-- For a reader, a page of the query is a page of the incident's notes. -/
theorem findNotesPage_reader {store : Store} {actor : Actor} {incident : Incident}
    (stored : incident ∈ store.incidents) (readable : canReadNotes actor incident = true)
    (position : Option (Date × Id)) (pageSize : Nat) :
    findNotesPage store actor incident.id (position.map fun at_ => ⟨at_.1, some at_.2⟩) pageSize =
      Keyset.page (fun row : NoteRow => newestKey row.createdAt row.id)
        ((store.notes.filter (·.incidentId = incident.id)).map (joinAuthor store)) pageSize
        (position.map fun at_ => newestKey at_.1 at_.2) := by
  have condition (note : InvestigationNote) : (noteScopeWhere store actor incident.id note &&
      (position.map fun at_ => (⟨at_.1, some at_.2⟩ : TimeIdCursor)).all fun position =>
        beforeTimeId position note.createdAt note.id) =
      ((position.map fun at_ => newestKey at_.1 at_.2).all
          (· < newestKey note.createdAt note.id) &&
        decide (note.incidentId = incident.id)) := by
    rw [noteScopeWhere_reader stored readable, Bool.and_comm]
    cases position with
    | none => rfl
    | some at_ =>
      have same := beforeTimeId_iff at_ note.createdAt note.id
      simp only [Option.map_some, Option.all_some]
      rw [Bool.eq_iff_iff.mpr (same.trans decide_eq_true_iff.symm)]
  unfold findNotesPage Keyset.page
  simp only [condition]
  rw [List.filter_map, ← Keyset.map_sortOn (fun note : InvestigationNote =>
    newestKey note.createdAt note.id) _ (joinAuthor store) (fun _ => rfl), ← List.map_take,
    List.filter_filter]
  rfl

theorem notesWalk_reader {store : Store} {actor : Actor} {incident : Incident}
    (ids : (store.notes.map InvestigationNote.id).Nodup) (stored : incident ∈ store.incidents)
    (readable : canReadNotes actor incident = true) {pageSize turns : Nat}
    (positive : 0 < pageSize) (enough : store.notes.length < turns) :
    (notesWalk store actor incident.id pageSize turns).flatten =
      Keyset.sortOn (fun row : NoteRow => newestKey row.createdAt row.id)
        ((store.notes.filter (·.incidentId = incident.id)).map (joinAuthor store)) := by
  have keyed : (((store.notes.filter (·.incidentId = incident.id)).map (joinAuthor store)).map
      fun row : NoteRow => newestKey row.createdAt row.id).Nodup := by
    -- the id is part of the key
    apply List.Nodup.of_map (fun key => (ofLex (OrderDual.ofDual key)).2)
    rw [List.map_map, List.map_map]
    have own : (store.notes.filter (·.incidentId = incident.id)).Sublist store.notes :=
      List.filter_sublist
    exact ids.sublist (own.map InvestigationNote.id)
  have reads := fun position => findNotesPage_reader stored readable position pageSize
  have shorter : ((store.notes.filter (·.incidentId = incident.id)).map
      (joinAuthor store)).length < turns := by
    rw [List.length_map]
    exact lt_of_le_of_lt (List.length_filter_le _ _) enough
  exact Keyset.walk_complete (Option.map fun at_ => newestKey at_.1 at_.2) keyed positive
    (fun _ _ => rfl) reads turns none rfl shorter

/-! ### Both sides -/

/-- An actor who may not read the notes of an incident gets the same responses from two databases
that differ in these notes only, and `listNotes` refuses alike. And `findNotesPage` returns notes
of an incident only to an actor who may read them, to whom its pages show every one. -/
theorem notes_confidential (platform : Platform) (actor : Actor) (store : Store)
    (incidents : (store.incidents.map Incident.id).Nodup)
    (notes : (store.notes.map InvestigationNote.id).Nodup) :
    (∀ id other, NotesHidden store actor id → SameButNotes id store other →
      (∀ target, getById platform.sign store actor target =
        getById platform.sign other actor target) ∧
      (∀ query : ListIncidentsQuery platform.js,
        list platform.search platform.ties store actor query =
          list platform.search platform.ties other actor query) ∧
      (∀ target cursor pageSize, timeline platform.js store actor target cursor pageSize =
        timeline platform.js other actor target cursor pageSize) ∧
      ∀ cursor pageSize, ∃ refusal,
        listNotes platform.js store actor id cursor pageSize = .error refusal ∧
          listNotes platform.js other actor id cursor pageSize = .error refusal) ∧
    ∀ incident ∈ store.incidents,
      (∀ cursor pageSize, ∀ row ∈ findNotesPage store actor incident.id cursor pageSize,
        row.incidentId = incident.id ∧ canReadNotes actor incident = true) ∧
      (canReadNotes actor incident = true → ∀ pageSize turns, 0 < pageSize →
        store.notes.length < turns →
        (notesWalk store actor incident.id pageSize turns).flatten =
          Keyset.sortOn (fun row : NoteRow => newestKey row.createdAt row.id)
            ((store.notes.filter (·.incidentId = incident.id)).map (joinAuthor store))) := by
  constructor
  -- Both stores are one once these notes are gone, and no read but `listNotes` looks at them.
  · intro id other hidden same
    have equal : withoutNotes id store = withoutNotes id other := same
    have rows : (withoutNotes id store).incidents = (withoutNotes id other).incidents := by
      rw [equal]
    have hiddenToo : NotesHidden other actor id := by
      intro row stored named
      exact hidden row (rows.symm ▸ stored) named
    refine ⟨?_, ?_, ?_, ?_⟩
    · intro target
      -- `getById` and `list` never look at the table of notes.
      change getById platform.sign (withoutNotes id store) actor target =
        getById platform.sign (withoutNotes id other) actor target
      rw [equal]
    · intro query
      change list platform.search platform.ties (withoutNotes id store) actor query =
        list platform.search platform.ties (withoutNotes id other) actor query
      rw [equal]
    · intro target cursor pageSize
      -- `timeline` does, and leaves out what the actor may not read.
      rw [← timeline_withoutNotes platform.js hidden, equal,
        timeline_withoutNotes platform.js hiddenToo]
    · intro cursor pageSize
      -- `assertReadAccess` refuses before the first note is fetched.
      obtain ⟨refusal, refused⟩ := assertReadAccess_hidden hidden
      have first : listNotes platform.js store actor id cursor pageSize = .error refusal := by
        simp only [listNotes, refused]
        rfl
      refine ⟨refusal, first, ?_⟩
      rw [← listNotes_withoutNotes platform.js hiddenToo, ← equal,
        listNotes_withoutNotes platform.js hidden, first]
  · intro incident stored
    constructor
    · intro cursor pageSize row member
      obtain ⟨owned, other, among, named, readable⟩ := mem_findNotesPage member
      obtain rfl := eq_of_id_eq incidents among stored named
      exact ⟨owned, readable⟩
    · intro readable pageSize turns positive enough
      exact notesWalk_reader notes stored readable positive enough

/-! ### Two notes behind one timeline -/

/-- The sample incident with one note, by its author and of the given text. -/
def notedStore (author noteId body : String) : Store :=
  { escalatedStore with
    notes := [⟨noteId, "a", author, body, 900000⟩]
    auditEvents :=
      [{ id := "added", incidentId := some "a", actorId := some author, type := .noteAdded
         fromValue := none, toValue := none, reason := none
         payload := some [("noteId", .str noteId), ("length", .num (jsLength body))]
         occurredAt := 900000 }] }

theorem notes_confidential_sample :
    (∀ cursor pageSize,
      timeline samplePlatform.js (notedStore "x" "n" "The valve is stuck")
          ⟨"manager", .triageManager, 4⟩ "a" cursor pageSize =
        timeline samplePlatform.js (notedStore "y" "m" "It leaks") ⟨"manager", .triageManager, 4⟩
          "a" cursor pageSize) ∧
    (notesWalk (notedStore "x" "n" "The valve is stuck") ⟨"manager", .admin, 4⟩ "a" 1 2).flatten =
      Keyset.sortOn (fun row : NoteRow => newestKey row.createdAt row.id)
        (((notedStore "x" "n" "The valve is stuck").notes.filter (·.incidentId = "a")).map
          (joinAuthor (notedStore "x" "n" "The valve is stuck"))) := by
  have manager := notes_confidential samplePlatform ⟨"manager", .triageManager, 4⟩
    (notedStore "x" "n" "The valve is stuck") (by decide) (by decide)
  have admin := notes_confidential samplePlatform ⟨"manager", .admin, 4⟩
    (notedStore "x" "n" "The valve is stuck") (by decide) (by decide)
  obtain ⟨_, _, pages, _⟩ := manager.1 "a" (notedStore "y" "m" "It leaks") (by decide) rfl
  have last := (admin.2 { sampleIncident "a" .critical with
    stage := .triage
    currentEscalationLevel := 1 } (by decide)).2 (by decide) 1 2 (by decide) (by decide)
  exact ⟨pages "a", last⟩

end IncidentApi.Properties
