import IncidentApi.Listings
import IncidentApi.Notifications

/-!
# Investigation notes

`listNotes` and `addNote`, behind both gates of the note policy. The gates stand on the loaded
incident, and for a listing once more in the `where` clause of the query.
-/
namespace IncidentApi

structure NoteRow extends InvestigationNote where
  author : Option UserRef

def joinAuthor (store : Store) (note : InvestigationNote) : NoteRow :=
  { note with author := userRef store (some note.authorId) }

def noteScopeWhere (store : Store) (actor : Actor) (incidentId : Id) (note : InvestigationNote) :
    Bool :=
  note.incidentId = incidentId &&
    store.incidents.any fun incident => incident.id = note.incidentId &&
      visibilityScope actor incident &&
      (actor.role = .admin || incident.assignedInvestigatorId = some actor.id)

/-- `ORDER BY createdAt DESC, id DESC` and `ORDER BY occurredAt DESC, id DESC`. -/
def newestKey (instant : Date) (id : Id) : (Date ×ₗ Id)ᵒᵈ := OrderDual.toDual (toLex (instant, id))

def findNotesPage (store : Store) (actor : Actor) (incidentId : Id)
    (cursor : Option TimeIdCursor) (pageSize : Nat) : List NoteRow :=
  let rows := store.notes.filter fun note => noteScopeWhere store actor incidentId note &&
    cursor.all fun position => beforeTimeId position note.createdAt note.id
  ((Keyset.sortOn (fun note => newestKey note.createdAt note.id) rows).take (pageSize + 1)).map
    (joinAuthor store)

structure Note where
  id : Id
  incidentId : Id
  author : Option UserRef
  body : String
  createdAt : Date
  deriving DecidableEq, Repr

def toInvestigationNote (row : NoteRow) : Note where
  id := row.id
  incidentId := row.incidentId
  author := row.author
  body := row.body
  createdAt := row.createdAt

def assertReadAccess (store : Store) (actor : Actor) (incidentId : Id) :
    Except AppError TriageIncidentRow := do
  let incident ← getByIdForActor store actor incidentId
  if canReadNotes actor incident.toIncident then return incident
  else .error (NotAssignedInvestigatorError incidentId)

theorem assertReadAccess_ok {store : Store} {actor : Actor} {incidentId : Id}
    {row : TriageIncidentRow} (passed : assertReadAccess store actor incidentId = .ok row) :
    getByIdForActor store actor incidentId = .ok row ∧
      canReadNotes actor row.toIncident = true := by
  unfold assertReadAccess at passed
  cases loaded : getByIdForActor store actor incidentId with
  | error refusal =>
    rw [loaded] at passed
    simp [bind, Except.bind] at passed
  | ok incident =>
    simp only [loaded, bind, Except.bind] at passed
    split at passed
    next readable =>
      obtain rfl := Except.ok.inj passed
      exact ⟨rfl, readable⟩
    · simp at passed

def listNotes (js : JsRuntime) (store : Store) (actor : Actor) (incidentId : Id)
    (cursorRaw : Option String) (pageSize : Nat) : Except AppError (CursorPage Note) := do
  -- The policy first: the query below repeats it, but answers an empty page and no error.
  let _ ← assertReadAccess store actor incidentId
  let cursor ← decodeOptional (decodeCreatedAtIdCursor js) cursorRaw
  return cursorPage (findNotesPage store actor incidentId cursor pageSize) pageSize
    toInvestigationNote fun row => encodeCreatedAtIdCursor js row.createdAt row.id

/-! ### Adding a note -/

def createNote (store : Store) (note : InvestigationNote) : Except AppError Store :=
  -- the primary key
  if store.notes.any (·.id = note.id) then .error InternalError
  else .ok { store with notes := store.notes ++ [note] }

/-- The body stays out of the payload, which the timeline shows. -/
def noteRecord (actor : Actor) (note : InvestigationNote) : CreateAuditEventInput where
  incidentId := some note.incidentId
  actorId := some actor.id
  type := .noteAdded
  payload := some [("noteId", .str note.id), ("length", .num (jsLength note.body))]
  occurredAt := note.createdAt

/-- The note is answered, and committed with its audit row. -/
def addNote (store : Store) (actor : Actor) (incidentId : Id) (body : TrimmedText 5 4000)
    (now : Date) (noteId : Id) (ids : Nat → Id) : Except AppError (Note × Store) := do
  let incident ← assertReadAccess store actor incidentId
  if canWriteNotes actor incident.toIncident then
    let note := ⟨noteId, incidentId, actor.id, body.value, now⟩
    let created ← createNote store note
    return (toInvestigationNote (joinAuthor created note),
      created.record [noteRecord actor note] ids)
  else .error (NotesClosedError incident.stage)

end IncidentApi
