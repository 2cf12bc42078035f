import IncidentApi.Accounts
import IncidentApi.Notes

/-!
# Adding notes among everything else

`addNote` reads the incident and its policy first and opens its transaction afterwards, so anything
may commit in between. The insert names the incident and the author by their ids and asks nothing
else of them.
-/
namespace IncidentApi

/-- An `addNote` past its checks. -/
structure NoteRequest where
  actor : Actor
  incidentId : Id
  body : TrimmedText 5 4000

/-- `addNote` up to its transaction. -/
def loadNote (store : Store) (actor : Actor) (incidentId : Id) (body : TrimmedText 5 4000) :
    Except AppError NoteRequest := do
  let incident ← assertReadAccess store actor incidentId
  if canWriteNotes actor incident.toIncident then return ⟨actor, incidentId, body⟩
  else .error (NotesClosedError incident.stage)

def NoteRequest.note (request : NoteRequest) (noteId : Id) (now : Date) : InvestigationNote :=
  ⟨noteId, request.incidentId, request.actor.id, request.body.value, now⟩

/-- The transaction of `addNote`. -/
def NoteRequest.commit (store : Store) (request : NoteRequest) (now : Date) (noteId : Id)
    (ids : Nat → Id) : Except AppError (Note × Store) := do
  let note := request.note noteId now
  let created ← createNote store note
  return (toInvestigationNote (joinAuthor created note),
    created.record [noteRecord request.actor note] ids)

/-- With nothing in between the two halves are `addNote`. -/
theorem addNote_eq (store : Store) (actor : Actor) (incidentId : Id) (body : TrimmedText 5 4000)
    (now : Date) (noteId : Id) (ids : Nat → Id) :
    addNote store actor incidentId body now noteId ids =
      loadNote store actor incidentId body >>= fun request =>
        request.commit store now noteId ids := by
  unfold addNote loadNote
  cases assertReadAccess store actor incidentId with
  | error refusal => rfl
  | ok incident =>
    simp only [bind, Except.bind]
    split <;> rfl

structure NoteSystem where
  accounts : AccountSystem
  notes : List NoteRequest

def NoteSystem.service (sys : NoteSystem) : System := sys.accounts.service

def NoteSystem.store (sys : NoteSystem) : Store := sys.service.store

def NoteSystem.withStore (sys : NoteSystem) (store : Store) : NoteSystem :=
  { sys with
    accounts := { sys.accounts with service := { sys.accounts.service with store := store } } }

inductive NoteAction where
  | account (action : AccountAction)
  | load (userId incidentId : Id) (body : TrimmedText 5 4000)
  | write (k : Nat) (now : Date) (noteId : Id) (ids : Nat → Id)
  | interrupt (k : Nat)

def noteStep (config : JobConfig) (sys : NoteSystem) : NoteAction → Option NoteSystem
  | .account action =>
    (accountStep config sys.accounts action).map fun accounts => { sys with accounts := accounts }
  | .load userId incidentId body =>
    match authenticate sys.store userId >>= fun actor =>
        loadNote sys.store actor incidentId body with
    | .ok request => some { sys with notes := sys.notes ++ [request] }
    | .error _ => some sys
  | .write k now noteId ids =>
    (sys.notes[k]?).map fun request =>
      let answered : NoteSystem := { sys with notes := sys.notes.eraseIdx k }
      -- a transaction that fails leaves the store, and its request is over
      match request.commit sys.store now noteId ids with
      | .ok result => answered.withStore result.2
      | .error _ => answered
  | .interrupt k => (sys.notes[k]?).map fun _ => { sys with notes := sys.notes.eraseIdx k }

def NoteSystem.boot (store : Store) (issued : List Id) : NoteSystem :=
  ⟨.boot store issued, []⟩

end IncidentApi
