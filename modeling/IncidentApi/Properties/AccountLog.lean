import IncidentApi.Properties.EscalationRecord
import IncidentApi.Properties.NoteGates
import IncidentApi.Properties.Reconstruction

/-!
# The log of account changes

Changes of a role or a clearance are logged under no incident, in every state that the service
reaches, so no timeline meets a row that its mapper refuses.
-/
namespace IncidentApi.Properties

/-- A row of an account change names no incident. -/
def RowApart (row : AuditEvent) : Prop :=
  row.type = .userClearanceChanged ∨ row.type = .userRoleChanged → row.incidentId = none

theorem RowApart.of_type {row : AuditEvent} (clearance : row.type ≠ .userClearanceChanged)
    (role : row.type ≠ .userRoleChanged) : RowApart row := by
  rintro (isClearance | isRole)
  · exact absurd isClearance clearance
  · exact absurd isRole role

theorem AccountChangesApart.append {store after : Store} {rows : List AuditEvent}
    (apart : AccountChangesApart store) (audits : after.auditEvents = store.auditEvents ++ rows)
    (apartToo : ∀ row ∈ rows, RowApart row) : AccountChangesApart after := by
  intro event stored
  rw [audits] at stored
  rcases List.mem_append.mp stored with old | new
  · exact apart event old
  · exact apartToo event new

theorem AccountChangesApart.congr {store after : Store} (apart : AccountChangesApart store)
    (audits : after.auditEvents = store.auditEvents) : AccountChangesApart after := by
  intro event stored
  exact apart event (audits ▸ stored)

theorem auditRows_apart {entries : List CreateAuditEventInput} {ids : Nat → Id}
    (apart : ∀ entry ∈ entries, ∀ rowId, RowApart (entry.row rowId)) :
    ∀ row ∈ auditRows entries ids, RowApart row := by
  intro row member
  obtain ⟨entry, among, rowId, rfl⟩ := auditRow_input member
  exact apart entry among rowId

theorem auditRow_apart {entry : CreateAuditEventInput} {ids : Nat → Id}
    (apart : ∀ rowId, RowApart (entry.row rowId)) :
    ∀ row ∈ auditRows [entry] ids, RowApart row := by
  apply auditRows_apart
  intro other member
  exact List.mem_singleton.mp member ▸ apart

/-- Rows about an incident are about no account. -/
theorem rowsAbout_apart {id : Id} {entries : List CreateAuditEventInput} {ids : Nat → Id}
    (about : ∀ entry ∈ entries, EntryAbout id entry) :
    ∀ row ∈ auditRows entries ids, RowApart row :=
  auditRows_apart fun entry among _ =>
    .of_type (about entry among).clearance (about entry among).role

theorem cascadeAll_apart {actor : Actor} {targetId : Id} {now wall : Date} {ids : Nat → Nat → Id}
    {affected : List AssignedIncidentRow} {index : Nat} {store after : Store}
    (apart : AccountChangesApart store)
    (committed : cascadeAll actor targetId now wall ids affected index store = .ok after) :
    AccountChangesApart after := by
  induction affected generalizing index store with
  | nil => exact Except.ok.inj committed ▸ apart
  | cons incident rest ih =>
    obtain ⟨written, first, later⟩ := bind_ok committed
    obtain ⟨_, rfl⟩ := commitMutation_ok _ _ _ _ _ _ _ first
    apply ih ?_ later
    exact apart.append rfl (rowsAbout_apart (cascade_entries actor targetId incident now))

theorem commitClearance_apart {actor : Actor} {target : User} {clearance : ClearanceLevel}
    {affected : List AssignedIncidentRow} {now wall : Date} {ids : Nat → Nat → Id}
    {store after : Store} (apart : AccountChangesApart store)
    (committed : commitClearance store actor target clearance affected now wall ids = .ok after) :
    AccountChangesApart after := by
  obtain ⟨updated, found, cascading⟩ := bind_ok committed
  obtain rfl := updateUserClearance_ok found
  apply cascadeAll_apart ?_ cascading
  -- the row of the clearance itself comes before those of the cascade, and names no incident
  exact apart.append rfl (auditRow_apart fun _ _ => rfl)

/-! ### The service -/

section Service
variable {config : JobConfig} {sys next : System} {action : Action}

theorem step_accountsApart (flight : InFlight sys) (apart : AccountChangesApart sys.store)
    (stepped : step config sys action = some next) : AccountChangesApart next.store := by
  by_cases job : Action.ofJob action = true
  · cases step_job job stepped with
    | stepped k run after reading store isJob found drawn effect =>
      cases effect with
      | outside _ _ closed still tables => exact apart.congr tables.audits
      | committed batch _ phase done =>
        -- what a batch brings in are the escalations that it has logged
        have reports := flight.batches run (List.mem_of_getElem? found) batch (open_of_phase phase)
        apply apart.append (view_audits batch sys.store)
        intro row member
        have escalated := reports row (auditsOf_batch batch ▸ member)
        exact .of_type (by rw [escalated]; nofun) (by rw [escalated]; nofun)
      | _ => exact apart
    | _ => exact apart.congr rfl
  · cases step_effect (by simpa using job) stepped with
    | created userId input image id now wall ids actor =>
      have effect := create_rows sys.store actor input image id now wall ids
      generalize create sys.store actor input image id now wall ids = answer at effect
      cases effect with
      | refused error after incidents audits => exact apart.congr audits
      | created receipt after new fresh unassigned incidents audits =>
        exact apart.append audits (auditRow_apart fun _ => .of_type nofun nofun)
    | committed k now wall ids request mutation after found free decided written =>
      obtain ⟨_, rfl⟩ := commitMutation_ok _ _ _ _ _ _ _ written
      exact apart.append rfl (rowsAbout_apart (decide_entries decided))
    | committedClearance k now wall ids request affected after found read free changes written =>
      exact commitClearance_apart apart written
    | recordedDenial incidentId actorId auditId clearanceLevel now =>
      exact apart.append rfl (auditRow_apart fun _ => .of_type nofun nofun)
    | _ => exact apart.congr rfl

end Service

/-! ### Accounts and notes -/

section Machines
variable {config : JobConfig}

/-- What is kept from step to step: the store, and what the batches in flight will add to it. -/
structure LogInvariant (sys : System) : Prop where
  apart : AccountChangesApart sys.store
  flight : InFlight sys

theorem LogInvariant.withStore {sys : System} (inv : LogInvariant sys) {store : Store}
    (apart : AccountChangesApart store) : LogInvariant { sys with store := store } :=
  ⟨apart, inv.flight.requests, inv.flight.batches⟩

theorem accountStep_log {sys next : AccountSystem} {action : AccountAction}
    (inv : LogInvariant sys.service) (stepped : accountStep config sys action = some next) :
    LogInvariant next.service := by
  rcases accountStep_quiet stepped with ⟨inner, _, moved⟩ | ⟨_, store, rows, same, audits, apart⟩
  · exact ⟨step_accountsApart inv.flight inv.apart moved, inv.flight.step moved⟩
  · rw [same]
    exact inv.withStore (inv.apart.append audits fun row member _ => apart row member)

theorem noteCommit_apart {store : Store} {request : NoteRequest} {now : Date} {noteId : Id}
    {ids : Nat → Id} {result : Note × Store} (apart : AccountChangesApart store)
    (committed : request.commit store now noteId ids = .ok result) :
    AccountChangesApart result.2 := by
  rw [noteCommit_ok committed]
  exact apart.append rfl (auditRow_apart fun _ => .of_type nofun nofun)

theorem noteStep_log {sys next : NoteSystem} {action : NoteAction}
    (inv : LogInvariant sys.service) (stepped : noteStep config sys action = some next) :
    LogInvariant next.service := by
  cases noteStep_effect stepped with
  | account action after moved => exact accountStep_log inv moved
  | written k now noteId ids request result found committed =>
    exact inv.withStore (noteCommit_apart inv.apart committed)
  | loaded => exact inv
  | refused => exact inv
  | dropped => exact inv

/-- From a store whose account changes are logged apart from incidents, the service reaches only
such stores, whatever it is asked and in whatever order. -/
theorem reached_accountsApart {start : Store} {issued : List Id} {sys : NoteSystem}
    (apart : AccountChangesApart start)
    (reached : Machine.Reaches (noteStep config) Machine.anyAction (NoteSystem.boot start issued)
      sys) : AccountChangesApart sys.store := by
  have boot : LogInvariant (NoteSystem.boot start issued).service := by
    refine ⟨apart, ?_, ?_⟩
    · intro request member
      simp [NoteSystem.boot, NoteSystem.service, AccountSystem.boot, System.boot] at member
    · intro run member
      simp [NoteSystem.boot, NoteSystem.service, AccountSystem.boot, System.boot] at member
  have inv := reached.invariant (fun sys => LogInvariant sys.service) boot
    fun before action after _ inv _ stepped => noteStep_log inv stepped
  exact inv.apart

end Machines

end IncidentApi.Properties
