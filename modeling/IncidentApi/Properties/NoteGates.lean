import IncidentApi.NoteTaking
import IncidentApi.Properties.Investigators

/-!
# The gates of a note at its write

`addNote` compares the incident and its author with the policy when it reads them, and its insert
compares nothing. A note meets both gates at its write in every run that takes from nobody, between
check and write, what the check has found.
-/
namespace IncidentApi.Properties

/-! ### The gates -/

/-- The actor that a request of the user is authenticated as. -/
def actorOf (user : User) : Actor := ⟨user.id, user.role, user.clearanceLevel⟩

/-- The incident is open for notes, and the author may read the notes on it. -/
def MeetsGates (store : Store) (note : InvestigationNote) : Prop :=
  ∃ row ∈ store.incidents, row.id = note.incidentId ∧
    (row.stage = .investigation ∨ row.stage = .pendingClosure) ∧
    ∃ author ∈ store.users, author.id = note.authorId ∧ canReadNotes (actorOf author) row = true

/-- The right that the check has found is still there. -/
def Writable (store : Store) (request : NoteRequest) : Prop :=
  ∃ row ∈ store.incidents, row.id = request.incidentId ∧
    ∃ author ∈ store.users, author.id = request.actor.id ∧
      canWriteNotes (actorOf author) row = true

theorem canWriteNotes_iff (actor : Actor) (row : Incident) :
    canWriteNotes actor row = true ↔
      (severityRank row.severity ≤ actor.clearanceLevel ∧
        (actor.role = .admin ∨ row.assignedInvestigatorId = some actor.id)) ∧
      (row.stage = .investigation ∨ row.stage = .pendingClosure) := by
  simp [canWriteNotes, canReadNotes, canViewSeverity]

theorem Writable.meetsGates {store : Store} {request : NoteRequest}
    (writable : Writable store request) (noteId : Id) (now : Date) :
    MeetsGates store (request.note noteId now) := by
  obtain ⟨row, stored, named, author, member, same, writes⟩ := writable
  simp only [canWriteNotes, Bool.and_eq_true, Bool.or_eq_true, decide_eq_true_eq] at writes
  exact ⟨row, stored, named, writes.2, author, member, same, writes.1⟩

/-! ### The condition -/

/-- The mutation leaves the author of a note the incident: it neither closes it nor returns it to
triage, does not take it from an author who is no administrator, and does not raise it above the
author's clearance. -/
def sparesWriter (author : User) (request : Request) : Bool :=
  match request.operation with
  | .triage | .unassignInvestigator | .approve => false
  | .changeSeverity input =>
    (strandedAssignee request.row input.severity).isNone &&
      severityRank input.severity ≤ author.clearanceLevel
  | .assignInvestigator _ =>
    author.role = .admin || (request.investigator.getD none).all (·.id = author.id)
  | .acknowledge | .propose _ | .reject _ => true

/-- The change of an account leaves its user the notes on the incident. -/
def sparesOwner (request : AccountRequest) (row : Incident) : Bool :=
  match request.change with
  | .role role => role = .admin || row.assignedInvestigatorId = some request.target.id
  | .status _ => true

/-- What commits between the check of a note and its write leaves its author the right to it. -/
def SparesWriters (sys : NoteSystem) : NoteAction → Prop
  | .account (.service (.commit k now _ _)) =>
    ∀ request ∈ sys.service.requests[k]?, (request.decide now).toBool = true →
      ∀ row ∈ sys.store.incidents, pinned request.id request.expectedVersion row = true →
        ∀ note ∈ sys.notes, note.incidentId = row.id →
          ∀ author ∈ sys.store.users, author.id = note.actor.id → sparesWriter author request = true
  | .account (.service (.commitClearance k _ _ _)) =>
    ∀ request ∈ sys.service.clearances[k]?,
      request.target.clearanceLevel ≠ request.clearance.level →
      ∀ note ∈ sys.notes,
        (∀ affected ∈ request.affected, note.incidentId ∉ affected.map (·.id)) ∧
        (note.actor.id = request.target.id → ∀ row ∈ sys.store.incidents,
          row.id = note.incidentId → severityRank row.severity ≤ request.clearance.level)
  | .account (.statement k _ _) =>
    ∀ request ∈ sys.accounts.changes[k]?, isWriting request = true →
      ∀ note ∈ sys.notes, note.actor.id = request.target.id → ∀ row ∈ sys.store.incidents,
        row.id = note.incidentId → sparesOwner request row = true
  | _ => True

/-! ### One mutation -/

/-- What an update may do to the incident of a note in the making. -/
structure LeavesWritable (author : User) (data : UpdateIncidentStateInput) : Prop where
  severity : ∀ severity, data.severity = some severity →
    severityRank severity ≤ author.clearanceLevel
  assignee : author.role = .admin ∨ data.assignedInvestigatorId = none ∨
    data.assignedInvestigatorId = some (some author.id)
  stage : data.stage = none ∨ data.stage = some .investigation ∨ data.stage = some .pendingClosure

theorem LeavesWritable.write {author : User} {data : UpdateIncidentStateInput}
    (leaves : LeavesWritable author data) (wall : Date) {row : Incident}
    (writes : canWriteNotes (actorOf author) row = true) :
    canWriteNotes (actorOf author) (data.write wall row) = true := by
  rw [canWriteNotes_iff] at writes ⊢
  simp only [actorOf] at writes ⊢
  obtain ⟨⟨cleared, gate⟩, stage⟩ := writes
  -- severity, assignee and stage: each is written within the gates or stays
  refine ⟨⟨?_, ?_⟩, ?_⟩
  · cases new : data.severity with
    | none => simpa [UpdateIncidentStateInput.write, new] using cleared
    | some severity => simpa [UpdateIncidentStateInput.write, new] using leaves.severity _ new
  · rcases leaves.assignee with isAdmin | same | own
    · exact Or.inl isAdmin
    · simpa [UpdateIncidentStateInput.write, same] using gate
    · exact Or.inr (by simp [UpdateIncidentStateInput.write, own])
  · rcases leaves.stage with same | back | forward
    · simpa [UpdateIncidentStateInput.write, same] using stage
    · exact Or.inl (by simp [UpdateIncidentStateInput.write, back])
    · exact Or.inr (by simp [UpdateIncidentStateInput.write, forward])

theorem leavesWritable {author : User} {request : Request} {now : Date} {mutation : Mutation}
    (decided : request.decide now = .ok mutation) (spares : sparesWriter author request = true) :
    LeavesWritable author mutation.data := by
  rw [Request.decide] at decided
  cases operation : request.operation with
  | triage => simp [sparesWriter, operation] at spares
  | unassignInvestigator => simp [sparesWriter, operation] at spares
  | approve => simp [sparesWriter, operation] at spares
  | changeSeverity input =>
    rw [operation] at decided
    simp only [sparesWriter, operation, Bool.and_eq_true, Option.isNone_iff_eq_none,
      decide_eq_true_eq] at spares
    obtain ⟨_, _, data, _⟩ := changeSeverity_ok decided
    simp only [spares.1, Option.isSome_none, Bool.false_and, Bool.false_eq_true, if_false] at data
    rw [data]
    exact ⟨fun _ same => Option.some.inj same ▸ spares.2, Or.inr (Or.inl rfl), Or.inl rfl⟩
  | assignInvestigator investigatorId =>
    rw [operation] at decided
    obtain ⟨_, user, read, _, _, _, data, _⟩ := assignInvestigator_ok decided
    rw [data]
    -- The author is an admin, who reads every note, or the one who is assigned.
    refine ⟨fun _ same => by simp at same, ?_, ?_⟩
    · simp only [sparesWriter, operation, read, Option.all_some, Bool.or_eq_true,
        decide_eq_true_eq] at spares
      exact spares.imp_right fun own => Or.inr (by rw [own])
    · dsimp only
      split
      · exact Or.inr (Or.inl rfl)
      · exact Or.inl rfl
  | acknowledge =>
    rw [operation] at decided
    rw [(acknowledge_ok decided).2.2.1]
    exact ⟨fun _ same => by simp at same, Or.inr (Or.inl rfl), Or.inl rfl⟩
  | propose input =>
    rw [operation] at decided
    rw [(propose_ok decided).2.2.1]
    exact ⟨fun _ same => by simp at same, Or.inr (Or.inl rfl), Or.inr (Or.inr rfl)⟩
  | reject reason =>
    rw [operation] at decided
    rw [(reject_ok decided).2.1]
    exact ⟨fun _ same => by simp at same, Or.inr (Or.inl rfl), Or.inr (Or.inl rfl)⟩

/-! ### One step -/

section Step
variable {config : JobConfig} {sys : NoteSystem}

/-- A bump leaves the columns that the policy reads. -/
theorem canWriteNotes_bumped (writes : List Write) (actor : Actor) {row : Incident}
    (allowed : canWriteNotes actor row = true) :
    canWriteNotes actor (bumpedBy writes row) = true := by
  have columns := bumpedBy_same writes row
  rw [canWriteNotes_iff] at allowed ⊢
  rw [columns.severity, columns.assignee, columns.stage]
  exact allowed

theorem service_writable {action : Action} {next : System} (inv : SnapshotInvariant sys.service)
    (spares : SparesWriters sys (.account (.service action)))
    (stepped : step config sys.service action = some next) {note : NoteRequest}
    (pending : note ∈ sys.notes) (writable : Writable sys.store note) :
    Writable next.store note := by
  obtain ⟨row, stored, named, author, member, same, writes⟩ := writable
  by_cases clearance : ∃ k now wall ids, action = .commitClearance k now wall ids
  · obtain ⟨k, now, wall, ids, rfl⟩ := clearance
    cases step_effect rfl stepped with
    | refused => exact ⟨row, stored, named, author, member, same, writes⟩
    | answeredClearance => exact ⟨row, stored, named, author, member, same, writes⟩
    | committedClearance k now wall ids request affected after found read free changes written =>
      obtain ⟨elsewhere, cleared⟩ := spares request found changes note pending
      obtain ⟨rows, rfl, _⟩ := commitClearance_ok written
      -- the cascade is about other incidents
      have untouched : cascaded request.actor request.target.id now wall affected row = row :=
        cascaded_other (named ▸ elsewhere affected read)
      refine ⟨row, List.mem_map.mpr ⟨row, stored, untouched⟩, named, ?_⟩
      rw [canWriteNotes_iff] at writes
      obtain ⟨⟨high, gate⟩, stage⟩ := writes
      refine ⟨_, List.mem_map_of_mem member, ?_, (canWriteNotes_iff _ _).mpr ⟨⟨?_, ?_⟩, stage⟩⟩
      · split <;> exact same
      · split
        next target => exact cleared (same.symm.trans target) row stored named
        · exact high
      · split <;> exact gate
  · have users : next.store.users = sys.store.users :=
      step_users stepped fun k now wall ids isClearance =>
        clearance ⟨k, now, wall, ids, isClearance⟩
    obtain ⟨rows, _, effect⟩ := (step_store inv.impacts stepped).incidents
    obtain ⟨new, later, event⟩ := effect.image stored
    refine ⟨new, later, event.id.trans named, author, users ▸ member, same, ?_⟩
    -- the author is as before, so the row decides
    cases event with
    | kept => exact writes
    | mutated k now wall ids request mutation isCommit found decided free pins logs =>
      subst isCommit
      have passes := spares request found (by simp [decided, Except.toBool]) row stored pins note
        pending named.symm author member same
      exact (leavesWritable decided passes).write wall writes
    | cascaded k now wall ids request affected incident isCommit =>
      exact absurd ⟨k, now, wall, ids, isCommit⟩ clearance
    | bumped k reading run batch => exact canWriteNotes_bumped batch.writes _ writes

theorem account_writable {action : AccountAction} {next : AccountSystem}
    (inv : SnapshotInvariant sys.service) (spares : SparesWriters sys (.account action))
    (stepped : accountStep config sys.accounts action = some next) {note : NoteRequest}
    (pending : note ∈ sys.notes) (writable : Writable sys.store note) :
    Writable next.service.store note := by
  cases accountStep_effect stepped with
  | service action after moved => exact service_writable inv spares moved pending writable
  | written k now ids request rows found writes free =>
    obtain ⟨row, stored, named, author, member, same, allowed⟩ := writable
    refine ⟨row, stored, named, if author.id = request.target.id then request.change.write author
      else author, List.mem_map_of_mem member, ?_, ?_⟩
    · split
      · exact (accountWrite_id _ author).trans same
      · exact same
    · split
      next target =>
        -- a new role must keep the gate open; the policy does not read the status
        have kept := spares request found writes note pending (same.symm.trans target) row stored
          named
        rw [canWriteNotes_iff] at allowed ⊢
        cases change : request.change with
        | role role =>
          simp only [sparesOwner, change, Bool.or_eq_true, decide_eq_true_eq] at kept
          refine ⟨⟨allowed.1.1, kept.imp_right fun assigned => assigned.trans ?_⟩, allowed.2⟩
          rw [← target]
          rfl
        | status isActive => exact allowed
      · exact allowed
  | _ => exact writable

theorem step_notes {sys next : System} {action : Action}
    (stepped : step config sys action = some next) : next.store.notes = sys.store.notes := by
  by_cases job : Action.ofJob action = true
  · cases step_job job stepped with
    | stepped k run after store reading isJob found drawn effect =>
      cases effect with
      | outside _ _ closed still tables => exact tables.notes
      | committed batch _ phase done => rw [view_eq]
      | _ => rfl
    | _ => rfl
  · cases step_effect (by simpa using job) stepped with
    | created userId input image id now wall ids actor =>
      exact (create_effect sys.store actor input image id now wall ids).notes
    | committed k now wall ids request mutation after found free decided written =>
      obtain ⟨_, rfl⟩ := commitMutation_ok _ _ _ _ _ _ _ written
      rfl
    | committedClearance k now wall ids request affected after found read free changes written =>
      obtain ⟨rows, rfl, _⟩ := commitClearance_ok written
      rfl
    | _ => rfl

theorem accountStep_notes {sys next : AccountSystem} {action : AccountAction}
    (stepped : accountStep config sys action = some next) :
    next.service.store.notes = sys.service.store.notes := by
  cases accountStep_effect stepped with
  | service action after moved => exact step_notes moved
  | _ => rfl

/-- A note that is written is the one its request asked for, with its audit row. -/
theorem noteCommit_ok {store : Store} {request : NoteRequest} {now : Date} {noteId : Id}
    {ids : Nat → Id} {result : Note × Store}
    (committed : request.commit store now noteId ids = .ok result) :
    result.2 = { store with
      notes := store.notes ++ [request.note noteId now]
      auditEvents := store.auditEvents ++
        auditRows [noteRecord request.actor (request.note noteId now)] ids } := by
  obtain ⟨created, inserted, last⟩ := bind_ok committed
  obtain rfl := Except.ok.inj last
  unfold createNote at inserted
  split at inserted
  · simp at inserted
  · obtain rfl := Except.ok.inj inserted
    rfl

theorem loadNote_writable {store : Store} {userId incidentId : Id} {body : TrimmedText 5 4000}
    {request : NoteRequest}
    (loaded : (authenticate store userId >>= fun actor => loadNote store actor incidentId body) =
      .ok request) : Writable store request := by
  obtain ⟨actor, authenticated, rest⟩ := bind_ok loaded
  obtain ⟨author, member, rfl⟩ := authenticate_ok authenticated
  obtain ⟨row, admitted, last⟩ := bind_ok rest
  split at last
  next writes =>
    obtain rfl := Except.ok.inj last
    obtain ⟨stored, named, _⟩ := getByIdForActor_ok _ _ _ _ (assertReadAccess_ok admitted).1
    exact ⟨row.toIncident, stored, named, author, member, rfl, writes⟩
  · simp at last

/-- What an action does to the notes in the making. -/
inductive NoteEffect (config : JobConfig) (sys : NoteSystem) : NoteAction → NoteSystem → Prop
  | account (action : AccountAction) (after : AccountSystem)
      (moved : accountStep config sys.accounts action = some after) :
      NoteEffect config sys (.account action) { sys with accounts := after }
  | loaded (userId incidentId : Id) (body : TrimmedText 5 4000) (request : NoteRequest)
      (admitted : (authenticate sys.store userId >>= fun actor =>
        loadNote sys.store actor incidentId body) = .ok request) :
      NoteEffect config sys (.load userId incidentId body)
        { sys with notes := sys.notes ++ [request] }
  | refused (action : NoteAction) : NoteEffect config sys action sys
  | written (k : Nat) (now : Date) (noteId : Id) (ids : Nat → Id) (request : NoteRequest)
      (result : Note × Store) (found : sys.notes[k]? = some request)
      (committed : request.commit sys.store now noteId ids = .ok result) :
      NoteEffect config sys (.write k now noteId ids)
        (NoteSystem.withStore { sys with notes := sys.notes.eraseIdx k } result.2)
  | dropped (k : Nat) (action : NoteAction) :
      NoteEffect config sys action { sys with notes := sys.notes.eraseIdx k }

theorem noteStep_effect {action : NoteAction} {next : NoteSystem}
    (stepped : noteStep config sys action = some next) : NoteEffect config sys action next := by
  cases action with
  | account action =>
    obtain ⟨accounts, moved, rfl⟩ := Option.map_eq_some_iff.mp stepped
    exact .account action accounts moved
  | load userId incidentId body =>
    simp only [noteStep] at stepped
    split at stepped
    next request admitted =>
      obtain rfl := Option.some.inj stepped
      exact .loaded userId incidentId body request admitted
    · obtain rfl := Option.some.inj stepped
      exact .refused _
  | write k now noteId ids =>
    obtain ⟨request, found, moved⟩ := Option.map_eq_some_iff.mp stepped
    dsimp only at moved
    split at moved
    next result committed =>
      subst moved
      exact .written k now noteId ids request result found committed
    · subst moved
      exact .dropped k _
  | interrupt k =>
    obtain ⟨request, found, rfl⟩ := Option.map_eq_some_iff.mp stepped
    exact .dropped k _

/-- The part of the service that handles incidents takes one of its own steps, or another part
writes to tables other than the incidents. -/
theorem noteStep_service {action : NoteAction} {next : NoteSystem}
    (stepped : noteStep config sys action = some next) :
    (∃ inner, step config sys.service inner = some next.service) ∨
    ∃ store, next.service = { sys.service with store := store } ∧
      store.incidents = sys.store.incidents ∧
      store.users.map User.id = sys.store.users.map User.id := by
  cases noteStep_effect stepped with
  | account action after moved =>
    cases accountStep_effect moved with
    | service inner after taken => exact .inl ⟨inner, taken⟩
    | written k now ids request rows found writes free =>
      exact .inr ⟨_, rfl, rfl, written_ids request _⟩
    | _ => exact .inr ⟨sys.store, rfl, rfl, rfl⟩
  | written k now noteId ids request result found committed =>
    refine .inr ⟨result.2, rfl, ?_, ?_⟩
    all_goals rw [noteCommit_ok committed]
  | _ => exact .inr ⟨sys.store, rfl, rfl, rfl⟩

/-- What holds of every note in the making. -/
structure NoteInvariant (sys : NoteSystem) : Prop where
  snapshots : SnapshotInvariant sys.service
  writable : ∀ note ∈ sys.notes, Writable sys.store note

theorem NoteInvariant.step {action : NoteAction} {next : NoteSystem} (inv : NoteInvariant sys)
    (spares : SparesWriters sys action) (stepped : noteStep config sys action = some next) :
    NoteInvariant next := by
  cases noteStep_effect stepped with
  | account action after moved =>
    exact ⟨accountStep_snapshots inv.snapshots moved, fun note pending =>
      account_writable inv.snapshots spares moved pending (inv.writable note pending)⟩
  | loaded userId incidentId body request admitted =>
    refine ⟨inv.snapshots, fun note pending => ?_⟩
    rcases List.mem_append.mp pending with old | last
    · exact inv.writable note old
    · obtain rfl := List.mem_singleton.mp last
      exact loadNote_writable admitted
  | refused => exact inv
  | written k now noteId ids request result found committed =>
    have written := noteCommit_ok committed
    -- a note changes neither users nor incidents
    simp only [NoteSystem.withStore, written]
    refine ⟨⟨?_, inv.snapshots.impacts, inv.snapshots.requests, inv.snapshots.clearances⟩,
      fun note pending => inv.writable note (List.mem_of_mem_eraseIdx pending)⟩
    exact ⟨inv.snapshots.unique.users, inv.snapshots.unique.incidents⟩
  | dropped =>
    exact ⟨inv.snapshots, fun note pending =>
      inv.writable note (List.mem_of_mem_eraseIdx pending)⟩

theorem reached_writable {start : Store} {issued : List Id} (unique : start.UniqueIds)
    (reached : Machine.Reaches (noteStep config) SparesWriters (NoteSystem.boot start issued) sys) :
    NoteInvariant sys := by
  apply reached.invariant NoteInvariant
  · exact ⟨.boot unique issued, by simp [NoteSystem.boot]⟩
  · exact fun before action after _ inv spares stepped => inv.step spares stepped

end Step

/-- A note that is committed meets both gates when it is, in every run that spares the writers. -/
theorem notes_within_gates (config : JobConfig) (start : Store) (issued : List Id)
    (unique : start.UniqueIds) (sys next : NoteSystem) (action : NoteAction)
    (reached : Machine.Reaches (noteStep config) SparesWriters (NoteSystem.boot start issued) sys)
    (stepped : noteStep config sys action = some next) :
    ∀ note ∈ next.store.notes, note ∈ sys.store.notes ∨ MeetsGates next.store note := by
  intro note member
  have inv := reached_writable unique reached
  cases noteStep_effect stepped with
  | account action after moved => exact Or.inl (accountStep_notes moved ▸ member)
  | loaded => exact Or.inl member
  | refused => exact Or.inl member
  | dropped => exact Or.inl member
  | written k now noteId ids request result found committed =>
    have writable := inv.writable request (List.mem_of_getElem? found)
    have written := noteCommit_ok committed
    obtain ⟨answer, store⟩ := result
    subst written
    rcases List.mem_append.mp member with old | last
    · exact Or.inl old
    · obtain rfl := List.mem_singleton.mp last
      exact Or.inr (writable.meetsGates noteId now)

/-! ### A note next to an approval -/

def accountsSpare (sys : NoteSystem) : AccountAction → Bool
  | .service (.commit k now _ _) =>
    (sys.service.requests[k]?).all fun request => !(request.decide now).toBool ||
      sys.store.incidents.all fun row => !pinned request.id request.expectedVersion row ||
        sys.notes.all fun note => note.incidentId ≠ row.id || sys.store.users.all fun author =>
          author.id ≠ note.actor.id || sparesWriter author request
  | .service (.commitClearance _ _ _ _) => sys.notes.isEmpty
  | .statement _ _ _ => sys.notes.isEmpty
  | _ => true

/-- The condition on the runs below, which change no account while a note is in the making. -/
def sparesWriters (sys : NoteSystem) : NoteAction → Bool
  | .account action => accountsSpare sys action
  | _ => true

theorem sparesWriters_sound (sys : NoteSystem) (action : NoteAction)
    (passed : sparesWriters sys action = true) : SparesWriters sys action := by
  unfold sparesWriters at passed
  split at passed
  next action =>
    unfold accountsSpare at passed
    split at passed
    next k now wall ids =>
      intro request found decided row stored pins note pending about author member same
      rw [Option.all_eq_true] at passed
      have holds := passed request found
      simp only [decided, Bool.not_true, Bool.false_or, List.all_eq_true, Bool.or_eq_true,
        decide_eq_true_eq] at holds
      -- The row is the pinned one, the note pending on it, and its author the same user.
      have rest := (holds row stored).resolve_left (by simp [pins])
      have last := (rest note pending).resolve_left (by simp [about])
      exact (last author member).resolve_left (by simp [same])
    · intro request found changes note pending
      simp [List.isEmpty_iff.mp passed] at pending
    · intro request found writes note pending
      simp [List.isEmpty_iff.mp passed] at pending
    next commits clears writes =>
      cases action with
      | service inner =>
        cases inner with
        | commit k now wall ids => exact absurd rfl (commits k now wall ids)
        | commitClearance k now wall ids => exact absurd rfl (clears k now wall ids)
        | _ => trivial
      | statement k now ids => exact absurd rfl (writes k now ids)
      | _ => trivial
  · cases action with
    | account action => simp_all
    | _ => trivial

def sampleNote : TrimmedText 5 4000 := ⟨"Seal replaced", by decide, by decide, by decide⟩

/-- An incident whose closure is proposed, and an investigator about to write a note on it. -/
def noteInTheMaking : List NoteAction :=
  proposedClosure.map (.account ∘ .service) ++ [.load "investigator" "i" sampleNote]

def noteWritten : NoteAction := .write 0 5 "n0" fun _ => "note"

theorem notes_within_gates_sample :
    ∃ sys next, Machine.exec (noteStep sampleConfig) sparesWriters (NoteSystem.boot staffedStore [])
        (noteInTheMaking ++ (performed sampleRejection 3 4).map (.account ∘ .service)) =
          some sys ∧
      noteStep sampleConfig sys noteWritten = some next ∧
      next.store.incidents.map (·.stage) = [.investigation] ∧
      next.store.notes.map (·.authorId) = ["investigator"] ∧
      ∀ note ∈ next.store.notes, note ∈ sys.store.notes ∨ MeetsGates next.store note := by
  have ran : (Machine.exec (noteStep sampleConfig) sparesWriters (NoteSystem.boot staffedStore [])
      (noteInTheMaking ++ (performed sampleRejection 3 4).map (.account ∘ .service))).any
        (fun sys => (noteStep sampleConfig sys noteWritten).any fun next => decide (
          next.store.incidents.map (·.stage) = [.investigation] ∧
          next.store.notes.map (·.authorId) = ["investigator"])) = true := by decide
  obtain ⟨sys, executed, rest⟩ := Option.any_eq_true _ _ |>.mp ran
  obtain ⟨next, stepped, facts⟩ := Option.any_eq_true _ _ |>.mp rest
  obtain ⟨stages, authors⟩ := of_decide_eq_true facts
  refine ⟨sys, next, executed, stepped, stages, authors, ?_⟩
  exact notes_within_gates sampleConfig staffedStore [] ⟨by decide, by decide⟩ sys next noteWritten
    (Machine.reaches_of_exec _ sparesWriters_sound _ _ _ executed) stepped

/-- The approval commits between the check and the write: the note is added to a closed incident. -/
theorem note_on_closed_incident :
    ¬ ∀ (config : JobConfig) (start : Store) (issued : List Id), start.UniqueIds →
      ∀ (sys next : NoteSystem) (action : NoteAction), Machine.Reaches (noteStep config)
        Machine.anyAction (NoteSystem.boot start issued) sys →
      noteStep config sys action = some next →
      ∀ note ∈ next.store.notes, note ∈ sys.store.notes ∨ MeetsGates next.store note := by
  intro gated
  have ran : (Machine.exec (noteStep sampleConfig) (fun _ _ => true)
      (NoteSystem.boot staffedStore [])
      (noteInTheMaking ++ (performed .approve 3 4).map (.account ∘ .service))).any
        (fun sys => (noteStep sampleConfig sys noteWritten).any fun next => decide (
          sys.store.notes = [] ∧ next.store.notes.map (·.incidentId) = ["i"] ∧
          next.store.incidents.map (·.stage) = [.closed])) = true := by decide
  obtain ⟨sys, executed, rest⟩ := Option.any_eq_true _ _ |>.mp ran
  obtain ⟨next, stepped, facts⟩ := Option.any_eq_true _ _ |>.mp rest
  obtain ⟨none, notes, stages⟩ := of_decide_eq_true facts
  obtain ⟨note, member, _⟩ : ∃ note ∈ next.store.notes, note.incidentId = "i" := by
    have about : "i" ∈ next.store.notes.map (·.incidentId) := by simp [notes]
    exact List.mem_map.mp about
  rcases gated sampleConfig staffedStore [] ⟨by decide, by decide⟩ sys next noteWritten
    (Machine.reaches_of_exec _ (fun _ _ _ => trivial) _ _ _ executed) stepped note member with
    old | ⟨row, stored, _, opened, _⟩
  · simp [none] at old
  · have closed : row.stage ∈ next.store.incidents.map (·.stage) := List.mem_map_of_mem stored
    rw [stages, List.mem_singleton] at closed
    simp [closed] at opened

end IncidentApi.Properties
