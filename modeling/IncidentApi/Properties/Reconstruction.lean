import IncidentApi.Properties.AuditTrail

/-!
# The audit trail reconstructs the incident

Every write to an incident commits with the audit rows that tell it, so in any run whose requests
overwrite what they read the trail of an incident, replayed from its creation, ends in the stored
row. A request that is refused leaves nothing, but for the denial of a 403.
-/
namespace IncidentApi.Properties

open EventLog

/-! ### What one step adds to the trails -/

/-- A row after the step is an old one, which its new audit rows lead to, or one that the step
has created, which they reconstruct. -/
structure TrailStep (sys next : System) (rows : List AuditEvent) : Prop where
  audits : next.store.auditEvents = sys.store.auditEvents ++ rows
  incidents : ∀ new ∈ next.store.incidents,
    (∃ old ∈ sys.store.incidents, old.id = new.id ∧
      replay replayRow (trail rows old.id) (traced old) = some (traced new)) ∨
    (∀ old ∈ sys.store.incidents, old.id ≠ new.id) ∧
      reconstruct (trail rows new.id) = some (traced new)
  creations : ∀ row ∈ rows, row.type = .incidentCreated → ∀ id, row.incidentId = some id →
    ∃ new ∈ next.store.incidents, new.id = id

section Step
variable {config : JobConfig} {sys next : System} {action : Action}

/-- A step whose audit rows tell nothing of the columns that it leaves alone. -/
theorem TrailStep.of_silent {rows : List AuditEvent} (change : Incident → Incident)
    (audits : next.store.auditEvents = sys.store.auditEvents ++ rows)
    (silent : ∀ row ∈ rows, tells row.type = false)
    (incidents : next.store.incidents = sys.store.incidents.map change)
    (same : ∀ row, (change row).id = row.id ∧ traced (change row) = traced row) :
    TrailStep sys next rows := by
  refine ⟨audits, ?_, ?_⟩
  · intro new member
    obtain ⟨old, stored, rfl⟩ := List.mem_map.mp (incidents ▸ member)
    refine Or.inl ⟨old, stored, (same old).1.symm, ?_⟩
    rw [(same old).2]
    apply replay_silent
    intro row among state
    exact replayRow_silent row (silent row (mem_about.mp among).1) state
  · intro row member created
    have unread := silent row member
    simp [created, tells] at unread

theorem still_trail (audits : next.store.auditEvents = sys.store.auditEvents)
    (incidents : next.store.incidents = sys.store.incidents) :
    ∃ rows, TrailStep sys next rows := by
  refine ⟨[], .of_silent id ?_ (by simp) ?_ fun _ => ⟨rfl, rfl⟩⟩
  · rw [audits, List.append_nil]
  · rw [incidents, List.map_id]

/-! ### Creation -/

/-- What `create` answers, with what it leaves of the incidents and of the audit log. -/
inductive CreateRows (store : Store) (actor : Actor) (now : Date) (ids : Nat → Id) :
    Except AppError IncidentReceipt × Store → Prop
  | refused (error : AppError) (after : Store) (incidents : after.incidents = store.incidents)
      (audits : after.auditEvents = store.auditEvents) :
      CreateRows store actor now ids (.error error, after)
  | created (receipt : IncidentReceipt) (after : Store) (new : Incident)
      (fresh : ∀ old ∈ store.incidents, old.id ≠ new.id)
      (unassigned : new.assignedInvestigatorId = none)
      (incidents : after.incidents = store.incidents ++ [new])
      (audits : after.auditEvents =
        store.auditEvents ++ auditRows [creationRecord actor new now] ids) :
      CreateRows store actor now ids (.ok receipt, after)

theorem create_rows (store : Store) (actor : Actor) (input : CreateIncidentRequest)
    (image : Upload) (id : Id) (now wall : Date) (ids : Nat → Id) :
    CreateRows store actor now ids (create store actor input image id now wall ids) := by
  have inserted : ∀ imagePath, CreateRows store actor now ids
      (create.insert store actor input id now wall ids imagePath) := by
    intro imagePath
    simp only [create.insert]
    split
    · exact .refused _ _ rfl rfl
    next free =>
      refine .created _ _ _ ?_ rfl rfl rfl
      intro old stored same
      have named : old.id = id := same
      exact free (List.any_eq_true.mpr ⟨old, stored, by simp [named]⟩)
  unfold create
  split
  · exact .refused _ _ rfl rfl
  · split
    · exact .refused _ _ rfl rfl
    · exact inserted none
  · exact inserted _

theorem reconstruct_created (actor : Actor) {new : Incident} (now : Date) (ids : Nat → Id)
    (unassigned : new.assignedInvestigatorId = none) :
    reconstruct (auditRows [creationRecord actor new now] ids) = some (traced new) := by
  have born : createdAs ((creationRecord actor new now).row (ids 0)) = some (traced new) := by
    simp [createdAs, creationRecord, CreateAuditEventInput.row, Json.field, traced, unassigned]
  have starts : reconstruct (auditRows [creationRecord actor new now] ids) =
      (createdAs ((creationRecord actor new now).row (ids 0))).bind (replay replayRow []) := rfl
  rw [starts, born]
  rfl

theorem create_trail {actor : Actor} {now : Date} {ids : Nat → Id} {new : Incident}
    (fresh : ∀ old ∈ sys.store.incidents, old.id ≠ new.id)
    (unassigned : new.assignedInvestigatorId = none)
    (incidents : next.store.incidents = sys.store.incidents ++ [new])
    (audits : next.store.auditEvents =
      sys.store.auditEvents ++ auditRows [creationRecord actor new now] ids) :
    TrailStep sys next (auditRows [creationRecord actor new now] ids) := by
  have among : ∀ row, row ∈ auditRows [creationRecord actor new now] ids →
      row.incidentId = some new.id := by
    intro row member
    obtain ⟨entry, inside, rowId, rfl⟩ := auditRow_input member
    rw [List.mem_singleton.mp inside]
    rfl
  have last : new ∈ next.store.incidents := by simp [incidents]
  refine ⟨audits, ?_, ?_⟩
  · intro row member
    rw [incidents] at member
    rcases List.mem_append.mp member with stored | isNew
    · refine Or.inl ⟨row, stored, rfl, ?_⟩
      have none : trail (auditRows [creationRecord actor new now] ids) row.id = [] := by
        apply about_none
        intro event inside named
        exact fresh row stored (Option.some.inj (named.symm.trans (among event inside)))
      rw [none]
      rfl
    · obtain rfl := List.mem_singleton.mp isNew
      refine Or.inr ⟨fresh, ?_⟩
      rw [trail, about_own among]
      exact reconstruct_created actor now ids unassigned
  · intro row member _ id named
    exact ⟨new, last, Option.some.inj ((among row member).symm.trans named)⟩

/-! ### Mutations and clearance changes -/

/-- The assignee that a load has joined in is the one its incident names. -/
def Joined (row : TriageIncidentRow) : Prop :=
  ∀ assignee ∈ row.assignee, row.assignedInvestigatorId = some assignee.id

theorem joinAssignee_joined (store : Store) (row : Incident) : Joined (joinAssignee store row) := by
  intro assignee joined
  obtain ⟨id, names, found⟩ := Option.bind_eq_some_iff.mp joined
  obtain ⟨user, isUser, rfl⟩ := Option.map_eq_some_iff.mp found
  have same : user.id = id := by simpa using List.find?_some isUser
  exact names.trans (congrArg some same.symm)

/-- The write overwrites the row that was loaded, so what was decided on that row holds of it. -/
theorem commit_trail {request : Request} {now wall : Date} {ids : Nat → Id} {mutation : Mutation}
    (inv : SnapshotInvariant sys) (pending : request ∈ sys.requests)
    (joined : Joined request.row) (pins : PinsWhatItRead sys request)
    (decided : request.decide now = .ok mutation)
    (committed : commitMutation sys.store request.id request.expectedVersion mutation wall ids =
      .ok next.store) :
    TrailStep sys next (auditRows mutation.records ids) := by
  have entries := decide_entries decided
  obtain ⟨⟨found, inside, named, version, _⟩, after⟩ := commitMutation_ok _ _ _ _ _ _ _ committed
  refine ⟨by rw [after], ?_, ?_⟩
  · intro new member
    rw [after] at member
    obtain ⟨old, stored, rfl⟩ := List.mem_map.mp member
    by_cases matched : pinned request.id request.expectedVersion old = true
    · rw [if_pos matched]
      refine Or.inl ⟨old, stored, rfl, ?_⟩
      have same := (inv.follows pending stored matched).same (pins old stored matched).symm
      have before : traced request.row.toIncident = traced old :=
        protected_congr traced (fun _ => rfl) same
      have written : traced (mutation.data.write wall request.row.toIncident) =
          traced (mutation.data.write wall old) :=
        protected_congr traced (fun _ => rfl) (write_protected mutation.data wall same)
      rw [((pinned_iff _ _ _).mp matched).1, trail_auditRows entries, replay_auditRows, ← before,
        ← written]
      exact decide_replays joined decided wall
    · rw [if_neg matched]
      refine Or.inl ⟨old, stored, rfl, ?_⟩
      -- one row was pinned, and no other has its id
      have differs : old.id ≠ request.id := by
        intro same
        apply matched
        rw [eq_of_id_eq inv.unique.incidents stored inside (same.trans named.symm)]
        exact (pinned_iff _ _ _).mpr ⟨named, version⟩
      rw [trail_auditRows_other entries differs]
      rfl
  · intro row member created
    obtain ⟨entry, among, rowId, rfl⟩ := auditRow_input member
    exact absurd created (entries entry among).created

theorem clearance_trail {request : ClearanceRequest} {affected : List AssignedIncidentRow}
    {now wall : Date} {ids : Nat → Nat → Id} (inv : SnapshotInvariant sys)
    (pending : request ∈ sys.clearances) (read : request.affected = some affected)
    (committed : commitClearance sys.store request.actor request.target request.clearance affected
      now wall ids = .ok next.store) :
    ∃ rows, TrailStep sys next rows := by
  have distinct := inv.impacts request pending affected read
  obtain ⟨rows, audits, cascades⟩ := commitClearance_rows distinct committed
  have pins := commitClearance_pins distinct committed
  obtain ⟨_, after, _⟩ := commitClearance_ok committed
  refine ⟨rows, audits, ?_, ?_⟩
  · intro new member
    rw [after] at member
    obtain ⟨old, stored, rfl⟩ := List.mem_map.mp member
    by_cases listed : old.id ∈ affected.map (·.id)
    · obtain ⟨incident, among, same⟩ := List.mem_map.mp listed
      obtain ⟨found, inside, pinsFound⟩ := pins incident among
      obtain rfl := eq_of_id_eq inv.unique.incidents inside stored
        (((pinned_iff _ _ _).mp pinsFound).1.trans same)
      rw [cascaded_listed request.actor request.target.id now wall distinct among pinsFound]
      refine Or.inl ⟨found, stored, rfl, ?_⟩
      -- the row the impact query returned, at the version it returned
      obtain ⟨seen, rfl, _, assigned, isSeen⟩ :=
        inv.clearances request pending affected read incident among
      obtain ⟨named, version⟩ := (pinned_iff _ _ _).mp pinsFound
      have current := (isSeen.follows inv.unique.incidents inside named).same version.symm
      have before : traced seen = traced found := protected_congr traced (fun _ => rfl) current
      obtain ⟨names, own⟩ := cascades.listed _ among
      rw [same.symm, own, replay_auditRows, ← before,
        cascade_replays request.actor request.target.id now wall assigned]
      exact congrArg some (protected_congr traced (fun _ => rfl)
        (write_protected _ wall current))
    · rw [cascaded_other listed]
      refine Or.inl ⟨old, stored, rfl, ?_⟩
      rw [cascades.other old.id listed]
      rfl
  · intro row member created id named
    exact absurd created (cascades.late member named)

/-! ### Every step -/

/-- What the steps so far guarantee of what is in flight. -/
structure InFlight (sys : System) : Prop where
  requests : ∀ request ∈ sys.requests, Joined request.row
  batches : ∀ run ∈ sys.runs, ∀ batch, run.open? = some batch → ReportsEscalations batch

theorem InFlight.step (flight : InFlight sys) (stepped : step config sys action = some next) :
    InFlight next := by
  constructor
  · apply step_loaded Joined stepped flight.requests
    intro row _
    exact joinAssignee_joined sys.store row
  · apply step_batches stepped flight.batches
    intro k run after reading isJob found effect
    exact effect.reports (flight.batches run (List.mem_of_getElem? found))

theorem step_trail (inv : SnapshotInvariant sys) (flight : InFlight sys)
    (pins : OnCommit PinsWhatItRead sys action) (stepped : step config sys action = some next) :
    ∃ rows, TrailStep sys next rows := by
  by_cases job : Action.ofJob action = true
  · cases step_job job stepped with
    | stepped k run after store reading isJob found drawn effect =>
      cases effect with
      | outside _ _ closed still tables => exact still_trail tables.audits tables.incidents
      | committed batch _ phase done =>
        have reports := flight.batches run (List.mem_of_getElem? found) batch (open_of_phase phase)
        refine ⟨_, .of_silent (bumpedBy batch.writes) (view_audits batch sys.store) ?_ ?_ ?_⟩
        · intro row member
          rw [reports row (auditsOf_batch batch ▸ member)]
          rfl
        · rw [view_eq]
        · intro row
          exact ⟨(bumpedBy_same batch.writes row).id,
            protected_congr traced (fun _ => rfl) (bumpedBy_protected batch.writes row)⟩
      | _ => exact still_trail rfl rfl
    | _ => exact still_trail rfl rfl
  · cases step_effect (by simpa using job) stepped with
    | created userId input image id now wall ids actor =>
      have effect := create_rows sys.store actor input image id now wall ids
      generalize create sys.store actor input image id now wall ids = answer at effect
      cases effect with
      | refused error after incidents audits => exact still_trail audits incidents
      | created receipt after new fresh unassigned incidents audits =>
        exact ⟨_, create_trail fresh unassigned incidents audits⟩
    | committed k now wall ids request mutation after found free decided written =>
      have pending := List.mem_of_getElem? found
      exact ⟨_, commit_trail inv pending (flight.requests request pending) (pins request found)
        decided written⟩
    | committedClearance k now wall ids request affected after found read free changes written =>
      exact clearance_trail inv (List.mem_of_getElem? found) read written
    | recordedDenial =>
      refine ⟨_, .of_silent id rfl ?_ (List.map_id _).symm fun _ => ⟨rfl, rfl⟩⟩
      intro row member
      obtain ⟨entry, among, rowId, rfl⟩ := auditRow_input member
      rw [List.mem_singleton.mp among]
      rfl
    -- the reads of requests, what was undone, and two writes to other tables
    | _ => exact still_trail rfl rfl

/-! ### Versions and refusals -/

/-- A version moves by one, in a step that appends an audit row of that incident. -/
def VersionsLogged (old new : Store) : Prop :=
  ∃ rows, new.auditEvents = old.auditEvents ++ rows ∧
    ∀ before ∈ old.incidents, ∀ after ∈ new.incidents, after.id = before.id →
      after.version ≠ before.version →
        after.version = before.version + 1 ∧ ∃ row ∈ rows, row.incidentId = some before.id

theorem RowEvent.logged {rows : List AuditEvent} {old new : Incident}
    (event : RowEvent sys action rows old new) (moved : new.version ≠ old.version) :
    new.version = old.version + 1 ∧ ∃ row ∈ rows, row.incidentId = some old.id := by
  have written {mutation : Mutation} (logs : Logs rows mutation)
      (nonempty : mutation.records ≠ [])
      (entries : ∀ entry ∈ mutation.records, EntryAbout old.id entry) :
      ∃ row ∈ rows, row.incidentId = some old.id := by
    obtain ⟨entry, among⟩ := List.exists_mem_of_ne_nil _ nonempty
    obtain ⟨id, found⟩ := logs entry among
    exact ⟨_, found, (entries entry among).named⟩
  cases event with
  | kept => exact absurd rfl moved
  | mutated k now wall ids request mutation isCommit found decided free pins logs =>
    have named := ((pinned_iff _ _ _).mp pins).1
    exact ⟨rfl, written logs (decide_records_ne decided) (named ▸ decide_entries decided)⟩
  | cascaded k now wall ids request affected incident isCommit found read among free pins logs =>
    have named := ((pinned_iff _ _ _).mp pins).1
    refine ⟨rfl, written logs ?_ (named ▸ cascade_entries _ _ _ _)⟩
    simp [cascade]
  | bumped k reading run batch isJob found opened done =>
    exact absurd (protected_congr Incident.version (fun _ => rfl)
      (bumpedBy_protected batch.writes old)) moved

theorem step_logged (inv : SnapshotInvariant sys) (stepped : step config sys action = some next) :
    VersionsLogged sys.store next.store := by
  obtain ⟨rows, audits, effect⟩ := (step_store inv.impacts stepped).incidents
  refine ⟨rows, audits, ?_⟩
  intro before stored after member named moved
  rcases effect.origin member with ⟨old, origin, event⟩ | ⟨_, _, _, _, _, _, _, rfl, fresh⟩
  · obtain rfl := eq_of_id_eq inv.unique.incidents origin stored (event.id.symm.trans named)
    exact event.logged moved
  · exact absurd named.symm (fresh before stored)

/-- The reads of a request; nothing of it is committed yet. -/
def isRead : Action → Bool
  | .load .. | .readInvestigator _ | .loadClearance .. | .readImpact _ => true
  | _ => false

def failure {T : Type} : Except AppError T → Option AppError
  | .ok _ => none
  | .error error => some error

/-- The error that the transaction of a request is answered with. -/
def refusal (sys : System) : Action → Option AppError
  | .create userId input image id now wall ids =>
    failure (authenticate sys.store userId >>= fun actor =>
      (create sys.store actor input image id now wall ids).1)
  | .commit k now wall ids =>
    (sys.requests[k]?).bind fun request => failure (commitRequest sys.store request now wall ids)
  | .commitClearance k now wall ids =>
    (sys.clearances[k]?).bind fun request => request.affected.bind fun affected =>
      if request.target.clearanceLevel = request.clearance.level then none
      else failure (commitClearance sys.store request.actor request.target request.clearance
        affected now wall ids)
  | _ => none

theorem failure_eq_some {T : Type} {result : Except AppError T} {error : AppError} :
    failure result = some error ↔ result = .error error := by
  cases result <;> simp [failure]

/-- Neither an incident row nor an audit row is written. -/
def LeavesNothing (old new : Store) : Prop :=
  new.incidents = old.incidents ∧ new.auditEvents = old.auditEvents

theorem read_leaves_nothing (read : isRead action = true)
    (stepped : step config sys action = some next) : LeavesNothing sys.store next.store := by
  have service : Action.ofJob action = false := by
    cases action <;> simp_all [isRead, Action.ofJob]
  cases step_effect service stepped with
  | created | committed | committedClearance | recordedDenial => simp [isRead] at read
  | _ => exact ⟨rfl, rfl⟩

theorem refused_leaves_nothing {error : AppError} (refused : refusal sys action = some error)
    (stepped : step config sys action = some next) : LeavesNothing sys.store next.store := by
  cases action with
  | create userId input image id now wall ids =>
    rcases accept_cases stepped with rfl | ⟨actor, isActor, rfl⟩
    · exact ⟨rfl, rfl⟩
    · have failed : (create sys.store actor input image id now wall ids).1 = .error error := by
        have answer := failure_eq_some.mp refused
        rwa [isActor] at answer
      -- The transaction of a refused creation leaves neither an incident nor a row of the log.
      have effect := create_rows sys.store actor input image id now wall ids
      generalize create sys.store actor input image id now wall ids = answer at effect failed
      cases effect with
      | refused error after incidents audits => exact ⟨incidents, audits⟩
      | created receipt after new fresh unassigned incidents audits => simp at failed
  | commit k now wall ids =>
    obtain ⟨request, found, committed⟩ := Option.bind_eq_some_iff.mp stepped
    rw [refusal, found, Option.bind_some, failure_eq_some] at refused
    split at committed
    · simp at committed
    · rw [refused] at committed
      obtain rfl := Option.some.inj committed
      exact ⟨rfl, rfl⟩
  | commitClearance k now wall ids =>
    obtain ⟨request, found, impact⟩ := Option.bind_eq_some_iff.mp stepped
    obtain ⟨affected, read, committed⟩ := Option.bind_eq_some_iff.mp impact
    rw [refusal, found, Option.bind_some, read, Option.bind_some] at refused
    split at committed
    · simp at committed
    -- An unchanged clearance is answered without a transaction and is no refusal.
    · split at committed
      next same => simp [same] at refused
      next changes =>
        rw [if_neg changes, failure_eq_some] at refused
        rw [refused] at committed
        obtain rfl := Option.some.inj committed
        exact ⟨rfl, rfl⟩
  | _ => simp [refusal] at refused

/-! ### Every reachable state -/

/-- `INCIDENT_CREATED` rows name stored incidents, as the foreign key of their table demands. -/
def CreationsStored (store : Store) : Prop :=
  ∀ event ∈ store.auditEvents, event.type = .incidentCreated → ∀ id, event.incidentId = some id →
    ∃ row ∈ store.incidents, row.id = id

structure TrailInvariant (start : Store) (sys : System) : Prop where
  flight : InFlight sys
  creations : CreationsStored sys.store
  rebuilt : ∀ row ∈ sys.store.incidents, row.id ∉ start.incidents.map Incident.id →
    reconstruct (trail sys.store.auditEvents row.id) = some (traced row)

theorem TrailInvariant.step {start : Store} (trails : TrailInvariant start sys)
    (inv : SnapshotInvariant sys) (pins : OnCommit PinsWhatItRead sys action)
    (stepped : step config sys action = some next) : TrailInvariant start next := by
  obtain ⟨rows, moved⟩ := step_trail inv trails.flight pins stepped
  refine ⟨trails.flight.step stepped, ?_, ?_⟩
  · intro event member created id named
    rw [moved.audits] at member
    rcases List.mem_append.mp member with old | new
    · obtain ⟨row, stored, rfl⟩ := trails.creations event old created id named
      exact step_keeps_row inv.impacts stepped stored
    · exact moved.creations event new created id named
  · intro new member created
    rw [moved.audits, trail, about_append]
    rcases moved.incidents new member with ⟨old, stored, same, replayed⟩ | ⟨fresh, rebuilt⟩
    · have before := trails.rebuilt old stored (same ▸ created)
      rw [same] at before replayed
      exact (rebuild_append before _).trans replayed
    -- a new id: no row of the log so far is of its creation
    · refine (rebuild_unborn ?_ _).trans rebuilt
      intro event among
      obtain ⟨inside, named⟩ := mem_about.mp among
      by_contra born
      have isCreated : event.type = .incidentCreated := by simpa [isCreation] using born
      obtain ⟨row, stored, same⟩ := trails.creations event inside isCreated new.id named
      exact fresh row stored same

end Step

theorem reached_trails {config : JobConfig} {start : Store} {issued : List Id}
    (unique : start.UniqueIds) (creations : CreationsStored start) {sys : System}
    (reached : Machine.Reaches (step config) (OnCommit IfMatchNotAhead)
      (System.boot start issued) sys) : TrailInvariant start sys := by
  have base : TrailInvariant start (System.boot start issued) := by
    refine ⟨⟨by simp [System.boot], by simp [System.boot]⟩, creations, ?_⟩
    intro row stored created
    exact absurd (List.mem_map_of_mem stored) created
  refine reached.invariant (TrailInvariant start) base ?_ sys
  intro before action after earlier trails notAhead stepped
  have inv := reached_snapshots unique earlier
  exact trails.step inv (IfMatchNotAhead.pinsRead inv notAhead) stepped

/-! ### The property -/

/-- The denial that `loadForActorOrThrow` sends off with a refusal for clearance. -/
def denialSent (store : Store) (userId id : Id) (refused : AppError) (auditId : Id) (now : Date) :
    Option Action :=
  if refused = InsufficientClearanceError id then
    (authenticate store userId).toOption.map fun actor =>
      .recordDenial id actor.id auditId actor.clearanceLevel now
  else none

/-- Nothing is written but, at most, one `ACCESS_DENIED` row of the incident. -/
def LeavesDenial (id : Id) (old new : Store) : Prop :=
  LeavesNothing old new ∨
    new.incidents = old.incidents ∧ ∃ row, row.type = .accessDenied ∧
      row.incidentId = some id ∧ new.auditEvents = old.auditEvents ++ [row]

theorem denial_leaves {config : JobConfig} {sys next : System}
    {incidentId actorId auditId : Id} {clearanceLevel : Nat} {now : Date}
    (stepped : step config sys (.recordDenial incidentId actorId auditId clearanceLevel now) =
      some next) : LeavesDenial incidentId sys.store next.store := by
  simp only [step] at stepped
  split at stepped <;> obtain rfl := Option.some.inj stepped
  · exact Or.inl ⟨rfl, rfl⟩
  · exact Or.inr ⟨rfl, _, rfl, rfl, rfl⟩

/-- In any run whose `If-Match` values are at most the loaded versions: the trail of an incident
that the run created reconstructs it; every version is logged in its own transaction; the reads
of a request and a transaction that is refused leave nothing, and what a refused load sends off
leaves at most the denial of a 403. -/
theorem audit_trail_reconstructs (config : JobConfig) (start : Store) (issued : List Id)
    (unique : start.UniqueIds) (creations : CreationsStored start) (sys : System)
    (reached : Machine.Reaches (step config) (OnCommit IfMatchNotAhead)
      (System.boot start issued) sys) :
    (∀ row ∈ sys.store.incidents, row.id ∉ start.incidents.map Incident.id →
      reconstruct (trail sys.store.auditEvents row.id) = some (traced row)) ∧
    (∀ action next, step config sys action = some next →
      VersionsLogged sys.store next.store ∧
      (isRead action = true ∨ refusal sys action ≠ none →
        LeavesNothing sys.store next.store)) ∧
    ∀ userId operation id expectedVersion refused,
      loadRequest sys.store userId operation id expectedVersion = .error refused →
      ∀ auditId now, ∀ denial ∈ denialSent sys.store userId id refused auditId now,
        refused = InsufficientClearanceError id ∧
        ∀ later next, step config later denial = some next →
          LeavesDenial id later.store next.store := by
  have inv := reached_snapshots unique reached
  refine ⟨(reached_trails unique creations reached).rebuilt, ?_, ?_⟩
  · intro action next stepped
    refine ⟨step_logged inv stepped, ?_⟩
    rintro (read | refused)
    · exact read_leaves_nothing read stepped
    · obtain ⟨error, answered⟩ := Option.ne_none_iff_exists'.mp refused
      exact refused_leaves_nothing answered stepped
  · intro userId operation id expectedVersion refused _ auditId now denial sent
    unfold denialSent at sent
    split at sent
    next denied =>
      obtain ⟨actor, _, rfl⟩ := Option.map_eq_some_iff.mp sent
      exact ⟨denied, fun later next stepped => denial_leaves stepped⟩
    · simp at sent

/-- A closed incident with a lost race on its way and a denial in its log. -/
theorem audit_trail_reconstructs_sample :
    ∃ sys, Machine.exec (step sampleConfig)
        (onCommit fun sys request => decide (IfMatchNotAhead sys request))
        (System.boot staffedStore [])
        (closedIncident ++ [.recordDenial "i" "investigator" "denied" 1 5]) = some sys ∧
      sys.store.incidents.map traced = [⟨.closed, .high, some "investigator"⟩] ∧
      ∀ row ∈ sys.store.incidents, row.id ∉ staffedStore.incidents.map Incident.id →
        reconstruct (trail sys.store.auditEvents row.id) = some (traced row) := by
  have ran : (Machine.exec (step sampleConfig)
      (onCommit fun sys request => decide (IfMatchNotAhead sys request))
      (System.boot staffedStore [])
      (closedIncident ++ [.recordDenial "i" "investigator" "denied" 1 5])).any (fun sys =>
        sys.store.incidents.map traced = [⟨.closed, .high, some "investigator"⟩]) = true := by
    decide
  obtain ⟨sys, executed, columns⟩ := Option.any_eq_true _ _ |>.mp ran
  refine ⟨sys, executed, of_decide_eq_true columns, ?_⟩
  exact (audit_trail_reconstructs sampleConfig staffedStore [] ⟨by decide, by decide⟩
    (by simp [CreationsStored, staffedStore, sampleStore]) sys
    (Machine.reaches_of_exec _ (onCommit_sound fun _ _ => of_decide_eq_true) _ _ _ executed)).1

/-! ### A refusal that leaves an audit row -/

/-- A mutation that is refused at its load, with what it sends off. -/
def refusedSteps (store : Store) (userId : Id) (operation : Operation) (id : Id)
    (expectedVersion : Nat) (refused : AppError) (auditId : Id) (now : Date) : List Action :=
  .load userId operation id expectedVersion ::
    (denialSent store userId id refused auditId now).toList

def juniorManager : User :=
  ⟨"junior", "junior@example.com", "Junior", .triageManager, 1, true, 0⟩

def juniorStore : Store := { staffedStore with users := [sampleAdmin, juniorManager] }

/-- A triage manager whose clearance does not cover the incident is refused, and an
`ACCESS_DENIED` row of the incident stays behind. -/
theorem refused_load_leaves_denial :
    ¬ ∀ (config : JobConfig) (start : Store) (issued : List Id), start.UniqueIds →
      CreationsStored start → ∀ sys, Machine.Reaches (step config) (OnCommit IfMatchNotAhead)
        (System.boot start issued) sys →
      ∀ userId operation id expectedVersion refused,
        loadRequest sys.store userId operation id expectedVersion = .error refused →
        ∀ auditId now next, Machine.exec (step config) (fun _ _ => true) sys
          (refusedSteps sys.store userId operation id expectedVersion refused auditId now) =
            some next → LeavesNothing sys.store next.store := by
  intro leavesNothing
  have ran : (Machine.exec (step sampleConfig)
      (onCommit fun sys request => decide (IfMatchNotAhead sys request))
      (System.boot juniorStore []) reported).any (fun sys =>
      (Machine.exec (step sampleConfig) (fun _ _ => true) sys
        (refusedSteps sys.store "junior" .triage "i" 0 (InsufficientClearanceError "i") "denied"
          5)).any fun next => decide (
          failure (loadRequest sys.store "junior" .triage "i" 0) =
            some (InsufficientClearanceError "i") ∧
          sys.store.auditEvents.length ≠ next.store.auditEvents.length)) = true := by decide
  obtain ⟨sys, executed, onward⟩ := Option.any_eq_true _ _ |>.mp ran
  obtain ⟨next, refusing, facts⟩ := Option.any_eq_true _ _ |>.mp onward
  obtain ⟨refused, longer⟩ := of_decide_eq_true facts
  have left := leavesNothing sampleConfig juniorStore [] ⟨by decide, by decide⟩
    (by simp [CreationsStored, juniorStore, staffedStore, sampleStore]) sys
    (Machine.reaches_of_exec _ (onCommit_sound fun _ _ => of_decide_eq_true) _ _ _ executed)
    "junior" .triage "i" 0 (InsufficientClearanceError "i") (failure_eq_some.mp refused) "denied" 5
    next refusing
  exact longer (congrArg List.length left.2.symm)

end IncidentApi.Properties
