import IncidentApi.Properties.EscalationChain
import IncidentApi.Properties.Investigators
import IncidentApi.Properties.TimelineEntries

/-!
# The timeline reads back what was written

In every run of the service the rows about incidents are the entries of what its writers had to
say. The investigators they name are users and stay so, and a page looks them up when it is read.
-/
namespace IncidentApi.Properties

/-! ### Batches in flight -/

/-- What the job has written of its escalations, committed or not. -/
structure BatchTells (batch : Batch) : Prop where
  made : ∀ made ∈ batch.escalations, ∃ rowId,
    made.audit = (escalatedRecord made.due made.event.id batch.now).row rowId
  pending : ∀ event rows record, batch.statement = .bump event rows record →
    ∀ due rest, batch.todo = due :: rest → ∃ rowId,
      record = (escalatedRecord due event.id batch.now).row rowId
  settled : batch.todo = [] → batch.statement = .select

theorem BatchTells.idle {batch : Batch} (tells : BatchTells batch) {todo : List Due}
    {statement : Statement} (quiet : ∀ event rows record, statement ≠ .bump event rows record)
    (settled : todo = [] → statement = .select) :
    BatchTells { batch with todo := todo, statement := statement } :=
  ⟨tells.made, fun event rows record isBump => absurd isBump (quiet event rows record), settled⟩

theorem RunEffect.tells {config : JobConfig} {others : List Write} {store after : Store}
    {run next : Run} {reading : Reading}
    (told : ∀ batch, run.open? = some batch → BatchTells batch)
    (effect : RunEffect config others store run reading after next) :
    ∀ batch, next.open? = some batch → BatchTells batch := by
  cases effect with
  -- No transaction is open after these.
  | outside _ _ closed still => simp [still]
  | committed batch _ phase done still => simp [still]
  | violated batch event phase statement clash => simp [Run.open?]
  | opened batch scanning todo statement escalations =>
    apply forall_open
    exact ⟨by simp [escalations], by simp [statement], fun _ => statement⟩
  | vanished batch due rest phase todo statement absent =>
    apply forall_open
    exact (told batch (open_of_phase phase)).idle (by simp [statement]) fun _ => statement
  | conflicted batch due rest event phase todo statement present =>
    apply forall_open
    exact (told batch (open_of_phase phase)).idle (by simp) fun _ => rfl
  | selected batch due rest row phase todo statement found =>
    apply forall_open
    exact (told batch (open_of_phase phase)).idle (by simp) (by simp [todo])
  | inserted batch due rest event phase todo statement alone absent =>
    apply forall_open
    exact (told batch (open_of_phase phase)).idle (by simp) (by simp [todo])
  | notified batch due rest event phase todo statement =>
    apply forall_open
    exact (told batch (open_of_phase phase)).idle (by simp) (by simp [todo])
  | audited batch due rest event rows phase todo statement =>
    apply forall_open
    refine ⟨(told batch (open_of_phase phase)).made, ?_, by simp [todo]⟩
    -- The statement that has made the row, about the first pair, is the one that is next.
    intro logged notified record isBump first later pairs
    obtain ⟨rfl, rfl, rfl⟩ := Statement.bump.inj isBump
    obtain ⟨rfl, rfl⟩ := List.cons.inj (todo.symm.trans pairs)
    exact ⟨reading.auditId, rfl⟩
  | bumped batch due rest event rows record phase todo statement alone =>
    have before := told batch (open_of_phase phase)
    apply forall_open
    refine ⟨?_, by simp, fun _ => rfl⟩
    intro made member
    -- The last row becomes a made one when its pair is done.
    rcases List.mem_append.mp member with old | last
    · exact before.made made old
    · rw [List.mem_singleton.mp last]
      exact before.pending event rows record statement due rest todo

/-- A batch that commits has told of every escalation it made. -/
theorem batch_adds {store : Store} {run : Run} {batch : Batch} (tells : BatchTells batch)
    (phase : run.phase = .batch batch) (done : batch.todo = []) :
    Adds store (batch.view store) run.tells := by
  have told : run.tells = batch.escalations.map fun made =>
      ⟨made.due.candidate.id, none, batch.now,
        .escalated made.event.id made.due.candidate.currentEscalationLevel made.due.tier.level
          made.due.candidate.escalationCycle⟩ := by
    simp only [Run.tells, phase, if_pos done]
  have audits := view_audits batch store
  have quiet : recordsBy .select = [] := rfl
  rw [tells.settled done, quiet, List.append_nil] at audits
  refine ⟨_, audits, ?_⟩
  rw [told]
  apply written_of_reports
  rw [List.forall₂_map_left_iff, List.forall₂_map_right_iff,
    List.forall₂_same]
  intro made member
  obtain ⟨rowId, record⟩ := tells.made made member
  exact ⟨rowId, record⟩

theorem RunEffect.adds {config : JobConfig} {others : List Write} {store after : Store}
    {run next : Run} {reading : Reading}
    (told : ∀ batch, run.open? = some batch → BatchTells batch)
    (effect : RunEffect config others store run reading after next) :
    Adds store after run.tells := by
  have within : ∀ {batch : Batch}, run.phase = .batch batch → batch.todo ≠ [] →
      Adds store store run.tells := by
    intro batch phase pairs
    simp only [Run.tells, phase, if_neg pairs]
    exact .nothing rfl
  cases effect with
  | committed batch _ phase done => exact batch_adds (told batch (open_of_phase phase)) phase done
  | outside _ _ closed still tables =>
    have silent : run.tells = [] := by
      unfold Run.tells
      split
      next batch phase => simp [open_of_phase phase] at closed
      · rfl
    rw [silent]
    exact .nothing tables.audits
  | opened batch scanning =>
    simp only [Run.tells, scanning]
    exact .nothing rfl
  | violated batch event phase statement clash =>
    -- a batch with nothing left to do has no row to insert
    refine within phase fun done => ?_
    simp [(told batch (open_of_phase phase)).settled done] at statement
  | vanished batch due rest phase todo | selected batch due rest row phase todo
  | conflicted batch due rest event phase todo | inserted batch due rest event phase todo
  | notified batch due rest event phase todo | audited batch due rest event rows phase todo
  | bumped batch due rest event rows record phase todo =>
    exact within phase (by simp [todo])

/-! ### Steps -/

/-- A request that is refused has said nothing. -/
theorem accept_adds {T : Type} {store : Store} {answered next : System}
    {result : Except AppError T} {change : T → System} {told : List Telling}
    (stepped : answered.accept result change = some next) (same : answered.store = store)
    (committed : ∀ value, result = .ok value → Adds store (change value).store told) :
    Adds store next.store (ifCommitted result told) := by
  cases result with
  | error refusal =>
    obtain rfl := Option.some.inj stepped
    exact .nothing (congrArg Store.auditEvents same)
  | ok value =>
    obtain rfl := Option.some.inj stepped
    exact committed value rfl

theorem step_adds {config : JobConfig} {sys next : System} {action : Action}
    (told : ∀ run ∈ sys.runs, ∀ batch, run.open? = some batch → BatchTells batch)
    (stepped : step config sys action = some next) :
    Adds sys.store next.store (sys.tells action) := by
  cases action with
  | create userId input image id now wall ids =>
    -- Whether the creation has an actor decides what it is to tell, so `tells` unfolds with the
    -- step.
    cases known : authenticate sys.store userId with
    | error refusal =>
      simp only [step, known, System.accept, Option.some.injEq] at stepped
      simp only [System.tells, known]
      exact .nothing (stepped ▸ rfl)
    | ok actor =>
      simp only [step, known, System.accept, Option.some.injEq] at stepped
      simp only [System.tells, known]
      subst stepped
      exact create_adds sys.store actor input image id now wall ids
  | commit k now wall ids =>
    obtain ⟨request, found, moved⟩ := Option.bind_eq_some_iff.mp stepped
    simp only [System.tells, found, Option.elim_some]
    split at moved
    · simp at moved
    exact accept_adds moved rfl fun store committed => commitRequest_adds committed
  | commitClearance k now wall ids =>
    obtain ⟨request, found, impact⟩ := Option.bind_eq_some_iff.mp stepped
    obtain ⟨affected, read, moved⟩ := Option.bind_eq_some_iff.mp impact
    simp only [System.tells, found, Option.elim_some]
    split at moved
    · simp at moved
    split at moved
    -- An unchanged clearance ends the request before its transaction.
    next same =>
      simp only [ClearanceRequest.tells, read, if_pos same]
      exact .nothing (Option.some.inj moved ▸ rfl)
    next changes =>
      simp only [ClearanceRequest.tells, read, if_neg changes]
      exact accept_adds moved rfl fun store committed => commitClearance_adds committed
  | recordDenial incidentId actorId auditId clearanceLevel now =>
    simp only [step] at stepped
    simp only [System.tells]
    split at stepped
    next recent =>
      rw [if_pos recent]
      exact .nothing (Option.some.inj stepped ▸ rfl)
    next quiet =>
      obtain rfl := Option.some.inj stepped
      rw [if_neg quiet]
      exact adds_record (fun _ => auditId) rfl
  | job k reading =>
    obtain ⟨run, found, running⟩ := Option.bind_eq_some_iff.mp stepped
    split at running
    · simp at running
    obtain ⟨⟨store, after⟩, moved, rfl⟩ := Option.map_eq_some_iff.mp running
    -- What a run adds it had prepared in its open transaction.
    simp only [System.tells, found, Option.elim_some]
    exact (runStep_effect moved).adds (told run (List.mem_of_getElem? found))
  | startRun | interrupt | crash =>
    cases step_job rfl stepped with
    | stepped j run after store other isJob => cases isJob
    | _ => exact .nothing rfl
  | _ => cases step_effect rfl stepped <;> exact .nothing rfl

theorem accountStep_adds {config : JobConfig} {sys next : AccountSystem} {action : AccountAction}
    (told : ∀ run ∈ sys.service.runs, ∀ batch, run.open? = some batch → BatchTells batch)
    (stepped : accountStep config sys action = some next) (notes : List NoteRequest) :
    Adds sys.service.store next.service.store
      (NoteSystem.tells ⟨sys, notes⟩ (.account action)) := by
  rcases accountStep_quiet stepped with
    ⟨inner, rfl, moved⟩ | ⟨other, store, rows, same, audits, apart⟩
  · exact step_adds told moved
  · have silent : NoteSystem.tells ⟨sys, notes⟩ (.account action) = [] := by
      cases action with
      | service inner => exact absurd rfl (other inner)
      | _ => rfl
    rw [same, silent]
    exact ⟨rows, audits, written_apart apart⟩

theorem noteStep_adds {config : JobConfig} {sys next : NoteSystem} {action : NoteAction}
    (told : ∀ run ∈ sys.service.runs, ∀ batch, run.open? = some batch → BatchTells batch)
    (stepped : noteStep config sys action = some next) :
    Adds sys.store next.store (sys.tells action) := by
  cases action with
  | account action =>
    obtain ⟨after, moved, rfl⟩ := Option.map_eq_some_iff.mp stepped
    exact accountStep_adds told moved sys.notes
  | load userId incidentId body =>
    simp only [noteStep] at stepped
    split at stepped <;> obtain rfl := Option.some.inj stepped <;> exact .nothing rfl
  | interrupt k =>
    obtain ⟨request, _, rfl⟩ := Option.map_eq_some_iff.mp stepped
    exact .nothing rfl
  | write k now noteId ids =>
    obtain ⟨request, found, moved⟩ := Option.map_eq_some_iff.mp stepped
    simp only [NoteSystem.tells, found, Option.elim_some]
    rw [NoteRequest.tells]
    cases committed : request.commit sys.store now noteId ids with
    | error refusal =>
      simp only [committed] at moved
      exact .nothing (moved ▸ rfl)
    | ok result =>
      simp only [committed] at moved
      subst moved
      exact noteCommit_adds committed

/-! ### Investigators -/

/-- A request has read users only. -/
structure ReadsNamed (names : List Id) (request : Request) : Prop where
  assigned : ∀ id, request.row.assignedInvestigatorId = some id → id ∈ names
  assignee : ∀ assignee, request.row.assignee = some assignee → assignee.id ∈ names
  investigator : ∀ user, request.investigator = some (some user) → user.id ∈ names

/-- Every user that is about to be named exists: `names` are the ids of the users, which no step
adds to or takes from. -/
structure Naming (names : List Id) (sys : System) : Prop where
  snapshots : SnapshotInvariant sys
  users : sys.store.users.map User.id = names
  assigned : ∀ row ∈ sys.store.incidents, ∀ id, row.assignedInvestigatorId = some id → id ∈ names
  requests : ∀ request ∈ sys.requests, ReadsNamed names request
  clearances : ∀ request ∈ sys.clearances, request.target.id ∈ names
  batches : ∀ run ∈ sys.runs, ∀ batch, run.open? = some batch → BatchTells batch

/-- A story names users only. -/
def StoryNamed (names : List Id) (story : List Happening) : Prop :=
  ∀ happening ∈ story, ∀ id ∈ happening.investigator, id ∈ names

section Story
variable {names : List Id}

theorem StoryNamed.append {story more : List Happening} (first : StoryNamed names story)
    (second : StoryNamed names more) : StoryNamed names (story ++ more) := by
  intro happening member
  rcases List.mem_append.mp member with before | after
  · exact first happening before
  · exact second happening after

theorem storyNamed_quiet {story : List Happening}
    (quiet : ∀ happening ∈ story, happening.investigator = none) : StoryNamed names story := by
  intro happening member id named
  rw [quiet happening member] at named
  cases named

theorem storyNamed_moved {moves : Prop} [Decidable moves] (source target : Stage)
    (reason : Option String) :
    StoryNamed names (if moves then [.stageChanged source target reason] else []) := by
  apply storyNamed_quiet
  intro happening member
  split at member
  · rw [List.mem_singleton.mp member]
    rfl
  · simp at member

theorem storyNamed_unassigned {assignee : Option AssigneeRow} (reason : String)
    (known : ∀ user, assignee = some user → user.id ∈ names) :
    StoryNamed names (assignee.toList.map fun user => .unassigned user.id reason) := by
  intro happening member id named
  obtain ⟨user, among, rfl⟩ := List.mem_map.mp member
  obtain rfl := Option.some.inj named
  exact known user (Option.mem_toList.mp among)

/-- An operation names the assignee it has loaded or the investigator it has read. -/
theorem story_named {request : Request} (reads : ReadsNamed names request) :
    StoryNamed names
      (request.operation.story request.row (request.investigator.getD none)) := by
  -- Whoever is unassigned was the assignee when the request was loaded.
  have fromAssignee : ∀ (chosen : AssigneeRow → Bool) (reason : String), StoryNamed names
      ((request.row.assignee.filter chosen).toList.map fun user => .unassigned user.id reason) := by
    intro chosen reason
    apply storyNamed_unassigned
    intro user kept
    exact reads.assignee user (Option.filter_eq_some_iff.mp kept).1
  cases request.operation with
  | changeSeverity input =>
    have first : StoryNamed names
        [.severityChanged request.row.severity input.severity input.reason.value] :=
      storyNamed_quiet (by simp [Happening.investigator])
    exact (first.append (fromAssignee _ _)).append (storyNamed_moved _ _ _)
  | assignInvestigator investigatorId =>
    simp only [Operation.story]
    split
    · exact storyNamed_quiet (by simp)
    next user read =>
      have known := investigator_read read
      have assigned : StoryNamed names [.assigned user.id] := by
        intro happening member id named
        rw [List.mem_singleton.mp member] at named
        exact Option.some.inj named ▸ reads.investigator user known
      exact ((fromAssignee _ _).append assigned).append (storyNamed_moved _ _ _)
  | unassignInvestigator =>
    refine StoryNamed.append ?_ (storyNamed_moved _ _ _)
    intro happening member id named
    obtain ⟨removed, among, rfl⟩ := List.mem_map.mp member
    obtain rfl := Option.some.inj named
    exact reads.assigned removed (Option.mem_toList.mp among)
  | _ => exact storyNamed_quiet (by simp [Operation.story, Happening.investigator])

theorem cascadeStory_named {targetId : Id} (known : targetId ∈ names)
    (incident : AssignedIncidentRow) : StoryNamed names (cascadeStory targetId incident) := by
  have first : StoryNamed names [.unassigned targetId "ADMIN_CLEARANCE_LOWERED"] := by
    intro happening member id named
    rw [List.mem_singleton.mp member] at named
    exact Option.some.inj named ▸ known
  exact first.append (storyNamed_moved _ _ _)

end Story

def AllNamed (names : List Id) (told : List Telling) : Prop :=
  ∀ telling ∈ told, ∀ id ∈ telling.happening.investigator, id ∈ names

theorem AllNamed.append {names : List Id} {told more : List Telling} (first : AllNamed names told)
    (second : AllNamed names more) : AllNamed names (told ++ more) := by
  intro telling member
  rcases List.mem_append.mp member with before | after
  · exact first telling before
  · exact second telling after

theorem allNamed_tellAll {names : List Id} {story : List Happening}
    (named : StoryNamed names story) (incidentId actorId : Id) (now : Date) :
    AllNamed names (tellAll incidentId actorId now story) := by
  intro telling member
  obtain ⟨happening, among, rfl⟩ := List.mem_map.mp member
  exact named happening among

theorem AllNamed.ifCommitted {names : List Id} {told : List Telling} (named : AllNamed names told)
    {T : Type} (result : Except AppError T) :
    AllNamed names (IncidentApi.ifCommitted result told) := by
  cases result with
  | ok _ => exact named
  | error _ => exact fun _ member => absurd member List.not_mem_nil

theorem allNamed_nil {names : List Id} : AllNamed names [] := fun _ member =>
  absurd member List.not_mem_nil

theorem runTells_named {names : List Id} (run : Run) : AllNamed names run.tells := by
  unfold Run.tells
  split
  · split
    · intro telling member
      obtain ⟨made, _, rfl⟩ := List.mem_map.mp member
      intro id named
      cases named
    · exact allNamed_nil
  · exact allNamed_nil

theorem tells_named {names : List Id} {sys : System} (naming : Naming names sys)
    (action : Action) : AllNamed names (sys.tells action) := by
  cases action with
  | create userId input image id now wall ids =>
    simp only [System.tells]
    split
    -- The creation of an incident names no investigator.
    · refine AllNamed.ifCommitted (allNamed_tellAll (storyNamed_quiet ?_) _ _ _) _
      simp [Happening.investigator]
    · exact allNamed_nil
  | commit k now wall ids =>
    simp only [System.tells]
    cases found : sys.requests[k]? with
    | none => exact allNamed_nil
    | some request =>
      have reads := naming.requests request (List.mem_of_getElem? found)
      exact AllNamed.ifCommitted (allNamed_tellAll (story_named reads) _ _ _) _
  | commitClearance k now wall ids =>
    simp only [System.tells]
    cases found : sys.clearances[k]? with
    | none => exact allNamed_nil
    | some request =>
      have known := naming.clearances request (List.mem_of_getElem? found)
      simp only [Option.elim_some, ClearanceRequest.tells]
      split
      · exact allNamed_nil
      · split
        · exact allNamed_nil
        · apply AllNamed.ifCommitted
          intro telling member
          -- The cascade names the one account whose clearance is lowered.
          obtain ⟨incident, _, told⟩ := List.mem_flatMap.mp member
          exact allNamed_tellAll (cascadeStory_named known incident) _ _ _ telling told
  | recordDenial incidentId actorId auditId clearanceLevel now =>
    simp only [System.tells]
    split
    · exact allNamed_nil
    · exact allNamed_tellAll (storyNamed_quiet (by simp [Happening.investigator])) _ _ _
  | job k reading =>
    simp only [System.tells]
    cases found : sys.runs[k]? with
    | none => exact allNamed_nil
    | some run => exact runTells_named run
  | _ => exact allNamed_nil

theorem noteTells_named {names : List Id} {sys : NoteSystem} (naming : Naming names sys.service)
    (action : NoteAction) : AllNamed names (sys.tells action) := by
  cases action with
  | account action =>
    cases action with
    | service action => exact tells_named naming action
    | _ => exact allNamed_nil
  | write k now noteId ids =>
    simp only [NoteSystem.tells]
    cases found : sys.notes[k]? with
    | none => exact allNamed_nil
    | some request =>
      refine AllNamed.ifCommitted (allNamed_tellAll (storyNamed_quiet ?_) _ _ _) _
      simp [Happening.investigator]
  | _ => exact allNamed_nil

theorem loadClearance_target {store : Store} {userId targetId : Id} {clearance : ClearanceLevel}
    {request : ClearanceRequest}
    (loaded : loadClearance store userId targetId clearance = .ok request) :
    request.target ∈ store.users := by
  obtain ⟨actor, _, rest⟩ := bind_ok loaded
  obtain ⟨_, _, rest⟩ := bind_ok rest
  obtain ⟨_, _, rest⟩ := bind_ok rest
  obtain ⟨target, found, last⟩ := bind_ok rest
  obtain rfl := Except.ok.inj last
  unfold loadTargetOrThrow at found
  split at found
  next user known =>
    obtain rfl := Except.ok.inj found
    exact List.mem_of_find?_eq_some known
  · simp at found

theorem step_targets {config : JobConfig} {sys next : System} {action : Action}
    {names : List Id} (users : sys.store.users.map User.id = names)
    (known : ∀ request ∈ sys.clearances, request.target.id ∈ names)
    (stepped : step config sys action = some next) :
    ∀ request ∈ next.clearances, request.target.id ∈ names := by
  by_cases job : Action.ofJob action = true
  · cases step_job job stepped <;> exact known
  · cases step_effect (by simpa using job) stepped with
    | loadedClearance userId targetId clearance loaded found =>
      intro request member
      rcases List.mem_append.mp member with old | last
      · exact known request old
      · rw [List.mem_singleton.mp last, ← users]
        exact List.mem_map_of_mem (loadClearance_target found)
    | readImpact k read found =>
      intro request member
      rcases Pool.mem_set member with rfl | old
      · exact known read (List.mem_of_getElem? found)
      · exact known request old
    | answeredClearance | committedClearance =>
      exact fun request member => known request ((List.eraseIdx_sublist ..).subset member)
    | _ => exact known

theorem joinAssignee_known {store : Store} {row : Incident} {assignee : AssigneeRow}
    (joined : (joinAssignee store row).assignee = some assignee) :
    assignee.id ∈ store.users.map User.id := by
  obtain ⟨id, _, found⟩ := Option.bind_eq_some_iff.mp joined
  obtain ⟨user, known, rfl⟩ := Option.map_eq_some_iff.mp found
  exact List.mem_map_of_mem (List.mem_of_find?_eq_some known)

theorem step_readsNamed {config : JobConfig} {sys next : System} {action : Action}
    {names : List Id} (naming : Naming names sys) (stepped : step config sys action = some next) :
    ∀ request ∈ next.requests, ReadsNamed names request := by
  intro request member
  rcases step_requests stepped member with old | ⟨_, _, _, _, _, loaded⟩ |
    ⟨k, old, id, _, found, _, rfl⟩
  · exact naming.requests request old
  · obtain ⟨stored, _, joined, _, _, _, unread⟩ := loadRequest_ok loaded
    constructor
    · exact naming.assigned _ stored
    · intro assignee isAssignee
      rw [joined] at isAssignee
      exact naming.users ▸ joinAssignee_known isAssignee
    · simp [unread]
  · have before := naming.requests old (List.mem_of_getElem? found)
    refine ⟨before.assigned, before.assignee, ?_⟩
    intro user read
    have answer : sys.store.userById id = some user := Option.some.inj read
    exact naming.users ▸ List.mem_map_of_mem (List.mem_of_find?_eq_some answer)

theorem step_assignedNamed {config : JobConfig} {sys next : System} {action : Action}
    {names : List Id} (naming : Naming names sys) (stepped : step config sys action = some next) :
    ∀ row ∈ next.store.incidents, ∀ id, row.assignedInvestigatorId = some id → id ∈ names := by
  obtain ⟨rows, _, effect⟩ := (step_store naming.snapshots.impacts stepped).incidents
  intro new member id assigned
  rcases effect.origin member with ⟨old, stored, event⟩ | ⟨_, _, _, _, _, _, _, rfl, _⟩
  · have before := naming.assigned old stored
    cases event with
    | kept => exact before id assigned
    | mutated k now wall ids request mutation isCommit found decided =>
      -- an operation keeps the assignee, takes them away or sets the user it has read
      rcases decide_assignee decided with same | removed | ⟨user, isRead, _, _, named⟩
      · simp only [UpdateIncidentStateInput.write, same, Option.getD_none] at assigned
        exact before id assigned
      · simp [UpdateIncidentStateInput.write, removed] at assigned
      · obtain rfl : user.id = id := by
          simpa [UpdateIncidentStateInput.write, named] using assigned
        have known := investigator_read isRead
        exact (naming.requests request (List.mem_of_getElem? found)).investigator user known
    | cascaded => simp [UpdateIncidentStateInput.write, cascade] at assigned
    | bumped k reading run batch =>
      have same := protected_congr Incident.assignedInvestigatorId (fun _ => rfl)
        (bumpedBy_protected batch.writes old)
      exact before id (same ▸ assigned)
  · simp [newIncident] at assigned

theorem Naming.step {config : JobConfig} {sys next : System} {action : Action} {names : List Id}
    (naming : Naming names sys) (stepped : IncidentApi.step config sys action = some next) :
    Naming names next where
  snapshots := naming.snapshots.step stepped
  users := (step_store naming.snapshots.impacts stepped).userIds.trans naming.users
  assigned := step_assignedNamed naming stepped
  requests := step_readsNamed naming stepped
  clearances := step_targets naming.users naming.clearances stepped
  batches := by
    apply step_batches stepped naming.batches
    intro k run after reading isJob found effect
    exact effect.tells (naming.batches run (List.mem_of_getElem? found))

theorem Naming.noteStep {config : JobConfig} {sys next : NoteSystem} {action : NoteAction}
    {names : List Id} (naming : Naming names sys.service)
    (stepped : IncidentApi.noteStep config sys action = some next) :
    Naming names next.service := by
  rcases noteStep_service stepped with ⟨inner, moved⟩ | ⟨store, same, incidents, users⟩
  · exact naming.step moved
  · rw [same]
    exact ⟨naming.snapshots.withStore incidents users, users.trans naming.users,
      incidents ▸ naming.assigned, naming.requests, naming.clearances, naming.batches⟩

/-! ### Every row -/

/-- A row reads back as what its writer has told, with every investigator found and no fallback
used, on whatever page it is listed. -/
structure Decodes (js : JsRuntime) (store : Store) (row : AuditEvent) (telling : Telling) :
    Prop where
  incident : row.incidentId = some telling.incidentId
  type : row.type = telling.happening.type
  event : ReadsDigits js (Happening.levels telling.happening) →
    ∀ page, joinActor store row ∈ page → toTimelineEvent js (joinActor store row) true
      (findUserRefsByIds store (mentionedUsers page)) = .ok (telling.event store row.id)
  hidden : ∀ page, ∃ event, toTimelineEvent js (joinActor store row) false
    (findUserRefsByIds store (mentionedUsers page)) = .ok event
  found : ∀ id ∈ telling.happening.investigator, (userRef store (some id)).isSome = true
  complete : readsAbsent row = false

theorem Reports.decodes {js : JsRuntime} {store : Store} {row : AuditEvent} {telling : Telling}
    (reports : Reports row telling) (unique : (store.users.map User.id).Nodup)
    (named : ∀ user ∈ store.users, user.id ≠ "")
    (known : ∀ id ∈ telling.happening.investigator, id ∈ store.users.map User.id) :
    Decodes js store row telling := by
  obtain ⟨rowId, rfl⟩ := reports
  have present : ∀ id ∈ telling.happening.investigator, id ≠ "" := by
    intro id names
    obtain ⟨user, member, rfl⟩ := List.mem_map.mp (known id names)
    exact named user member
  constructor
  · exact Telling.entry_incident telling
  · exact Telling.entry_type telling
  · intro digits page listed
    apply toTimelineEvent_entry digits
    intro id names
    exact userRefOf_found unique (present id names)
      (mentions_investigator listed names (present id names))
  · intro page
    exact toTimelineEvent_hidden _ rowId
  · intro id names
    obtain ⟨user, found, _⟩ := userById_isSome (known id names)
    simp [userRef, found]
  · exact entry_readsAll present rowId

theorem reports_decode {js : JsRuntime} {store : Store} {rows : List AuditEvent}
    {told : List Telling} (unique : (store.users.map User.id).Nodup)
    (named : ∀ user ∈ store.users, user.id ≠ "") (reports : List.Forall₂ Reports rows told)
    (known : AllNamed (store.users.map User.id) told) :
    List.Forall₂ (Decodes js store) rows told := by
  induction reports with
  | nil => exact .nil
  | cons first rest ih =>
    constructor
    · exact first.decodes unique named (known _ List.mem_cons_self)
    · exact ih fun telling later => known telling (List.mem_cons_of_mem _ later)

structure ToldInvariant (start : Store) (state : ToldSystem) : Prop where
  naming : Naming (start.users.map User.id) state.sys.service
  adds : Adds start state.sys.store state.told
  named : AllNamed (start.users.map User.id) state.told

theorem ToldInvariant.step {config : JobConfig} {start : Store} {state next : ToldSystem}
    {action : NoteAction} (inv : ToldInvariant start state)
    (stepped : toldStep config state action = some next) : ToldInvariant start next := by
  obtain ⟨sys, moved, rfl⟩ := Option.map_eq_some_iff.mp stepped
  exact ⟨inv.naming.noteStep moved, inv.adds.trans (noteStep_adds inv.naming.batches moved),
    inv.named.append (noteTells_named inv.naming action)⟩

/-- Nothing that is told bears on a step, so every state of the service has its tellings. -/
theorem reaches_told {config : JobConfig} {start : Store} {issued : List Id} {sys : NoteSystem}
    (reached : Machine.Reaches (noteStep config) Machine.anyAction (NoteSystem.boot start issued)
      sys) :
    ∃ told, Machine.Reaches (toldStep config) Machine.anyAction (ToldSystem.boot start issued)
      ⟨sys, told⟩ := by
  induction reached with
  | start => exact ⟨[], .start⟩
  | next before after action _ permitted stepped ih =>
    obtain ⟨told, earlier⟩ := ih
    refine ⟨told ++ before.tells action, .next _ _ action earlier trivial ?_⟩
    rw [toldStep, stepped, Option.map_some]

/-- Whatever the service is asked and in whatever order: the rows that it has written about
incidents are what its writers had to say, one row each and in their order, and each reads back as
that. Rows of accounts are about no incident. -/
theorem timeline_decodes_writers (config : JobConfig) (js : JsRuntime) (start : Store)
    (issued : List Id) (unique : start.UniqueIds)
    (named : ∀ user ∈ start.users, user.id ≠ "")
    (assigned : ∀ row ∈ start.incidents, ∀ id, row.assignedInvestigatorId = some id →
      id ∈ start.users.map User.id)
    (state : ToldSystem) (reached : Machine.Reaches (toldStep config) Machine.anyAction
      (ToldSystem.boot start issued) state) :
    ∃ rows, state.sys.store.auditEvents = start.auditEvents ++ rows ∧
      List.Forall₂ (Decodes js state.sys.store) (rows.filter (·.incidentId.isSome)) state.told ∧
      ∀ row ∈ rows, RowApart row := by
  have boot : ToldInvariant start (ToldSystem.boot start issued) := by
    refine ⟨⟨.boot unique issued, rfl, assigned, ?_, ?_, ?_⟩, .nothing rfl, allNamed_nil⟩ <;>
      intro _ member <;> cases member
  have inv := reached.invariant (ToldInvariant start) boot
    (fun _ _ _ _ inv _ stepped => inv.step stepped) state
  obtain ⟨rows, audits, written⟩ := inv.adds
  refine ⟨rows, audits, ?_, written.apart⟩
  have users : state.sys.store.users.map User.id = start.users.map User.id := inv.naming.users
  have present : ∀ user ∈ state.sys.store.users, user.id ≠ "" := by
    intro user member
    have old : user.id ∈ start.users.map User.id := users ▸ List.mem_map_of_mem member
    obtain ⟨first, among, same⟩ := List.mem_map.mp old
    exact same ▸ named first among
  exact reports_decode (users ▸ unique.users) present written (users ▸ inv.named)

/-- An investigation with a note and a proposed closure: one row of the seven names the
investigator. -/
theorem timeline_decodes_writers_sample :
    ∃ state, Machine.exec (toldStep sampleConfig) (fun _ _ => true)
        (ToldSystem.boot staffedStore []) (noteInTheMaking ++ [noteWritten]) = some state ∧
      state.told.length = 7 ∧
      state.told.filterMap (·.happening.investigator) = ["investigator"] ∧
      ∃ rows, state.sys.store.auditEvents = staffedStore.auditEvents ++ rows ∧
        List.Forall₂ (Decodes digitRuntime state.sys.store) (rows.filter (·.incidentId.isSome))
          state.told ∧
        ∀ row ∈ rows, RowApart row := by
  have ran : (Machine.exec (toldStep sampleConfig) (fun _ _ => true)
      (ToldSystem.boot staffedStore []) (noteInTheMaking ++ [noteWritten])).any
        (fun state => decide (state.told.length = 7 ∧
          state.told.filterMap (·.happening.investigator) = ["investigator"])) = true := by
    decide
  obtain ⟨state, executed, facts⟩ := Option.any_eq_true _ _ |>.mp ran
  obtain ⟨length, investigators⟩ := of_decide_eq_true facts
  refine ⟨state, executed, length, investigators, ?_⟩
  exact timeline_decodes_writers sampleConfig digitRuntime staffedStore []
    ⟨by decide, by decide⟩ (by decide) (by simp [staffedStore]) state
    (Machine.reaches_of_exec _ (fun _ _ _ => trivial) _ _ _ executed)

end IncidentApi.Properties
