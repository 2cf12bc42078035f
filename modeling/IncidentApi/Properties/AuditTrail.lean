import IncidentApi.Properties.Assignments
import IncidentApi.Library.EventLog

/-!
# The audit trail as a log of the incident

What the audit rows of an incident say about its stage, severity and assignee, and what the rows
of each write say: they lead from the row the write was decided on to the row it stores.
-/
namespace IncidentApi.Properties

open EventLog

/-! ### Reading a trail -/

/-- The columns of an incident that its audit rows carry. -/
structure Traced where
  stage : Stage
  severity : Severity
  assignedInvestigatorId : Option Id
  deriving DecidableEq, Repr

def traced (row : Incident) : Traced := ⟨row.stage, row.severity, row.assignedInvestigatorId⟩

def stageOfText (text : String) : Option Stage := stageValues.find? (·.text = text)

def severityOfText (text : String) : Option Severity := severityValues.find? (·.text = text)

@[simp] theorem stageOfText_text (stage : Stage) : stageOfText stage.text = some stage := by
  cases stage <;> decide

@[simp] theorem severityOfText_text (severity : Severity) :
    severityOfText severity.text = some severity := by
  cases severity <;> decide

/-- `INCIDENT_CREATED`: the severity is its `toValue`, the stage is in its payload. -/
def createdAs (row : AuditEvent) : Option Traced :=
  match row.toValue.bind severityOfText, row.payload.bind (Json.field · "stage") with
  | some severity, some (.str text) =>
    (stageOfText text).map fun stage => ⟨stage, severity, none⟩
  | _, _ => none

/-- One audit row; `none` where its `fromValue` is not the value replayed so far. -/
def replayRow (state : Traced) (row : AuditEvent) : Option Traced :=
  match row.type with
  | .stageChanged =>
    if row.fromValue = some state.stage.text then
      (row.toValue.bind stageOfText).map fun stage => { state with stage := stage }
    else none
  | .severityChanged =>
    if row.fromValue = some state.severity.text then
      (row.toValue.bind severityOfText).map fun severity => { state with severity := severity }
    else none
  | .investigatorAssigned =>
    row.toValue.map fun id => { state with assignedInvestigatorId := some id }
  | .investigatorUnassigned =>
    row.fromValue.bind fun id =>
      if state.assignedInvestigatorId = some id then
        some { state with assignedInvestigatorId := none }
      else none
  -- an incident is created once
  | .incidentCreated => none
  | _ => some state

/-- The types a replay reads; the rows of the others are stepped over. -/
def tells : AuditEventType → Bool
  | .incidentCreated | .stageChanged | .severityChanged | .investigatorAssigned
  | .investigatorUnassigned => true
  | _ => false

theorem replayRow_silent (row : AuditEvent) (silent : tells row.type = false) (state : Traced) :
    replayRow state row = some state := by
  unfold replayRow
  split <;> simp_all [tells]

/-- The audit rows of an incident, in the order they were committed. -/
def trail (log : List AuditEvent) (id : Id) : List AuditEvent := about AuditEvent.incidentId id log

def isCreation (row : AuditEvent) : Bool := row.type = .incidentCreated

/-- The incident as its trail tells it, from `INCIDENT_CREATED` on. -/
def reconstruct (rows : List AuditEvent) : Option Traced :=
  rebuild isCreation createdAs replayRow rows

/-! ### The rows of one write -/

/-- A row before `newId()` has named it; the name plays no part in a replay. -/
def replayEntry (state : Traced) (entry : CreateAuditEventInput) : Option Traced :=
  replayRow state (entry.row "")

theorem replay_auditRows (records : List CreateAuditEventInput) (ids : Nat → Id)
    (state : Traced) :
    replay replayRow (auditRows records ids) state = replay replayEntry records state := by
  -- on the records, from any index
  have numbered : ∀ (index : Nat) (state : Traced),
      replay replayRow ((records.zipIdx index).map fun entry => entry.1.row (ids entry.2)) state =
        replay replayEntry records state := by
    induction records with
    | nil =>
      intro index state
      rfl
    | cons entry rest ih =>
      intro index state
      rw [List.zipIdx_cons, List.map_cons, replay_cons, replay_cons]
      have named : replayRow state (entry.row (ids index)) = replayEntry state entry := rfl
      rw [named]
      exact Option.bind_congr fun next _ => ih (index + 1) next
  exact numbered 0 state

theorem trail_auditRows {records : List CreateAuditEventInput} {id : Id}
    (entries : ∀ entry ∈ records, EntryAbout id entry) (ids : Nat → Id) :
    trail (auditRows records ids) id = auditRows records ids := by
  apply about_own
  intro row member
  obtain ⟨entry, among, rowId, rfl⟩ := auditRow_input member
  exact (entries entry among).named

theorem trail_auditRows_other {records : List CreateAuditEventInput} {id other : Id}
    (entries : ∀ entry ∈ records, EntryAbout id entry) (differs : other ≠ id) (ids : Nat → Id) :
    trail (auditRows records ids) other = [] := by
  apply about_none
  intro row member named
  obtain ⟨entry, among, rowId, rfl⟩ := auditRow_input member
  exact differs (Option.some.inj (named.symm.trans (entries entry among).named))

section Entries
variable {state : Traced}

theorem replayEntry_silent {entry : CreateAuditEventInput} (silent : tells entry.type = false) :
    replayEntry state entry = some state :=
  replayRow_silent (entry.row "") silent state

@[simp] theorem replayEntry_stage (actor : Actor) (id : Id) (source target : Stage)
    (reason : Option String) (now : Date) (current : state.stage = source) :
    replayEntry state (stageRecord actor id source target reason now) =
      some { state with stage := target } := by
  simp [replayEntry, replayRow, CreateAuditEventInput.row, stageRecord, current]

@[simp] theorem replayEntry_unassigned (actor : Actor) (id investigatorId : Id) (reason : String)
    (now : Date) (current : state.assignedInvestigatorId = some investigatorId) :
    replayEntry state (unassignedRecord actor id investigatorId reason now) =
      some { state with assignedInvestigatorId := none } := by
  simp [replayEntry, replayRow, CreateAuditEventInput.row, unassignedRecord, current]

end Entries

theorem traced_write (data : UpdateIncidentStateInput) (wall : Date) (row : Incident) :
    traced (data.write wall row) =
      ⟨data.stage.getD row.stage, data.severity.getD row.severity,
        data.assignedInvestigatorId.getD row.assignedInvestigatorId⟩ := rfl

/-- The audit rows of an operation lead from the row it loaded to what it makes of it; `joined`
holds of every row that a load has returned. -/
theorem decide_replays {operation : Operation} {actor : Actor} {id : Id} {row : TriageIncidentRow}
    {investigator : Option User} {now : Date} {mutation : Mutation}
    (joined : ∀ assignee ∈ row.assignee, row.assignedInvestigatorId = some assignee.id)
    (decided : operation.decide actor id row investigator now = .ok mutation) (wall : Date) :
    replay replayEntry mutation.records (traced row.toIncident) =
      some (traced (mutation.data.write wall row.toIncident)) := by
  rw [traced_write]
  cases operation with
  | triage =>
    obtain ⟨_, data, records⟩ := triage_ok decided
    simp [data, records, traced]
  | changeSeverity input =>
    obtain ⟨_, _, data, records⟩ := changeSeverity_ok decided
    rw [records, data]
    have changed : replayEntry (traced row.toIncident)
        { incidentId := some id
          actorId := some actor.id
          type := .severityChanged
          fromValue := some row.severity.text
          toValue := some input.severity.text
          reason := some input.reason.value
          occurredAt := now } =
        some ⟨row.stage, input.severity, row.assignedInvestigatorId⟩ := by
      simp [replayEntry, replayRow, CreateAuditEventInput.row, traced]
    rw [List.cons_append, replay_cons, changed, Option.bind_some]
    -- one to three rows: a stranded assignee is unassigned, which ends an investigation
    cases stranded : strandedAssignee row input.severity with
    | none => simp
    | some assignee =>
      have assigned := joined assignee (Option.filter_eq_some_iff.mp stranded).1
      by_cases investigating : row.stage = .investigation <;> simp [assigned, investigating]
  | assignInvestigator investigatorId =>
    obtain ⟨_, user, _, _, _, _, data, records⟩ := assignInvestigator_ok decided
    rw [records, data]
    have assigns : ∀ state : Traced, replayEntry state
        { incidentId := some id
          actorId := some actor.id
          type := .investigatorAssigned
          toValue := some user.id
          occurredAt := now } = some { state with assignedInvestigatorId := some user.id } :=
      fun _ => rfl
    cases previous : row.assignee.filter (·.id ≠ user.id) with
    | none => by_cases triaged : row.stage = .triage <;> simp [assigns, traced, triaged]
    | some assignee =>
      have assigned := joined assignee (Option.filter_eq_some_iff.mp previous).1
      by_cases triaged : row.stage = .triage <;> simp [assigns, traced, assigned, triaged]
  | unassignInvestigator =>
    obtain ⟨_, _, removed, assigned, data, records⟩ := unassignInvestigator_ok decided
    rw [records, data]
    by_cases investigating : row.stage = .investigation <;>
      simp [traced, assigned, investigating]
  -- the rows that closures and acknowledgements add tell nothing of these columns
  | acknowledge =>
    obtain ⟨_, _, data, records⟩ := acknowledge_ok decided
    rw [data, records, replay_cons, replayEntry_silent rfl]
    simp [traced]
  | propose input =>
    obtain ⟨_, _, data, records⟩ := propose_ok decided
    rw [data, records, replay_cons, replayEntry_silent rfl]
    simp [traced]
  | approve =>
    obtain ⟨_, _, data, records⟩ := approve_ok decided
    rw [data, records, replay_cons, replayEntry_silent rfl]
    simp [traced]
  | reject reason =>
    obtain ⟨_, data, records⟩ := reject_ok decided
    rw [data, records, replay_cons, replayEntry_silent rfl]
    simp [traced]

theorem cascade_records (actor : Actor) (targetId : Id) (incident : AssignedIncidentRow)
    (now : Date) : (cascade actor targetId incident now).records =
      unassignedRecord actor incident.id targetId "ADMIN_CLEARANCE_LOWERED" now ::
        if incident.stage = .investigation then
          [stageRecord actor incident.id incident.stage .triage (some "ADMIN_CLEARANCE_LOWERED")
            now]
        else [] := rfl

/-- So do the rows of the cascade, from a row as its query returned it. -/
theorem cascade_replays (actor : Actor) (targetId : Id) (now wall : Date) {row : Incident}
    (assigned : row.assignedInvestigatorId = some targetId) :
    replay replayEntry (cascade actor targetId row.assigned now).records (traced row) =
      some (traced ((cascade actor targetId row.assigned now).data.write wall row)) := by
  rw [traced_write, cascade_records]
  by_cases investigating : row.stage = .investigation <;>
    simp [cascade, traced, assigned, investigating, Incident.assigned]

/-! ### The rows of a clearance change -/

/-- The audit rows of a clearance change, incident by incident. -/
structure CascadeRows (actor : Actor) (targetId : Id) (now : Date)
    (affected : List AssignedIncidentRow) (rows : List AuditEvent) : Prop where
  listed : ∀ incident ∈ affected, ∃ ids,
    trail rows incident.id = auditRows (cascade actor targetId incident now).records ids
  other : ∀ id, id ∉ affected.map (·.id) → trail rows id = []

theorem cascadeAll_rows {actor : Actor} {targetId : Id} {now wall : Date} {ids : Nat → Nat → Id}
    {affected : List AssignedIncidentRow} {index : Nat} {store after : Store}
    (distinct : (affected.map (·.id)).Nodup)
    (committed : cascadeAll actor targetId now wall ids affected index store = .ok after) :
    ∃ rows, after.auditEvents = store.auditEvents ++ rows ∧
      CascadeRows actor targetId now affected rows := by
  induction affected generalizing index store with
  | nil =>
    obtain rfl := Except.ok.inj committed
    exact ⟨[], (List.append_nil _).symm, by simp, fun _ _ => rfl⟩
  | cons incident rest ih =>
    simp only [List.map_cons, List.nodup_cons] at distinct
    obtain ⟨written, first, later⟩ := bind_ok committed
    obtain ⟨_, rfl⟩ := commitMutation_ok _ _ _ _ _ _ _ first
    obtain ⟨rows, audits, cascades⟩ := ih distinct.2 later
    have entries := cascade_entries actor targetId incident now
    refine ⟨_, audits.trans (List.append_assoc ..), ?_, ?_⟩
    · intro listed among
      rcases List.mem_cons.mp among with rfl | tail
      -- the incident of this turn is not written again
      · refine ⟨ids index, ?_⟩
        rw [trail, about_append]
        exact (congrArg₂ _ (trail_auditRows entries _) (cascades.other _ distinct.1)).trans
          (List.append_nil _)
      · obtain ⟨names, own⟩ := cascades.listed listed tail
        have differs : listed.id ≠ incident.id := by
          intro same
          exact distinct.1 (same ▸ List.mem_map_of_mem tail)
        refine ⟨names, ?_⟩
        rw [trail, about_append]
        exact congrArg₂ _ (trail_auditRows_other entries differs _) own
    · intro id unlisted
      simp only [List.map_cons, List.mem_cons, not_or] at unlisted
      rw [trail, about_append]
      exact congrArg₂ _ (trail_auditRows_other entries unlisted.1 _)
        (cascades.other id unlisted.2)

/-- The row of the user itself names no incident. -/
theorem commitClearance_rows {store after : Store} {actor : Actor} {target : User}
    {clearance : ClearanceLevel} {affected : List AssignedIncidentRow} {now wall : Date}
    {ids : Nat → Nat → Id} (distinct : (affected.map (·.id)).Nodup)
    (committed : commitClearance store actor target clearance affected now wall ids = .ok after) :
    ∃ rows, after.auditEvents = store.auditEvents ++ rows ∧
      CascadeRows actor target.id now affected rows := by
  obtain ⟨updated, found, cascading⟩ := bind_ok committed
  obtain rfl := updateUserClearance_ok found
  obtain ⟨rows, audits, cascades⟩ := cascadeAll_rows distinct cascading
  have unnamed : ∀ id, trail (auditRows [clearanceRecord actor target clearance now] (ids 0) ++
      rows) id = trail rows id := fun _ => rfl
  refine ⟨_, audits.trans (List.append_assoc ..), ?_, ?_⟩
  · intro incident among
    rw [unnamed]
    exact cascades.listed incident among
  · intro id unlisted
    rw [unnamed]
    exact cascades.other id unlisted

theorem CascadeRows.late {actor : Actor} {targetId : Id} {now : Date}
    {affected : List AssignedIncidentRow} {rows : List AuditEvent}
    (cascades : CascadeRows actor targetId now affected rows) {row : AuditEvent}
    (member : row ∈ rows) {id : Id} (named : row.incidentId = some id) :
    row.type ≠ .incidentCreated := by
  have own : row ∈ trail rows id := mem_about.mpr ⟨member, named⟩
  by_cases listed : id ∈ affected.map (·.id)
  · obtain ⟨incident, among, rfl⟩ := List.mem_map.mp listed
    obtain ⟨ids, same⟩ := cascades.listed incident among
    obtain ⟨entry, inside, rowId, rfl⟩ := auditRow_input (same ▸ own)
    exact (cascade_entries _ _ _ _ entry inside).created
  · rw [cascades.other id listed] at own
    simp at own

/-! ### The rows of a batch -/

/-- A run of the job reports escalations only. -/
def ReportsEscalations (batch : Batch) : Prop :=
  ∀ row ∈ auditsOf batch.writes, row.type = .incidentEscalated

theorem ReportsEscalations.proceed {batch next : Batch} (reports : ReportsEscalations batch)
    (same : next.escalations.map (·.audit) ++ recordsBy next.statement =
      batch.escalations.map (·.audit) ++ recordsBy batch.statement) :
    ReportsEscalations next := by
  rw [ReportsEscalations, auditsOf_batch, same, ← auditsOf_batch]
  exact reports

theorem RunEffect.reports {config : JobConfig} {others : List Write} {store after : Store}
    {run next : Run} {reading : Reading}
    (reports : ∀ batch, run.open? = some batch → ReportsEscalations batch)
    (effect : RunEffect config others store run reading after next) :
    ∀ batch, next.open? = some batch → ReportsEscalations batch := by
  have quiet : ∀ {batch after : Batch}, run.phase = .batch batch →
      after.escalations.map (·.audit) ++ recordsBy after.statement =
        batch.escalations.map (·.audit) ++ recordsBy batch.statement →
      ∀ other, Run.open? { run with phase := .batch after } = some other →
        ReportsEscalations other := by
    intro batch after phase same
    apply forall_open
    exact (reports batch (open_of_phase phase)).proceed same
  cases effect with
  | outside _ _ closed still => simp [still]
  | committed batch _ phase done still => simp [still]
  | violated batch event phase statement clash => simp [Run.open?]
  | opened batch scanning todo statement escalations =>
    apply forall_open
    simp [ReportsEscalations, auditsOf_batch, statement, escalations]
  -- only the insert of the audit row adds one
  | audited batch due rest event rows phase todo statement =>
    have old := reports batch (open_of_phase phase)
    apply forall_open
    simp only [ReportsEscalations, auditsOf_batch, recordsBy, statement, List.append_nil] at old ⊢
    intro row member
    rcases List.mem_append.mp member with early | last
    · exact old row early
    · rw [List.mem_singleton.mp last]
      rfl
  | bumped batch due rest event rows record phase todo statement alone =>
    exact quiet phase (by simp [recordsBy, statement])
  | vanished batch due rest phase todo statement absent =>
    exact quiet phase (by simp [recordsBy, statement])
  | selected batch due rest row phase todo statement found =>
    exact quiet phase (by simp [recordsBy, statement])
  | conflicted batch due rest event phase todo statement present =>
    exact quiet phase (by simp [recordsBy, statement])
  | inserted batch due rest event phase todo statement alone absent =>
    exact quiet phase (by simp [recordsBy, statement])
  | notified batch due rest event phase todo statement =>
    exact quiet phase (by simp [recordsBy, statement])

end IncidentApi.Properties
