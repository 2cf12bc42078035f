import IncidentApi.Stories
import IncidentApi.Properties.AccountLog
import IncidentApi.Properties.EscalationChain

/-!
# The rows of the writers

Encoder and decoder meet in `Telling.entry`, the columns that say a happening. The mapper reads an
entry back as its event, and every transaction that commits appends the entries of its story, one
after the other.
-/
namespace IncidentApi.Properties

/-! ### The columns of a happening -/

/-- The columns that say it. -/
def Telling.entry (telling : Telling) : CreateAuditEventInput :=
  let about : CreateAuditEventInput :=
    { incidentId := some telling.incidentId
      actorId := telling.actorId
      type := telling.happening.type
      occurredAt := telling.occurredAt }
  match telling.happening with
  | .created severity type stage =>
    { about with
      toValue := some severity.text
      payload := some [("type", .str type.text), ("stage", .str stage.text)] }
  | .stageChanged source target reason =>
    { about with
      fromValue := some source.text
      toValue := some target.text
      reason := reason }
  | .severityChanged source target reason =>
    { about with
      fromValue := some source.text
      toValue := some target.text
      reason := some reason }
  | .assigned investigatorId =>
    { about with toValue := some investigatorId }
  | .unassigned investigatorId reason =>
    { about with
      fromValue := some investigatorId
      reason := some reason }
  | .acknowledged => about
  | .noteAdded noteId length =>
    { about with
      payload := some [("noteId", .str noteId), ("length", .num length)] }
  | .closureProposed rootCauseLength correctiveActionLength =>
    { about with
      payload := some [("rootCauseLength", .num rootCauseLength),
        ("correctiveActionLength", .num correctiveActionLength)] }
  | .closureApproved => about
  | .closureRejected reason => { about with reason := some reason }
  | .escalated eventId fromLevel toLevel cycle =>
    { about with
      fromValue := some (toString fromLevel)
      toValue := some (toString toLevel)
      payload := some [("cycle", .num cycle), ("level", .num toLevel),
        ("escalationEventId", .str eventId)] }
  | .accessDenied reason clearanceLevel =>
    { about with
      reason := some reason
      payload := some [("clearanceLevel", .num clearanceLevel)] }

theorem Telling.entry_incident (telling : Telling) :
    (Telling.entry telling).incidentId = some telling.incidentId := by
  obtain ⟨incidentId, actorId, occurredAt, happening⟩ := telling
  cases happening <;> rfl

theorem Telling.entry_type (telling : Telling) :
    (Telling.entry telling).type = telling.happening.type := by
  obtain ⟨incidentId, actorId, occurredAt, happening⟩ := telling
  cases happening <;> rfl

theorem Telling.entry_apart (telling : Telling) :
    (Telling.entry telling).type ≠ .userClearanceChanged ∧
      (Telling.entry telling).type ≠ .userRoleChanged := by
  rw [Telling.entry_type]
  cases telling.happening <;> exact ⟨nofun, nofun⟩

/-! ### Reading it back -/

/-- The levels that its columns have the digits of. -/
def Happening.levels : Happening → List Nat
  | .escalated _ fromLevel toLevel _ => [fromLevel, toLevel]
  | _ => []

theorem getLast?_named {users : List User} (unique : (users.map User.id).Nodup) (id : Id) :
    (users.filter (·.id = id)).getLast? = users.find? (·.id = id) := by
  induction users with
  | nil => rfl
  | cons user rest ih =>
    rw [List.map_cons, List.nodup_cons] at unique
    by_cases named : user.id = id
    · have others : rest.filter (·.id = id) = [] := by
        rw [List.filter_eq_nil_iff]
        intro other member same
        rw [decide_eq_true_eq, ← named] at same
        exact unique.1 (same ▸ List.mem_map_of_mem member)
      rw [List.filter_cons_of_pos (by simpa using named),
        List.find?_cons_of_pos (by simpa using named), others]
      rfl
    · rw [List.filter_cons_of_neg (by simpa using named),
        List.find?_cons_of_neg (by simpa using named)]
      exact ih unique.2

/-- The reference that a page looks up is the one of its user. -/
theorem userRefOf_found {store : Store} (unique : (store.users.map User.id).Nodup)
    {ids : List Id} {id : Id} (named : id ≠ "") (asked : id ∈ ids) :
    userRefOf (findUserRefsByIds store ids) (some id) = userRef store (some id) := by
  have chosen : store.users.filter (fun user => decide (user.id = id) && decide (user.id ∈ ids)) =
      store.users.filter (·.id = id) := by
    apply List.filter_congr
    intro user _
    by_cases same : user.id = id
    · simp [same, asked]
    · simp [same]
  have found := getLast?_named unique id
  simp only [userRefOf, namedUser, findUserRefsByIds, userRef, Store.userById]
  rw [Option.filter_some, if_pos (by simpa using named), Option.bind_some, List.filter_map,
    List.filter_filter, List.getLast?_map, Option.bind_some, ← found, ← chosen]
  rfl

section Row
variable {js : JsRuntime} {store : Store} {telling : Telling}

/-- The mapper reads an entry back as its event. -/
theorem toTimelineEvent_entry (digits : ReadsDigits js (Happening.levels telling.happening))
    {refs : List UserRef}
    (resolves : ∀ id ∈ telling.happening.investigator,
      userRefOf refs (some id) = userRef store (some id)) (rowId : Id) :
    toTimelineEvent js (joinActor store ((Telling.entry telling).row rowId)) true refs =
      .ok (telling.event store rowId) := by
  obtain ⟨incidentId, actorId, occurredAt, happening⟩ := telling
  cases happening with
  | assigned investigatorId =>
    have resolved := resolves investigatorId rfl
    simp [toTimelineEvent, joinActor, CreateAuditEventInput.row, Telling.entry, Telling.event,
      Happening.type, resolved]
  | unassigned investigatorId reason =>
    have resolved := resolves investigatorId rfl
    simp [toTimelineEvent, joinActor, CreateAuditEventInput.row, Telling.entry, Telling.event,
      Happening.type, resolved]
  -- Only the levels of an escalation are read back from texts.
  | escalated eventId fromLevel toLevel cycle =>
    have source : js.number (.str fromLevel.repr) = .num fromLevel :=
      digits fromLevel List.mem_cons_self
    have target : js.number (.str toLevel.repr) = .num toLevel :=
      digits toLevel (List.mem_cons_of_mem _ List.mem_cons_self)
    simp [toTimelineEvent, joinActor, CreateAuditEventInput.row, Telling.entry, Telling.event,
      Happening.type, payloadField, Json.field, coalesce, source, target]
  | _ =>
    simp [toTimelineEvent, joinActor, CreateAuditEventInput.row, Telling.entry, Telling.event,
      Happening.type, payloadField, Json.field, coalesce]

/-- Hiding the notes changes the event, and no row is refused for it. -/
theorem toTimelineEvent_hidden (refs : List UserRef) (rowId : Id) :
    ∃ event, toTimelineEvent js (joinActor store ((Telling.entry telling).row rowId)) false refs =
      .ok event := by
  obtain ⟨incidentId, actorId, occurredAt, happening⟩ := telling
  cases happening <;> exact ⟨_, rfl⟩

theorem entry_readsAll (named : ∀ id ∈ telling.happening.investigator, id ≠ "") (rowId : Id) :
    readsAbsent ((Telling.entry telling).row rowId) = false := by
  obtain ⟨incidentId, actorId, occurredAt, happening⟩ := telling
  cases happening with
  | assigned investigatorId | unassigned investigatorId reason =>
    have present : investigatorId ≠ "" := named investigatorId rfl
    simp [readsAbsent, CreateAuditEventInput.row, Telling.entry, Happening.type,
      namedUser, present]
  | _ =>
    simp [readsAbsent, CreateAuditEventInput.row, Telling.entry, Happening.type,
      payloadField, Json.field, isMissing]

/-- A page asks for the investigator of each of its rows. -/
theorem mentions_investigator {page : List AuditEventRow} {rowId id : Id}
    (listed : joinActor store ((Telling.entry telling).row rowId) ∈ page)
    (names : telling.happening.investigator = some id) (named : id ≠ "") :
    id ∈ mentionedUsers page := by
  refine List.mem_filterMap.mpr ⟨_, listed, ?_⟩
  obtain ⟨incidentId, actorId, occurredAt, happening⟩ := telling
  cases happening with
  | assigned investigatorId | unassigned investigatorId reason =>
    obtain rfl := Option.some.inj names
    simp [joinActor, CreateAuditEventInput.row, Telling.entry, Happening.type,
      namedUser, named]
  | _ => simp [Happening.investigator] at names

end Row

/-! ### Rows and tellings -/

def Reports (row : AuditEvent) (telling : Telling) : Prop :=
  ∃ rowId, row = (Telling.entry telling).row rowId

/-- The rows about incidents say these tellings, one each and in their order. -/
def Written (rows : List AuditEvent) (told : List Telling) : Prop :=
  List.Forall₂ Reports (rows.filter (·.incidentId.isSome)) told

theorem Written.append {first second : List AuditEvent} {told more : List Telling}
    (before : Written first told) (after : Written second more) :
    Written (first ++ second) (told ++ more) := by
  rw [Written, List.filter_append]
  exact List.rel_append before after

/-- Rows that name no incident say nothing. -/
theorem written_apart {rows : List AuditEvent} (apart : ∀ row ∈ rows, row.incidentId = none) :
    Written rows [] := by
  have none_left : rows.filter (·.incidentId.isSome) = [] := by
    rw [List.filter_eq_nil_iff]
    intro row member
    simp [apart row member]
  rw [Written, none_left]
  exact .nil

theorem entry_named (telling : Telling) (rowId : Id) :
    ((Telling.entry telling).row rowId).incidentId.isSome = true := by
  rw [CreateAuditEventInput.row, Telling.entry_incident]
  rfl

theorem written_of_reports {rows : List AuditEvent} {told : List Telling}
    (reports : List.Forall₂ Reports rows told) : Written rows told := by
  induction reports with
  | nil => exact .nil
  | cons first rest ih =>
    obtain ⟨rowId, rfl⟩ := first
    rw [Written, List.filter_cons, if_pos (entry_named _ rowId)]
    exact .cons ⟨rowId, rfl⟩ ih

theorem written_auditRows {entries : List CreateAuditEventInput} {told : List Telling}
    (same : entries = told.map Telling.entry) (ids : Nat → Id) :
    Written (auditRows entries ids) told := by
  have numbered : ∀ index, List.Forall₂ Reports
      (((told.map Telling.entry).zipIdx index).map fun entry => entry.1.row (ids entry.2))
      told := by
    induction told generalizing entries with
    | nil => exact fun _ => .nil
    | cons first rest ih => exact fun index => .cons ⟨ids index, rfl⟩ (ih rfl (index + 1))
  rw [auditRows, same]
  exact written_of_reports (numbered 0)

theorem Written.reported {rows : List AuditEvent} {told : List Telling}
    (written : Written rows told) {row : AuditEvent}
    (among : row ∈ rows.filter (·.incidentId.isSome)) : ∃ telling, Reports row telling := by
  rw [Written] at written
  generalize rows.filter (·.incidentId.isSome) = named at written among
  induction written with
  | nil => simp at among
  | cons first rest ih =>
    rcases List.mem_cons.mp among with rfl | later
    · exact ⟨_, first⟩
    · exact ih later

/-- A row of an account is about no incident. -/
theorem Written.apart {rows : List AuditEvent} {told : List Telling}
    (written : Written rows told) : ∀ row ∈ rows, RowApart row := by
  intro row member kind
  by_contra named
  have among : row ∈ rows.filter (·.incidentId.isSome) := by
    rw [List.mem_filter]
    exact ⟨member, Option.isSome_iff_ne_none.mpr named⟩
  obtain ⟨telling, rowId, rfl⟩ := written.reported among
  have apart := Telling.entry_apart telling
  rcases kind with clearance | role
  · exact apart.1 clearance
  · exact apart.2 role

/-! ### What each writer writes -/

section Writers
variable (actor : Actor) (id : Id) (now : Date)

def entries (story : List Happening) : List CreateAuditEventInput :=
  (tellAll id actor.id now story).map Telling.entry

theorem entries_append (story more : List Happening) :
    entries actor id now (story ++ more) =
      entries actor id now story ++ entries actor id now more := by
  simp only [entries, tellAll, List.map_append]

theorem entries_cons (first : Happening) (story : List Happening) :
    entries actor id now (first :: story) =
      Telling.entry ⟨id, some actor.id, now, first⟩ :: entries actor id now story := rfl

theorem entries_unassigned (assignee : Option AssigneeRow) (reason : String) :
    entries actor id now (assignee.toList.map fun assignee => .unassigned assignee.id reason) =
      assignee.toList.map fun assignee => unassignedRecord actor id assignee.id reason now := by
  cases assignee <;> rfl

/-- The stage moves only from the stage that the story names. -/
theorem entries_moved {moves : Prop} [Decidable moves] {source : Stage} (stage target : Stage)
    (reason : Option String) (same : moves → stage = source) :
    entries actor id now (if moves then [.stageChanged source target reason] else []) =
      if moves then [stageRecord actor id stage target reason now] else [] := by
  split
  next moved =>
    rw [same moved]
    rfl
  · rfl

variable {actor id now}

/-- An operation writes its story. -/
theorem decide_story {operation : Operation} {row : TriageIncidentRow}
    {investigator : Option User} {mutation : Mutation}
    (decided : operation.decide actor id row investigator now = .ok mutation) :
    mutation.records = entries actor id now (operation.story row investigator) := by
  cases operation with
  | triage =>
    obtain ⟨_, _, records⟩ := triage_ok decided
    rw [records]
    rfl
  | changeSeverity input =>
    obtain ⟨_, _, _, records⟩ := changeSeverity_ok decided
    -- `&&` and `∧` decide alike that the incident goes back to TRIAGE.
    have returned : ((strandedAssignee row input.severity).isSome &&
        decide (row.stage = .investigation)) = true → row.stage = .investigation := by
      intro both
      exact of_decide_eq_true ((Bool.and_eq_true _ _).mp both).2
    have story : (Operation.changeSeverity input).story row investigator =
        .severityChanged row.severity input.severity input.reason.value ::
          ((strandedAssignee row input.severity).toList.map fun assignee =>
            .unassigned assignee.id "CLEARANCE_BELOW_NEW_SEVERITY") ++
          if (strandedAssignee row input.severity).isSome && row.stage = .investigation then
            [.stageChanged .investigation .triage (some "CLEARANCE_BELOW_NEW_SEVERITY")]
          else [] := rfl
    rw [records, story, entries_append, entries_cons, entries_unassigned,
      entries_moved actor id now row.stage .triage _ returned]
    rfl
  | assignInvestigator investigatorId =>
    obtain ⟨_, user, rfl, _, _, _, _, records⟩ := assignInvestigator_ok decided
    rw [records, Operation.story, entries_append, entries_append, entries_unassigned,
      entries_moved actor id now row.stage .investigation none (fun triaged => triaged)]
    rfl
  | unassignInvestigator =>
    obtain ⟨_, _, removed, assigned, _, records⟩ := unassignInvestigator_ok decided
    rw [records, Operation.story, entries_append, assigned,
      entries_moved actor id now row.stage .triage none (fun investigating => investigating)]
    rfl
  | acknowledge =>
    obtain ⟨_, _, _, records⟩ := acknowledge_ok decided
    rw [records]
    rfl
  | propose input =>
    obtain ⟨_, _, _, records⟩ := propose_ok decided
    rw [records]
    rfl
  | approve =>
    obtain ⟨_, _, _, records⟩ := approve_ok decided
    rw [records]
    rfl
  | reject reason =>
    obtain ⟨pending, _, records⟩ := reject_ok decided
    rw [records, pending]
    rfl

theorem cascade_story (targetId : Id) (incident : AssignedIncidentRow) :
    (cascade actor targetId incident now).records =
      entries actor incident.id now (cascadeStory targetId incident) := by
  rw [cascade_records, cascadeStory, entries_cons,
    entries_moved actor incident.id now incident.stage .triage _ fun investigating => investigating]
  rfl

end Writers

/-! ### Transactions -/

/-- What a transaction adds to the log. -/
def Adds (store after : Store) (told : List Telling) : Prop :=
  ∃ rows, after.auditEvents = store.auditEvents ++ rows ∧ Written rows told

theorem Adds.nothing {store after : Store} (audits : after.auditEvents = store.auditEvents) :
    Adds store after [] :=
  ⟨[], by rw [audits, List.append_nil], .nil⟩

theorem Adds.trans {first second third : Store} {told more : List Telling}
    (before : Adds first second told) (after : Adds second third more) :
    Adds first third (told ++ more) := by
  obtain ⟨rows, audits, written⟩ := before
  obtain ⟨later, lateAudits, lateWritten⟩ := after
  exact ⟨rows ++ later, by rw [lateAudits, audits, List.append_assoc], written.append lateWritten⟩

theorem adds_record {store after : Store} {told : List Telling} (ids : Nat → Id)
    (audits : after.auditEvents =
      store.auditEvents ++ auditRows (told.map Telling.entry) ids) : Adds store after told :=
  ⟨_, audits, written_auditRows rfl ids⟩

theorem create_adds (store : Store) (actor : Actor) (input : CreateIncidentRequest)
    (image : Upload) (id : Id) (now wall : Date) (ids : Nat → Id) :
    Adds store (create store actor input image id now wall ids).2
      (ifCommitted (create store actor input image id now wall ids).1
        (tellAll id actor.id now [.created input.severity input.type .reported])) := by
  have inserted : ∀ imagePath, Adds store
      (create.insert store actor input id now wall ids imagePath).2
      (ifCommitted (create.insert store actor input id now wall ids imagePath).1
        (tellAll id actor.id now [.created input.severity input.type .reported])) := by
    intro imagePath
    simp only [create.insert]
    split
    · exact .nothing rfl
    · exact adds_record ids rfl
  unfold create
  split
  · exact .nothing rfl
  · split
    · exact .nothing rfl
    · exact inserted none
  · exact inserted _

theorem commitMutation_adds {store after : Store} {actor : Actor} {id : Id} {version : Nat}
    {mutation : Mutation} {now wall : Date} {ids : Nat → Id} {story : List Happening}
    (records : mutation.records = entries actor id now story)
    (committed : commitMutation store id version mutation wall ids = .ok after) :
    Adds store after (tellAll id actor.id now story) := by
  obtain ⟨_, rfl⟩ := commitMutation_ok _ _ _ _ _ _ _ committed
  apply adds_record ids
  rw [records]
  rfl

theorem commitRequest_adds {store after : Store} {request : Request} {now wall : Date}
    {ids : Nat → Id} (committed : commitRequest store request now wall ids = .ok after) :
    Adds store after (tellAll request.id request.actor.id now
      (request.operation.story request.row (request.investigator.getD none))) := by
  obtain ⟨mutation, decided, written⟩ := commitRequest_ok committed
  exact commitMutation_adds (decide_story decided) written

/-- The cascade tells of one incident after the other. -/
theorem cascadeAll_adds {actor : Actor} {targetId : Id} {now wall : Date} {ids : Nat → Nat → Id}
    {affected : List AssignedIncidentRow} {index : Nat} {store after : Store}
    (committed : cascadeAll actor targetId now wall ids affected index store = .ok after) :
    Adds store after (affected.flatMap fun incident =>
      tellAll incident.id actor.id now (cascadeStory targetId incident)) := by
  induction affected generalizing index store with
  | nil =>
    obtain rfl := Except.ok.inj committed
    exact .nothing rfl
  | cons incident rest ih =>
    obtain ⟨written, first, later⟩ := bind_ok committed
    rw [List.flatMap_cons]
    exact (commitMutation_adds (cascade_story targetId incident) first).trans (ih later)

theorem commitClearance_adds {store after : Store} {actor : Actor} {target : User}
    {clearance : ClearanceLevel} {affected : List AssignedIncidentRow} {now wall : Date}
    {ids : Nat → Nat → Id}
    (committed : commitClearance store actor target clearance affected now wall ids = .ok after) :
    Adds store after (affected.flatMap fun incident =>
      tellAll incident.id actor.id now (cascadeStory target.id incident)) := by
  obtain ⟨updated, found, cascading⟩ := bind_ok committed
  obtain rfl := updateUserClearance_ok found
  rw [← List.nil_append (affected.flatMap _)]
  -- the row of the level itself names no incident
  refine Adds.trans ⟨_, rfl, written_apart ?_⟩ (cascadeAll_adds cascading)
  intro row member
  obtain ⟨entry, among, rowId, rfl⟩ := auditRow_input member
  rw [List.mem_singleton.mp among]
  rfl

theorem noteCommit_adds {store : Store} {request : NoteRequest} {now : Date} {noteId : Id}
    {ids : Nat → Id} {result : Note × Store}
    (committed : request.commit store now noteId ids = .ok result) :
    Adds store result.2 (tellAll request.incidentId request.actor.id now
      [.noteAdded noteId (jsLength request.body.value)]) := by
  apply adds_record ids
  rw [noteCommit_ok committed]
  rfl

end IncidentApi.Properties
