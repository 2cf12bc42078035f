import IncidentApi.Properties.JobSteps

/-!
# What a step does to incident rows

`step_store` says once how an action can change the incidents: it appends a row of `create`, or it
maps every row to itself, to a pinned write of a mutation or of the clearance cascade, or to the
bumps of the batch transaction that commits. The invariants of single rows are proved by these
cases.
-/
namespace IncidentApi.Properties

/-! ### The part of a row that the version protects -/

/-- A row without the columns the job writes, which no version guards. -/
def protectedPart (row : Incident) : Incident :=
  { row with currentEscalationLevel := 0, lastEscalatedAt := none, updatedAt := 0 }

/-- What is read from protected columns agrees where they do. -/
theorem protected_congr {T : Type} (read : Incident → T)
    (reads : ∀ row, read (protectedPart row) = read row) {row other : Incident}
    (same : protectedPart row = protectedPart other) : read row = read other := by
  rw [← reads row, same, reads]

/-- The same update of rows that agree on their protected columns. -/
theorem write_protected (data : UpdateIncidentStateInput) (wall : Date) {row other : Incident}
    (same : protectedPart row = protectedPart other) :
    protectedPart (data.write wall row) = protectedPart (data.write wall other) :=
  protected_congr (fun row => protectedPart (data.write wall row)) (fun _ => rfl) same

theorem bumpRow_protected (id : Id) (level : Nat) (now wall : Date) (row : Incident) :
    protectedPart (bumpRow id level now wall row) = protectedPart row := by
  unfold bumpRow
  split <;> rfl

theorem bumpedBy_protected (writes : List Write) (row : Incident) :
    protectedPart (bumpedBy writes row) = protectedPart row := by
  induction writes generalizing row with
  | nil => rfl
  | cons write rest ih =>
    cases write with
    | bump id level now wall => exact (ih _).trans (bumpRow_protected id level now wall row)
    | event _ => exact ih row
    | notifications _ => exact ih row
    | audit _ => exact ih row

@[simp] theorem write_id (data : UpdateIncidentStateInput) (wall : Date) (row : Incident) :
    (data.write wall row).id = row.id := rfl

@[simp] theorem write_version (data : UpdateIncidentStateInput) (wall : Date) (row : Incident) :
    (data.write wall row).version = row.version + 1 := rfl

theorem pinned_iff (id : Id) (expectedVersion : Nat) (row : Incident) :
    pinned id expectedVersion row = true ↔ row.id = id ∧ row.version = expectedVersion := by
  simp [pinned]

/-- With distinct ids a pin matches one row or none. -/
theorem pinned_single_iff {rows : List Incident} (unique : (rows.map Incident.id).Nodup) (id : Id)
    (expectedVersion : Nat) :
    (rows.filter (pinned id expectedVersion)).length = 1 ↔
      ∃ row ∈ rows, row.id = id ∧ row.version = expectedVersion := by
  rw [← List.countP_eq_length_filter]
  have atMost : rows.countP (pinned id expectedVersion) ≤ 1 := calc
    rows.countP (pinned id expectedVersion)
      ≤ rows.countP (fun row => row.id == id) :=
        List.countP_mono_left fun row _ pins => by
          simpa using ((pinned_iff _ _ _).mp pins).1
    _ = (rows.map Incident.id).count id := by
        rw [List.count, List.countP_map]
        rfl
    _ ≤ 1 := List.nodup_iff_count_le_one.mp unique id
  have positive : 0 < rows.countP (pinned id expectedVersion) ↔
      ∃ row ∈ rows, row.id = id ∧ row.version = expectedVersion := by
    simp only [List.countP_pos_iff, pinned_iff]
  rw [← positive]
  omega

/-! ### The cascade in closed form -/

/-- What the loop over the affected incidents makes of one row. -/
def cascaded (actor : Actor) (targetId : Id) (now wall : Date)
    (affected : List AssignedIncidentRow) (row : Incident) : Incident :=
  affected.foldl
    (fun row incident =>
      if pinned incident.id incident.version row then
        (cascade actor targetId incident now).data.write wall row
      else row)
    row

theorem cascaded_cons (actor : Actor) (targetId : Id) (now wall : Date)
    (incident : AssignedIncidentRow) (rest : List AssignedIncidentRow) (row : Incident) :
    cascaded actor targetId now wall (incident :: rest) row =
      cascaded actor targetId now wall rest
        (if pinned incident.id incident.version row then
          (cascade actor targetId incident now).data.write wall row
        else row) := rfl

theorem cascaded_other {actor : Actor} {targetId : Id} {now wall : Date}
    {affected : List AssignedIncidentRow} {row : Incident}
    (other : row.id ∉ affected.map (·.id)) :
    cascaded actor targetId now wall affected row = row := by
  induction affected with
  | nil => rfl
  | cons incident rest ih =>
    simp only [List.map_cons, List.mem_cons, not_or] at other
    have unpinned : pinned incident.id incident.version row = false := by
      simp [pinned, other.1]
    rw [cascaded_cons, unpinned]
    exact ih other.2

/-- Distinct incidents: a row is written at most once. -/
theorem cascaded_cases (actor : Actor) (targetId : Id) (now wall : Date)
    {affected : List AssignedIncidentRow} (distinct : (affected.map (·.id)).Nodup)
    (row : Incident) :
    cascaded actor targetId now wall affected row = row ∨
      ∃ incident ∈ affected, pinned incident.id incident.version row = true ∧
        cascaded actor targetId now wall affected row =
          (cascade actor targetId incident now).data.write wall row := by
  induction affected with
  | nil => exact Or.inl rfl
  | cons incident rest ih =>
    simp only [List.map_cons, List.nodup_cons] at distinct
    rw [cascaded_cons]
    by_cases pins : pinned incident.id incident.version row = true
    · have own := ((pinned_iff _ _ _).mp pins).1
      refine Or.inr ⟨incident, List.mem_cons_self, pins, ?_⟩
      rw [if_pos pins]
      -- the rest of the loop is about other incidents
      exact cascaded_other (by simpa [own] using distinct.1)
    · rw [if_neg pins]
      refine (ih distinct.2).imp_right fun ⟨later, among, rest⟩ => ?_
      exact ⟨later, List.mem_cons_of_mem _ among, rest⟩

/-- The audit rows of a step contain those of a mutation. -/
def Logs (rows : List AuditEvent) (mutation : Mutation) : Prop :=
  ∀ entry ∈ mutation.records, ∃ id, entry.row id ∈ rows

theorem logs_auditRows (mutation : Mutation) (ids : Nat → Id) :
    Logs (auditRows mutation.records ids) mutation := by
  intro entry member
  obtain ⟨i, found⟩ := exists_auditRow member ids
  exact ⟨_, found⟩

theorem Logs.append {rows : List AuditEvent} {mutation : Mutation} (logs : Logs rows mutation)
    (before after : List AuditEvent) : Logs (before ++ rows ++ after) mutation := by
  intro entry member
  obtain ⟨id, found⟩ := logs entry member
  exact ⟨id, List.mem_append_left _ (List.mem_append_right _ found)⟩

theorem cascadeAll_ok {actor : Actor} {targetId : Id} {now wall : Date} {ids : Nat → Nat → Id}
    {affected : List AssignedIncidentRow} {index : Nat} {store after : Store}
    (committed : cascadeAll actor targetId now wall ids affected index store = .ok after) :
    ∃ rows,
      after = { store with
        incidents := store.incidents.map (cascaded actor targetId now wall affected)
        auditEvents := store.auditEvents ++ rows } ∧
      ∀ incident ∈ affected, Logs rows (cascade actor targetId incident now) := by
  induction affected generalizing index store with
  | nil =>
    obtain rfl := Except.ok.inj committed
    have unchanged : cascaded actor targetId now wall [] = id := rfl
    exact ⟨[], by simp [unchanged], by simp⟩
  | cons incident rest ih =>
    obtain ⟨written, first, later⟩ := bind_ok committed
    obtain ⟨_, rfl⟩ := commitMutation_ok _ _ _ _ _ _ _ first
    obtain ⟨rows, rfl, logs⟩ := ih later
    refine ⟨auditRows (cascade actor targetId incident now).records (ids index) ++ rows, ?_, ?_⟩
    · simp only [List.map_map, List.append_assoc]
      rfl
    · intro other among
      rcases List.mem_cons.mp among with rfl | tail
      · exact (logs_auditRows _ (ids index)).append [] rows
      · simpa using (logs other tail).append
          (auditRows (cascade actor targetId incident now).records (ids index)) []

/-- The transaction of `changeClearance`. -/
theorem commitClearance_ok {store after : Store} {actor : Actor} {target : User}
    {clearance : ClearanceLevel} {affected : List AssignedIncidentRow} {now wall : Date}
    {ids : Nat → Nat → Id}
    (committed : commitClearance store actor target clearance affected now wall ids = .ok after) :
    ∃ rows,
      after = { store with
        users := store.users.map fun user =>
          if user.id = target.id then { user with clearanceLevel := clearance.level } else user
        incidents := store.incidents.map (cascaded actor target.id now wall affected)
        auditEvents := store.auditEvents ++ rows } ∧
      ∀ incident ∈ affected, Logs rows (cascade actor target.id incident now) := by
  obtain ⟨updated, found, cascading⟩ := bind_ok committed
  obtain rfl := updateUserClearance_ok found
  obtain ⟨rows, rfl, logs⟩ := cascadeAll_ok cascading
  refine ⟨auditRows [clearanceRecord actor target clearance now] (ids 0) ++ rows, ?_, ?_⟩
  · simp [Store.record]
  · intro incident among
    simpa using (logs incident among).append
      (auditRows [clearanceRecord actor target clearance now] (ids 0)) []

/-! ### The steps -/

/-- How an action can change a stored row; `rows` are the audit rows it appends. -/
inductive RowEvent (sys : System) (action : Action) (rows : List AuditEvent) (old : Incident) :
    Incident → Prop
  | kept : RowEvent sys action rows old old
  | mutated (k : Nat) (now wall : Date) (ids : Nat → Id) (request : Request)
      (mutation : Mutation) (isCommit : action = .commit k now wall ids)
      (found : sys.requests[k]? = some request) (decided : request.decide now = .ok mutation)
      (free : sys.locked request.id = false)
      (pins : pinned request.id request.expectedVersion old = true)
      (logs : Logs rows mutation) :
      RowEvent sys action rows old (mutation.data.write wall old)
  | cascaded (k : Nat) (now wall : Date) (ids : Nat → Nat → Id) (request : ClearanceRequest)
      (affected : List AssignedIncidentRow) (incident : AssignedIncidentRow)
      (isCommit : action = .commitClearance k now wall ids)
      (found : sys.clearances[k]? = some request) (read : request.affected = some affected)
      (among : incident ∈ affected) (free : sys.locked incident.id = false)
      (pins : pinned incident.id incident.version old = true)
      (logs : Logs rows (cascade request.actor request.target.id incident now)) :
      RowEvent sys action rows old
        ((cascade request.actor request.target.id incident now).data.write wall old)
  | bumped (k : Nat) (reading : Reading) (run : Run) (batch : Batch)
      (isJob : action = .job k reading) (found : sys.runs[k]? = some run)
      (opened : run.open? = some batch) (done : batch.todo = []) :
      RowEvent sys action rows old (bumpedBy batch.writes old)

/-- The incidents after an action. -/
inductive RowsEffect (sys : System) (action : Action) (rows : List AuditEvent) :
    List Incident → Prop
  | created (actor : Actor) (input : CreateIncidentRequest) (imagePath : Option String) (id : Id)
      (reference : String) (now wall : Date) (fresh : ∀ row ∈ sys.store.incidents, row.id ≠ id)
      (service : Action.ofJob action = false) :
      RowsEffect sys action rows
        (sys.store.incidents ++ [newIncident actor input imagePath id reference now wall])
  | changed (change : Incident → Incident)
      (each : ∀ row ∈ sys.store.incidents, RowEvent sys action rows row (change row)) :
      RowsEffect sys action rows (sys.store.incidents.map change)

theorem RowsEffect.same {sys : System} (action : Action) (rows : List AuditEvent) :
    RowsEffect sys action rows sys.store.incidents := by
  have unchanged : RowsEffect sys action rows (sys.store.incidents.map id) :=
    .changed id fun _ _ => .kept
  rwa [List.map_id] at unchanged

/-- A row after an action comes from the row of its id, or `create` has added it. -/
theorem RowsEffect.origin {sys : System} {action : Action} {rows : List AuditEvent}
    {incidents : List Incident} (effect : RowsEffect sys action rows incidents) {new : Incident}
    (member : new ∈ incidents) :
    (∃ old ∈ sys.store.incidents, RowEvent sys action rows old new) ∨
    ∃ actor input imagePath id reference now wall,
      new = newIncident actor input imagePath id reference now wall ∧
        ∀ row ∈ sys.store.incidents, row.id ≠ id := by
  cases effect with
  | created actor input imagePath id reference now wall fresh service =>
    rcases List.mem_append.mp member with old | last
    · exact Or.inl ⟨new, old, .kept⟩
    · obtain rfl := List.mem_singleton.mp last
      exact Or.inr ⟨actor, input, imagePath, id, reference, now, wall, rfl, fresh⟩
  | changed change each =>
    obtain ⟨old, stored, rfl⟩ := List.mem_map.mp member
    exact Or.inl ⟨old, stored, each old stored⟩

/-- Every row before an action has its image after it. -/
theorem RowsEffect.image {sys : System} {action : Action} {rows : List AuditEvent}
    {incidents : List Incident} (effect : RowsEffect sys action rows incidents) {old : Incident}
    (stored : old ∈ sys.store.incidents) : ∃ new ∈ incidents, RowEvent sys action rows old new := by
  cases effect with
  | created actor input imagePath id reference now wall fresh service =>
    exact ⟨old, List.mem_append_left _ stored, .kept⟩
  | changed change each => exact ⟨change old, List.mem_map_of_mem stored, each old stored⟩

/-- The affected incidents of every pending `changeClearance` are distinct. -/
def DistinctImpacts (sys : System) : Prop :=
  ∀ request ∈ sys.clearances, ∀ affected, request.affected = some affected →
    (affected.map (·.id)).Nodup

/-- `create` leaves the incidents alone or appends the new one, under an id that is not taken. -/
structure CreateEffect (actor : Actor) (input : CreateIncidentRequest) (id : Id) (now wall : Date)
    (store after : Store) : Prop where
  users : after.users = store.users
  notes : after.notes = store.notes
  tiers : after.escalationTiers = store.escalationTiers
  rows : after.incidents = store.incidents ∧ after.auditEvents = store.auditEvents ∨
    ∃ imagePath reference,
      (∀ row ∈ store.incidents, row.id ≠ id) ∧
      after.incidents =
        store.incidents ++ [newIncident actor input imagePath id reference now wall] ∧
      ∃ rows, after.auditEvents = store.auditEvents ++ rows

theorem create_effect (store : Store) (actor : Actor) (input : CreateIncidentRequest)
    (image : Upload) (id : Id) (now wall : Date) (ids : Nat → Id) :
    CreateEffect actor input id now wall store
      (create store actor input image id now wall ids).2 := by
  have refused : CreateEffect actor input id now wall store store :=
    ⟨rfl, rfl, rfl, Or.inl ⟨rfl, rfl⟩⟩
  have inserted : ∀ imagePath, CreateEffect actor input id now wall store
      (create.insert store actor input id now wall ids imagePath).2 := by
    intro imagePath
    simp only [create.insert]
    split
    · exact ⟨rfl, rfl, rfl, Or.inl ⟨rfl, rfl⟩⟩
    next free =>
      refine ⟨rfl, rfl, rfl, Or.inr ⟨imagePath, _, fun row member same => free ?_, rfl, _, rfl⟩⟩
      exact List.any_eq_true.mpr ⟨row, member, by simp [same]⟩
  unfold create
  split
  · exact refused
  · split
    · exact refused
    · exact inserted none
  · exact inserted _

/-- What an action does to the tables of users, incidents and tiers. -/
structure StoreEffect (sys : System) (action : Action) (after : Store) : Prop where
  incidents : ∃ rows, after.auditEvents = sys.store.auditEvents ++ rows ∧
    RowsEffect sys action rows after.incidents
  userIds : after.users.map User.id = sys.store.users.map User.id
  tiers : after.escalationTiers = sys.store.escalationTiers ∨
    ∃ (request : TierSetRequest) (updatedById : Id),
      after.escalationTiers = request.tiers.map fun tier => ⟨tier, true, some updatedById⟩

theorem step_store {config : JobConfig} {sys next : System} {action : Action}
    (distinct : DistinctImpacts sys) (stepped : step config sys action = some next) :
    StoreEffect sys action next.store := by
  -- most actions leave the three tables alone
  have still {after : Store} (users : after.users = sys.store.users)
      (tiers : after.escalationTiers = sys.store.escalationTiers)
      (audits : after.auditEvents = sys.store.auditEvents)
      (incidents : after.incidents = sys.store.incidents) : StoreEffect sys action after :=
    ⟨⟨[], by rw [audits, List.append_nil], incidents ▸ .same action []⟩, by rw [users],
      Or.inl tiers⟩
  by_cases job : Action.ofJob action = true
  · cases step_job job stepped with
    | started => exact still rfl rfl rfl rfl
    | dropped => exact still rfl rfl rfl rfl
    -- of a run's statements, only the commit of a batch shows in the rows
    | stepped k run after store reading isJob found drawn effect =>
      cases effect with
      | outside _ _ closed still' tables =>
        exact still tables.users tables.tiers tables.audits tables.incidents
      | committed batch _ phase done =>
        rw [view_eq]
        exact ⟨⟨_, rfl, .changed _ fun row _ => .bumped k reading run batch isJob found
          (by simp [Run.open?, phase]) done⟩, rfl, Or.inl rfl⟩
      | _ => exact still rfl rfl rfl rfl
  · cases step_effect (by simpa using job) stepped with
    | created userId input image id now wall ids actor =>
      obtain ⟨users, _, tiers, ⟨incidents, audits⟩ |
        ⟨imagePath, reference, fresh, incidents, rows, audits⟩⟩ :=
        create_effect sys.store actor input image id now wall ids
      · exact still users tiers audits incidents
      · refine ⟨⟨rows, audits, ?_⟩, congrArg _ users, Or.inl tiers⟩
        rw [show _ = _ from incidents]
        exact .created actor input imagePath id reference now wall fresh rfl
    | committed k now wall ids request mutation after found free decided written =>
      obtain ⟨_, rfl⟩ := commitMutation_ok _ _ _ _ _ _ _ written
      refine ⟨⟨auditRows mutation.records ids, rfl, .changed _ fun row _ => ?_⟩, rfl, Or.inl rfl⟩
      split
      next pins =>
        exact .mutated k now wall ids request mutation rfl found decided free pins
          (logs_auditRows _ _)
      · exact .kept
    | committedClearance k now wall ids request affected after found read free changes written =>
      obtain ⟨rows, rfl, logs⟩ := commitClearance_ok written
      refine ⟨⟨rows, rfl, .changed _ fun row _ => ?_⟩, ?_, Or.inl rfl⟩
      · rcases cascaded_cases request.actor request.target.id now wall
          (distinct request (List.mem_of_getElem? found) affected read) row with
          same | ⟨incident, among, pins, overwritten⟩
        · rw [same]
          exact .kept
        · rw [overwritten]
          exact .cascaded k now wall ids request affected incident rfl found read among
            (free incident among) pins (logs incident among)
      · rw [List.map_map]
        apply List.map_congr_left
        intro user _
        simp only [Function.comp_apply]
        split <;> rfl
    | replacedTiers userId request updatedById fits =>
      exact ⟨⟨[], (List.append_nil _).symm, .same _ _⟩, rfl, Or.inr ⟨request, updatedById, rfl⟩⟩
    | recordedDenial => exact ⟨⟨_, rfl, .same _ _⟩, rfl, Or.inl rfl⟩
    | _ => exact still rfl rfl rfl rfl

end IncidentApi.Properties
