import IncidentApi.Properties.Suppression
import IncidentApi.Properties.ClosureGates
import IncidentApi.Properties.Noninterference

/-!
# The rows of the escalation feed

A raised counter comes with a clock and with the event of its own level, since the bump is the last
statement of a pair whose first one inserted that event. A severity change that commits between
the two can move the row away from under the bump; in every run without such a bump the feed
serves each of its rows.
-/
namespace IncidentApi.Properties

/-! ### The columns the feed reads -/

def feedColumns (row : Incident) : Severity × Option Date × Nat × Nat :=
  (row.severity, row.highSeveritySince, row.escalationCycle, row.currentEscalationLevel)

/-- A row whose counter is raised has a clock, and the event that raised it. -/
def FeedRow (events : List EscalationEvent) (row : Incident) : Prop :=
  0 < row.currentEscalationLevel → row.highSeveritySince.isSome = true ∧
    HasEvent events row.id row.escalationCycle row.currentEscalationLevel

theorem FeedRow.mono {events more : List EscalationEvent} (subset : events ⊆ more) {row : Incident}
    (fed : FeedRow events row) : FeedRow more row := by
  intro raised
  obtain ⟨clock, has⟩ := fed raised
  exact ⟨clock, has.mono subset⟩

theorem FeedRow.congr {events : List EscalationEvent} {old new : Incident} (named : new.id = old.id)
    (same : feedColumns new = feedColumns old) (fed : FeedRow events old) :
    FeedRow events new := by
  simp only [feedColumns, Prod.mk.injEq] at same
  obtain ⟨_, since, cycle, level⟩ := same
  rw [FeedRow, named, since, cycle, level]
  exact fed

theorem newIncident_fed (events : List EscalationEvent) (actor : Actor)
    (input : CreateIncidentRequest) (imagePath : Option String) (id : Id) (reference : String)
    (now wall : Date) :
    FeedRow events (newIncident actor input imagePath id reference now wall) :=
  fun raised => absurd raised (Nat.lt_irrefl 0)

/-- The columns after a severity change of a row. -/
def changedColumns (row : Incident) (target : Severity) (now : Date) :
    Severity × Option Date × Nat × Nat :=
  let clock := applySeverityChange row.severity target now row.clock
  (target, clock.highSeveritySince, clock.escalationCycle, clock.currentEscalationLevel)

/-- What an update does to the columns of the feed: nothing, or it overwrites them all with what
the severity change of the loaded row answers. -/
inductive ColumnsEffect (operation : Operation) (seen : Incident) (now : Date)
    (data : UpdateIncidentStateInput) : Prop
  | untouched (columns : ∀ wall row, feedColumns (data.write wall row) = feedColumns row)
  | changed (input : ChangeSeverityRequest) (isChange : operation = .changeSeverity input)
      (differs : seen.severity ≠ input.severity)
      (columns : ∀ wall row,
        feedColumns (data.write wall row) = changedColumns seen input.severity now)

theorem decide_columns {operation : Operation} {actor : Actor} {id : Id} {row : TriageIncidentRow}
    {investigator : Option User} {now : Date} {mutation : Mutation}
    (decided : operation.decide actor id row investigator now = .ok mutation) :
    ColumnsEffect operation row.toIncident now mutation.data := by
  cases operation with
  | triage =>
    rw [(triage_ok decided).2.1]
    exact .untouched fun _ _ => rfl
  | changeSeverity input =>
    obtain ⟨_, differs, data, _⟩ := changeSeverity_ok decided
    rw [data]
    exact .changed input rfl differs fun _ _ => rfl
  | assignInvestigator investigatorId =>
    obtain ⟨_, _, _, _, _, _, data, _⟩ := assignInvestigator_ok decided
    rw [data]
    exact .untouched fun _ _ => rfl
  | unassignInvestigator =>
    obtain ⟨_, _, _, _, data, _⟩ := unassignInvestigator_ok decided
    rw [data]
    exact .untouched fun _ _ => rfl
  | acknowledge =>
    rw [(acknowledge_ok decided).2.2.1]
    exact .untouched fun _ _ => rfl
  | propose input =>
    rw [(propose_ok decided).2.2.1]
    exact .untouched fun _ _ => rfl
  | approve =>
    rw [(approve_ok decided).2.2.1]
    exact .untouched fun _ _ => rfl
  | reject reason =>
    rw [(reject_ok decided).2.1]
    exact .untouched fun _ _ => rfl

theorem cascade_columns (actor : Actor) (targetId : Id) (incident : AssignedIncidentRow)
    (now wall : Date) (row : Incident) :
    feedColumns ((cascade actor targetId incident now).data.write wall row) = feedColumns row :=
  rfl

/-- A severity change resets the counter, or takes it from the loaded row with its clock. -/
theorem ColumnsEffect.fed {operation : Operation} {events : List EscalationEvent}
    {seen row : Incident} {now : Date} {data : UpdateIncidentStateInput} (wall : Date)
    (effect : ColumnsEffect operation seen now data) (named : seen.id = row.id)
    (computed : FeedRow events seen) (stored : FeedRow events row) :
    FeedRow events (data.write wall row) := by
  cases effect with
  | untouched columns =>
    have sameId : (data.write wall row).id = row.id := rfl
    exact stored.congr sameId (columns wall row)
  | changed input _ _ columns =>
    have written := columns wall row
    simp only [feedColumns, changedColumns, Prod.mk.injEq] at written
    obtain ⟨_, since, cycle, level⟩ := written
    intro raised
    rw [level] at raised
    rcases applySeverityChange_cases seen.severity input.severity now seen.clock with
      restarted | ⟨_, left⟩ | ⟨_, kept⟩
    · simp [restarted] at raised
    · simp [left] at raised
    · rw [kept] at since cycle level raised
      obtain ⟨clock, has⟩ := computed raised
      have sameId : (data.write wall row).id = seen.id := named.symm
      rw [since, cycle, level, sameId]
      exact ⟨clock, has⟩

/-! ### Rows that a batch holds locked -/

theorem RowEvent.locked {sys : System} {action : Action} {rows : List AuditEvent}
    {old new : Incident} (event : RowEvent sys action rows old new)
    (locked : sys.locked old.id = true) : protectedPart new = protectedPart old := by
  cases event with
  | kept => rfl
  | mutated k now wall ids request mutation isCommit found decided free pins logs =>
    rw [((pinned_iff _ _ _).mp pins).1, free] at locked
    simp at locked
  | cascaded k now wall ids request affected incident isCommit found read among free pins logs =>
    rw [((pinned_iff _ _ _).mp pins).1, free] at locked
    simp at locked
  | bumped k reading run batch isJob found opened done => exact bumpedBy_protected batch.writes old

section Step
variable {config : JobConfig} {sys next : System} {action : Action}

/-- Every row after a step comes from the row of its id, or has a new id. -/
theorem step_locked (distinct : DistinctImpacts sys)
    (stepped : step config sys action = some next) :
    ∀ row ∈ next.store.incidents,
      (∃ old ∈ sys.store.incidents, old.id = row.id ∧
        (sys.locked row.id = true → protectedPart row = protectedPart old)) ∨
      ∀ old ∈ sys.store.incidents, old.id ≠ row.id := by
  obtain ⟨rows, _, effect⟩ := (step_store distinct stepped).incidents
  intro row member
  rcases effect.origin member with ⟨old, stored, event⟩ | ⟨_, _, _, _, _, _, _, rfl, fresh⟩
  · exact Or.inl ⟨old, stored, event.id.symm, fun locked => event.locked (event.id ▸ locked)⟩
  · exact Or.inr fresh

/-! ### Open batches -/

/-- The row that the bump about to run would match is still in the cycle of the event, and in the
high band. -/
def bumpFinds (store : Store) (batch : Batch) : Bool :=
  match batch.todo, batch.statement with
  | due :: _, .bump event _ _ =>
    (batch.view store).incidents.all fun row =>
      !(row.id = due.candidate.id && row.currentEscalationLevel < due.tier.level) ||
        (row.escalationCycle = event.cycle && row.severity.inHighBand)
  | _, _ => true

/-- Every bump that is about to run finds its row as its event left it. -/
def bumpsFindOwn (sys : System) : Action → Bool
  | .job k _ => (sys.runs[k]?.bind Run.open?).all (bumpFinds sys.store)
  | _ => true

/-- A counter that the transaction raises gets the event of its level, next to a clock. -/
structure BumpFed (store : Store) (events : List EscalationEvent) (due : Due) : Prop where
  present : ∃ row ∈ store.incidents, row.id = due.candidate.id
  clock : ∀ row ∈ store.incidents, row.id = due.candidate.id → row.highSeveritySince.isSome = true
  event : ∀ row ∈ store.incidents, row.id = due.candidate.id →
    HasEvent events row.id row.escalationCycle due.tier.level

structure BatchFed (store : Store) (batch : Batch) : Prop where
  bumps : ∀ done ∈ batch.escalations, done.bumped.isSome = true →
    BumpFed store (visibleEvents store batch) done.due
  progress : ∀ due rest, batch.todo = due :: rest → ∀ event ∈ Statement.event? batch.statement,
    event.key = dueKey due

theorem BumpFed.mono {store : Store} {events more : List EscalationEvent} (subset : events ⊆ more)
    {due : Due} (fed : BumpFed store events due) : BumpFed store more due :=
  ⟨fed.present, fed.clock, fun row stored named => (fed.event row stored named).mono subset⟩

/-- Steps of others leave a row alone that the batch has bumped. -/
theorem BumpFed.step {events : List EscalationEvent} {due : Due}
    (distinct : DistinctImpacts sys) (stepped : step config sys action = some next)
    (locked : sys.locked due.candidate.id = true) (fed : BumpFed sys.store events due) :
    BumpFed next.store events due := by
  obtain ⟨first, inside, named⟩ := fed.present
  have origin : ∀ row ∈ next.store.incidents, row.id = due.candidate.id →
      ∃ old ∈ sys.store.incidents, old.id = due.candidate.id ∧
        protectedPart row = protectedPart old := by
    intro row member same
    rcases step_locked distinct stepped row member with ⟨old, stored, equal, keeps⟩ | fresh
    · exact ⟨old, stored, equal.trans same, keeps (same ▸ locked)⟩
    · exact absurd (named.trans same.symm) (fresh first inside)
  refine ⟨?_, fun row member same => ?_, fun row member same => ?_⟩
  · obtain ⟨row, later, equal⟩ := step_keeps_row distinct stepped inside
    exact ⟨row, later, equal.trans named⟩
  · obtain ⟨old, stored, equal, part⟩ := origin row member same
    have since := protected_congr Incident.highSeveritySince (fun _ => rfl) part
    rw [since]
    exact fed.clock old stored equal
  · obtain ⟨old, stored, equal, part⟩ := origin row member same
    have cycle := protected_congr Incident.escalationCycle (fun _ => rfl) part
    rw [cycle, same, ← equal]
    exact fed.event old stored equal

theorem BatchFed.step {run : Run} {batch : Batch} (distinct : DistinctImpacts sys)
    (stepped : step config sys action = some next) (member : run ∈ sys.runs)
    (opened : run.open? = some batch) (fed : BatchFed sys.store batch) :
    BatchFed next.store batch := by
  have more : visibleEvents sys.store batch ⊆ visibleEvents next.store batch :=
    List.append_subset.mpr ⟨fun _ old => List.mem_append_left _ (step_events stepped old),
      List.subset_append_right _ _⟩
  refine ⟨fun done among bumped => ?_, fed.progress⟩
  have locked := CoverInvariant.locks member opened among bumped
  exact ((fed.bumps done among bumped).step distinct stepped locked).mono more

end Step

theorem visibleEvents_subset (store : Store) {batch next : Batch}
    (events : batchEvents batch ⊆ batchEvents next) :
    visibleEvents store batch ⊆ visibleEvents store next :=
  List.append_subset.mpr ⟨List.subset_append_left _ _,
    fun _ member => List.mem_append_right _ (events member)⟩

/-- A statement that bumps nothing. -/
theorem BatchFed.proceed {store : Store} {batch next : Batch} (fed : BatchFed store batch)
    (escalations : next.escalations = batch.escalations)
    (events : batchEvents batch ⊆ batchEvents next)
    (progress : ∀ due rest, next.todo = due :: rest → ∀ event ∈ Statement.event? next.statement,
      event.key = dueKey due) : BatchFed store next := by
  refine ⟨fun done among bumped => ?_, progress⟩
  have old := fed.bumps done (escalations ▸ among) bumped
  exact old.mono (visibleEvents_subset store events)

/-- A statement that goes on with the event of its pair. -/
theorem BatchFed.onward {store : Store} {batch next : Batch} (fed : BatchFed store batch)
    (todo : next.todo = batch.todo) (escalations : next.escalations = batch.escalations)
    (events : batchEvents batch ⊆ batchEvents next)
    (same : Statement.event? next.statement = Statement.event? batch.statement) :
    BatchFed store next := by
  refine fed.proceed escalations events ?_
  intro due rest isTodo event inProgress
  exact fed.progress due rest (todo ▸ isTodo) event (same ▸ inProgress)

/-- The bump puts the event of its pair at the new counter. -/
theorem BumpFed.of_bump {store : Store} {batch : Batch} {due : Due} {rest : List Due}
    {event : EscalationEvent} {rows : List NotificationLog} {record : AuditEvent}
    (unique : (store.incidents.map Incident.id).Nodup)
    (checks : ∀ row ∈ store.incidents, checksHold row = true)
    (finds : bumpFinds store batch = true) (todo : batch.todo = due :: rest)
    (statement : batch.statement = .bump event rows record) (key : event.key = dueKey due)
    (matched : (batch.view store).incidents.any (fun row =>
      row.id = due.candidate.id && row.currentEscalationLevel < due.tier.level) = true) :
    BumpFed store (visibleEvents store batch) due := by
  obtain ⟨before, among, named, member, below⟩ := matched_row matched
  have same := bumpedBy_same batch.writes before
  simp only [bumpFinds, todo, statement, List.all_eq_true, Bool.or_eq_true, Bool.and_eq_true,
    Bool.not_eq_true', decide_eq_true_eq] at finds
  obtain ⟨cycle, high⟩ := (finds _ member).resolve_left (by simp [same.id, named, below])
  have alone : ∀ row ∈ store.incidents, row.id = due.candidate.id → row = before :=
    fun row stored own => eq_of_id_eq unique stored among (own.trans named.symm)
  refine ⟨⟨before, among, named⟩, fun row stored named => ?_, fun row stored named => ?_⟩
  -- The matched row is high or critical, and then the CHECK wants it to have a clock.
  · obtain rfl := alone row stored named
    rw [same.severity] at high
    have both := checks row stored
    simp only [checksHold, highSeverityClock, high, Bool.and_eq_true, Bool.not_true,
      Bool.false_or] at both
    exact both.2
  · obtain rfl := alone row stored named
    -- Its event is the one that the batch has inserted just before.
    have own : event ∈ visibleEvents store batch :=
      List.mem_append_right _ (by simp [batchEvents, statement, insertedBy])
    refine ⟨event, own, ?_⟩
    rw [same.cycle] at cycle
    simp only [EscalationEvent.key, dueKey, Prod.mk.injEq] at key ⊢
    exact ⟨key.1.trans named.symm, cycle.symm, key.2.2⟩

/-- A statement of a run keeps what its open batch guarantees. -/
theorem RunEffect.fed {config : JobConfig} {others : List Write} {store after : Store}
    {run next : Run} {reading : Reading} (unique : (store.incidents.map Incident.id).Nodup)
    (checks : ∀ row ∈ store.incidents, checksHold row = true)
    (fed : ∀ batch, run.open? = some batch → BatchFed store batch)
    (finds : ∀ batch, run.open? = some batch → bumpFinds store batch = true)
    (effect : RunEffect config others store run reading after next) :
    ∀ batch, next.open? = some batch → BatchFed after batch := by
  cases effect with
  | outside _ _ closed still => simp [still]
  | committed batch _ phase done still => simp [still]
  | violated batch event phase statement clash => simp [Run.open?]
  | opened batch scanning todo statement escalations =>
    apply forall_open
    refine ⟨by simp [escalations], fun _ _ _ event inProgress => ?_⟩
    simp [statement, Statement.event?] at inProgress
  | vanished batch due rest phase todo statement absent =>
    apply forall_open
    refine (fed batch (open_of_phase phase)).proceed rfl (fun _ => id) ?_
    intro _ _ _ event inProgress
    simp [statement, Statement.event?] at inProgress
  | selected batch due rest row phase todo statement found =>
    apply forall_open
    refine (fed batch (open_of_phase phase)).proceed rfl
      (by simp [batchEvents, statement, insertedBy]) ?_
    intro first others isTodo event inProgress
    obtain ⟨rfl, rfl⟩ := List.cons.inj (todo.symm.trans isTodo)
    obtain rfl := Option.some.inj inProgress
    obtain ⟨named, cycle, _⟩ := (stillCandidate_iff _ _).mp (List.find?_some found)
    simp [eventFor, EscalationEvent.key, dueKey, named, cycle]
  | conflicted batch due rest event phase todo statement present =>
    apply forall_open
    refine (fed batch (open_of_phase phase)).proceed rfl
      (by simp [batchEvents, statement, insertedBy]) ?_
    intro _ _ _ event inProgress
    simp [Statement.event?] at inProgress
  -- three statements that go on with the event of the pair
  | inserted batch due rest event phase todo statement alone absent =>
    apply forall_open
    exact (fed batch (open_of_phase phase)).onward rfl rfl
      (by simp [batchEvents, statement, insertedBy]) (by simp [statement, Statement.event?])
  | notified batch due rest event phase todo statement =>
    apply forall_open
    exact (fed batch (open_of_phase phase)).onward rfl rfl
      (by simp [batchEvents, statement, insertedBy]) (by simp [statement, Statement.event?])
  | audited batch due rest event rows phase todo statement =>
    apply forall_open
    exact (fed batch (open_of_phase phase)).onward rfl rfl
      (by simp [batchEvents, statement, insertedBy]) (by simp [statement, Statement.event?])
  | bumped batch due rest event rows record phase todo statement alone =>
    have old := fed batch (open_of_phase phase)
    have key := old.progress due rest todo event (by simp [statement, Statement.event?])
    apply forall_open
    refine ⟨fun done among raised => ?_, fun _ _ _ event inProgress => ?_⟩
    · -- the event in progress becomes that of the new pair
      apply BumpFed.mono (visibleEvents_subset store
        (by simp [batchEvents, statement, insertedBy] : batchEvents batch ⊆ _))
      rcases List.mem_append.mp among with early | last
      · exact old.bumps done early raised
      · obtain rfl := List.mem_singleton.mp last
        simp only at raised
        split at raised
        next matched =>
          exact BumpFed.of_bump unique checks (finds batch (open_of_phase phase)) todo statement key
            matched
        · simp at raised
    · simp [Statement.event?] at inProgress

/-! ### Every reachable state -/

structure FeedInvariant (sys : System) : Prop where
  checks : ∀ row ∈ sys.store.incidents, checksHold row = true
  rows : ∀ row ∈ sys.store.incidents, FeedRow sys.store.escalationEvents row
  requests : ∀ request ∈ sys.requests,
    FeedRow sys.store.escalationEvents request.row.toIncident
  batches : ∀ run ∈ sys.runs, ∀ batch, run.open? = some batch → BatchFed sys.store batch

section Run
variable {config : JobConfig} {sys next : System} {action : Action}

/-- A commit publishes the events of the batch with its bumps. -/
theorem BatchFed.bumped {store : Store} {batch : Batch} (fed : BatchFed store batch)
    {row : Incident} (stored : row ∈ store.incidents)
    (supported : FeedRow store.escalationEvents row) :
    FeedRow (visibleEvents store batch) (bumpedBy batch.writes row) := by
  have same := bumpedBy_same batch.writes row
  intro raised
  rw [same.id, same.cycle, same.clock]
  rcases bumpedBy_level batch.writes row with level | ⟨level, now, wall, member, equal⟩
  · rw [level] at raised ⊢
    exact supported.mono (List.subset_append_left _ _) raised
  · obtain ⟨_, done, among, bumped, named, rfl⟩ := mem_writes_bump.mp member
    have own := fed.bumps done among (by simp [bumped])
    rw [equal]
    exact ⟨own.clock row stored named.symm, own.event row stored named.symm⟩

theorem FeedInvariant.rowsStep (feed : FeedInvariant sys) (inv : SnapshotInvariant sys)
    (stepped : step config sys action = some next) :
    ∀ row ∈ next.store.incidents, FeedRow next.store.escalationEvents row := by
  have more := step_events stepped
  obtain ⟨rows, _, effect⟩ := (step_store inv.impacts stepped).incidents
  intro new member
  rcases effect.origin member with ⟨old, stored, event⟩ | ⟨_, _, _, _, _, _, _, rfl, _⟩
  · have fed := (feed.rows old stored).mono more
    cases event with
    | kept => exact fed
    | mutated k now wall ids request mutation isCommit found decided free pins logs =>
      have pending := List.mem_of_getElem? found
      have named := (inv.requests request pending).1.trans ((pinned_iff _ _ _).mp pins).1.symm
      exact (decide_columns decided).fed wall named ((feed.requests request pending).mono more) fed
    | cascaded k now wall ids request affected incident isCommit found read among free pins logs =>
      exact fed.congr rfl (cascade_columns _ _ _ _ _ _)
    | bumped k reading run batch isJob found opened done =>
      subst isJob
      rw [step_commit_events found opened done stepped]
      have own := feed.batches run (List.mem_of_getElem? found) batch opened
      exact own.bumped stored (feed.rows old stored)
  · exact newIncident_fed _ _ _ _ _ _ _ _

theorem FeedInvariant.step (feed : FeedInvariant sys) (inv : SnapshotInvariant sys)
    (finds : bumpsFindOwn sys action = true) (stepped : step config sys action = some next) :
    FeedInvariant next := by
  have more := step_events stepped
  have others : ∀ run ∈ sys.runs, ∀ batch, run.open? = some batch → BatchFed next.store batch :=
    fun run member batch opened =>
      (feed.batches run member batch opened).step inv.impacts stepped member opened
  refine ⟨step_checks inv.impacts feed.checks stepped, feed.rowsStep inv stepped, ?_, ?_⟩
  · apply step_loaded (fun row => FeedRow next.store.escalationEvents row.toIncident) stepped
    · intro request old
      exact (feed.requests request old).mono more
    · intro row stored
      exact (feed.rows row stored).mono more
  · apply step_batches stepped others
    intro k run after reading isJob found effect
    subst isJob
    have fed := feed.batches run (List.mem_of_getElem? found)
    apply effect.fed inv.unique.incidents feed.checks fed
    -- the only use of the condition: the bump about to run finds its row
    intro batch opened
    simpa [bumpsFindOwn, found, opened] using finds

end Run

theorem reached_fed {config : JobConfig} {start : Store} {issued : List Id}
    (unique : start.UniqueIds) (checks : ∀ row ∈ start.incidents, checksHold row = true)
    (fed : ∀ row ∈ start.incidents, FeedRow start.escalationEvents row) {sys : System}
    (reached : Machine.Reaches (step config) (fun sys action => bumpsFindOwn sys action = true)
      (System.boot start issued) sys) : FeedInvariant sys := by
  have boot : FeedInvariant (System.boot start issued) :=
    ⟨checks, fed, by simp [System.boot], by simp [System.boot]⟩
  refine reached.invariant FeedInvariant boot ?_ sys
  intro before action after earlier feed finds stepped
  exact feed.step (reached_snapshots unique earlier) finds stepped

/-! ### What the feed answers -/

theorem activeEscalationWhere_iff (actor : Actor) (row : Incident) :
    activeEscalationWhere actor row = true ↔ visibilityScope actor row = true ∧
      0 < row.currentEscalationLevel ∧ row.acknowledgedAt = none ∧ row.stage ≠ .closed := by
  simp only [activeEscalationWhere, Bool.and_eq_true, decide_eq_true_eq, and_assoc]

/-- The incident, cycle and level an item shows. -/
def itemKey (item : EscalationFeedItem) : Id × Nat × Nat :=
  (item.incidentId, item.cycle, item.level)

/-- The map from incidents to events holds the event at the counter of each row asked for. -/
theorem eventOf_current {store : Store} {keys : List (Id × Nat × Nat)} {row : Incident}
    (asked : currentEventKey row ∈ keys)
    (only : ∀ key ∈ keys, key.1 = row.id → key = currentEventKey row)
    (has : HasEvent store.escalationEvents row.id row.escalationCycle row.currentEscalationLevel) :
    ∃ event, eventOf (findCurrentEvents store keys) row.id = some event ∧
      event.key = currentEventKey row := by
  obtain ⟨own, stored, key⟩ := has
  have kept : own ∈ (findCurrentEvents store keys).filter (·.incidentId = row.id) := by
    simp only [findCurrentEvents, List.mem_filter, decide_eq_true_eq]
    exact ⟨⟨stored, key ▸ asked⟩, congrArg Prod.fst key⟩
  have nonempty := List.ne_nil_of_mem kept
  have found := List.getLast?_eq_some_getLast nonempty
  refine ⟨_, found, ?_⟩
  -- whichever row comes last, its key is one of those asked for and names this incident
  have last := List.getLast_mem nonempty
  simp only [findCurrentEvents, List.mem_filter, decide_eq_true_eq] at last
  exact only _ last.1.2 last.2

theorem feedItems_keys {events : List EscalationEvent} {page : List IncidentListRow}
    (each : ∀ row ∈ page, ∃ event, eventOf events row.id = some event ∧
      event.key = currentEventKey row.toIncident) :
    (feedItems events page).map itemKey = page.map fun row => currentEventKey row.toIncident := by
  induction page with
  | nil => rfl
  | cons row rest ih =>
    obtain ⟨event, found, key⟩ := each row List.mem_cons_self
    have later := ih fun other member => each other (List.mem_cons_of_mem _ member)
    have shown : itemKey (toEscalationFeedItem row event) = currentEventKey row.toIncident := by
      simp only [EscalationEvent.key, currentEventKey, Prod.mk.injEq] at key
      simp [itemKey, toEscalationFeedItem, currentEventKey, key]
    simp only [feedItems, List.flatMap_cons, found, List.singleton_append, List.map_cons, shown]
    rw [← later, feedItems]

/-- The rows of a page of the feed. -/
def feedPage (store : Store) (actor : Actor) (cursor : Option FeedCursor) (pageSize : Nat) :
    List IncidentListRow :=
  (findActiveEscalationsPage store actor cursor pageSize).take pageSize

/-- The cursor to the page after this one. -/
def nextFeedCursor (js : JsRuntime) (page : List IncidentListRow) : Option String :=
  page.getLast?.bind fun last => last.highSeveritySince.map fun since =>
    encodeEscalationFeedCursor js last.currentEscalationLevel since last.id

/-- A page of the feed over a table whose rows are fed: no row is dropped, and the cursor is that
of the last row. -/
theorem listFeed_ok {js : JsRuntime} {store : Store} {cursorRaw : Option String}
    {cursor : Option FeedCursor} (actor : Actor) (pageSize : Nat)
    (unique : (store.incidents.map Incident.id).Nodup)
    (fed : ∀ row ∈ store.incidents, FeedRow store.escalationEvents row)
    (decoded : decodeOptional (decodeEscalationFeedCursor js) cursorRaw = .ok cursor) :
    ∃ items, listFeed js store actor cursorRaw pageSize = .ok
        { items := items
          hasMore := pageSize < (findActiveEscalationsPage store actor cursor pageSize).length
          nextCursor :=
            if pageSize < (findActiveEscalationsPage store actor cursor pageSize).length then
              nextFeedCursor js (feedPage store actor cursor pageSize)
            else none } ∧
      items.map itemKey =
        (feedPage store actor cursor pageSize).map fun row => currentEventKey row.toIncident := by
  -- Every row of the page is fed: it has a clock and an event at its counter.
  have rowOf : ∀ row ∈ feedPage store actor cursor pageSize,
      row.toIncident ∈ store.incidents ∧ row.highSeveritySince.isSome = true ∧
        HasEvent store.escalationEvents row.id row.escalationCycle row.currentEscalationLevel := by
    intro row member
    obtain ⟨stored, active⟩ := mem_activePage (List.mem_of_mem_take member)
    have raised := ((activeEscalationWhere_iff actor _).mp active).2.1
    exact ⟨stored, fed _ stored raised⟩
  have whole : (if pageSize < (findActiveEscalationsPage store actor cursor pageSize).length then
      (findActiveEscalationsPage store actor cursor pageSize).take pageSize
      else findActiveEscalationsPage store actor cursor pageSize) =
        feedPage store actor cursor pageSize := by
    split
    · rfl
    · rw [feedPage, List.take_of_length_le (by omega)]
  -- So `toFeedItem` finds an event for each row and drops none.
  have served : (feedItems (findCurrentEvents store ((feedPage store actor cursor pageSize).map
      fun row => currentEventKey row.toIncident)) (feedPage store actor cursor pageSize)).map
        itemKey =
      (feedPage store actor cursor pageSize).map fun row => currentEventKey row.toIncident := by
    apply feedItems_keys
    intro row member
    obtain ⟨stored, _, has⟩ := rowOf row member
    refine eventOf_current (List.mem_map.mpr ⟨row, member, rfl⟩) ?_ has
    -- Two rows of the page with one key are one row, by the primary key.
    intro key asked same
    obtain ⟨other, among, rfl⟩ := List.mem_map.mp asked
    obtain ⟨inside, _⟩ := rowOf other among
    exact congrArg currentEventKey (eq_of_id_eq unique inside stored same)
  refine ⟨_, ?_, served⟩
  simp only [listFeed, decoded, bind, Except.bind, whole]
  -- Only the last row decides the cursor; it has a clock like the others.
  cases final : (feedPage store actor cursor pageSize).getLast? with
  | none => simp [nextFeedCursor, final, pure, Except.pure]
  | some last =>
    obtain ⟨_, clock, _⟩ := rowOf last (List.mem_of_getLast? final)
    obtain ⟨since, clocked⟩ := Option.isSome_iff_exists.mp clock
    by_cases more : pageSize < (findActiveEscalationsPage store actor cursor pageSize).length
    · simp [more, feedCursorOf, clocked, nextFeedCursor, final, Except.map, pure, Except.pure]
    · simp [more, pure, Except.pure]

/-- From a database whose rows are fed, through any run whose bumps find their rows as their
events left them: every row of the feed has a clock and the event at its counter, and every page
of the feed is answered with all its rows. -/
theorem feed_rows_well_formed (config : JobConfig) (start : Store) (issued : List Id)
    (unique : start.UniqueIds) (checks : ∀ row ∈ start.incidents, checksHold row = true)
    (fed : ∀ row ∈ start.incidents, FeedRow start.escalationEvents row) (sys : System)
    (reached : Machine.Reaches (step config) (fun sys action => bumpsFindOwn sys action = true)
      (System.boot start issued) sys) :
    (∀ row ∈ sys.store.incidents, 0 < row.currentEscalationLevel → row.acknowledgedAt = none →
      row.stage ≠ .closed → row.highSeveritySince.isSome = true ∧
        HasEvent sys.store.escalationEvents row.id row.escalationCycle
          row.currentEscalationLevel) ∧
    ∀ (js : JsRuntime) (actor : Actor) (cursorRaw : Option String) (cursor : Option FeedCursor)
      (pageSize : Nat), decodeOptional (decodeEscalationFeedCursor js) cursorRaw = .ok cursor →
      ∃ page, listFeed js sys.store actor cursorRaw pageSize = .ok page ∧
        page.items.map itemKey = (feedPage sys.store actor cursor pageSize).map fun row =>
          currentEventKey row.toIncident := by
  have feed := reached_fed unique checks fed reached
  have inv := reached_snapshots unique reached
  constructor
  · intro row stored raised _ _
    exact feed.rows row stored raised
  · intro js actor cursorRaw cursor pageSize decoded
    obtain ⟨items, answered, served⟩ :=
      listFeed_ok actor pageSize inv.unique.incidents feed.rows decoded
    exact ⟨_, answered, served⟩

/-! ### One escalation, alone and next to a drop out of the band -/

/-- The first page of the feed after the only run has escalated the reported incident. -/
theorem feed_rows_well_formed_sample :
    ∃ sys, Machine.exec (step sampleConfig) bumpsFindOwn (System.boot staffedStore [])
        (beforeBump ++ afterBump) = some sys ∧
      (feedPage sys.store ⟨"admin", .admin, 4⟩ none 10).length = 1 ∧
      ∃ page, listFeed samplePlatform.js sys.store ⟨"admin", .admin, 4⟩ none 10 = .ok page ∧
        page.items.map itemKey = (feedPage sys.store ⟨"admin", .admin, 4⟩ none 10).map fun row =>
          currentEventKey row.toIncident := by
  have ran : (Machine.exec (step sampleConfig) bumpsFindOwn (System.boot staffedStore [])
      (beforeBump ++ afterBump)).any (fun sys =>
        (feedPage sys.store ⟨"admin", .admin, 4⟩ none 10).length = 1) = true := by decide
  obtain ⟨sys, executed, one⟩ := Option.any_eq_true _ _ |>.mp ran
  have reached : Machine.Reaches (step sampleConfig)
      (fun sys action => bumpsFindOwn sys action = true) (System.boot staffedStore []) sys :=
    Machine.reaches_of_exec bumpsFindOwn (fun _ _ => id) _ _ _ executed
  refine ⟨sys, executed, of_decide_eq_true one, ?_⟩
  exact (feed_rows_well_formed sampleConfig staffedStore [] ⟨by decide, by decide⟩ (by decide)
    (by simp [staffedStore]) sys reached).2 samplePlatform.js ⟨"admin", .admin, 4⟩ none none 10 rfl

def droppingInput : ChangeSeverityRequest :=
  ⟨.medium, ⟨"under control", by decide, by decide, by decide⟩⟩

/-- A drop to `MEDIUM` commits between the insert and the bump, so the counter of a row without a
clock is raised. -/
theorem bump_after_drop_breaks_feed :
    ¬ ∀ (config : JobConfig) (start : Store) (issued : List Id), start.UniqueIds →
      (∀ row ∈ start.incidents, checksHold row = true) →
      (∀ row ∈ start.incidents, FeedRow start.escalationEvents row) →
      ∀ sys, Machine.Reaches (step config) Machine.anyAction (System.boot start issued) sys →
      ∀ row ∈ sys.store.incidents, 0 < row.currentEscalationLevel → row.acknowledgedAt = none →
        row.stage ≠ .closed → row.highSeveritySince.isSome = true := by
  intro wellFormed
  have ran : (Machine.exec (step sampleConfig) (fun _ _ => true) (System.boot staffedStore [])
      (beforeBump ++ performed (.changeSeverity droppingInput) 0 1800001 ++ afterBump)).any
        (fun sys => sys.store.incidents.any fun row =>
          0 < row.currentEscalationLevel && row.acknowledgedAt = none && row.stage ≠ .closed &&
            row.highSeveritySince.isNone) = true := by
    decide
  obtain ⟨sys, executed, broken⟩ := Option.any_eq_true _ _ |>.mp ran
  obtain ⟨row, member, facts⟩ := List.any_eq_true.mp broken
  simp only [Bool.and_eq_true, decide_eq_true_eq] at facts
  obtain ⟨⟨⟨raised, unacknowledged⟩, opened⟩, clockless⟩ := facts
  have clock := wellFormed sampleConfig staffedStore [] ⟨by decide, by decide⟩ (by decide)
    (by simp [staffedStore]) sys
    (Machine.reaches_of_exec (fun _ _ => true) (fun _ _ _ => trivial) _ _ _ executed)
    row member raised unacknowledged opened
  simp [Option.isNone_iff_eq_none.mp clockless] at clock

end IncidentApi.Properties
