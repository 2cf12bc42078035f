import IncidentApi.Properties.FeedRows

/-!
# Escalation counters

A severity change inside the band writes back the counter its operation loaded, and the job raises
that counter without moving the version, so a change that was loaded before a batch and commits
after it undoes the raise. Where no commit does that, a counter only grows within its cycle, and
it is the highest level the incident has reached in it.
-/
namespace IncidentApi.Properties

/-! ### One step -/

/-- A change from `CRITICAL` to `HIGH`. -/
def lowersWithinBand (current target : Severity) : Bool :=
  current.inHighBand && target.inHighBand && severityRank target < severityRank current

/-- `applySeverityChange` opens a cycle, leaves the band, or lowers within it. -/
theorem applySeverityChange_split {current target : Severity} (differs : current ≠ target)
    (now : Date) (state : SeverityClock) :
    applySeverityChange current target now state =
        ⟨some now, state.escalationCycle + 1, 0, none, none⟩ ∨
      (target.inHighBand = false ∧ applySeverityChange current target now state =
        ⟨none, state.escalationCycle, 0, state.acknowledgedAt, state.acknowledgedById⟩) ∨
      lowersWithinBand current target = true ∧
        applySeverityChange current target now state = state := by
  cases current <;> cases target <;>
    first
    | exact absurd rfl differs
    | exact Or.inl rfl
    | exact Or.inr (Or.inl ⟨rfl, rfl⟩)
    | exact Or.inr (Or.inr ⟨rfl, rfl⟩)

def targetSeverity : Operation → Option Severity
  | .changeSeverity input => some input.severity
  | _ => none

/-- A severity change that lowers within the band overwrites no counter above the one it
loaded. -/
def LowersCurrent (sys : System) (request : Request) : Prop :=
  ∀ target ∈ targetSeverity request.operation,
    lowersWithinBand request.row.severity target = true →
      ∀ row ∈ sys.store.incidents, pinned request.id request.expectedVersion row = true →
        row.currentEscalationLevel ≤ request.row.currentEscalationLevel

instance (sys : System) (request : Request) : Decidable (LowersCurrent sys request) :=
  inferInstanceAs (Decidable (∀ target ∈ targetSeverity request.operation, _ → _))

/-- Cycles only grow, and within one cycle an incident that is in the band has been in it, under a
counter that only grows as well. -/
structure CounterStep (old new : Incident) : Prop where
  forward : old.escalationCycle ≤ new.escalationCycle
  counted : new.escalationCycle = old.escalationCycle → new.severity.inHighBand = true →
    old.severity.inHighBand = true ∧ old.currentEscalationLevel ≤ new.currentEscalationLevel

theorem CounterStep.refl (row : Incident) : CounterStep row row :=
  ⟨Nat.le_refl _, fun _ high => ⟨high, Nat.le_refl _⟩⟩

theorem CounterStep.trans {first second third : Incident} (left : CounterStep first second)
    (right : CounterStep second third) : CounterStep first third := by
  have early := left.forward
  have late := right.forward
  refine ⟨Nat.le_trans early late, fun same high => ?_⟩
  obtain ⟨middle, raised⟩ := right.counted (by omega) high
  obtain ⟨before, earlier⟩ := left.counted (by omega) middle
  exact ⟨before, Nat.le_trans earlier raised⟩

theorem CounterStep.of_columns {old new : Incident} (same : feedColumns new = feedColumns old) :
    CounterStep old new := by
  simp only [feedColumns, Prod.mk.injEq] at same
  obtain ⟨severity, _, cycle, level⟩ := same
  refine ⟨Nat.le_of_eq cycle.symm, fun _ high => ⟨severity ▸ high, Nat.le_of_eq level.symm⟩⟩

theorem CounterStep.of_bump {old new : Incident} (same : SameButBump old new) :
    CounterStep old new :=
  ⟨Nat.le_of_eq same.cycle.symm, fun _ high => ⟨same.severity ▸ high, same.level⟩⟩

/-- An update computed from a row with the same clock columns, whose counter is not behind. -/
theorem ColumnsEffect.counterStep {operation : Operation} {seen row : Incident} {now : Date}
    {data : UpdateIncidentStateInput} (wall : Date)
    (effect : ColumnsEffect operation seen now data) (same : protectedPart seen = protectedPart row)
    (current : ∀ target ∈ targetSeverity operation, lowersWithinBand seen.severity target = true →
      row.currentEscalationLevel ≤ seen.currentEscalationLevel) :
    CounterStep row (data.write wall row) := by
  cases effect with
  | untouched columns => exact .of_columns (columns wall row)
  | changed input isChange differs columns =>
    subst isChange
    have written := columns wall row
    simp only [feedColumns, changedColumns, Prod.mk.injEq] at written
    obtain ⟨severity, _, cycle, level⟩ := written
    have sameCycle : seen.escalationCycle = row.escalationCycle :=
      protected_congr Incident.escalationCycle (fun _ => rfl) same
    have sameSeverity : seen.severity = row.severity :=
      protected_congr Incident.severity (fun _ => rfl) same
    have clockCycle : seen.clock.escalationCycle = seen.escalationCycle := rfl
    rcases applySeverityChange_split differs now seen.clock with
      restarted | ⟨low, left⟩ | ⟨lowers, kept⟩
    -- a new cycle: nothing is asked of its counter
    · simp only [restarted] at cycle
      exact ⟨by omega, fun equal => by omega⟩
    · simp only [left] at cycle
      refine ⟨by omega, fun _ high => ?_⟩
      rw [severity, low] at high
      simp at high
    -- within the band: the loaded counter is written back
    · have wasHigh : seen.severity.inHighBand = true := by
        simp only [lowersWithinBand, Bool.and_eq_true] at lowers
        exact lowers.1.1
      rw [kept] at cycle level
      refine ⟨by omega, fun _ _ => ⟨sameSeverity ▸ wasHigh, ?_⟩⟩
      rw [level]
      exact current input.severity rfl lowers

/-- The steps of a run whose lowerings within the band overwrite the counter they loaded. The
`If-Match` values are versions that the client was served. -/
def KeepsCounters (sys : System) (action : Action) : Prop :=
  OnCommit IfMatchNotAhead sys action ∧ OnCommit LowersCurrent sys action

section Step
variable {config : JobConfig} {sys next : System} {action : Action}

theorem RowEvent.counterStep {rows : List AuditEvent} {old new : Incident}
    (inv : SnapshotInvariant sys) (keeps : KeepsCounters sys action)
    (stored : old ∈ sys.store.incidents) (event : RowEvent sys action rows old new) :
    CounterStep old new := by
  have pinsRead := IfMatchNotAhead.pinsRead inv keeps.1
  cases event with
  | kept => exact .refl old
  | mutated k now wall ids request mutation isCommit found decided free pins logs =>
    subst isCommit
    have follows := inv.follows (List.mem_of_getElem? found) stored pins
    have same := follows.same (pinsRead request found old stored pins).symm
    apply (decide_columns decided).counterStep wall same
    intro target among lowers
    exact keeps.2 request found target among lowers old stored pins
  | cascaded k now wall ids request affected incident isCommit found read among free pins logs =>
    exact .of_columns (cascade_columns _ _ _ _ _ _)
  | bumped k reading run batch isJob found opened done =>
    exact .of_bump (bumpedBy_same batch.writes old)

/-- Counters move forward over any run. -/
theorem counterMoves : Moves KeepsCounters CounterStep where
  refl := .refl
  trans := .trans
  event inv keeps stored event := event.counterStep inv keeps stored

/-- The incident of an event is stored, and has reached the cycle of the event. -/
structure Placed (store : Store) (id : Id) (cycle : Nat) : Prop where
  present : ∃ row ∈ store.incidents, row.id = id
  forward : ∀ row ∈ store.incidents, row.id = id → cycle ≤ row.escalationCycle

/-- An incident that is stored is followed to its next row. -/
theorem Placed.origin {id : Id} {cycle : Nat} (placed : Placed sys.store id cycle)
    (inv : SnapshotInvariant sys) (keeps : KeepsCounters sys action)
    (stepped : step config sys action = some next) {row : Incident}
    (member : row ∈ next.store.incidents) (same : row.id = id) :
    ∃ old ∈ sys.store.incidents, old.id = id ∧ CounterStep old row := by
  rcases counterMoves.step inv keeps stepped row member with ⟨old, stored, named, moved⟩ | fresh
  · exact ⟨old, stored, named.trans same, moved⟩
  · obtain ⟨first, inside, named⟩ := placed.present
    exact absurd (named.trans same.symm) (fresh first inside)

theorem Placed.step {id : Id} {cycle : Nat} (placed : Placed sys.store id cycle)
    (inv : SnapshotInvariant sys) (keeps : KeepsCounters sys action)
    (stepped : step config sys action = some next) : Placed next.store id cycle := by
  constructor
  · obtain ⟨first, inside, named⟩ := placed.present
    obtain ⟨row, later, same⟩ := step_keeps_row inv.impacts stepped inside
    exact ⟨row, later, same.trans named⟩
  · intro row member same
    obtain ⟨old, stored, named, moved⟩ := placed.origin inv keeps stepped member same
    exact Nat.le_trans (placed.forward old stored named) moved.forward

end Step

/-! ### Open batches -/

theorem bumpRow_level {id : Id} {level : Nat} {now wall : Date} {row : Incident}
    (named : row.id = id) : level ≤ (bumpRow id level now wall row).currentEscalationLevel := by
  unfold bumpRow
  split
  · exact Nat.le_refl _
  next unmatched => exact Nat.le_of_not_lt fun low => unmatched ⟨named, low⟩

theorem bumpRow_mono (id : Id) (level : Nat) (now wall : Date) {low high : Incident}
    (named : low.id = high.id) (below : low.currentEscalationLevel ≤ high.currentEscalationLevel) :
    (bumpRow id level now wall low).currentEscalationLevel ≤
      (bumpRow id level now wall high).currentEscalationLevel := by
  by_cases matched : low.id = id ∧ low.currentEscalationLevel < level
  · have raised : (bumpRow id level now wall low).currentEscalationLevel = level := by
      simp [bumpRow, matched]
    rw [raised]
    exact bumpRow_level (named.symm.trans matched.1)
  · have same : bumpRow id level now wall low = low := if_neg matched
    rw [same]
    exact Nat.le_trans below (bumpRow_same id level now wall high).level

/-- Of two versions of a row, the one with the higher counter keeps it under any bumps. -/
theorem bumpedBy_mono (writes : List Write) {low high : Incident} (named : low.id = high.id)
    (below : low.currentEscalationLevel ≤ high.currentEscalationLevel) :
    (bumpedBy writes low).currentEscalationLevel ≤
      (bumpedBy writes high).currentEscalationLevel := by
  induction writes generalizing low high with
  | nil => exact below
  | cons write rest ih =>
    cases write with
    | bump id level now wall =>
      have both : (bumpRow id level now wall low).id = (bumpRow id level now wall high).id := by
        rw [(bumpRow_same id level now wall low).id, (bumpRow_same id level now wall high).id]
        exact named
      exact ih both (bumpRow_mono id level now wall named below)
    | event _ => exact ih named below
    | notifications _ => exact ih named below
    | audit _ => exact ih named below

theorem bumpedBy_append (first second : List Write) (row : Incident) :
    bumpedBy (first ++ second) row = bumpedBy second (bumpedBy first row) :=
  List.foldl_append

/-- The pair in progress has bumped nothing yet. -/
theorem bumpedBy_batch (batch : Batch) (row : Incident) :
    bumpedBy batch.writes row =
      bumpedBy (batch.escalations.flatMap (·.writes batch.now)) row := by
  rw [Batch.writes, bumpedBy_append]
  cases batch.statement <;> rfl

/-- A level above no counter, in a cycle that its incident has reached. -/
def DuePlaced (store : Store) (due : Due) : Prop :=
  1 ≤ due.tier.level ∧ Placed store due.candidate.id due.candidate.escalationCycle

/-- In its cycle and in the band, the incident of a pair that is done has the level at least. -/
def DueReached (store : Store) (writes : List Write) (due : Due) : Prop :=
  ∀ row ∈ store.incidents, row.id = due.candidate.id →
    row.escalationCycle = due.candidate.escalationCycle → row.severity.inHighBand = true →
      due.tier.level ≤ (bumpedBy writes row).currentEscalationLevel

structure BatchCounted (store : Store) (batch : Batch) : Prop where
  todo : ∀ due ∈ batch.todo, DuePlaced store due
  done : ∀ done ∈ batch.escalations, done.event.key = dueKey done.due ∧ DuePlaced store done.due
  top : ∀ done ∈ batch.escalations, DueReached store batch.writes done.due
  idle : batch.todo = [] → batch.statement = .select

theorem BatchCounted.step {config : JobConfig} {sys next : System} {action : Action} {batch : Batch}
    (counted : BatchCounted sys.store batch) (inv : SnapshotInvariant sys)
    (keeps : KeepsCounters sys action) (stepped : step config sys action = some next) :
    BatchCounted next.store batch := by
  have placed : ∀ due, DuePlaced sys.store due → DuePlaced next.store due :=
    fun due both => ⟨both.1, both.2.step inv keeps stepped⟩
  refine ⟨fun due member => placed due (counted.todo due member), fun done among => ?_,
    fun done among row member named cycle high => ?_, counted.idle⟩
  · obtain ⟨key, both⟩ := counted.done done among
    exact ⟨key, placed _ both⟩
  · obtain ⟨_, _, place⟩ := counted.done done among
    obtain ⟨old, stored, same, moved⟩ := place.origin inv keeps stepped member named
    -- the incident has stayed in the cycle of the event, so its counter has not gone back
    have reached := place.forward old stored same
    have forward := moved.forward
    have still : row.escalationCycle = old.escalationCycle := by omega
    obtain ⟨wasHigh, raised⟩ := moved.counted still high
    exact Nat.le_trans (counted.top done among old stored same (still ▸ cycle) wasHigh)
      (bumpedBy_mono batch.writes (same.trans named.symm) raised)

/-- A statement that bumps nothing. -/
theorem BatchCounted.proceed {store : Store} {batch next : Batch}
    (counted : BatchCounted store batch) (todo : next.todo ⊆ batch.todo)
    (escalations : next.escalations = batch.escalations)
    (now : next.now = batch.now) (idle : next.todo = [] → next.statement = .select) :
    BatchCounted store next := by
  refine ⟨fun due member => counted.todo due (todo member), escalations ▸ counted.done,
    fun done among row stored named cycle high => ?_, idle⟩
  rw [bumpedBy_batch, escalations, now, ← bumpedBy_batch]
  exact counted.top done (escalations ▸ among) row stored named cycle high

/-- The bump raises the counter, unless it has been reached. -/
theorem BatchCounted.bump {store : Store} {batch next : Batch} {due : Due} {rest : List Due}
    {done : Escalation} (counted : BatchCounted store batch) (todo : batch.todo = due :: rest)
    (own : done.due = due) (key : done.event.key = dueKey due)
    (missed : done.bumped = none → ∀ row ∈ store.incidents, row.id = due.candidate.id →
      due.tier.level ≤ (bumpedBy batch.writes row).currentEscalationLevel)
    (later : next.todo = rest) (statement : next.statement = .select) (now : next.now = batch.now)
    (escalations : next.escalations = batch.escalations ++ [done]) : BatchCounted store next := by
  have pending : ∀ other ∈ due :: rest, DuePlaced store other := todo ▸ counted.todo
  have writes : ∀ row, bumpedBy next.writes row =
      bumpedBy (done.writes batch.now) (bumpedBy batch.writes row) := by
    intro row
    rw [bumpedBy_batch, escalations, now, List.flatMap_append, bumpedBy_append, ← bumpedBy_batch,
      List.flatMap_singleton]
  subst own
  refine ⟨fun other member => pending other (List.mem_cons_of_mem _ (later ▸ member)),
    fun other among => ?_, fun other among row stored named cycle high => ?_, fun _ => statement⟩
  · rcases List.mem_append.mp (escalations ▸ among) with early | last
    · exact counted.done other early
    · obtain rfl := List.mem_singleton.mp last
      exact ⟨key, pending _ List.mem_cons_self⟩
  -- The row stands where earlier bumps put it or higher; a missed bump found it there already.
  · rw [writes]
    rcases List.mem_append.mp (escalations ▸ among) with early | last
    · exact Nat.le_trans (counted.top other early row stored named cycle high)
        (bumpedBy_same _ _).level
    · obtain rfl := List.mem_singleton.mp last
      cases bumped : other.bumped with
      | none =>
        exact Nat.le_trans (missed bumped row stored named) (bumpedBy_same _ _).level
      | some wall =>
        have single : bumpedBy (other.writes batch.now) (bumpedBy batch.writes row) =
            bumpRow other.due.candidate.id other.due.tier.level batch.now wall
              (bumpedBy batch.writes row) := by
          simp [Escalation.writes, bumped, bumpedBy]
        rw [single]
        exact bumpRow_level ((bumpedBy_same _ _).id.trans named)

/-- The pairs of a page that was just read. -/
theorem duePlaced_of_scan {store : Store} {scanned : List BatchRow} {tiers : List Tier} {now : Date}
    {due : Due} (unique : (store.incidents.map Incident.id).Nodup)
    (stored : ∀ read ∈ scanned, ∃ row ∈ store.incidents, row.batchRow = read)
    (member : due ∈ scanned.flatMap (dueOf tiers now)) : DuePlaced store due := by
  obtain ⟨row, inside, candidate, above⟩ := due_of_scan stored member
  rw [DuePlaced, candidate]
  refine ⟨by omega, ⟨row, inside, rfl⟩, fun other among same => ?_⟩
  exact Nat.le_of_eq (congrArg Incident.escalationCycle (eq_of_id_eq unique inside among same.symm))

/-- A statement of a run keeps what its open batch has counted. -/
theorem RunEffect.counted {config : JobConfig} {others : List Write} {store after : Store}
    {run next : Run} {reading : Reading} (unique : (store.incidents.map Incident.id).Nodup)
    (fed : ∀ batch, run.open? = some batch → BatchFed store batch)
    (counted : ∀ batch, run.open? = some batch → BatchCounted store batch)
    (effect : RunEffect config others store run reading after next) :
    ∀ batch, next.open? = some batch → BatchCounted after batch := by
  cases effect with
  | outside _ _ closed still => simp [still]
  | committed batch _ phase done still => simp [still]
  | violated batch event phase statement clash => simp [Run.open?]
  | opened batch scanning todo statement escalations =>
    apply forall_open
    refine ⟨fun due member => ?_, by simp [escalations], by simp [escalations], fun _ => statement⟩
    exact duePlaced_of_scan unique (fun _ => mem_findBatch) (todo ▸ member)
  | vanished batch due rest phase todo statement absent =>
    apply forall_open
    exact (counted batch (open_of_phase phase)).proceed
      (todo ▸ List.subset_cons_self due rest) rfl rfl fun _ => statement
  | conflicted batch due rest event phase todo statement present =>
    apply forall_open
    exact (counted batch (open_of_phase phase)).proceed
      (todo ▸ List.subset_cons_self due rest) rfl rfl fun _ => rfl
  -- the statements that stay with their pair
  | selected batch due rest row phase todo =>
    apply forall_open
    exact (counted batch (open_of_phase phase)).proceed (fun _ => id) rfl rfl
      fun done => absurd done (by simp [todo])
  | inserted batch due rest event phase todo =>
    apply forall_open
    exact (counted batch (open_of_phase phase)).proceed (fun _ => id) rfl rfl
      fun done => absurd done (by simp [todo])
  | notified batch due rest event phase todo =>
    apply forall_open
    exact (counted batch (open_of_phase phase)).proceed (fun _ => id) rfl rfl
      fun done => absurd done (by simp [todo])
  | audited batch due rest event rows phase todo =>
    apply forall_open
    exact (counted batch (open_of_phase phase)).proceed (fun _ => id) rfl rfl
      fun done => absurd done (by simp [todo])
  | bumped batch due rest event rows record phase todo statement alone =>
    have key := (fed batch (open_of_phase phase)).progress due rest todo event
      (by simp [statement, Statement.event?])
    apply forall_open
    refine (counted batch (open_of_phase phase)).bump todo rfl key ?_ rfl rfl rfl rfl
    -- an `updateMany` that matches nothing has met the counter at the level or above
    intro missed row stored named
    by_contra low
    have matched : (batch.view store).incidents.any (fun row =>
        row.id = due.candidate.id && row.currentEscalationLevel < due.tier.level) = true := by
      rw [view_incidents]
      refine List.any_eq_true.mpr ⟨_, List.mem_map.mpr ⟨row, stored, rfl⟩, ?_⟩
      simp only [(bumpedBy_same batch.writes row).id, Bool.and_eq_true, decide_eq_true_eq]
      exact ⟨named, Nat.lt_of_not_le low⟩
    simp [matched] at missed

/-! ### Every reachable state -/

/-- No event of the row's cycle lies above its counter, as long as the row is in the band. -/
def Topped (events : List EscalationEvent) (row : Incident) : Prop :=
  row.severity.inHighBand = true → ∀ event ∈ events, event.incidentId = row.id →
    event.cycle = row.escalationCycle → event.level ≤ row.currentEscalationLevel

/-- An event above level zero, of an incident that has reached its cycle. -/
def EventPlaced (store : Store) (event : EscalationEvent) : Prop :=
  1 ≤ event.level ∧ Placed store event.incidentId event.cycle

structure CounterInvariant (sys : System) : Prop where
  feed : FeedInvariant sys
  events : ∀ event ∈ sys.store.escalationEvents, EventPlaced sys.store event
  rows : ∀ row ∈ sys.store.incidents, Topped sys.store.escalationEvents row
  batches : ∀ run ∈ sys.runs, ∀ batch, run.open? = some batch → BatchCounted sys.store batch

theorem BatchCounted.events {store : Store} {batch : Batch} (counted : BatchCounted store batch)
    (finished : batch.todo = []) : batchEvents batch = batch.escalations.map (·.event) := by
  rw [batchEvents, counted.idle finished, insertedBy, List.append_nil]

/-- The events a batch commits, with the rows it has raised for them. -/
theorem BatchCounted.topped {store : Store} {batch : Batch} (counted : BatchCounted store batch)
    (finished : batch.todo = []) {row : Incident} (stored : row ∈ store.incidents)
    (topped : Topped store.escalationEvents row) :
    Topped (visibleEvents store batch) (bumpedBy batch.writes row) := by
  have same := bumpedBy_same batch.writes row
  intro high event member named cycle
  rw [same.severity] at high
  rw [same.id] at named
  rw [same.cycle] at cycle
  rcases List.mem_append.mp member with old | new
  · exact Nat.le_trans (topped high event old named cycle) same.level
  · rw [counted.events finished] at new
    obtain ⟨done, among, rfl⟩ := List.mem_map.mp new
    have key := (counted.done done among).1
    simp only [EscalationEvent.key, dueKey, Prod.mk.injEq] at key
    obtain ⟨ofIncident, ofCycle, ofLevel⟩ := key
    rw [ofLevel]
    exact counted.top done among row stored (named.symm.trans ofIncident)
      (cycle.symm.trans ofCycle) high

section Run
variable {config : JobConfig} {sys next : System} {action : Action}

/-- A row that keeps to its events while no event is added. -/
theorem Topped.step {old new : Incident} (topped : Topped sys.store.escalationEvents old)
    (placed : ∀ event ∈ sys.store.escalationEvents, EventPlaced sys.store event)
    (stored : old ∈ sys.store.incidents) (named : new.id = old.id) (moved : CounterStep old new) :
    Topped sys.store.escalationEvents new := by
  intro high event member ofIncident ofCycle
  have reached := (placed event member).2.forward old stored (named.symm.trans ofIncident.symm)
  have forward := moved.forward
  have still : new.escalationCycle = old.escalationCycle := by omega
  obtain ⟨wasHigh, raised⟩ := moved.counted still high
  exact Nat.le_trans (topped wasHigh event member (ofIncident.trans named) (ofCycle.trans still))
    raised

theorem CounterInvariant.eventsStep (counters : CounterInvariant sys) (inv : SnapshotInvariant sys)
    (keeps : KeepsCounters sys action) (stepped : step config sys action = some next) :
    ∀ event ∈ next.store.escalationEvents, EventPlaced next.store event := by
  have old : ∀ event ∈ sys.store.escalationEvents, EventPlaced next.store event :=
    fun event member => ⟨(counters.events event member).1,
      (counters.events event member).2.step inv keeps stepped⟩
  by_cases job : Action.ofJob action = true
  · rcases step_job job stepped with _ |
      ⟨k, run, after, store, reading, isJob, found, fresh, effect⟩ |
      ⟨k, run, after, found, dropped⟩
    · exact old
    · cases effect with
      | outside _ _ closed still tables => exact tables.events ▸ old
      | committed batch _ phase finished =>
        have counted := counters.batches run (List.mem_of_getElem? found) batch
          (open_of_phase phase)
        intro event member
        simp only [view_events] at member
        rcases List.mem_append.mp member with early | new
        · exact old event early
        · rw [counted.events finished] at new
          obtain ⟨done, among, rfl⟩ := List.mem_map.mp new
          -- The due was placed when the batch was read, and a step keeps what is placed.
          obtain ⟨key, positive, place⟩ := counted.done done among
          simp only [EscalationEvent.key, dueKey, Prod.mk.injEq] at key
          obtain ⟨ofIncident, ofCycle, ofLevel⟩ := key
          rw [EventPlaced, ofIncident, ofCycle, ofLevel]
          exact ⟨positive, place.step inv keeps stepped⟩
      | _ => exact old
    · exact old
  · have frame := step_service (by simpa using job) stepped
    exact frame.history.events ▸ old

theorem CounterInvariant.rowsStep (counters : CounterInvariant sys) (inv : SnapshotInvariant sys)
    (keeps : KeepsCounters sys action) (stepped : step config sys action = some next) :
    ∀ row ∈ next.store.incidents, Topped next.store.escalationEvents row := by
  -- without new events, a row keeps to those of the row it comes from, and a new id has none
  have still : next.store.escalationEvents = sys.store.escalationEvents →
      ∀ row ∈ next.store.incidents, Topped next.store.escalationEvents row := by
    intro same row member
    rw [same]
    rcases counterMoves.step inv keeps stepped row member with ⟨old, stored, named, moved⟩ | fresh
    · exact (counters.rows old stored).step counters.events stored named.symm moved
    · intro _ event among ofIncident
      obtain ⟨first, inside, named⟩ := (counters.events event among).2.present
      exact absurd (named.trans ofIncident) (fresh first inside)
  by_cases job : Action.ofJob action = true
  · rcases step_job job stepped with _ |
      ⟨k, run, after, store, reading, isJob, found, fresh, effect⟩ |
      ⟨k, run, after, found, dropped⟩
    · exact still rfl
    · cases effect with
      | outside _ _ closed open_ tables => exact still tables.events
      | committed batch _ phase finished =>
        have counted := counters.batches run (List.mem_of_getElem? found) batch
          (open_of_phase phase)
        intro row member
        simp only [view_incidents] at member
        obtain ⟨old, stored, rfl⟩ := List.mem_map.mp member
        simp only [view_events]
        exact counted.topped finished stored (counters.rows old stored)
      | _ => exact still rfl
    · exact still rfl
  · exact still (step_service (by simpa using job) stepped).history.events

theorem CounterInvariant.step (counters : CounterInvariant sys) (inv : SnapshotInvariant sys)
    (keeps : KeepsCounters sys action) (finds : bumpsFindOwn sys action = true)
    (stepped : step config sys action = some next) : CounterInvariant next := by
  have others : ∀ run ∈ sys.runs, ∀ batch, run.open? = some batch →
      BatchCounted next.store batch :=
    fun run member batch opened =>
      (counters.batches run member batch opened).step inv keeps stepped
  refine ⟨counters.feed.step inv finds stepped, counters.eventsStep inv keeps stepped,
    counters.rowsStep inv keeps stepped, ?_⟩
  apply step_batches stepped others
  intro k run after reading isJob found effect
  have member := List.mem_of_getElem? found
  exact effect.counted inv.unique.incidents (counters.feed.batches run member)
    (counters.batches run member)

end Run

/-- A database whose counters agree with its events. -/
structure WellCounted (store : Store) : Prop where
  unique : store.UniqueIds
  checks : ∀ row ∈ store.incidents, checksHold row = true
  fed : ∀ row ∈ store.incidents, FeedRow store.escalationEvents row
  events : ∀ event ∈ store.escalationEvents, EventPlaced store event
  topped : ∀ row ∈ store.incidents, Topped store.escalationEvents row

/-- The steps of a run that keeps its counters, and whose bumps find their rows. -/
def CountsInOrder (sys : System) (action : Action) : Prop :=
  KeepsCounters sys action ∧ bumpsFindOwn sys action = true

theorem reached_counted {config : JobConfig} {start : Store} {issued : List Id}
    (initial : WellCounted start) {sys : System}
    (reached : Machine.Reaches (step config) CountsInOrder (System.boot start issued) sys) :
    CounterInvariant sys := by
  have boot : CounterInvariant (System.boot start issued) :=
    ⟨⟨initial.checks, initial.fed, by simp [System.boot], by simp [System.boot]⟩, initial.events,
      initial.topped, by simp [System.boot]⟩
  refine reached.invariant CounterInvariant boot ?_ sys
  rintro before action after earlier counters ⟨keeps, finds⟩ stepped
  exact counters.step (reached_snapshots initial.unique earlier) keeps finds stepped

end IncidentApi.Properties
