import IncidentApi.Properties.Cycles
import IncidentApi.Properties.NoteGates

/-!
# Severity and clock

`changeSeverity` writes the severity and every clock column from the row it loaded, so the columns
agree with each other whatever has happened to the row since. No other operation writes them.
-/
namespace IncidentApi.Properties

/-- The clock runs exactly in the high band, and in a cycle counted from 1. -/
structure ClockAgrees (row : Incident) : Prop where
  running : row.highSeveritySince.isSome = true ↔ row.severity.inHighBand = true
  counted : row.severity.inHighBand = true → 1 ≤ row.escalationCycle

theorem ClockAgrees.congr {row other : Incident} (agrees : ClockAgrees row)
    (same : protectedPart other = protectedPart row) : ClockAgrees other := by
  have severity : other.severity = row.severity :=
    protected_congr Incident.severity (fun _ => rfl) same
  have clock : other.highSeveritySince = row.highSeveritySince :=
    protected_congr Incident.highSeveritySince (fun _ => rfl) same
  have cycle : other.escalationCycle = row.escalationCycle :=
    protected_congr Incident.escalationCycle (fun _ => rfl) same
  refine ⟨?_, ?_⟩
  · rw [clock, severity]
    exact agrees.running
  · rw [severity, cycle]
    exact agrees.counted

theorem newIncident_agrees (actor : Actor) (input : CreateIncidentRequest)
    (imagePath : Option String) (id : Id) (reference : String) (now wall : Date) :
    ClockAgrees (newIncident actor input imagePath id reference now wall) := by
  constructor
  · simp only [newIncident, inHighBand_iff]
    split
    next high => simp [high]
    next low => simp [low]
  · simp only [newIncident, inHighBand_iff]
    intro high
    rw [if_pos high]

/-! ### The columns of an update -/

/-- An update leaves severity and clock alone, or writes the clock that the severity asks for. -/
inductive ClockWrite (row : Incident) (data : UpdateIncidentStateInput) : Prop
  | untouched (severity : data.severity = none) (clock : data.highSeveritySince = none)
      (cycle : data.escalationCycle = none)
  | changed (next : Severity) (now : Date) (severity : data.severity = some next)
      (clock : data.highSeveritySince =
        some (applySeverityChange row.severity next now row.clock).highSeveritySince)
      (cycle : data.escalationCycle =
        some (applySeverityChange row.severity next now row.clock).escalationCycle)

theorem decide_clockWrite {operation : Operation} {actor : Actor} {id : Id}
    {row : TriageIncidentRow} {investigator : Option User} {now : Date} {mutation : Mutation}
    (decided : operation.decide actor id row investigator now = .ok mutation) :
    ClockWrite row.toIncident mutation.data := by
  cases operation with
  | changeSeverity input =>
    obtain ⟨_, _, data, _⟩ := changeSeverity_ok decided
    rw [data]
    exact .changed input.severity now rfl rfl rfl
  | triage =>
    rw [(triage_ok decided).2.1]
    exact .untouched rfl rfl rfl
  | assignInvestigator investigatorId =>
    obtain ⟨_, _, _, _, _, _, data, _⟩ := assignInvestigator_ok decided
    rw [data]
    exact .untouched rfl rfl rfl
  | unassignInvestigator =>
    obtain ⟨_, _, _, _, data, _⟩ := unassignInvestigator_ok decided
    rw [data]
    exact .untouched rfl rfl rfl
  | acknowledge =>
    rw [(acknowledge_ok decided).2.2.1]
    exact .untouched rfl rfl rfl
  | propose input =>
    rw [(propose_ok decided).2.2.1]
    exact .untouched rfl rfl rfl
  | approve =>
    rw [(approve_ok decided).2.2.1]
    exact .untouched rfl rfl rfl
  | reject reason =>
    rw [(reject_ok decided).2.1]
    exact .untouched rfl rfl rfl

/-- The clock of a severity change agrees with the new severity, if the old one agreed with the
severity it was read with. -/
theorem applySeverityChange_agrees {row : Incident} (agrees : ClockAgrees row) (next : Severity)
    (now : Date) :
    ((applySeverityChange row.severity next now row.clock).highSeveritySince.isSome = true ↔
      next.inHighBand = true) ∧
    (next.inHighBand = true →
      1 ≤ (applySeverityChange row.severity next now row.clock).escalationCycle) := by
  have running := agrees.running
  have counted := agrees.counted
  simp only [inHighBand_iff] at running counted ⊢
  unfold applySeverityChange
  dsimp only
  split
  -- a new cycle
  next entered => exact ⟨by simp [entered.1], fun _ => Nat.succ_pos _⟩
  next same =>
    split
    -- out of the band
    next low => exact ⟨by simp [low], fun high => absurd high low⟩
    -- inside the band without a rise: the old clock is kept, and it ran in the band
    next high =>
      have high := not_not.mp high
      have was : highBandRank ≤ severityRank row.severity := by
        by_contra low
        exact same ⟨high, .inl low⟩
      exact ⟨by simp [Incident.clock, running, was, high], fun _ => counted was⟩

/-- A write of one row's clock to another keeps the columns in agreement. -/
theorem ClockWrite.agrees {seen row : Incident} {data : UpdateIncidentStateInput}
    (writes : ClockWrite seen data) (wall : Date) (before : ClockAgrees seen)
    (agrees : ClockAgrees row) : ClockAgrees (data.write wall row) := by
  cases writes with
  | untouched severity clock cycle =>
    refine ⟨?_, ?_⟩
    · simpa [UpdateIncidentStateInput.write, severity, clock] using agrees.running
    · simpa [UpdateIncidentStateInput.write, severity, cycle] using agrees.counted
  | changed next now severity clock cycle =>
    obtain ⟨running, counted⟩ := applySeverityChange_agrees before next now
    refine ⟨?_, ?_⟩
    · simpa [UpdateIncidentStateInput.write, severity, clock] using running
    · simpa [UpdateIncidentStateInput.write, severity, cycle] using counted

/-! ### Every run -/

/-- The rows of an incident agree, stored or read by a request in flight. -/
structure ClockInvariant (id : Id) (sys : System) : Prop where
  snapshots : SnapshotInvariant sys
  rows : ∀ row ∈ sys.store.incidents, row.id = id → ClockAgrees row
  requests : ∀ request ∈ sys.requests, request.id = id → ClockAgrees request.row.toIncident

/-- A row that some statement would store for the incident, now or after a load that already
happened: of a mutation in flight, a clearance cascade, a bump of the job or `create`. -/
inductive Attempted (sys : System) (id : Id) : Incident → Prop
  | mutation (request : Request) (now wall : Date) (mutation : Mutation) (row : Incident)
      (pending : request ∈ sys.requests) (decided : request.decide now = .ok mutation)
      (stored : row ∈ sys.store.incidents) (own : row.id = id)
      (pins : pinned request.id request.expectedVersion row = true) :
      Attempted sys id (mutation.data.write wall row)
  | release (actor : Actor) (targetId : Id) (incident : AssignedIncidentRow) (now wall : Date)
      (row : Incident) (stored : row ∈ sys.store.incidents) (own : row.id = id) :
      Attempted sys id ((cascade actor targetId incident now).data.write wall row)
  | bump (level : Nat) (now wall : Date) (row : Incident) (stored : row ∈ sys.store.incidents)
      (own : row.id = id) : Attempted sys id (bumpRow id level now wall row)
  | create (actor : Actor) (input : CreateIncidentRequest) (imagePath : Option String)
      (reference : String) (now wall : Date) :
      Attempted sys id (newIncident actor input imagePath id reference now wall)

section Runs
variable {config : JobConfig} {id : Id}

theorem Attempted.agrees {sys : System} (inv : ClockInvariant id sys) {row : Incident}
    (attempted : Attempted sys id row) : ClockAgrees row := by
  cases attempted with
  | mutation request now wall mutation row pending decided stored own pins =>
    have named := ((pinned_iff _ _ _).mp pins).1.symm.trans own
    exact (decide_clockWrite decided).agrees wall (inv.requests request pending named)
      (inv.rows row stored own)
  | release actor targetId incident now wall row stored own =>
    have still : ClockWrite row (cascade actor targetId incident now).data :=
      .untouched rfl rfl rfl
    exact still.agrees wall (inv.rows row stored own) (inv.rows row stored own)
  | bump level now wall row stored own =>
    exact (inv.rows row stored own).congr (bumpRow_protected id level now wall row)
  | create => exact newIncident_agrees ..

/-- What a step makes of a row of the incident was attempted, or the batch has bumped the row. -/
theorem RowEvent.agrees {sys : System} {action : Action} {rows : List AuditEvent}
    {old new : Incident} (inv : ClockInvariant id sys) (stored : old ∈ sys.store.incidents)
    (own : old.id = id) (event : RowEvent sys action rows old new) : ClockAgrees new := by
  cases event with
  | kept => exact inv.rows old stored own
  | mutated k now wall ids request mutation isCommit found decided free pins =>
    exact (Attempted.mutation request now wall mutation old (List.mem_of_getElem? found) decided
      stored own pins).agrees inv
  | cascaded k now wall ids request affected incident =>
    exact (Attempted.release request.actor request.target.id incident now wall old stored
      own).agrees inv
  | bumped k reading run batch =>
    exact (inv.rows old stored own).congr (bumpedBy_protected batch.writes old)

theorem ClockInvariant.step {sys next : System} {action : Action} (inv : ClockInvariant id sys)
    (stepped : step config sys action = some next) : ClockInvariant id next := by
  obtain ⟨rows, _, effect⟩ := (step_store inv.snapshots.impacts stepped).incidents
  refine ⟨inv.snapshots.step stepped, ?_, ?_⟩
  · intro row member own
    rcases effect.origin member with ⟨old, stored, event⟩ | ⟨_, _, _, _, _, _, _, rfl, _⟩
    · exact event.agrees inv stored (event.id.symm.trans own)
    · exact newIncident_agrees ..
  · have loaded := step_loaded (fun row => row.id = id → ClockAgrees row.toIncident) stepped
      (fun request pending own => inv.requests request pending
        ((inv.snapshots.requests request pending).1.symm.trans own))
      (fun row stored own => inv.rows row stored own)
    intro request pending own
    exact loaded request pending
      (((inv.snapshots.step stepped).requests request pending).1.trans own)

theorem reached_clock {start : Store} {issued : List Id} (unique : start.UniqueIds)
    (made : ∀ row ∈ start.incidents, row.id = id → ClockAgrees row) {sys : NoteSystem}
    (reached : Machine.Reaches (noteStep config) Machine.anyAction (NoteSystem.boot start issued)
      sys) : ClockInvariant id sys.service := by
  refine reached.invariant (fun sys => ClockInvariant id sys.service) ?_ ?_ sys
  · exact ⟨.boot unique issued, made, fun _ pending => by
      simp [NoteSystem.boot, NoteSystem.service, AccountSystem.boot, System.boot] at pending⟩
  · intro before action after _ inv _ stepped
    rcases noteStep_service stepped with ⟨inner, taken⟩ | ⟨store, written, incidents, users⟩
    · exact inv.step taken
    · rw [written]
      exact ⟨inv.snapshots.withStore incidents users,
        fun row stored => inv.rows row (incidents ▸ stored), inv.requests⟩

end Runs

/-- In every state that any interleaving of requests and job batches reaches, with any version in
`If-Match`, the clock of an incident runs exactly while its severity is in the high band, and no
statement would store a row of it without the clock its severity asks for. -/
theorem severity_and_clock_agree (config : JobConfig) (start : Store) (issued : List Id)
    (unique : start.UniqueIds) (id : Id)
    (made : ∀ row ∈ start.incidents, row.id = id → ClockAgrees row) (sys : NoteSystem)
    (reached : Machine.Reaches (noteStep config) Machine.anyAction (NoteSystem.boot start issued)
      sys) :
    (∀ row ∈ sys.store.incidents, row.id = id →
      (row.highSeveritySince ≠ none ↔ row.severity = .high ∨ row.severity = .critical) ∧
        (row.highSeveritySince ≠ none → 1 ≤ row.escalationCycle)) ∧
    ∀ row, Attempted sys.service id row → highSeverityClock row = true := by
  have inv := reached_clock unique made reached
  constructor
  · intro row stored own
    obtain ⟨running, counted⟩ := inv.rows row stored own
    have band : row.severity.inHighBand = true ↔
        row.severity = .high ∨ row.severity = .critical := by
      cases row.severity <;> decide
    rw [← Option.isSome_iff_ne_none, running]
    exact ⟨band, counted⟩
  · intro row attempted
    have running := (attempted.agrees inv).running
    unfold highSeverityClock
    by_cases high : row.severity.inHighBand = true
    · simp [running.mpr high]
    · simp [high]

def severityInput (severity : Severity) : ChangeSeverityRequest :=
  ⟨severity, ⟨"Looked at again", by decide, by decide, by decide⟩⟩

/-- Two changes are decided on one row: the first to commit raises the severity, and the second
guessed the version that this commit would give the row. -/
def racingSeverities : List Action :=
  reported ++ [.load "admin" (.changeSeverity (severityInput .medium)) "i" 1,
    .load "admin" (.changeSeverity (severityInput .critical)) "i" 0,
    .commit 1 1 1 fun n => "raised" ++ toString n, .commit 0 2 2 fun n => "lowered" ++ toString n]

theorem severity_and_clock_agree_sample :
    ∃ sys, Machine.exec (noteStep sampleConfig) (fun _ _ => true)
        (NoteSystem.boot staffedStore []) (racingSeverities.map (.account ∘ .service)) = some sys ∧
      sys.store.incidents.map (fun row => (row.id, row.severity, row.version)) =
        [("i", .medium, 2)] ∧
      ∀ row ∈ sys.store.incidents, row.highSeveritySince = none := by
  have ran : (Machine.exec (noteStep sampleConfig) (fun _ _ => true)
      (NoteSystem.boot staffedStore []) (racingSeverities.map (.account ∘ .service))).any
        (fun sys => decide (sys.store.incidents.map
          (fun row => (row.id, row.severity, row.version)) = [("i", .medium, 2)])) = true := by
    decide
  obtain ⟨sys, executed, rows⟩ := Option.any_eq_true _ _ |>.mp ran
  have rows := of_decide_eq_true rows
  refine ⟨sys, executed, rows, fun row stored => ?_⟩
  have facts : (row.id, row.severity, row.version) = ("i", .medium, 2) :=
    List.mem_singleton.mp (rows ▸ List.mem_map.mpr ⟨row, stored, rfl⟩)
  simp only [Prod.mk.injEq] at facts
  obtain ⟨own, severity, _⟩ := facts
  have settled := (severity_and_clock_agree sampleConfig staffedStore [] ⟨by decide, by decide⟩ "i"
    (fun _ none => nomatch none) sys
    (Machine.reaches_of_exec _ (fun _ _ _ => trivial) _ _ _ executed)).1
  by_contra running
  simpa [severity] using (settled row stored own).1.mp running

end IncidentApi.Properties
