import IncidentApi.Properties.Recipients

/-!
# An acknowledgement ends its cycle

From the commit of an acknowledgement on, no insert of any batch finds the incident in that cycle:
the row either is in a later one or is no candidate. An event of the cycle that shows up afterwards
was already held by a transaction that was open when the acknowledgement committed.
-/
namespace IncidentApi.Properties

/-! ### Inserts and what they hold -/

/-- The next statement of a run is an insert, and its `SELECT` yields the event. -/
def Inserts (sys : System) (action : Action) (event : EscalationEvent) : Prop :=
  ∃ k reading run batch due rest row, action = .job k reading ∧ sys.runs[k]? = some run ∧
    run.open? = some batch ∧ batch.todo = due :: rest ∧ batch.statement = .select ∧
    (batch.view sys.store).incidents.find? (stillCandidate due) = some row ∧
    event = eventFor due row batch.now reading.id

/-- The events whose insert an open transaction has executed, or is executing. -/
def heldEvents (run : Run) : List EscalationEvent :=
  (run.open?.map fun batch =>
    batch.escalations.map (·.event) ++ (Statement.event? batch.statement).toList).getD []

def held (sys : System) : List EscalationEvent := sys.runs.flatMap heldEvents

/-- The step commits the acknowledgement of an incident that is in that cycle. -/
def Acknowledges (sys : System) (action : Action) (id : Id) (cycle : Nat) : Prop :=
  ∃ k now wall ids request store, action = .commit k now wall ids ∧
    sys.requests[k]? = some request ∧ request.operation = .acknowledge ∧ request.id = id ∧
    commitRequest sys.store request now wall ids = .ok store ∧
    ∃ row ∈ sys.store.incidents, row.id = id ∧ row.escalationCycle = cycle

theorem heldEvents_of_batch {run : Run} {batch : Batch} (phase : run.phase = .batch batch) :
    heldEvents run =
      batch.escalations.map (·.event) ++ (Statement.event? batch.statement).toList := by
  rw [heldEvents, open_of_phase phase]
  rfl

theorem heldEvents_of_closed {run : Run} (closed : run.open? = none) : heldEvents run = [] := by
  rw [heldEvents, closed]
  rfl

theorem batchEvents_held {run : Run} {batch : Batch} (phase : run.phase = .batch batch) :
    batchEvents batch ⊆ heldEvents run := by
  rw [heldEvents_of_batch phase, batchEvents]
  apply List.append_subset.mpr
  constructor
  · exact List.subset_append_left _ _
  · intro event member
    apply List.mem_append_right
    cases statement : batch.statement <;> simp_all [insertedBy, Statement.event?]

/-! ### One step -/

section Step
variable {config : JobConfig} {sys next : System} {action : Action}

/-- What a statement leaves in the store or holds was there before, or the statement is an
insert that yields it. -/
theorem RunEffect.held {others : List Write} {store after : Store} {run moved : Run}
    {reading : Reading} (effect : RunEffect config others store run reading after moved)
    {event : EscalationEvent} (member : event ∈ after.escalationEvents ∨ event ∈ heldEvents moved) :
    event ∈ store.escalationEvents ∨ event ∈ heldEvents run ∨
      ∃ batch due rest row, run.open? = some batch ∧ batch.todo = due :: rest ∧
        batch.statement = .select ∧
        (batch.view store).incidents.find? (stillCandidate due) = some row ∧
        event = eventFor due row batch.now reading.id := by
  cases effect with
  | outside _ _ closed still tables =>
    rcases member with stored | inside
    · exact Or.inl (tables.events ▸ stored)
    · simp [heldEvents_of_closed still] at inside
  | committed batch _ phase done still =>
    rcases member with stored | inside
    · rcases List.mem_append.mp (view_events batch store ▸ stored) with early | own
      · exact Or.inl early
      · exact Or.inr (Or.inl (batchEvents_held phase own))
    · simp [heldEvents_of_closed still] at inside
  | selected batch due rest row phase todo statement found =>
    rcases member with stored | inside
    · exact Or.inl stored
    · rw [heldEvents_of_batch rfl] at inside
      rcases List.mem_append.mp inside with done | drawn
      · exact Or.inr (Or.inl (heldEvents_of_batch phase ▸ List.mem_append_left _ done))
      · obtain rfl : event = eventFor due row batch.now reading.id := by
          simpa [Statement.event?] using drawn
        exact Or.inr (Or.inr ⟨batch, due, rest, row, open_of_phase phase, todo, statement, found,
          rfl⟩)
  | opened batch scanning todo statement escalations =>
    rcases member with stored | inside
    · exact Or.inl stored
    · simp [heldEvents, Run.open?, statement, escalations, Statement.event?] at inside
  | violated =>
    rcases member with stored | inside
    · exact Or.inl stored
    · simp [heldEvents, Run.open?] at inside
  -- the other statements keep the event they work on, or drop it
  | vanished batch due rest phase todo statement =>
    refine member.imp_right fun inside => Or.inl ?_
    rw [heldEvents_of_batch phase]
    simpa [heldEvents, Run.open?, statement] using inside
  | conflicted batch due rest other phase todo statement =>
    refine member.imp_right fun inside => Or.inl ?_
    rw [heldEvents_of_batch phase]
    apply List.mem_append_left
    simpa [heldEvents, Run.open?, Statement.event?] using inside
  | inserted batch due rest other phase todo statement =>
    refine member.imp_right fun inside => Or.inl ?_
    rw [heldEvents_of_batch phase, statement]
    exact inside
  | notified batch due rest other phase todo statement =>
    refine member.imp_right fun inside => Or.inl ?_
    rw [heldEvents_of_batch phase, statement]
    exact inside
  | audited batch due rest other rows phase todo statement =>
    refine member.imp_right fun inside => Or.inl ?_
    rw [heldEvents_of_batch phase, statement]
    exact inside
  | bumped batch due rest other rows record phase todo statement =>
    refine member.imp_right fun inside => Or.inl ?_
    rw [heldEvents_of_batch phase, statement]
    simpa [heldEvents, Run.open?, Statement.event?] using inside

/-- Every event that is stored or held after a step was so before it, or the step inserts it. -/
theorem step_held (stepped : step config sys action = some next) {event : EscalationEvent}
    (member : event ∈ next.store.escalationEvents ∨ event ∈ held next) :
    event ∈ sys.store.escalationEvents ∨ event ∈ held sys ∨ Inserts sys action event := by
  by_cases job : Action.ofJob action = true
  · rcases step_job job stepped with _ |
      ⟨k, run, moved, store, reading, isJob, found, fresh, effect⟩ |
      ⟨k, run, moved, found, dropped⟩
    · rcases member with stored | inside
      · exact Or.inl stored
      · refine Or.inr (Or.inl ?_)
        rw [held, List.flatMap_append] at inside
        rcases List.mem_append.mp inside with old | last
        · exact old
        · simp [heldEvents, Run.open?, newRun] at last
    · subst isJob
      have pool := Pool.mem_flatMap_of_getElem? heldEvents found event
      have moves (inside : event ∈ store.escalationEvents ∨ event ∈ heldEvents moved) :
          event ∈ sys.store.escalationEvents ∨ event ∈ held sys ∨
            Inserts sys (.job k reading) event := by
        rcases effect.held inside with early | own | ⟨batch, due, rest, row, insert⟩
        · exact Or.inl early
        · exact Or.inr (Or.inl (pool.mpr (Or.inl own)))
        · exact Or.inr (Or.inr ⟨k, reading, run, batch, due, rest, row, rfl, found, insert⟩)
      rcases member with stored | inside
      · exact moves (Or.inl stored)
      · rcases (Pool.mem_flatMap_set heldEvents found moved event).mp inside with own | other
        · exact moves (Or.inr own)
        · exact Or.inr (Or.inl (pool.mpr (Or.inr other)))
    -- a run that fails or crashes holds nothing any more
    · refine member.imp_right fun inside => Or.inl ?_
      apply (Pool.mem_flatMap_of_getElem? heldEvents found event).mpr
      refine ((Pool.mem_flatMap_set heldEvents found moved event).mp inside).imp_left ?_
      simp [heldEvents_of_closed dropped.still]
  · have frame := step_service (by simpa using job) stepped
    refine member.imp (fun stored => frame.history.events ▸ stored) fun inside => Or.inl ?_
    rw [held, ← frame.runs]
    exact inside

end Step

/-! ### After the acknowledgement -/

section After
variable {config : JobConfig} {sys next : System} {action : Action} {id : Id} {cycle : Nat}

/-- The row that an acknowledgement writes is no candidate in its cycle. -/
theorem Acknowledges.ended (acknowledges : Acknowledges sys action id cycle)
    (inv : SnapshotInvariant sys) (stepped : step config sys action = some next) :
    ∃ row ∈ next.store.incidents, row.id = id ∧ Ended cycle row := by
  obtain ⟨k, now, wall, ids, request, store, rfl, found, operation, named, committed, old, stored,
    same, inCycle⟩ := acknowledges
  obtain ⟨other, isOther, running⟩ := Option.bind_eq_some_iff.mp stepped
  obtain rfl := Option.some.inj (isOther.symm.trans found)
  split at running
  · simp at running
  · rw [committed] at running
    obtain rfl := Option.some.inj running
    obtain ⟨mutation, decided, written⟩ := bind_ok committed
    obtain ⟨⟨row, member, pinnedId, version, _⟩, rfl⟩ := commitMutation_ok _ _ _ _ _ _ _ written
    obtain rfl := eq_of_id_eq inv.unique.incidents stored member
      (same.trans (named.symm.trans pinnedId.symm))
    refine ⟨mutation.data.write wall old, ?_, (write_id ..).trans same, ?_⟩
    · refine List.mem_map.mpr ⟨old, stored, ?_⟩
      rw [if_pos ((pinned_iff _ _ _).mpr ⟨pinnedId, version⟩)]
    · rw [Request.decide, operation] at decided
      obtain ⟨_, _, data, _⟩ := acknowledge_ok decided
      refine Or.inr ⟨?_, fun alive => ?_⟩
      · simpa [UpdateIncidentStateInput.write, data] using inCycle
      · simpa [UpdateIncidentStateInput.write, data] using alive.1

/-- No insert finds an incident in a cycle that has ended. -/
theorem Ended.not_inserted {row : Incident} (ended : Ended cycle row) (inv : SnapshotInvariant sys)
    (stored : row ∈ sys.store.incidents) {event : EscalationEvent}
    (inserts : Inserts sys action event) (named : event.incidentId = row.id) :
    event.cycle ≠ cycle := by
  intro inCycle
  obtain ⟨k, reading, run, batch, due, rest, seen, _, _, _, _, _, found, rfl⟩ := inserts
  have qualifies := (stillCandidate_iff due seen).mp (List.find?_some found)
  obtain ⟨_, _, _, unacknowledged, opened, high⟩ := qualifies
  have member := List.mem_of_find?_eq_some found
  rw [view_incidents] at member
  obtain ⟨new, among, rfl⟩ := List.mem_map.mp member
  have columns := bumpedBy_same batch.writes new
  simp only [eventFor, columns.id] at named
  obtain rfl := eq_of_id_eq inv.unique.incidents among stored named
  simp only [eventFor, columns.cycle] at inCycle
  rw [columns.acknowledged] at unacknowledged
  rw [columns.stage] at opened
  rw [columns.severity] at high
  rcases ended with past | ⟨_, dead⟩
  · omega
  · exact dead ⟨unacknowledged, opened, high⟩

theorem CycleKept.ended {old new : Incident} (kept : CycleKept old new) (ended : Ended cycle old) :
    Ended cycle new :=
  (CycleStep.mk kept.forward kept.settled).ended ended

/-- An acknowledgement is final for its cycle: no insert executed later adds an event of the cycle,
every event that was there stays, and an event of the cycle that appears afterwards belongs to a
transaction that had inserted it before. -/
theorem acknowledgement_final (config : JobConfig) (start : Store) (issued : List Id)
    (unique : start.UniqueIds) (sys acked later : System) (action : Action) (id : Id) (cycle : Nat)
    (reached : Machine.Reaches (step config) (OnCommit IfMatchNotAhead)
      (System.boot start issued) sys)
    (stepped : step config sys action = some acked)
    (acknowledges : Acknowledges sys action id cycle)
    (onward : Machine.Reaches (step config) (OnCommit IfMatchNotAhead) acked later) :
    (∀ action event, Inserts later action event → event.incidentId = id → event.cycle ≠ cycle) ∧
    sys.store.escalationEvents ⊆ later.store.escalationEvents ∧
    ∀ event ∈ later.store.escalationEvents, event.incidentId = id → event.cycle = cycle →
      event ∈ acked.store.escalationEvents ∨ event ∈ held acked := by
  have inv := (reached_snapshots unique reached).step stepped
  obtain ⟨row, stored, named, ended⟩ :=
    acknowledges.ended (reached_snapshots unique reached) stepped
  -- the row of the incident is followed to every later state
  have never : ∀ state, Machine.Reaches (step config) (OnCommit IfMatchNotAhead) acked state →
      ∀ action event, Inserts state action event → event.incidentId = id →
        event.cycle ≠ cycle := by
    intro state toState action event inserts about
    obtain ⟨also, new, inside, same, kept⟩ :=
      (cycleMoves fun _ _ notAhead => notAhead).followed inv toState stored
    exact (kept.ended ended).not_inserted also inside inserts
      (about.trans (named.symm.trans same.symm))
  refine ⟨never later onward, ?_, ?_⟩
  · exact onward.invariant (fun state => sys.store.escalationEvents ⊆ state.store.escalationEvents)
      (step_events stepped)
      (fun _ _ _ _ kept _ moved _ member => step_events moved (kept member)) later
  · intro event member about inCycle
    refine onward.invariant
      (fun state => event ∈ state.store.escalationEvents ∨ event ∈ held state →
      event ∈ acked.store.escalationEvents ∨ event ∈ held acked) (fun here => here) ?_ later
      (Or.inl member)
    intro before action after earlier kept _ moved shown
    rcases step_held moved shown with old | old | inserted
    · exact kept (Or.inl old)
    · exact kept (Or.inr old)
    · exact absurd inCycle (never before earlier action event inserted about)

end After

/-! ### An acknowledgement next to an open batch -/

def isAcknowledge : Operation → Bool
  | .acknowledge => true
  | _ => false

def acknowledges (sys : System) (id : Id) (cycle : Nat) : Action → Bool
  | .commit k now wall ids =>
    (sys.requests[k]?).any fun request =>
      isAcknowledge request.operation && request.id = id &&
        (commitRequest sys.store request now wall ids).toBool &&
        sys.store.incidents.any fun row => row.id = id && row.escalationCycle = cycle
  | _ => false

theorem acknowledges_sound {sys : System} {id : Id} {cycle : Nat} {action : Action}
    (passed : acknowledges sys id cycle action = true) : Acknowledges sys action id cycle := by
  cases action with
  | commit k now wall ids =>
    obtain ⟨request, found, holds⟩ := Option.any_eq_true _ _ |>.mp passed
    simp only [Bool.and_eq_true, decide_eq_true_eq, List.any_eq_true] at holds
    obtain ⟨⟨⟨operation, named⟩, committed⟩, row, stored, same, inCycle⟩ := holds
    cases result : commitRequest sys.store request now wall ids with
    | error _ => simp [result, Except.toBool] at committed
    | ok store =>
      refine ⟨k, now, wall, ids, request, store, rfl, found, ?_, named, result, row, stored, same,
        inCycle⟩
      cases kind : request.operation <;> simp [kind, isAcknowledge] at operation ⊢
  | _ => simp [acknowledges] at passed

def acknowledging : Action := .commit 0 900000 900000 fun _ => "acknowledged"

/-- A batch has executed its insert for the incident when the acknowledgement commits. The event
appears when the batch commits, and no other event of the cycle ever does. -/
theorem acknowledgement_final_sample :
    ∃ sys acked later, Machine.exec (step sampleConfig) servedIfMatch (System.boot sampleStore [])
        (batchRead ++ jobSteps 2 900000 "e0" ++ [.load "manager" .acknowledge "a" 0]) = some sys ∧
      step sampleConfig sys acknowledging = some acked ∧
      Machine.exec (step sampleConfig) servedIfMatch acked (jobSteps 4 900000 "e0") = some later ∧
      acked.store.escalationEvents = [] ∧
      later.store.escalationEvents.map (·.key) = [("a", 1, 1)] ∧
      (∀ action event, Inserts later action event → event.incidentId = "a" → event.cycle ≠ 1) ∧
      sys.store.escalationEvents ⊆ later.store.escalationEvents ∧
      ∀ event ∈ later.store.escalationEvents, event.incidentId = "a" → event.cycle = 1 →
        event ∈ acked.store.escalationEvents ∨ event ∈ held acked := by
  have ran : (Machine.exec (step sampleConfig) servedIfMatch (System.boot sampleStore [])
      (batchRead ++ jobSteps 2 900000 "e0" ++ [.load "manager" .acknowledge "a" 0])).any (fun sys =>
        acknowledges sys "a" 1 acknowledging &&
        (step sampleConfig sys acknowledging).any fun acked =>
          decide (acked.store.escalationEvents = []) &&
          (Machine.exec (step sampleConfig) servedIfMatch acked (jobSteps 4 900000 "e0")).any
            fun later => decide (later.store.escalationEvents.map (·.key) = [("a", 1, 1)])) =
      true := by decide
  obtain ⟨sys, executed, facts⟩ := Option.any_eq_true _ _ |>.mp ran
  obtain ⟨acks, facts⟩ := Bool.and_eq_true_iff.mp facts
  obtain ⟨acked, stepped, facts⟩ := Option.any_eq_true _ _ |>.mp facts
  obtain ⟨none, facts⟩ := Bool.and_eq_true_iff.mp facts
  obtain ⟨later, onward, shown⟩ := Option.any_eq_true _ _ |>.mp facts
  refine ⟨sys, acked, later, executed, stepped, onward, of_decide_eq_true none,
    of_decide_eq_true shown, ?_⟩
  exact acknowledgement_final sampleConfig sampleStore [] ⟨by decide, by decide⟩ sys acked later
    acknowledging "a" 1 (Machine.reaches_of_exec _ servedIfMatch_sound _ _ _ executed) stepped
    (acknowledges_sound acks) (Machine.reaches_of_exec _ servedIfMatch_sound _ _ _ onward)

end IncidentApi.Properties
