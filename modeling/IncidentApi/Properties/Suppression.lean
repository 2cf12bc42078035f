import IncidentApi.Properties.Coverage
import IncidentApi.Properties.Schedules
import IncidentApi.Properties.Lifecycle

/-!
# No due tier is suppressed

The job skips every level at or below a counter, so a level without an event must stay above it.
That holds in every run whose bumps land in the cycle of the event they follow, and whose
mutations overwrite what they read.
-/
namespace IncidentApi.Properties

/-- A bump that is about to run lands in the cycle of its event. -/
def bumpsOwnCycle (sys : System) : Action → Bool
  | .job k _ => (sys.runs[k]?.bind Run.open?).all (bumpLands sys.store)
  | _ => true

structure CoverInvariant (sys : System) : Prop where
  rows : ∀ row ∈ sys.store.incidents, RowSupported sys.store.escalationEvents row
  requests : ∀ request ∈ sys.requests,
    RowSupported sys.store.escalationEvents request.row.toIncident
  tiers : WellFormed (activeTiers sys.store)
  runs : ∀ run ∈ sys.runs, RunReady sys.store run

/-! ### One step -/

section Step
variable {config : JobConfig} {sys next : System} {action : Action}

theorem step_commit_events {k : Nat} {reading : Reading} {run : Run} {batch : Batch}
    (found : sys.runs[k]? = some run) (opened : run.open? = some batch) (done : batch.todo = [])
    (stepped : step config sys (.job k reading) = some next) :
    next.store.escalationEvents = visibleEvents sys.store batch := by
  obtain ⟨other, same, running⟩ := Option.bind_eq_some_iff.mp stepped
  obtain rfl := Option.some.inj (same.symm.trans found)
  have phase : other.phase = .batch batch := by
    unfold Run.open? at opened
    split at opened
    next inside phase => exact Option.some.inj opened ▸ phase
    · simp at opened
  split at running
  · simp at running
  · obtain ⟨⟨store, after⟩, moved, rfl⟩ := Option.map_eq_some_iff.mp running
    cases batch
    simp only at done
    subst done
    simp only [runStep, phase, batchStep, Option.some.injEq, Prod.mk.injEq] at moved
    rw [← moved.1, view_events, visibleEvents]

theorem step_events (stepped : step config sys action = some next) :
    sys.store.escalationEvents ⊆ next.store.escalationEvents := by
  by_cases job : Action.ofJob action = true
  · rcases step_job job stepped with _ |
      ⟨k, run, after, store, reading, isJob, found, fresh, effect⟩ |
      ⟨k, run, after, found, dropped⟩
    · exact fun _ => id
    · cases effect with
      | outside _ _ closed still tables => exact tables.events ▸ fun _ => id
      | committed batch _ phase done => exact view_events batch _ ▸ List.subset_append_left _ _
      | _ => exact fun _ => id
    · exact fun _ => id
  · have frame := step_service (by simpa using job) stepped
    exact frame.history.events ▸ fun _ => id

theorem RowStep.lockedCycle {rows : List AuditEvent} {old new : Incident}
    (rowStep : RowStep sys action rows old new) (locked : sys.locked old.id = true) :
    new.escalationCycle = old.escalationCycle := by
  cases rowStep with
  | kept => rfl
  | decided k now wall ids request mutation isCommit found free pins current decided logs =>
    rw [free] at locked
    simp at locked
  | cascaded actor targetId incident now wall named stage opened assignee free logs =>
    rw [free] at locked
    simp at locked
  | bumped new job same => exact protected_congr Incident.escalationCycle (fun _ => rfl) same

theorem step_advances (inv : SnapshotInvariant sys) (pinsRead : OnCommit PinsWhatItRead sys action)
    (stepped : step config sys action = some next) :
    Advances (fun id => sys.locked id = true) sys.store next.store := by
  obtain ⟨_, _, origin⟩ := step_rowSteps inv pinsRead stepped
  refine ⟨step_events stepped, fun before stored => ?_, fun row member => ?_⟩
  · exact step_keeps_row inv.impacts stepped stored
  · rcases origin row member with ⟨old, stored, named, rowStep⟩ |
      ⟨actor, input, imagePath, id, reference, now, wall, rfl, fresh⟩
    · exact Or.inl ⟨old, stored, named.symm, rowStep.cycleStep,
        fun locked => rowStep.lockedCycle (named ▸ locked)⟩
    · exact Or.inr fresh

theorem newIncident_supported (events : List EscalationEvent) (actor : Actor)
    (input : CreateIncidentRequest) (imagePath : Option String) (id : Id) (reference : String)
    (now wall : Date) :
    RowSupported events (newIncident actor input imagePath id reference now wall) :=
  supported_zero events _ _

theorem CoverInvariant.rowsStep (cover : CoverInvariant sys) (inv : SnapshotInvariant sys)
    (stepped : step config sys action = some next) :
    ∀ row ∈ next.store.incidents, RowSupported next.store.escalationEvents row := by
  have more := step_events stepped
  obtain ⟨rows, _, effect⟩ := (step_store inv.impacts stepped).incidents
  intro new member
  rcases effect.origin member with ⟨old, stored, event⟩ | ⟨_, _, _, _, _, _, _, rfl, _⟩
  · have supported : RowSupported next.store.escalationEvents old :=
      (cover.rows old stored).mono more
    cases event with
    | kept => exact supported
    | mutated k now wall ids request mutation isCommit found decided free pins logs =>
      have pending := List.mem_of_getElem? found
      have named := (inv.requests request pending).1.trans ((pinned_iff _ _ _).mp pins).1.symm
      -- What a decision writes is computed from the row the request loaded, so both rows matter.
      exact (decide_clock decided).supported wall named ((cover.requests request pending).mono more)
        supported
    | cascaded k now wall ids request affected incident isCommit found read among free pins logs =>
      exact supported
    | bumped k reading run batch isJob found opened done =>
      subst isJob
      rw [step_commit_events found opened done stepped]
      -- A commit publishes the batch's events with its bumps, and each bump has its own among them.
      have ready := (cover.runs run (List.mem_of_getElem? found)).batch batch opened
      exact ready.supported stored (cover.rows old stored)
  · exact newIncident_supported _ _ _ _ _ _ _ _

theorem CoverInvariant.tiersStep (cover : CoverInvariant sys) (inv : SnapshotInvariant sys)
    (stepped : step config sys action = some next) : WellFormed (activeTiers next.store) := by
  rcases (step_store inv.impacts stepped).tiers with same | ⟨request, updatedById, replaced⟩
  · rw [activeTiers_congr same]
    exact cover.tiers
  · refine request.wellFormed.perm ((activeTiers_perm next.store).trans ?_).symm
    rw [replaced, List.filter_eq_self.mpr (by simp), List.map_map]
    exact List.Perm.of_eq (List.map_id _)

theorem CoverInvariant.locks {run : Run} {batch : Batch} (member : run ∈ sys.runs)
    (opened : run.open? = some batch) {done : Escalation} (among : done ∈ batch.escalations)
    (bumped : done.bumped.isSome = true) : sys.locked done.due.candidate.id = true := by
  obtain ⟨wall, bumped⟩ := Option.isSome_iff_exists.mp bumped
  refine List.any_eq_true.mpr ⟨.bump done.due.candidate.id done.due.tier.level batch.now wall,
    List.mem_flatMap.mpr ⟨run, member, ?_⟩, by simp [locksRow]⟩
  simp only [Run.writes, opened, Option.map_some, Option.getD_some]
  exact mem_writes_bump.mpr ⟨rfl, done, among, bumped, rfl, rfl⟩

theorem CoverInvariant.step (cover : CoverInvariant sys) (inv : SnapshotInvariant sys)
    (pinsRead : OnCommit PinsWhatItRead sys action) (lands : bumpsOwnCycle sys action = true)
    (stepped : step config sys action = some next) : CoverInvariant next := by
  have more := step_events stepped
  have advances := step_advances inv pinsRead stepped
  have others : ∀ run ∈ sys.runs, RunReady next.store run := fun run member =>
    ⟨(cover.runs run member).tiers, fun batch opened =>
      ((cover.runs run member).batch batch opened).advance advances fun done among bumped =>
        CoverInvariant.locks member opened among bumped⟩
  refine ⟨cover.rowsStep inv stepped, ?_, cover.tiersStep inv stepped, ?_⟩
  · apply step_loaded (fun row => RowSupported next.store.escalationEvents row.toIncident) stepped
    · intro request old
      exact (cover.requests request old).mono more
    · intro row stored
      exact (cover.rows row stored).mono more
  · by_cases job : Action.ofJob action = true
    · rcases step_job job stepped with ⟨jobRunId, _⟩ |
        ⟨k, run, after, store, reading, isJob, found, fresh, effect⟩ |
        ⟨k, run, after, found, dropped⟩
      · intro run member
        rcases List.mem_append.mp member with old | last
        · exact others run old
        · obtain rfl := List.mem_singleton.mp last
          exact ⟨⟨by simp [newRun], by simp [newRun], by simp [newRun], by simp [newRun]⟩,
            fun batch opened => by simp [Run.open?, newRun] at opened⟩
      · subst isJob
        refine Pool.forall_set others k (effect.ready inv.unique.incidents cover.tiers cover.rows
          (cover.runs run (List.mem_of_getElem? found)) fun batch opened => ?_)
        -- the only use of the guard: the bump about to run matches a row of its event's cycle
        simpa [bumpsOwnCycle, found, opened] using lands
      · refine Pool.forall_set others k ⟨?_, fun batch opened => ?_⟩
        · exact dropped.tiers ▸ (cover.runs run (List.mem_of_getElem? found)).tiers
        · rw [dropped.still] at opened
          simp at opened
    -- No other request touches the runs of the job.
    · rw [(step_service (by simpa using job) stepped).runs]
      exact others

end Step

/-! ### A run on supported counters -/

/-- Every tier that a candidate has crossed has its event in the candidate's cycle. -/
def NothingSuppressed (store : Store) (now : Date) : Prop :=
  ∀ row ∈ store.incidents, row.acknowledgedAt = none → row.stage ≠ .closed →
    row.severity.inHighBand = true → ∀ since, row.highSeveritySince = some since →
      ∀ tier ∈ activeTiers store, tier.severity = row.severity →
        hasElapsed since now tier.thresholdMinutes = true →
          HasEvent store.escalationEvents row.id row.escalationCycle tier.level

theorem escalated_nothing_suppressed {env : RunEnv} {store : Store} (recipients : Recipients)
    (positive : ∀ tier ∈ activeTiers store, 1 ≤ tier.level)
    (rows : ∀ row ∈ store.incidents, RowSupported store.escalationEvents row) :
    NothingSuppressed (escalated recipients env store (missingDue store env.now)) env.now := by
  intro new member unacknowledged opened high since clock tier active severity elapsed
  obtain ⟨row, stored, rfl⟩ := List.mem_map.mp member
  have same := bumpAll_same env (missingDue store env.now) row
  rw [same.acknowledged] at unacknowledged
  rw [same.stage] at opened
  rw [same.severity] at high severity
  rw [same.clock] at clock
  rw [same.id, same.cycle]
  -- Above the counter the run itself sees to the level; up to it the event is there already.
  rcases Nat.lt_or_ge row.currentEscalationLevel tier.level with above | reached
  · let due : Due := ⟨row.batchRow.candidate, ⟨tier.level, tier.thresholdMinutes⟩⟩
    have candidate : isCandidate row = true :=
      (isCandidate_iff row).mpr ⟨unacknowledged, opened, high, by simp [clock]⟩
    have crossed : due.tier ∈ tiersDueFor row.batchRow.candidate (activeTiers store) env.now := by
      refine (mem_tiersDueFor _ _ _ _).mpr ⟨tier, active, severity, above, ?_, rfl⟩
      simpa [Incident.batchRow, BatchRow.candidate, clock] using elapsed
    have isDue : due ∈ allDue store env.now :=
      List.mem_flatMap.mpr ⟨row, (mem_candidates store row).mpr ⟨stored, candidate⟩,
        List.mem_map.mpr ⟨due.tier, crossed, rfl⟩⟩
    by_cases present : store.escalationEvents.any (·.key = dueKey due) = true
    · obtain ⟨event, old, key⟩ := List.any_eq_true.mp present
      exact ⟨event, List.mem_append_left _ old, of_decide_eq_true key⟩
    · have missing : due ∈ missingDue store env.now :=
        List.mem_filter.mpr ⟨isDue, by simpa using present⟩
      exact ⟨newEvent env due, List.mem_append_right _ (List.mem_map.mpr ⟨due, missing, rfl⟩), rfl⟩
  · exact (rows row stored tier.level (positive tier active) reached).mono
      (List.subset_append_left _ _)

/-! ### Every reachable state -/

/-- The steps of a run whose bumps land in their own cycle and whose mutations overwrite what
they read. -/
def StepsInOrder (sys : System) (action : Action) : Prop :=
  bumpsOwnCycle sys action = true ∧ OnCommit PinsWhatItRead sys action

theorem reached_covered {config : JobConfig} {start : Store} {issued : List Id}
    (users : (start.users.map User.id).Nodup) (created : start.incidents = [])
    (accepted : HoldsAccepted start) {sys : System}
    (reached : Machine.Reaches (step config) StepsInOrder (System.boot start issued) sys) :
    CoverInvariant sys := by
  have unique : start.UniqueIds := ⟨users, by simp [created]⟩
  have boot : CoverInvariant (System.boot start issued) :=
    ⟨by simp [System.boot, created], by simp [System.boot], accepted.wellFormed,
      by simp [System.boot]⟩
  refine reached.invariant CoverInvariant boot ?_ sys
  rintro before action after earlier cover ⟨lands, pinsRead⟩ stepped
  exact cover.step (reached_snapshots unique earlier) pinsRead lands stepped

/-- From a database without incidents and with an accepted tier set, through any such run: one
undisturbed run of the job leaves no crossed tier without its event. -/
theorem undisturbed_run_suppresses_nothing (config other : JobConfig) (start : Store)
    (issued : List Id) (users : (start.users.map User.id).Nodup) (created : start.incidents = [])
    (accepted : HoldsAccepted start) (sys : System)
    (reached : Machine.Reaches (step config) StepsInOrder (System.boot start issued) sys)
    (env : RunEnv) (fresh : FreshIds env sys.store)
    (free : leaseFree sys.store.jobLease env.now = true) (fuel : Nat)
    (enough : (candidates sys.store).length < fuel) :
    ∃ counts final,
      runEscalationJob other env fuel sys.store = some (⟨.completed, counts⟩, final) ∧
        NothingSuppressed final env.now := by
  have inv := reached_snapshots ⟨users, by simp [created]⟩ reached
  have cover := reached_covered users created accepted reached
  have run := runEscalationJob_eq other inv.unique cover.tiers.distinct fresh free fuel enough
  refine ⟨_, _, run, ?_⟩
  exact escalated_nothing_suppressed (currentRecipients sys.store) cover.tiers.positive cover.rows

/-! ### One escalation, alone and next to a change of severity -/

theorem staffedStore_accepted : HoldsAccepted staffedStore := ⟨sampleTierSet, by decide⟩

def inOrder (sys : System) (action : Action) : Bool :=
  bumpsOwnCycle sys action &&
    onCommit (fun sys request => decide (PinsWhatItRead sys request)) sys action

theorem inOrder_sound (sys : System) (action : Action) (passed : inOrder sys action = true) :
    StepsInOrder sys action := by
  rw [inOrder, Bool.and_eq_true] at passed
  exact ⟨passed.1, onCommit_sound (fun _ _ => of_decide_eq_true) _ _ passed.2⟩

def jobSteps (count : Nat) (now : Date) (id : Id) : List Action :=
  List.replicate count (.job 0 (sampleReading now id))

/-- The only run stops between its insert for the reported incident and the counter bump. -/
def beforeBump : List Action :=
  reported ++ [.startRun "j0" 1800000] ++ jobSteps 5 1800000 "r0" ++ jobSteps 4 1800000 "e0"

/-- The rest of the run, from the bump. -/
def afterBump : List Action := jobSteps 6 1800000 "w0"

theorem undisturbed_run_suppresses_nothing_sample :
    ∃ sys, Machine.exec (step sampleConfig) inOrder (System.boot staffedStore [])
        (beforeBump ++ afterBump) = some sys ∧
      sys.store.incidents.map (·.currentEscalationLevel) = [1] ∧
      ∃ counts final, runEscalationJob sampleConfig (sampleEnv "s" 5400000) 2 sys.store =
          some (⟨.completed, counts⟩, final) ∧ NothingSuppressed final 5400000 := by
  have ran : (Machine.exec (step sampleConfig) inOrder (System.boot staffedStore [])
      (beforeBump ++ afterBump)).any (fun sys => decide (
        sys.store.incidents.map (·.currentEscalationLevel) = [1] ∧
        FreshIds (sampleEnv "s" 5400000) sys.store ∧
        leaseFree sys.store.jobLease 5400000 = true ∧
        (candidates sys.store).length < 2)) = true := by decide
  obtain ⟨sys, executed, facts⟩ := Option.any_eq_true _ _ |>.mp ran
  obtain ⟨levels, fresh, free, enough⟩ := of_decide_eq_true facts
  refine ⟨sys, executed, levels, ?_⟩
  exact undisturbed_run_suppresses_nothing sampleConfig sampleConfig staffedStore [] (by decide) rfl
    staffedStore_accepted sys (Machine.reaches_of_exec _ inOrder_sound _ _ _ executed)
    (sampleEnv "s" 5400000) fresh free 2 enough

def raisingInput : ChangeSeverityRequest :=
  ⟨.critical, ⟨"spreading quickly", by decide, by decide, by decide⟩⟩

/-- A change to `CRITICAL` commits between the insert and the bump, so the counter of the second
cycle passes a level that has no event in it. -/
theorem bump_after_raise_suppresses_tier :
    ¬ ∀ (config other : JobConfig) (start : Store) (issued : List Id),
      (start.users.map User.id).Nodup → start.incidents = [] → HoldsAccepted start →
      ∀ sys, Machine.Reaches (step config) Machine.anyAction (System.boot start issued) sys →
      ∀ env : RunEnv, FreshIds env sys.store → leaseFree sys.store.jobLease env.now = true →
      ∀ fuel, (candidates sys.store).length < fuel →
        ∃ counts final, runEscalationJob other env fuel sys.store =
          some (⟨.completed, counts⟩, final) ∧ NothingSuppressed final env.now := by
  intro suppressesNothing
  have ran : (Machine.exec (step sampleConfig) (fun _ _ => true) (System.boot staffedStore [])
      (beforeBump ++ performed (.changeSeverity raisingInput) 0 1800001 ++ afterBump)).any
        (fun sys => decide (
          FreshIds (sampleEnv "s" 5400000) sys.store ∧
          leaseFree sys.store.jobLease 5400000 = true ∧
          (candidates sys.store).length < 2 ∧
          (runEscalationJob sampleConfig (sampleEnv "s" 5400000) 2 sys.store).any (fun result =>
            decide (∃ row ∈ result.2.incidents, row.acknowledgedAt = none ∧ row.stage ≠ .closed ∧
              row.severity.inHighBand = true ∧ row.highSeveritySince = some 1800001 ∧
              ∃ tier ∈ activeTiers result.2, tier.severity = row.severity ∧
                hasElapsed 1800001 5400000 tier.thresholdMinutes = true ∧
                ∀ event ∈ result.2.escalationEvents,
                  event.key ≠ (row.id, row.escalationCycle, tier.level))) = true)) = true := by
    decide
  obtain ⟨sys, executed, facts⟩ := Option.any_eq_true _ _ |>.mp ran
  obtain ⟨fresh, free, enough, outcome⟩ := of_decide_eq_true facts
  obtain ⟨counts, final, run, nothing⟩ := suppressesNothing sampleConfig sampleConfig staffedStore
    [] (by decide) rfl staffedStore_accepted sys
    (Machine.reaches_of_exec (fun _ _ => true) (fun _ _ _ => trivial) _ _ _ executed)
    (sampleEnv "s" 5400000) fresh free 2 enough
  rw [run, Option.any_some] at outcome
  obtain ⟨row, member, unacknowledged, opened, high, since, tier, active, severity, elapsed,
    without⟩ := of_decide_eq_true outcome
  obtain ⟨event, among, key⟩ := nothing row member unacknowledged opened high 1800001 since tier
    active severity elapsed
  exact without event among key

end IncidentApi.Properties
