import IncidentApi.Properties.Undisturbed

/-!
# An undisturbed run equals its specification

Where no event of a current cycle is above its counter, the pairs the run escalates are all the
due pairs, whatever the batch size, and running again at the same instant finds nothing left.
-/
namespace IncidentApi.Properties

section Agreement
variable {env : RunEnv} {store : Store}

/-- A due level is above the counter, so agreeing counters leave no due event in the store. -/
theorem missingDue_eq_allDue (agree : CountersAgree store) (now : Date) :
    missingDue store now = allDue store now := by
  apply List.filter_eq_self.mpr
  intro due member
  obtain ⟨row, among, same, isDue⟩ := (mem_duesOf _ _ _ _).mp member
  obtain ⟨stored, candidate⟩ := (mem_candidates store row).mp among
  obtain ⟨tier, _, _, above, _, equal⟩ := (mem_tiersDueFor _ _ _ _).mp isDue
  simp only [Bool.not_eq_true', List.any_eq_false, decide_eq_true_eq]
  intro event old key
  have incident := congrArg Prod.fst key
  have cycle := congrArg (fun key : Id × Nat × Nat => key.2.1) key
  have level := congrArg (fun key : Id × Nat × Nat => key.2.2) key
  simp only [EscalationEvent.key, dueKey, same, equal] at incident cycle level
  -- an event at the due level would contradict the counter
  have bound := agree row stored candidate event old incident cycle
  rw [level] at bound
  exact absurd above (Nat.not_lt.mpr bound)

theorem runEscalationJob_specified (config : JobConfig) (keyed : store.UniqueIds)
    (tiers : DistinctActive store) (agree : CountersAgree store) (fresh : FreshIds env store)
    (free : leaseFree store.jobLease env.now = true) (fuel : Nat)
    (enough : (candidates store).length < fuel) :
    runEscalationJob config env fuel store = some (⟨.completed,
      ⟨(candidates store).length, (allDue store env.now).length,
        notificationCount (currentRecipients store) env (allDue store env.now)⟩⟩,
      specified env store) := by
  have run := runEscalationJob_eq config keyed tiers fresh free fuel enough
  simp only [missingDue_eq_allDue agree] at run
  rw [run]
  have rows : store.incidents.map (bumpAll env (allDue store env.now)) =
      store.incidents.map (specifiedRow env store) :=
    List.map_congr_left fun row member => bumpAll_eq_specifiedRow keyed tiers row member
  simp only [escalated, specified, rows]

theorem foldl_max_bounds (levels : List Nat) (start : Nat) :
    start ≤ levels.foldl max start ∧ ∀ level ∈ levels, level ≤ levels.foldl max start := by
  induction levels generalizing start with
  | nil => simp
  | cons first rest ih =>
    obtain ⟨base, all⟩ := ih (max start first)
    simp only [List.foldl_cons, List.mem_cons, forall_eq_or_imp]
    exact ⟨by omega, by omega, all⟩

variable (env store) in
theorem specifiedRow_same (row : Incident) : SameButBump row (specifiedRow env store row) := by
  unfold specifiedRow
  split
  · exact ⟨rfl, rfl, rfl, rfl, rfl, rfl, rfl, (foldl_max_bounds _ _).1⟩
  · exact ⟨rfl, rfl, rfl, rfl, rfl, rfl, rfl, Nat.le_refl _⟩

/-- The counter of a candidate ends at the largest of its old value and the due levels. -/
theorem specifiedRow_level (row : Incident) (candidate : isCandidate row = true) :
    (specifiedRow env store row).currentEscalationLevel =
      (dueLevels store env.now row).foldl max row.currentEscalationLevel := by
  unfold specifiedRow
  cases last : (dueLevels store env.now row).getLast? with
  | none =>
    rw [List.getLast?_eq_none_iff.mp last]
    split <;> simp_all
  | some top => simp [candidate]

theorem specified_tiers : activeTiers (specified env store) = activeTiers store := rfl

/-- At the instant of the run nothing is due any more. -/
theorem allDue_specified : allDue (specified env store) env.now = [] := by
  rw [List.eq_nil_iff_forall_not_mem]
  intro due member
  obtain ⟨after, among, _, isDue⟩ := (mem_duesOf _ _ _ _).mp member
  obtain ⟨stored, candidate⟩ := (mem_candidates _ after).mp among
  obtain ⟨row, old, rfl⟩ := List.mem_map.mp stored
  have same := specifiedRow_same env store row
  rw [same.isCandidate] at candidate
  obtain ⟨tier, active, severity, above, elapsed, _⟩ := (mem_tiersDueFor _ _ _ _).mp isDue
  rw [specified_tiers] at active
  simp only [Incident.batchRow, BatchRow.candidate, same.severity, same.clock] at severity elapsed
  simp only [Incident.batchRow, BatchRow.candidate, specifiedRow_level row candidate] at above
  have bounds := foldl_max_bounds (dueLevels store env.now row) row.currentEscalationLevel
  -- a level above the new counter was due before, so the counter has reached it
  have isOld : tier.level ∈ dueLevels store env.now row := by
    refine List.mem_map.mpr ⟨⟨tier.level, tier.thresholdMinutes⟩, ?_, rfl⟩
    refine (mem_tiersDueFor _ _ _ _).mpr ⟨tier, active, severity, ?_, elapsed, rfl⟩
    exact Nat.lt_of_le_of_lt bounds.1 above
  exact absurd (bounds.2 tier.level isOld) (Nat.not_le.mpr above)

theorem isCandidate_specified (row : Incident) :
    isCandidate (specifiedRow env store row) = isCandidate row :=
  (specifiedRow_same env store row).isCandidate

theorem candidates_specified_length :
    (candidates (specified env store)).length = (candidates store).length := by
  simp only [candidates, remaining, Keyset.length_sortOn, specified, List.filter_map,
    List.length_map]
  congr 1
  apply List.filter_congr
  intro row _
  simp [isCandidate_specified, afterCursor]

variable (env) in
theorem specified_ids (keyed : store.UniqueIds) : (specified env store).UniqueIds where
  users := keyed.users
  incidents := by
    have kept : (specified env store).incidents.map Incident.id =
        store.incidents.map Incident.id := by
      simp only [specified, List.map_map]
      exact List.map_congr_left fun row _ => (specifiedRow_same env store row).id
    rw [kept]
    exact keyed.incidents

/-- A second run at the same instant scans the same candidates and escalates nothing. -/
theorem runEscalationJob_again (config : JobConfig) (keyed : store.UniqueIds)
    (tiers : DistinctActive store) (again : RunEnv) (instant : again.now = env.now)
    (fresh : ∀ run ∈ (specified env store).jobRuns, run.id ≠ again.jobRunId) (fuel : Nat)
    (enough : (candidates store).length < fuel) :
    runEscalationJob config again fuel (specified env store) =
      some (⟨.completed, ⟨(candidates store).length, 0, 0⟩⟩,
        { specified env store with
          jobRuns := (specified env store).jobRuns ++
            [completedRun again ⟨(candidates store).length, 0, 0⟩] }) := by
  have nothing : allDue (specified env store) again.now = [] := instant ▸ allDue_specified
  have freshIds : FreshIds again (specified env store) :=
    ⟨by simp [nothing], by simp [nothing], by simp [nothing], fresh⟩
  -- nothing is due, so the closed form escalates nothing
  have none : missingDue (specified env store) again.now = [] := by
    rw [missingDue, nothing]
    rfl
  have run := runEscalationJob_eq config (specified_ids env keyed) tiers
    freshIds rfl fuel (by rw [candidates_specified_length]; exact enough)
  simp only [none, candidates_specified_length, notificationCount, List.flatMap_nil,
    List.length_nil, escalated_nil] at run
  exact run

/-- An undisturbed run ends, with any batch size, in the store of the specification, and running
again at the same instant adds no event, notification or audit row. -/
theorem undisturbed_run_meets_specification (config other : JobConfig) (env : RunEnv)
    (store : Store) (keyed : store.UniqueIds) (tiers : DistinctTiers store)
    (agree : CountersAgree store) (fresh : FreshIds env store)
    (free : leaseFree store.jobLease env.now = true) (fuel : Nat)
    (enough : (candidates store).length < fuel) :
    runEscalationJob config env fuel store = some (⟨.completed,
      ⟨(candidates store).length, (allDue store env.now).length,
        notificationCount (currentRecipients store) env (allDue store env.now)⟩⟩,
      specified env store) ∧
    ∀ again : RunEnv, again.now = env.now →
      (∀ run ∈ (specified env store).jobRuns, run.id ≠ again.jobRunId) →
      ∃ final, runEscalationJob other again fuel (specified env store) =
          some (⟨.completed, ⟨(candidates store).length, 0, 0⟩⟩, final) ∧
        final.escalationEvents = (specified env store).escalationEvents ∧
        final.notificationLog = (specified env store).notificationLog ∧
        final.auditEvents = (specified env store).auditEvents := by
  refine ⟨runEscalationJob_specified config keyed tiers.active agree fresh free fuel enough, ?_⟩
  intro again instant unused
  exact ⟨_, runEscalationJob_again other keyed tiers.active again instant unused fuel enough,
    rfl, rfl, rfl⟩

end Agreement

/-! ### A concrete store -/

def sampleManager : User :=
  ⟨"manager", "manager@example.com", "Manager", .triageManager, 4, true, 0⟩

def sampleIncident (id : Id) (severity : Severity) : Incident :=
  { id := id, reference := "INC-2026-000001", type := .safety, severity := severity
    stage := .reported, title := "Leak", description := "Leak in the boiler room"
    imagePath := none, noImageReason := none, reporterId := "manager"
    assignedInvestigatorId := none, acknowledgedById := none, acknowledgedAt := none
    highSeveritySince := some 0, escalationCycle := 1, currentEscalationLevel := 0
    lastEscalatedAt := none, rootCause := none, correctiveAction := none
    closureProposedById := none, closureProposedAt := none, closedById := none, closedAt := none
    version := 0, createdAt := 0, updatedAt := 0 }

def sampleStore : Store where
  users := [sampleManager]
  incidents := [sampleIncident "b" .high, sampleIncident "a" .critical]
  notes := []
  auditEvents := []
  escalationTiers := [⟨⟨.high, 1, 30⟩, true, none⟩, ⟨⟨.high, 2, 90⟩, true, none⟩,
    ⟨⟨.critical, 1, 15⟩, true, none⟩]
  escalationEvents := []
  notificationLog := []
  jobRuns := []
  jobLease := ⟨none, none⟩
  incidentReferenceSeq := 2

def sampleConfig : JobConfig := ⟨1, 300000, by decide, by decide⟩

def sampleEnv (run : Id) (now : Date) : RunEnv where
  jobRunId := run
  runId := run
  now := now
  startedAt := now
  finishedAt := now
  ids :=
    { event := fun id level => run ++ id ++ toString level
      notification := fun id level recipient => run ++ id ++ toString level ++ recipient
      audit := fun id level => run ++ id ++ toString level
      wall := fun _ _ => now }

/-- Two batches of one candidate each escalate both levels of one and the level of the other. -/
theorem undisturbed_run_meets_specification_sample :
    (runEscalationJob sampleConfig (sampleEnv "r" 5400000) 3 sampleStore).isSome = true ∧
    ((specified (sampleEnv "r" 5400000) sampleStore).escalationEvents.map (·.key)) =
      [("a", 1, 1), ("b", 1, 1), ("b", 1, 2)] ∧
    ∃ final, runEscalationJob sampleConfig (sampleEnv "s" 5400000) 3
        (specified (sampleEnv "r" 5400000) sampleStore) =
          some (⟨.completed, ⟨2, 0, 0⟩⟩, final) ∧
      final.escalationEvents.length = 3 := by
  have agree : CountersAgree sampleStore := by
    intro row _ _ event member
    simp [sampleStore] at member
  have run := undisturbed_run_meets_specification sampleConfig sampleConfig
    (sampleEnv "r" 5400000) sampleStore ⟨by decide, by decide⟩ (by decide) agree
    ⟨by decide, by decide, by decide, by decide⟩ (by decide) 3 (by decide)
  obtain ⟨final, again, events, _⟩ := run.2 (sampleEnv "s" 5400000) rfl (by decide)
  exact ⟨by rw [run.1]; rfl, by decide, final, again, by rw [events]; decide⟩

/-- The largest due level in the counter and every other column as it was. -/
def counterOnly (env : RunEnv) (store : Store) (row : Incident) : Incident :=
  if isCandidate row then
    { row with
      currentEscalationLevel := (dueLevels store env.now row).foldl max row.currentEscalationLevel }
  else row

/-- The run stamps `lastEscalatedAt` as well, so more than the counter of a candidate changes. -/
theorem undisturbed_run_stamps_candidates :
    sampleStore.UniqueIds ∧ DistinctTiers sampleStore ∧ CountersAgree sampleStore ∧
    FreshIds (sampleEnv "r" 5400000) sampleStore ∧ leaseFree sampleStore.jobLease 5400000 = true ∧
    ∃ result final, runEscalationJob sampleConfig (sampleEnv "r" 5400000) 3 sampleStore =
        some (result, final) ∧
      final.incidents ≠ sampleStore.incidents.map
        (counterOnly (sampleEnv "r" 5400000) sampleStore) := by
  refine ⟨⟨by decide, by decide⟩, by decide, ?_, ⟨by decide, by decide, by decide, by decide⟩,
    by decide, _, _, rfl, ?_⟩
  · intro row _ _ event member
    simp [sampleStore] at member
  · decide

end IncidentApi.Properties
