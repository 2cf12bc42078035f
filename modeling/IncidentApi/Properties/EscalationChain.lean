import IncidentApi.Timeline
import IncidentApi.Properties.Schedules

/-!
# The escalation steps of one cycle

An audit row of the job takes its `fromValue` from the candidate, which the batch read once. So the
rows of a cycle climb from level to level exactly when no run found two tiers due for the incident.
-/
namespace IncidentApi.Properties

/-! ### Climbing through levels -/

/-- The steps from one level to the next. -/
def rungs (held : Nat) : List Nat → List (Nat × Nat)
  | [] => []
  | level :: rest => (held, level) :: rungs level rest

theorem rungs_concat (held : Nat) (levels : List Nat) (level : Nat) :
    rungs held (levels ++ [level]) = rungs held levels ++ [(levels.getLastD held, level)] := by
  induction levels generalizing held with
  | nil => rfl
  | cons first rest ih => simp [rungs, ih, List.getLast?_cons]

theorem mem_rungs_left (held : Nat) (levels : List Nat) :
    ∀ rung ∈ rungs held levels, rung.1 ∈ held :: levels := by
  induction levels generalizing held with
  | nil => simp [rungs]
  | cons first rest ih =>
    intro rung member
    rcases List.mem_cons.mp member with rfl | later
    · exact List.mem_cons_self
    · exact List.mem_cons_of_mem _ (ih first rung later)

theorem mem_rungs_right (held : Nat) (levels : List Nat) :
    ∀ rung ∈ rungs held levels, rung.2 ∈ levels := by
  induction levels generalizing held with
  | nil => simp [rungs]
  | cons first rest ih =>
    intro rung member
    rcases List.mem_cons.mp member with rfl | later
    · exact List.mem_cons_self
    · exact List.mem_cons_of_mem _ (ih first rung later)

/-- Each level is left at most once on the way up. -/
theorem rungs_left_nodup (held : Nat) (levels : List Nat)
    (ascending : (held :: levels).Pairwise (· < ·)) :
    ((rungs held levels).map Prod.fst).Nodup := by
  induction levels generalizing held with
  | nil => exact List.nodup_nil
  | cons first rest ih =>
    obtain ⟨above, ascending⟩ := List.pairwise_cons.mp ascending
    refine List.nodup_cons.mpr ⟨fun again => ?_, ih first ascending⟩
    obtain ⟨rung, member, equal⟩ := List.mem_map.mp again
    have higher := above rung.1 (mem_rungs_left first rest rung member)
    omega

/-- The last level is the highest one. -/
theorem le_getLastD (held : Nat) (levels : List Nat)
    (ascending : (held :: levels).Pairwise (· < ·)) :
    ∀ level ∈ held :: levels, level ≤ levels.getLastD held := by
  induction levels generalizing held with
  | nil => simp
  | cons first rest ih =>
    obtain ⟨above, ascending⟩ := List.pairwise_cons.mp ascending
    have highest := ih first ascending
    intro level member
    rw [List.getLastD_cons]
    rcases List.mem_cons.mp member with rfl | later
    · have base := highest first List.mem_cons_self
      have higher := above first List.mem_cons_self
      omega
    · exact highest level later

/-- The digits of a number read back as the number. -/
theorem toString_injective : Function.Injective (toString : Nat → String) := by
  intro first second same
  rw [Nat.toString_eq_ofList_toDigits, Nat.toString_eq_ofList_toDigits] at same
  have digits := congrArg (fun text => Nat.ofDigitChars 10 (String.toList text) 0) same
  simpa only [String.toList_ofList, Nat.ofDigitChars_ten_toDigits] using digits

/-- The documented `Number` of the digits of these levels. They come from columns of 32 bits; only
beyond 2 ^ 53 would it round. -/
def ReadsDigits (js : JsRuntime) (levels : List Nat) : Prop :=
  ∀ level ∈ levels, js.number (.str (toString level)) = .num level

/-! ### The rows of a cycle -/

/-- The cycle in the payload of an escalation row. -/
def rowCycle (row : AuditEvent) : Option Int :=
  match payloadField row.payload "cycle" with
  | some (.num cycle) => some cycle
  | _ => none

/-- The `INCIDENT_ESCALATED` rows of one incident and one cycle. -/
def levelRows (store : Store) (id : Id) (cycle : Nat) : List AuditEvent :=
  store.auditEvents.filter fun row =>
    row.type = .incidentEscalated && row.incidentId = some id && rowCycle row = some (cycle : Int)

/-- In ascending `toValue` the rows are the steps from level 0 through these levels. -/
structure Climbs (store : Store) (id : Id) (cycle : Nat) (levels : List Nat) : Prop where
  ascending : (0 :: levels).Pairwise (· < ·)
  rows : ((levelRows store id cycle).map fun row => (row.fromValue, row.toValue)).Perm
    ((rungs 0 levels).map fun rung => (some (toString rung.1), some (toString rung.2)))

/-- The rows climb to the counter of the incident, while the cycle is its current one. -/
structure ClimbedTo (store : Store) (id : Id) (cycle : Nat) (levels : List Nat) : Prop
    extends Climbs store id cycle levels where
  counter : ∀ row ∈ store.incidents, row.id = id → row.escalationCycle = cycle →
    row.currentEscalationLevel = levels.getLastD 0

/-- The counters agree with the events, and with the steps the audit trail shows. -/
structure HistoryAgrees (store : Store) : Prop where
  counters : CountersAgree store
  climbed : ∀ id cycle, ∃ levels, ClimbedTo store id cycle levels

/-- The tiers that a run finds due for one incident in one cycle. -/
def dueSteps (store : Store) (now : Date) (id : Id) (cycle : Nat) : List Due :=
  (allDue store now).filter fun due =>
    due.candidate.id = id && due.candidate.escalationCycle = cycle

/-- Every run of the schedule finds at most one tier due for the incident in the cycle. -/
def OneTierAtATime (config : JobConfig) (fuel : Nat) (id : Id) (cycle : Nat) :
    List RunEnv → Store → Prop
  | [], _ => True
  | env :: rest, store => (dueSteps store env.now id cycle).length ≤ 1 ∧
    ∀ outcome, runEscalationJob config env fuel store = some outcome →
      OneTierAtATime config fuel id cycle rest outcome.2

section Step
variable {env : RunEnv} {store : Store} {id : Id} {cycle : Nat}

theorem mem_dueSteps {now : Date} (due : Due) :
    due ∈ dueSteps store now id cycle ↔ due ∈ allDue store now ∧ due.candidate.id = id ∧
      due.candidate.escalationCycle = cycle := by
  simp [dueSteps]

/-- A run appends one row for each of its steps. -/
theorem levelRows_specified (env : RunEnv) (store : Store) (id : Id) (cycle : Nat) :
    levelRows (specified env store) id cycle =
      levelRows store id cycle ++ (dueSteps store env.now id cycle).map (newAudit env) := by
  have chosen : ∀ due, (decide ((newAudit env due).type = .incidentEscalated) &&
      decide ((newAudit env due).incidentId = some id) &&
      decide (rowCycle (newAudit env due) = some (cycle : Int))) =
        (decide (due.candidate.id = id) && decide (due.candidate.escalationCycle = cycle)) := by
    intro due
    have cycles : rowCycle (newAudit env due) = some (due.candidate.escalationCycle : Int) := rfl
    simp only [cycles, Option.some.injEq, Int.natCast_inj]
    simp only [newAudit, escalatedRecord, CreateAuditEventInput.row, Option.some.injEq,
      decide_true, Bool.true_and]
  simp only [levelRows, dueSteps, specified, List.filter_append, List.filter_map, Function.comp_def,
    chosen]

/-- The row behind the steps of an incident, and what the run makes of its counter. -/
theorem mem_dueSteps_row {now : Date} {due : Due} (step : due ∈ dueSteps store now id cycle) :
    ∃ row ∈ store.incidents, row.id = id ∧ row.escalationCycle = cycle ∧
      isCandidate row = true ∧ due.candidate = row.batchRow.candidate ∧
      due.tier.level ∈ dueLevels store now row := by
  obtain ⟨isDue, own, same⟩ := (mem_dueSteps due).mp step
  obtain ⟨row, stored, candidate, equal, tier⟩ := (mem_allDue now due).mp isDue
  rw [equal] at own same
  exact ⟨row, stored, own, same, candidate, equal, List.mem_map.mpr ⟨_, tier, rfl⟩⟩

theorem exists_dueSteps {now : Date} {row : Incident} (stored : row ∈ store.incidents)
    (candidate : isCandidate row = true) {level : Nat} (isDue : level ∈ dueLevels store now row) :
    ∃ due ∈ dueSteps store now row.id row.escalationCycle, due.tier.level = level := by
  obtain ⟨tier, found, rfl⟩ := List.mem_map.mp isDue
  exact ⟨⟨row.batchRow.candidate, tier⟩,
    (mem_dueSteps _).mpr ⟨(mem_allDue now _).mpr ⟨row, stored, candidate, rfl, found⟩, rfl, rfl⟩,
    rfl⟩

theorem specifiedRow_id_cycle (env : RunEnv) (store : Store) (row : Incident) :
    (specifiedRow env store row).id = row.id ∧
      (specifiedRow env store row).escalationCycle = row.escalationCycle :=
  ⟨(specifiedRow_same env store row).id, (specifiedRow_same env store row).cycle⟩

/-- Without a step the counter stays. -/
theorem specifiedRow_unmoved {row : Incident} (stored : row ∈ store.incidents)
    (none : dueSteps store env.now row.id row.escalationCycle = []) :
    (specifiedRow env store row).currentEscalationLevel = row.currentEscalationLevel := by
  by_cases candidate : isCandidate row = true
  · have nothing : dueLevels store env.now row = [] := by
      rw [List.eq_nil_iff_forall_not_mem]
      intro level isDue
      obtain ⟨due, step, _⟩ := exists_dueSteps stored candidate isDue
      rw [none] at step
      exact List.not_mem_nil step
    rw [specifiedRow_level row candidate, nothing]
    rfl
  · simp [specifiedRow, candidate]

/-- With one step the counter moves to the level of the step. -/
theorem specifiedRow_moved {row : Incident} (stored : row ∈ store.incidents) {due : Due}
    (one : dueSteps store env.now row.id row.escalationCycle = [due])
    (candidate : isCandidate row = true) (isDue : due.tier.level ∈ dueLevels store env.now row) :
    (specifiedRow env store row).currentEscalationLevel = due.tier.level := by
  rw [specifiedRow_level row candidate]
  obtain ⟨_, below, top⟩ := isTop_foldl row.currentEscalationLevel (dueLevels store env.now row)
  obtain ⟨tier, _, _, above, _, equal⟩ := (mem_dueLevels _ _ _ _).mp isDue
  rcases top with unmoved | reached
  -- the level of the step is above the counter
  · have bound := below due.tier.level isDue
    omega
  · obtain ⟨other, step, level⟩ := exists_dueSteps stored candidate reached
    rw [one, List.mem_singleton] at step
    rw [← level, step]

/-- A run that finds at most one tier due climbs on from the counter. -/
theorem ClimbedTo.step (keyed : store.UniqueIds) {levels : List Nat}
    (climbed : ClimbedTo store id cycle levels)
    (single : (dueSteps store env.now id cycle).length ≤ 1) :
    ∃ onward, ClimbedTo (specified env store) id cycle onward := by
  have rows := levelRows_specified env store id cycle
  cases steps : dueSteps store env.now id cycle with
  | nil =>
    rw [steps, List.map_nil, List.append_nil] at rows
    refine ⟨levels, ⟨climbed.ascending, rows ▸ climbed.rows⟩, ?_⟩
    intro moved stored own same
    obtain ⟨row, old, rfl⟩ := List.mem_map.mp stored
    obtain ⟨rowId, rowCycle⟩ := specifiedRow_id_cycle env store row
    obtain rfl := rowId.symm.trans own
    obtain rfl := rowCycle.symm.trans same
    rw [specifiedRow_unmoved old steps]
    exact climbed.counter row old rfl rfl
  | cons due rest =>
    obtain rfl : rest = [] := by
      rw [steps, List.length_cons] at single
      exact List.length_eq_zero_iff.mp (by omega)
    obtain ⟨row, old, rfl, rfl, candidate, equal, isDue⟩ :=
      mem_dueSteps_row (steps ▸ List.mem_cons_self : due ∈ dueSteps store env.now id cycle)
    obtain ⟨_, _, _, above, _, level⟩ := (mem_dueLevels _ _ _ _).mp isDue
    rw [level, climbed.counter row old rfl rfl] at above
    refine ⟨levels ++ [due.tier.level], ⟨?_, ?_⟩, ?_⟩
    · rw [← List.cons_append, List.pairwise_append]
      refine ⟨climbed.ascending, List.pairwise_singleton _ _, fun lower among upper last => ?_⟩
      rw [List.mem_singleton.mp last]
      exact Nat.lt_of_le_of_lt (le_getLastD 0 levels climbed.ascending lower among) above
    · rw [rows, steps, rungs_concat, List.map_append, List.map_append]
      refine climbed.rows.append (List.Perm.of_eq ?_)
      -- the candidate carries the counter, which is the last level of the climb
      simp only [newAudit, escalatedRecord, CreateAuditEventInput.row, equal, BatchRow.candidate,
        Incident.batchRow, climbed.counter row old rfl rfl, List.map_cons, List.map_nil]
    · intro moved stored own same
      obtain ⟨other, present, rfl⟩ := List.mem_map.mp stored
      have one := eq_of_id_eq keyed.incidents present old
        ((specifiedRow_id_cycle env store other).1.symm.trans own)
      rw [one, specifiedRow_moved old steps candidate isDue, List.getLastD_concat]

/-- Two rows that leave the same level fit into no climb. -/
theorem Climbs.left_once {levels : List Nat} (climbs : Climbs store id cycle levels) :
    ((levelRows store id cycle).map (·.fromValue)).Nodup := by
  have left := (climbs.rows.map Prod.fst).nodup_iff
  rw [List.map_map, List.map_map] at left
  have printed : (rungs 0 levels).map (Prod.fst ∘ fun rung : Nat × Nat =>
      (some (toString rung.1), some (toString rung.2))) =
        ((rungs 0 levels).map Prod.fst).map fun level => some (toString level) := by
    rw [List.map_map]
    rfl
  refine left.mpr (printed ▸ (rungs_left_nodup 0 levels climbs.ascending).map ?_)
  exact fun first second same => toString_injective (Option.some.inj same)

/-- A run that finds two tiers due writes two rows that leave the same level. -/
theorem not_climbs_of_two (keyed : store.UniqueIds)
    (double : ¬ (dueSteps store env.now id cycle).length ≤ 1) {final : Store}
    (kept : (specified env store).auditEvents <+: final.auditEvents) (levels : List Nat) :
    ¬ Climbs final id cycle levels := by
  intro climbs
  obtain ⟨more, appended⟩ := kept
  -- the rows of the run are among those of the final store
  have among : ((dueSteps store env.now id cycle).map (newAudit env)).Sublist
      (levelRows final id cycle) := by
    have rows : levelRows final id cycle = levelRows (specified env store) id cycle ++
        levelRows { final with auditEvents := more } id cycle := by
      simp only [levelRows, ← appended, List.filter_append]
    rw [rows, levelRows_specified]
    exact (List.sublist_append_right _ _).trans (List.sublist_append_left _ _)
  have left := climbs.left_once.sublist (among.map (·.fromValue))
  match steps : dueSteps store env.now id cycle with
  | [] => simp [steps] at double
  | [_] => simp [steps] at double
  | first :: second :: rest =>
    have one := (mem_dueSteps first).mp (steps ▸ List.mem_cons_self)
    have two := (mem_dueSteps second).mp (steps ▸ List.mem_cons_of_mem _ List.mem_cons_self)
    have same := candidate_unique keyed one.1 two.1 (one.2.1.trans two.2.1.symm)
    rw [steps] at left
    simp [newAudit, escalatedRecord, CreateAuditEventInput.row, same] at left

/-- The timeline shows the two levels of a row's step. -/
theorem Climbs.shown {js : JsRuntime} {levels : List Nat} (climbs : Climbs store id cycle levels)
    (digits : ReadsDigits js (0 :: levels)) (row : AuditEvent)
    (member : row ∈ levelRows store id cycle) (reads : Bool) (refs : List UserRef) :
    ∃ rung ∈ rungs 0 levels, toTimelineEvent js (joinActor store row) reads refs =
      .ok (.incidentEscalated ⟨row.id, row.occurredAt, userRef store row.actorId⟩
        (.num rung.1) (.num rung.2) (.num cycle)) := by
  have step := climbs.rows.mem_iff.mp (List.mem_map.mpr ⟨row, member, rfl⟩)
  obtain ⟨rung, among, equal⟩ := List.mem_map.mp step
  obtain ⟨source, target⟩ := Prod.mk.inj equal
  simp only [levelRows, List.mem_filter, Bool.and_eq_true, decide_eq_true_eq] at member
  obtain ⟨_, ⟨kind, _⟩, own⟩ := member
  have cycles : payloadField row.payload "cycle" = some (.num cycle) := by
    unfold rowCycle at own
    split at own
    next held => rw [held, Option.some.inj own]
    · cases own
  have left := digits rung.1 (mem_rungs_left 0 levels rung among)
  have reached := digits rung.2 (List.mem_cons_of_mem _ (mem_rungs_right 0 levels rung among))
  refine ⟨rung, among, ?_⟩
  simp only [toTimelineEvent, joinActor, kind, ← source, ← target, cycles, Option.map_some,
    coalesce, left, reached]

end Step

/-! ### Whole schedules -/

section Schedule
variable {config : JobConfig} {fuel : Nat} {start : Store}

theorem runSchedule_keeps_rows (keyed : start.UniqueIds) (formed : WellFormed (activeTiers start))
    (agree : CountersAgree start) (enough : (candidates start).length < fuel)
    (envs : List RunEnv) (store : Store) (instant : Option Date)
    (scheduled : Scheduled config fuel start instant envs store) (final : Store)
    (ran : runSchedule config fuel envs store = some final) :
    store.auditEvents <+: final.auditEvents := by
  induction envs generalizing store instant with
  | nil => exact Option.some.inj ran ▸ List.prefix_refl _
  | cons env rest ih =>
    obtain ⟨result, run, next⟩ := scheduled.step keyed formed agree enough
    simp only [runSchedule, run, Option.bind_some] at ran
    exact (List.prefix_append _ _).trans (ih (specified env store) (some env.now) next ran)

/-- From a store whose rows climb to the counter, the rows still climb after a schedule exactly when
none of its runs found two tiers due. -/
theorem climbs_iff_oneTierAtATime (keyed : start.UniqueIds)
    (formed : WellFormed (activeTiers start)) (agree : CountersAgree start)
    (enough : (candidates start).length < fuel) (envs : List RunEnv) (store : Store)
    (instant : Option Date) (scheduled : Scheduled config fuel start instant envs store)
    (final : Store) (ran : runSchedule config fuel envs store = some final) (id : Id) (cycle : Nat)
    (levels : List Nat) (climbed : ClimbedTo store id cycle levels) :
    (∃ levels, Climbs final id cycle levels) ↔ OneTierAtATime config fuel id cycle envs store := by
  induction envs generalizing store instant levels with
  | nil =>
    obtain rfl := Option.some.inj ran
    exact iff_of_true ⟨levels, climbed.toClimbs⟩ trivial
  | cons env rest ih =>
    obtain ⟨result, run, next⟩ := scheduled.step keyed formed agree enough
    simp only [runSchedule, run, Option.bind_some] at ran
    have stored := scheduled.caught.uniqueIds keyed
    by_cases single : (dueSteps store env.now id cycle).length ≤ 1
    · obtain ⟨onward, climbed⟩ := climbed.step stored single
      rw [ih (specified env store) (some env.now) next ran onward climbed]
      constructor
      · intro later
        refine ⟨single, fun outcome same => ?_⟩
        rw [run, Option.some.injEq] at same
        exact same ▸ later
      · exact fun all => all.2 _ run
    -- the two rows of this run stay in the trail
    · have kept := runSchedule_keeps_rows keyed formed agree enough rest _ _ next final ran
      refine iff_of_false ?_ fun all => single all.1
      rintro ⟨levels, climbs⟩
      exact not_climbs_of_two stored single kept levels climbs

end Schedule

/-- After undisturbed runs at nondecreasing instants the escalation rows of an incident and a cycle
climb from level 0 without a gap exactly when no run found two tiers due for it, and then the
timeline shows the steps of that climb. -/
theorem escalation_steps_climb_iff (config : JobConfig) (fuel : Nat) (start : Store)
    (keyed : start.UniqueIds) (accepted : HoldsAccepted start) (history : HistoryAgrees start)
    (enough : (candidates start).length < fuel) (envs : List RunEnv)
    (ordered : envs.Pairwise fun a b => a.now ≤ b.now)
    (free : ∀ env ∈ envs, leaseFree start.jobLease env.now = true)
    (fresh : FreshSchedule config fuel envs start) :
    ∃ final, runSchedule config fuel envs start = some final ∧ ∀ id cycle,
      ((∃ levels, Climbs final id cycle levels) ↔
        OneTierAtATime config fuel id cycle envs start) ∧
      ∀ (js : JsRuntime) levels, Climbs final id cycle levels → ReadsDigits js (0 :: levels) →
        ∀ row ∈ levelRows final id cycle, ∀ reads refs, ∃ rung ∈ rungs 0 levels,
          toTimelineEvent js (joinActor final row) reads refs =
            .ok (.incidentEscalated ⟨row.id, row.occurredAt, userRef final row.actorId⟩
              (.num rung.1) (.num rung.2) (.num cycle)) := by
  have formed := accepted.wellFormed
  have scheduled : Scheduled config fuel start none envs start :=
    ⟨caughtUp_start start, ordered, fun _ _ _ impossible => by simp at impossible, free, fresh⟩
  obtain ⟨final, ran, _⟩ :=
    runSchedule_caughtUp keyed formed history.counters enough envs start none scheduled
  refine ⟨final, ran, fun id cycle => ⟨?_, ?_⟩⟩
  · obtain ⟨levels, climbed⟩ := history.climbed id cycle
    exact climbs_iff_oneTierAtATime keyed formed history.counters enough envs start none scheduled
      final ran id cycle levels climbed
  · intro js levels climbs digits row member reads refs
    exact climbs.shown digits row member reads refs

/-- `Number` on a text of digits. -/
def digitRuntime : JsRuntime where
  encode _ := ""
  decode _ := none
  newDate _ := none
  toISOString _ := ""
  number json := match json with
    | .str text => .num (Nat.ofDigitChars 10 text.toList 0)
    | other => other

theorem digitRuntime_number (n : Nat) : digitRuntime.number (.str (toString n)) = .num n := by
  simp only [digitRuntime, Nat.toString_eq_ofList_toDigits, String.toList_ofList,
    Nat.ofDigitChars_ten_toDigits]

theorem sample_history : HistoryAgrees sampleStore := by
  refine ⟨sample_agree, fun id cycle => ⟨[], ⟨by simp, ?_⟩, ?_⟩⟩
  · exact List.Perm.nil
  · intro row stored _ _
    have level : ∀ row ∈ sampleStore.incidents, row.currentEscalationLevel = 0 := by decide
    exact level row stored

/-- One run for each of the two tiers: the second step starts where the first one ended. -/
theorem escalation_steps_climb_iff_sample :
    ∃ final, runSchedule sampleConfig 3 [sampleEnv "r" 1800000, sampleEnv "s" 5400000] sampleStore =
        some final ∧
      ∃ levels, Climbs final "b" 1 levels ∧ ∀ row ∈ levelRows final "b" 1, ∃ rung ∈ rungs 0 levels,
        toTimelineEvent digitRuntime (joinActor final row) true [] =
          .ok (.incidentEscalated ⟨row.id, row.occurredAt, userRef final row.actorId⟩
            (.num rung.1) (.num rung.2) (.num 1)) := by
  have fresh : FreshSchedule sampleConfig 3 [sampleEnv "r" 1800000, sampleEnv "s" 5400000]
      sampleStore := by
    refine ⟨⟨by decide, by decide, by decide, by decide⟩, fun outcome ran => ?_⟩
    obtain rfl := Option.some.inj ran
    exact ⟨⟨by decide, by decide, by decide, by decide⟩, fun _ _ => trivial⟩
  have single : OneTierAtATime sampleConfig 3 "b" 1
      [sampleEnv "r" 1800000, sampleEnv "s" 5400000] sampleStore := by
    refine ⟨by decide, fun outcome ran => ?_⟩
    obtain rfl := Option.some.inj ran
    exact ⟨by decide, fun _ _ => trivial⟩
  obtain ⟨final, ran, settled⟩ := escalation_steps_climb_iff sampleConfig 3 sampleStore
    ⟨by decide, by decide⟩ sample_accepted sample_history (by decide)
    [sampleEnv "r" 1800000, sampleEnv "s" 5400000] (by decide) (by decide) fresh
  obtain ⟨climbs, shown⟩ := settled "b" 1
  obtain ⟨levels, climb⟩ := climbs.mpr single
  exact ⟨final, ran, levels, climb, fun row member =>
    shown digitRuntime levels climb (fun level _ => digitRuntime_number level) row member true []⟩

/-- One late run finds both tiers due and leaves level 0 twice. -/
theorem escalation_steps_leave_a_level_twice :
    ¬ ∀ (config : JobConfig) (fuel : Nat) (start : Store), start.UniqueIds → HoldsAccepted start →
      HistoryAgrees start → (candidates start).length < fuel → ∀ envs : List RunEnv,
      envs.Pairwise (fun a b => a.now ≤ b.now) →
      (∀ env ∈ envs, leaseFree start.jobLease env.now = true) →
      FreshSchedule config fuel envs start → ∀ final,
      runSchedule config fuel envs start = some final → ∀ id cycle,
      ∃ levels, Climbs final id cycle levels := by
  intro claim
  have fresh : FreshSchedule sampleConfig 3 [sampleEnv "r" 5400000] sampleStore :=
    ⟨⟨by decide, by decide, by decide, by decide⟩, fun _ _ => trivial⟩
  obtain ⟨final, ran⟩ : ∃ final,
      runSchedule sampleConfig 3 [sampleEnv "r" 5400000] sampleStore = some final := ⟨_, rfl⟩
  obtain ⟨levels, climbs⟩ := claim sampleConfig 3 sampleStore ⟨by decide, by decide⟩
    sample_accepted sample_history (by decide) [sampleEnv "r" 5400000] (by decide) (by decide) fresh
    final ran "b" 1
  have rows : (levelRows final "b" 1).map (·.fromValue) = [some "0", some "0"] := by
    obtain rfl := Option.some.inj ran
    decide
  have once := climbs.left_once
  rw [rows] at once
  exact absurd once (by decide)

end IncidentApi.Properties
