import IncidentApi.Properties.Refinement

/-!
# Schedules of runs

How often the job ran does not matter. `CaughtUp` describes a store that undisturbed runs have
brought from `start` up to an instant; one more run at a later instant keeps it, because longer
thresholds belong to higher levels, so no run can move a counter past a level that is not due yet.
-/
namespace IncidentApi.Properties

/-- The levels a row owes at an instant, seen from the store the schedule starts in. -/
def Owed (start : Store) (instant : Option Date) (row : Incident) (level : Nat) : Prop :=
  row ∈ start.incidents ∧ isCandidate row = true ∧
    ∃ now, instant = some now ∧ level ∈ dueLevels start now row

/-- The largest of a starting value and the members of a set. -/
def IsTop (start : Nat) (member : Nat → Prop) (top : Nat) : Prop :=
  start ≤ top ∧ (∀ level, member level → level ≤ top) ∧ (top = start ∨ member top)

theorem IsTop.unique {start : Nat} {member : Nat → Prop} {first second : Nat}
    (left : IsTop start member first) (right : IsTop start member second) : first = second := by
  have one : first ≤ second := by
    rcases left.2.2 with rfl | present
    · exact right.1
    · exact right.2.1 first present
  have two : second ≤ first := by
    rcases right.2.2 with rfl | present
    · exact left.1
    · exact left.2.1 second present
  exact Nat.le_antisymm one two

theorem isTop_foldl (start : Nat) (levels : List Nat) :
    IsTop start (· ∈ levels) (levels.foldl max start) := by
  refine ⟨(foldl_max_bounds levels start).1, (foldl_max_bounds levels start).2, ?_⟩
  induction levels generalizing start with
  | nil => exact Or.inl rfl
  | cons first rest ih =>
    simp only [List.foldl_cons, List.mem_cons]
    rcases ih (max start first) with equal | present
    · rw [equal]
      rcases Nat.le_total start first with below | above
      · exact Or.inr (Or.inl (Nat.max_eq_right below))
      · exact Or.inl (Nat.max_eq_left above)
    · exact Or.inr (Or.inr present)

/-- A notification of the event with a given key to a given recipient. -/
def Notified (store : Store) (key : Id × Nat × Nat) (recipient : Id) : Prop :=
  ∃ event ∈ store.escalationEvents, ∃ row ∈ store.notificationLog,
    event.key = key ∧ row.escalationEventId = event.id ∧ row.recipientId = recipient

def rowKey (row : Incident) (level : Nat) : Id × Nat × Nat :=
  (row.id, row.escalationCycle, level)

structure CaughtUp (start : Store) (instant : Option Date) (store : Store) : Prop where
  users : store.users = start.users
  tiers : store.escalationTiers = start.escalationTiers
  rows : ∃ f, store.incidents = start.incidents.map f ∧ ∀ row ∈ start.incidents,
    SameButBump row (f row) ∧
      IsTop row.currentEscalationLevel (Owed start instant row) (f row).currentEscalationLevel
  events : ∀ key, key ∈ store.escalationEvents.map (·.key) ↔
    key ∈ start.escalationEvents.map (·.key) ∨
      ∃ row level, Owed start instant row level ∧ key = rowKey row level
  notified : ∀ key recipient, Notified store key recipient ↔ Notified start key recipient ∨
    ∃ row level, Owed start instant row level ∧ key = rowKey row level ∧
      recipient ∈ (currentRecipients start).get row.severity

theorem caughtUp_start (start : Store) : CaughtUp start none start where
  users := rfl
  tiers := rfl
  rows := by
    refine ⟨id, (List.map_id _).symm, fun row _ => ⟨?_, Nat.le_refl _, ?_, Or.inl rfl⟩⟩
    · exact ⟨rfl, rfl, rfl, rfl, rfl, rfl, rfl, Nat.le_refl _⟩
    · rintro level ⟨_, _, _, impossible, _⟩
      simp at impossible
  events key := by simp [Owed]
  notified key recipient := by simp [Owed]

/-! ### Due levels over time -/

theorem mem_dueLevels (store : Store) (now : Date) (row : Incident) (level : Nat) :
    level ∈ dueLevels store now row ↔ ∃ tier ∈ activeTiers store, tier.severity = row.severity ∧
      row.currentEscalationLevel < tier.level ∧
      hasElapsed (row.highSeveritySince.getD 0) now tier.thresholdMinutes = true ∧
      tier.level = level := by
  simp only [dueLevels, List.mem_map, mem_tiersDueFor]
  constructor
  · rintro ⟨_, ⟨tier, active, severity, above, elapsed, rfl⟩, rfl⟩
    exact ⟨tier, active, severity, above, elapsed, rfl⟩
  · rintro ⟨tier, active, severity, above, elapsed, rfl⟩
    exact ⟨_, ⟨tier, active, severity, above, elapsed, rfl⟩, rfl⟩

theorem activeTiers_congr {store start : Store}
    (tiers : store.escalationTiers = start.escalationTiers) :
    activeTiers store = activeTiers start := by
  simp only [activeTiers, tiers]

theorem currentRecipients_congr {store start : Store} (users : store.users = start.users) :
    currentRecipients store = currentRecipients start := by
  simp only [currentRecipients, recipientsFor, users]

section Step
variable {start store : Store} {instant : Option Date} {now : Date}

/-- What is owed at a later instant is what was owed before, and what has come due above the
counter since. -/
theorem owed_later (formed : WellFormed (activeTiers start))
    (order : ∀ earlier, instant = some earlier → earlier ≤ now)
    (tiers : store.escalationTiers = start.escalationTiers) (row moved : Incident)
    (member : row ∈ start.incidents) (candidate : isCandidate row = true)
    (same : SameButBump row moved)
    (top : IsTop row.currentEscalationLevel (Owed start instant row)
      moved.currentEscalationLevel) (level : Nat) :
    Owed start (some now) row level ↔
      Owed start instant row level ∨ level ∈ dueLevels store now moved := by
  have sameTiers := activeTiers_congr tiers
  have later : Owed start (some now) row level ↔ level ∈ dueLevels start now row := by
    simp [Owed, member, candidate]
  rw [later]
  constructor
  · intro isDue
    obtain ⟨tier, active, severity, above, elapsed, rfl⟩ := (mem_dueLevels _ _ _ _).mp isDue
    -- a level at or below the counter was owed earlier, one above it is due now
    by_cases passed : tier.level ≤ moved.currentEscalationLevel
    · left
      rcases top.2.2 with unmoved | ⟨_, _, earlier, known, wasDue⟩
      · omega
      · obtain ⟨upper, upperActive, upperSeverity, _, upperElapsed, upperLevel⟩ :=
          (mem_dueLevels _ _ _ _).mp wasDue
        -- the threshold of a level below the counter is no longer than that of the counter
        have shorter : tier.thresholdMinutes ≤ upper.thresholdMinutes := by
          rcases Nat.lt_or_eq_of_le (upperLevel ▸ passed) with less | equal
          · exact Nat.le_of_lt (formed.increasing tier active upper upperActive
              (severity.trans upperSeverity.symm) less)
          · have one := List.inj_on_of_nodup_map formed.distinct active upperActive
              (Prod.ext (severity.trans upperSeverity.symm) equal)
            exact one ▸ Nat.le_refl _
        refine ⟨member, candidate, earlier, known, (mem_dueLevels _ _ _ _).mpr ?_⟩
        exact ⟨tier, active, severity, above,
          hasElapsed_mono (Int.le_refl _) shorter upperElapsed, rfl⟩
    · right
      refine (mem_dueLevels _ _ _ _).mpr ⟨tier, sameTiers ▸ active, ?_, Nat.not_le.mp passed, ?_,
        rfl⟩
      · rw [same.severity, severity]
      · rw [same.clock]
        exact elapsed
  · rintro (⟨_, _, earlier, known, wasDue⟩ | isDue)
    · obtain ⟨tier, active, severity, above, elapsed, rfl⟩ := (mem_dueLevels _ _ _ _).mp wasDue
      exact (mem_dueLevels _ _ _ _).mpr ⟨tier, active, severity, above,
        hasElapsed_mono (order earlier known) (Nat.le_refl _) elapsed, rfl⟩
    · obtain ⟨tier, active, severity, above, elapsed, rfl⟩ := (mem_dueLevels _ _ _ _).mp isDue
      rw [same.severity] at severity
      rw [same.clock] at elapsed
      exact (mem_dueLevels _ _ _ _).mpr ⟨tier, sameTiers ▸ active, severity,
        Nat.lt_of_le_of_lt same.level above, elapsed, rfl⟩

/-- Joining what was owed before with what is due now moves the top as one run would. -/
theorem isTop_later {first second all : Nat → Prop} {base middle final : Nat}
    (joined : ∀ level, all level ↔ first level ∨ second level)
    (before : IsTop base first middle) (after : IsTop middle second final) :
    IsTop base all final := by
  refine ⟨Nat.le_trans before.1 after.1, fun level owed => ?_, ?_⟩
  · rcases (joined level).mp owed with old | new
    · exact Nat.le_trans (before.2.1 level old) after.1
    · exact after.2.1 level new
  · rcases after.2.2 with rfl | new
    · rcases before.2.2 with rfl | old
      · exact Or.inl rfl
      · exact Or.inr ((joined _).mpr (Or.inl old))
    · exact Or.inr ((joined _).mpr (Or.inr new))

end Step

/-! ### One more run -/

section Run
variable {start store : Store} {instant : Option Date} {env : RunEnv}

theorem mem_allDue (now : Date) (due : Due) :
    due ∈ allDue store now ↔ ∃ row ∈ store.incidents, isCandidate row = true ∧
      due.candidate = row.batchRow.candidate ∧
        due.tier ∈ tiersDueFor row.batchRow.candidate (activeTiers store) now := by
  simp only [allDue, mem_duesOf, mem_candidates, and_assoc]

/-- The due pairs of a store are its candidates with their due levels. -/
theorem exists_due (now : Date) (property : Id × Nat × Nat → Severity → Prop) :
    (∃ due ∈ allDue store now, property (dueKey due) due.candidate.severity) ↔
      ∃ row ∈ store.incidents, isCandidate row = true ∧
        ∃ level ∈ dueLevels store now row, property (rowKey row level) row.severity := by
  constructor
  · rintro ⟨due, member, holds⟩
    obtain ⟨row, stored, candidate, same, isDue⟩ := (mem_allDue now due).mp member
    refine ⟨row, stored, candidate, due.tier.level, List.mem_map.mpr ⟨_, isDue, rfl⟩, ?_⟩
    rw [dueKey, same] at holds
    exact holds
  · rintro ⟨row, stored, candidate, level, isDue, holds⟩
    obtain ⟨tier, found, rfl⟩ := List.mem_map.mp isDue
    exact ⟨⟨row.batchRow.candidate, tier⟩,
      (mem_allDue now _).mpr ⟨row, stored, candidate, rfl, found⟩, holds⟩

theorem events_specified (key : Id × Nat × Nat) :
    key ∈ (specified env store).escalationEvents.map (·.key) ↔
      key ∈ store.escalationEvents.map (·.key) ∨
        ∃ due ∈ allDue store env.now, key = dueKey due := by
  simp only [specified, List.map_append, List.mem_append, List.map_map, List.mem_map,
    @eq_comm _ key]
  rfl

/-- Two due pairs of one incident come from one candidate. -/
theorem candidate_unique (keyed : store.UniqueIds) {now : Date} {a b : Due}
    (ha : a ∈ allDue store now) (hb : b ∈ allDue store now)
    (same : a.candidate.id = b.candidate.id) : a.candidate = b.candidate := by
  obtain ⟨first, firstStored, _, firstCandidate, _⟩ := (mem_allDue now a).mp ha
  obtain ⟨second, secondStored, _, secondCandidate, _⟩ := (mem_allDue now b).mp hb
  rw [firstCandidate, secondCandidate] at same ⊢
  rw [eq_of_id_eq keyed.incidents firstStored secondStored same]

theorem mem_newNotifications (recipients : Recipients) (due : Due) (row : NotificationLog)
    (member : row ∈ newNotifications recipients env due) :
    row.escalationEventId = (newEvent env due).id ∧
      row.recipientId ∈ recipients.get due.candidate.severity := by
  simp only [newNotifications, notificationsFor, List.mem_map] at member
  obtain ⟨recipient, among, rfl⟩ := member
  exact ⟨rfl, among⟩

theorem notified_specified (keyed : store.UniqueIds) (fresh : FreshIds env store)
    (key : Id × Nat × Nat) (recipient : Id) :
    Notified (specified env store) key recipient ↔ Notified store key recipient ∨
      ∃ due ∈ allDue store env.now, key = dueKey due ∧
        recipient ∈ (currentRecipients store).get due.candidate.severity := by
  constructor
  · rintro ⟨event, eventMember, row, rowMember, rfl, belongs, rfl⟩
    simp only [specified, List.mem_append, List.mem_map, List.mem_flatMap] at eventMember rowMember
    -- old and new events and rows never meet: new ids are fresh
    rcases eventMember with oldEvent | ⟨due, isDue, rfl⟩ <;>
      rcases rowMember with oldRow | ⟨other, isOther, newRow⟩
    · exact Or.inl ⟨event, oldEvent, row, oldRow, rfl, belongs, rfl⟩
    · have logged := (mem_newNotifications _ _ _ newRow).1
      exact absurd (belongs.symm.trans logged) (fresh.unusedEvent other isOther event oldEvent)
    · exact absurd belongs (fresh.unused due isDue row oldRow)
    · obtain ⟨logged, among⟩ := mem_newNotifications _ _ _ newRow
      obtain ⟨id, _⟩ := fresh.injective due isDue other isOther (belongs.symm.trans logged)
      rw [← candidate_unique keyed isDue isOther id] at among
      exact Or.inr ⟨due, isDue, rfl, among⟩
  · rintro (⟨event, eventMember, row, rowMember, rfl, belongs, rfl⟩ | ⟨due, isDue, rfl, among⟩)
    · exact ⟨event, List.mem_append_left _ eventMember, row, List.mem_append_left _ rowMember,
        rfl, belongs, rfl⟩
    · refine ⟨newEvent env due, List.mem_append_right _ (List.mem_map.mpr ⟨due, isDue, rfl⟩),
        ⟨env.ids.notification due.candidate.id due.tier.level recipient, (newEvent env due).id,
          recipient, "IN_APP", none, env.now⟩, ?_, rfl, rfl, rfl⟩
      refine List.mem_append_right _ (List.mem_flatMap.mpr ⟨due, isDue, ?_⟩)
      exact List.mem_map.mpr ⟨recipient, among, rfl⟩

theorem CaughtUp.uniqueIds (caught : CaughtUp start instant store) (keyed : start.UniqueIds) :
    store.UniqueIds where
  users := caught.users ▸ keyed.users
  incidents := by
    obtain ⟨f, incidents, moved⟩ := caught.rows
    have kept : start.incidents.map (Incident.id ∘ f) = start.incidents.map Incident.id :=
      List.map_congr_left fun row member => (moved row member).1.id
    rw [incidents, List.map_map, kept]
    exact keyed.incidents

theorem CaughtUp.agree (caught : CaughtUp start instant store) (keyed : start.UniqueIds)
    (agree : CountersAgree start) : CountersAgree store := by
  obtain ⟨f, incidents, moved⟩ := caught.rows
  intro after stored candidate event old incident cycle
  rw [incidents] at stored
  obtain ⟨row, member, rfl⟩ := List.mem_map.mp stored
  obtain ⟨same, top⟩ := moved row member
  rw [same.isCandidate] at candidate
  rw [same.id] at incident
  rw [same.cycle] at cycle
  rcases (caught.events event.key).mp (List.mem_map.mpr ⟨event, old, rfl⟩) with
    before | ⟨other, level, owed, equal⟩
  · obtain ⟨earlier, present, key⟩ := List.mem_map.mp before
    simp only [EscalationEvent.key, Prod.mk.injEq] at key
    -- the event was there at the start
    have bound := agree row member candidate earlier present (key.1.trans incident)
      (key.2.1.trans cycle)
    rw [← key.2.2]
    exact Nat.le_trans bound top.1
  · simp only [EscalationEvent.key, rowKey, Prod.mk.injEq] at equal
    have one := eq_of_id_eq keyed.incidents owed.1 member (equal.1.symm.trans incident)
    rw [equal.2.2]
    exact top.2.1 level (one ▸ owed)

/-- A run at a later instant brings a store that is caught up to an earlier one up to its own. -/
theorem CaughtUp.step (caught : CaughtUp start instant store) (keyed : start.UniqueIds)
    (formed : WellFormed (activeTiers start)) (fresh : FreshIds env store)
    (order : ∀ earlier, instant = some earlier → earlier ≤ env.now) :
    CaughtUp start (some env.now) (specified env store) := by
  obtain ⟨f, incidents, moved⟩ := caught.rows
  have later : ∀ row ∈ start.incidents, isCandidate row = true → ∀ level,
      Owed start (some env.now) row level ↔
        Owed start instant row level ∨ level ∈ dueLevels store env.now (f row) :=
    fun row member candidate => owed_later formed order caught.tiers row (f row) member candidate
      (moved row member).1 (moved row member).2
  -- the due pairs of the store, seen from the rows of the start
  have dueNow : ∀ property : Id × Nat × Nat → Severity → Prop,
      (∃ due ∈ allDue store env.now, property (dueKey due) due.candidate.severity) ↔
        ∃ row ∈ start.incidents, isCandidate row = true ∧
          ∃ level ∈ dueLevels store env.now (f row), property (rowKey row level) row.severity := by
    intro property
    rw [exists_due, incidents]
    constructor
    · rintro ⟨after, stored, candidate, level, isDue, holds⟩
      obtain ⟨row, member, rfl⟩ := List.mem_map.mp stored
      have same := (moved row member).1
      rw [same.isCandidate] at candidate
      rw [rowKey, same.id, same.cycle, same.severity] at holds
      exact ⟨row, member, candidate, level, isDue, holds⟩
    · rintro ⟨row, member, candidate, level, isDue, holds⟩
      have same := (moved row member).1
      refine ⟨f row, List.mem_map.mpr ⟨row, member, rfl⟩, same.isCandidate.trans candidate, level,
        isDue, ?_⟩
      rw [rowKey, same.id, same.cycle, same.severity]
      exact holds
  -- the two sources of what is owed at the later instant
  have joined : ∀ property : Id × Nat × Nat → Severity → Prop,
      ((∃ row level, Owed start instant row level ∧ property (rowKey row level) row.severity) ∨
        ∃ due ∈ allDue store env.now, property (dueKey due) due.candidate.severity) ↔
      ∃ row level, Owed start (some env.now) row level ∧
        property (rowKey row level) row.severity := by
    intro property
    rw [dueNow property]
    constructor
    · rintro (⟨row, level, owed, holds⟩ | ⟨row, member, candidate, level, isDue, holds⟩)
      · exact ⟨row, level, (later row owed.1 owed.2.1 level).mpr (Or.inl owed), holds⟩
      · exact ⟨row, level, (later row member candidate level).mpr (Or.inr isDue), holds⟩
    · rintro ⟨row, level, owed, holds⟩
      rcases (later row owed.1 owed.2.1 level).mp owed with old | new
      · exact Or.inl ⟨row, level, old, holds⟩
      · exact Or.inr ⟨row, owed.1, owed.2.1, level, new, holds⟩
  refine ⟨caught.users, caught.tiers, ⟨specifiedRow env store ∘ f, ?_, ?_⟩, ?_, ?_⟩
  · simp only [specified, incidents, List.map_map]
  · intro row member
    obtain ⟨same, top⟩ := moved row member
    refine ⟨same.trans (specifiedRow_same env _ (f row)), ?_⟩
    by_cases candidate : isCandidate row = true
    · apply isTop_later (later row member candidate) top
      rw [Function.comp_apply, specifiedRow_level (f row) (same.isCandidate.trans candidate)]
      exact isTop_foldl _ _
    -- a row that is no candidate owes nothing and is not written
    · have still : specifiedRow env store (f row) = f row := by
        have notCandidate : isCandidate (f row) = false := by
          rw [same.isCandidate]
          simpa using candidate
        simp [specifiedRow, notCandidate]
      rw [Function.comp_apply, still]
      refine ⟨top.1, fun level owed => absurd owed.2.1 candidate, Or.inl ?_⟩
      rcases top.2.2 with equal | owed
      · exact equal
      · exact absurd owed.2.1 candidate
  · intro key
    rw [events_specified, caught.events, or_assoc]
    exact or_congr_right (joined fun other _ => key = other)
  · intro key recipient
    rw [notified_specified (caught.uniqueIds keyed) fresh, caught.notified, or_assoc,
      currentRecipients_congr caught.users]
    exact or_congr_right
      (joined fun other severity =>
        key = other ∧ recipient ∈ (currentRecipients start).get severity)

end Run

/-! ### Whole schedules -/

/-- Undisturbed runs one after another, with nothing else in between. -/
def runSchedule (config : JobConfig) (fuel : Nat) : List RunEnv → Store → Option Store
  | [], store => some store
  | env :: rest, store =>
    (runEscalationJob config env fuel store).bind fun outcome =>
      runSchedule config fuel rest outcome.2

/-- Every run of the schedule draws new ids. -/
def FreshSchedule (config : JobConfig) (fuel : Nat) : List RunEnv → Store → Prop
  | [], _ => True
  | env :: rest, store => FreshIds env store ∧
    ∀ outcome, runEscalationJob config env fuel store = some outcome →
      FreshSchedule config fuel rest outcome.2

/-- The active tiers are those of a set the schema accepted. -/
def HoldsAccepted (store : Store) : Prop :=
  ∃ request : TierSetRequest, (activeTiers store).Perm request.tiers

theorem HoldsAccepted.wellFormed {store : Store} (holds : HoldsAccepted store) :
    WellFormed (activeTiers store) := by
  obtain ⟨request, perm⟩ := holds
  exact request.wellFormed.perm perm.symm

section Schedule
variable {config : JobConfig} {fuel : Nat} {start : Store}

theorem candidates_length_of_caughtUp {store : Store} {instant : Option Date}
    (caught : CaughtUp start instant store) :
    (candidates store).length = (candidates start).length := by
  obtain ⟨f, incidents, moved⟩ := caught.rows
  simp only [candidates, remaining, Keyset.length_sortOn, incidents, List.filter_map,
    List.length_map]
  congr 1
  apply List.filter_congr
  intro row member
  simp [(moved row member).1.isCandidate, afterCursor]

/-- The runs still to come meet a store that is caught up, a free lease and unused ids. -/
structure Scheduled (config : JobConfig) (fuel : Nat) (start : Store) (instant : Option Date)
    (envs : List RunEnv) (store : Store) : Prop where
  caught : CaughtUp start instant store
  ordered : envs.Pairwise fun a b => a.now ≤ b.now
  later : ∀ env ∈ envs, ∀ earlier, instant = some earlier → earlier ≤ env.now
  free : ∀ env ∈ envs, leaseFree store.jobLease env.now = true
  fresh : FreshSchedule config fuel envs store

/-- The first run meets its specification, and the rest is scheduled on the store it leaves. -/
theorem Scheduled.step {store : Store} {instant : Option Date} {env : RunEnv} {rest : List RunEnv}
    (scheduled : Scheduled config fuel start instant (env :: rest) store)
    (keyed : start.UniqueIds) (formed : WellFormed (activeTiers start))
    (agree : CountersAgree start) (enough : (candidates start).length < fuel) :
    ∃ result, runEscalationJob config env fuel store = some (result, specified env store) ∧
      Scheduled config fuel start (some env.now) rest (specified env store) := by
  obtain ⟨caught, ordered, later, free, fresh⟩ := scheduled
  have distinct : DistinctActive store := by
    rw [DistinctActive, activeTiers_congr caught.tiers]
    exact formed.distinct
  have run := runEscalationJob_specified config (caught.uniqueIds keyed) distinct
    (caught.agree keyed agree) fresh.1 (free env (by simp)) fuel
    (candidates_length_of_caughtUp caught ▸ enough)
  obtain ⟨first, ordered⟩ := List.pairwise_cons.mp ordered
  refine ⟨_, run, caught.step keyed formed fresh.1 (later env (by simp)), ordered, ?_, ?_,
    fresh.2 _ run⟩
  · intro next member earlier known
    exact Option.some.inj known ▸ first next member
  -- the run has released the lease
  · exact fun _ _ => rfl

theorem runSchedule_caughtUp (keyed : start.UniqueIds) (formed : WellFormed (activeTiers start))
    (agree : CountersAgree start) (enough : (candidates start).length < fuel)
    (envs : List RunEnv) (store : Store) (instant : Option Date)
    (scheduled : Scheduled config fuel start instant envs store) :
    ∃ final, runSchedule config fuel envs store = some final ∧
      CaughtUp start ((envs.getLast?.map (·.now)).or instant) final := by
  induction envs generalizing store instant with
  | nil => exact ⟨store, rfl, scheduled.caught⟩
  | cons env rest ih =>
    obtain ⟨result, run, next⟩ := scheduled.step keyed formed agree enough
    obtain ⟨final, ran, up⟩ := ih (specified env store) (some env.now) next
    refine ⟨final, by simp only [runSchedule, run, Option.bind_some, ran], ?_⟩
    rw [List.getLast?_cons]
    cases last : rest.getLast? <;> simpa [last] using up

/-- Two stores caught up to the same instant hold the same events, notifications and counters. -/
theorem CaughtUp.agree_on {first second : Store} {instant : Option Date}
    (left : CaughtUp start instant first) (right : CaughtUp start instant second) :
    (∀ key, key ∈ first.escalationEvents.map (·.key) ↔
      key ∈ second.escalationEvents.map (·.key)) ∧
    (∀ key recipient, Notified first key recipient ↔ Notified second key recipient) ∧
    first.incidents.map (fun row => (row.id, row.currentEscalationLevel)) =
      second.incidents.map (fun row => (row.id, row.currentEscalationLevel)) := by
  refine ⟨fun key => (left.events key).trans (right.events key).symm,
    fun key recipient => (left.notified key recipient).trans (right.notified key recipient).symm,
    ?_⟩
  obtain ⟨f, incidents, moved⟩ := left.rows
  obtain ⟨g, otherIncidents, otherMoved⟩ := right.rows
  rw [incidents, otherIncidents, List.map_map, List.map_map]
  refine List.map_congr_left fun row member => Prod.ext ?_ ?_
  · exact (moved row member).1.id.trans (otherMoved row member).1.id.symm
  · exact (moved row member).2.unique (otherMoved row member).2

end Schedule

/-- A schedule of undisturbed runs at nondecreasing instants leaves the events, notifications and
counters that a single run at the last instant leaves. -/
theorem schedule_independent (config other : JobConfig) (fuel : Nat) (start : Store)
    (keyed : start.UniqueIds) (accepted : HoldsAccepted start) (agree : CountersAgree start)
    (enough : (candidates start).length < fuel) (envs : List RunEnv) (last single : RunEnv)
    (ordered : (envs ++ [last]).Pairwise fun a b => a.now ≤ b.now)
    (free : ∀ env ∈ envs ++ [last], leaseFree start.jobLease env.now = true)
    (fresh : FreshSchedule config fuel (envs ++ [last]) start)
    (instant : single.now = last.now) (freshSingle : FreshIds single start) :
    ∃ many result one, runSchedule config fuel (envs ++ [last]) start = some many ∧
      runEscalationJob other single fuel start = some (result, one) ∧
      (∀ key, key ∈ many.escalationEvents.map (·.key) ↔
        key ∈ one.escalationEvents.map (·.key)) ∧
      (∀ key recipient, Notified many key recipient ↔ Notified one key recipient) ∧
      many.incidents.map (fun row => (row.id, row.currentEscalationLevel)) =
        one.incidents.map (fun row => (row.id, row.currentEscalationLevel)) := by
  have formed := accepted.wellFormed
  obtain ⟨many, scheduled, upMany⟩ := runSchedule_caughtUp keyed formed agree
    enough (envs ++ [last]) start none
    ⟨caughtUp_start start, ordered, fun _ _ _ impossible => by simp at impossible, free, fresh⟩
  have run := runEscalationJob_specified other keyed formed.distinct agree freshSingle
    (instant ▸ free last (by simp)) fuel enough
  -- the single run is a schedule of its own, caught up to the same instant
  have upOne := (caughtUp_start start).step keyed formed freshSingle (by simp)
  rw [List.getLast?_concat, Option.map_some, Option.some_or, ← instant] at upMany
  exact ⟨many, _, _, scheduled, run, upMany.agree_on upOne⟩

def sampleTierSet : TierSetRequest where
  tiers := [⟨.high, 1, 30⟩, ⟨.high, 2, 90⟩, ⟨.critical, 1, 15⟩]
  nonempty := by decide
  levels := by decide
  thresholds := by decide
  accepted := by decide

theorem sample_accepted : HoldsAccepted sampleStore := ⟨sampleTierSet, by decide⟩

theorem sample_agree : CountersAgree sampleStore := by
  intro row _ _ event member
  simp [sampleStore] at member

/-- A run when the first levels are due, a second when the next one is, against one late run. -/
theorem schedule_independent_sample :
    ∃ many one, runSchedule sampleConfig 3 [sampleEnv "r" 1800000, sampleEnv "s" 5400000]
        sampleStore = some many ∧
      (runEscalationJob sampleConfig (sampleEnv "t" 5400000) 3 sampleStore).map (·.2) =
        some one ∧
      (("b", 1, 2) ∈ many.escalationEvents.map (·.key) ↔
        ("b", 1, 2) ∈ one.escalationEvents.map (·.key)) := by
  have fresh : FreshSchedule sampleConfig 3
      ([sampleEnv "r" 1800000] ++ [sampleEnv "s" 5400000]) sampleStore := by
    refine ⟨⟨by decide, by decide, by decide, by decide⟩, fun outcome ran => ?_⟩
    obtain rfl := Option.some.inj ran
    exact ⟨⟨by decide, by decide, by decide, by decide⟩, fun _ _ => trivial⟩
  obtain ⟨many, result, one, scheduled, ran, events, _⟩ := schedule_independent sampleConfig
    sampleConfig 3 sampleStore ⟨by decide, by decide⟩ sample_accepted sample_agree (by decide)
    [sampleEnv "r" 1800000] (sampleEnv "s" 5400000) (sampleEnv "t" 5400000) (by decide)
    (by decide) fresh rfl ⟨by decide, by decide, by decide, by decide⟩
  exact ⟨many, one, scheduled, by rw [ran]; rfl, events _⟩

end IncidentApi.Properties
