import IncidentApi.Properties.Scans

/-!
# An undisturbed run

The whole job when nothing interrupts it: `completed` is the closed form for any store, and
`escalateAll` the specification that treats every candidate at once.
-/
namespace IncidentApi.Properties

def currentRecipients (store : Store) : Recipients :=
  ⟨recipientsFor store .high, recipientsFor store .critical⟩

/-- Every pair of a candidate and a tier it has crossed. -/
def allDue (store : Store) (now : Date) : List Due :=
  duesOf (activeTiers store) now (candidates store)

/-- What the run assumes of `newId()`: ids that no row uses, and no id twice. -/
@[mk_iff] structure FreshIds (env : RunEnv) (store : Store) : Prop where
  unused : ∀ due ∈ allDue store env.now, ∀ row ∈ store.notificationLog,
    row.escalationEventId ≠ env.ids.event due.candidate.id due.tier.level
  unusedEvent : ∀ due ∈ allDue store env.now, ∀ event ∈ store.escalationEvents,
    event.id ≠ env.ids.event due.candidate.id due.tier.level
  injective : ∀ a ∈ allDue store env.now, ∀ b ∈ allDue store env.now,
    env.ids.event a.candidate.id a.tier.level = env.ids.event b.candidate.id b.tier.level →
      a.candidate.id = b.candidate.id ∧ a.tier.level = b.tier.level
  jobRun : ∀ run ∈ store.jobRuns, run.id ≠ env.jobRunId

instance (env : RunEnv) (store : Store) : Decidable (FreshIds env store) :=
  decidable_of_iff _ (freshIds_iff env store).symm

/-- No event of a candidate's current cycle is above its counter. -/
def CountersAgree (store : Store) : Prop :=
  ∀ row ∈ store.incidents, isCandidate row = true → ∀ event ∈ store.escalationEvents,
    event.incidentId = row.id → event.cycle = row.escalationCycle →
      event.level ≤ row.currentEscalationLevel

def DistinctTiers (store : Store) : Prop :=
  (store.escalationTiers.map fun tier => (tier.severity, tier.level)).Nodup

instance (store : Store) : Decidable (DistinctTiers store) :=
  inferInstanceAs (Decidable (List.Nodup _))

def completedRun (env : RunEnv) (counts : Counts) : JobRun :=
  ⟨env.jobRunId, "escalation", env.startedAt, some env.finishedAt, some .completed,
    counts.scanned, counts.escalated, counts.notified, none⟩

/-! ### Tiers and recipients -/

/-- All a run needs of the table: its active tiers are distinct. -/
def DistinctActive (store : Store) : Prop :=
  ((activeTiers store).map fun tier => (tier.severity, tier.level)).Nodup

theorem DistinctTiers.active {store : Store} (distinct : DistinctTiers store) :
    DistinctActive store := by
  apply ((activeTiers_perm store).map _).nodup_iff.mpr
  rw [List.map_map]
  exact distinct.sublist (List.filter_sublist.map _)

theorem recipientsFor_nodup {store : Store} (users : (store.users.map User.id).Nodup)
    (severity : Severity) : (recipientsFor store severity).Nodup :=
  users.sublist (List.filter_sublist.map _)

theorem currentRecipients_nodup {store : Store} (users : (store.users.map User.id).Nodup)
    (severity : Severity) : ((currentRecipients store).get severity).Nodup := by
  cases severity
  · exact List.nodup_nil
  · exact List.nodup_nil
  · exact recipientsFor_nodup users .high
  · exact recipientsFor_nodup users .critical

/-! ### The closed form of the run -/

section Run
variable (config : JobConfig) {env : RunEnv} {store : Store}

/-- The pairs the run escalates. -/
def missingDue (store : Store) (now : Date) : List Due := unescalated store (allDue store now)

theorem pending_allDue (keyed : store.UniqueIds) (tiers : DistinctActive store)
    (fresh : FreshIds env store) :
    Pending (currentRecipients store) env store (allDue store env.now) where
  ids := keyed.incidents
  answers due member := by
    obtain ⟨row, candidate, same, isDue⟩ := (mem_duesOf _ _ _ _).mp member
    obtain ⟨stored, candidate⟩ := (mem_candidates store row).mp candidate
    exact ⟨row, stored, answers_of_due candidate same isDue⟩
  ascending := by
    refine duesOf_ascending _ _ _ ?_ tiers
    exact ((Keyset.sortOn_perm _ _).map _).nodup_iff.mpr (ids_filter keyed.incidents _)
  distinct := currentRecipients_nodup keyed.users
  unused := fresh.unused
  injective := fresh.injective

variable (env) in
theorem finishJobRun_eq (counts : Counts) (fresh : ∀ run ∈ store.jobRuns, run.id ≠ env.jobRunId)
    (jobRuns : List JobRun)
    (started : jobRuns = store.jobRuns ++
      [⟨env.jobRunId, "escalation", env.startedAt, none, none, 0, 0, 0, none⟩]) :
    (finishJobRun env.jobRunId .completed counts none env.finishedAt
      { store with jobRuns := jobRuns }).jobRuns = store.jobRuns ++ [completedRun env counts] := by
  -- `finish` finds no earlier run with the id of this one
  have old : store.jobRuns.map (fun run =>
      if run.id = env.jobRunId ∧ run.finishedAt = none then
        { run with
          finishedAt := some env.finishedAt
          outcome := some .completed
          scanned := counts.scanned
          escalated := counts.escalated
          notified := counts.notified
          error := none }
      else run) = store.jobRuns := by
    refine (List.map_congr_left fun run member => ?_).trans (List.map_id _)
    simp [fresh run member]
  subst started
  simp only [finishJobRun, List.map_append, old]
  simp [completedRun]

/-- A run that meets no other transaction escalates every due pair that has no event yet. -/
theorem runEscalationJob_eq (keyed : store.UniqueIds) (tiers : DistinctActive store)
    (fresh : FreshIds env store) (free : leaseFree store.jobLease env.now = true) (fuel : Nat)
    (enough : (candidates store).length < fuel) :
    let missing := missingDue store env.now
    let counts : Counts := ⟨(candidates store).length, missing.length,
      notificationCount (currentRecipients store) env missing⟩
    runEscalationJob config env fuel store = some (⟨.completed, counts⟩,
      { escalated (currentRecipients store) env store missing with
        jobRuns := store.jobRuns ++ [completedRun env counts]
        jobLease := ⟨none, none⟩ }) := by
  intro missing counts
  let claimed : Store :=
    { startJobRun env.jobRunId env.startedAt store with
      jobLease := ⟨some env.runId, some (env.now + config.leaseMs)⟩ }
  have pending : Pending (currentRecipients store) env claimed (allDue store env.now) :=
    have held := pending_allDue keyed tiers fresh
    ⟨held.ids, held.answers, held.ascending, held.distinct, held.unused, held.injective⟩
  obtain ⟨held, scan⟩ := scanLoop_eq config fuel none ⟨0, 0, 0⟩ claimed enough pending
    rfl
  have claim : claimLease config env.runId env.now (startJobRun env.jobRunId env.startedAt store) =
      some claimed := by
    have started : (startJobRun env.jobRunId env.startedAt store).jobLease = store.jobLease := rfl
    rw [claimLease, started, if_pos free]
  -- claiming and starting touch neither tiers, recipients nor incidents
  have loop : scanLoop config env (activeTiers claimed)
      ⟨recipientsFor claimed .high, recipientsFor claimed .critical⟩ fuel none ⟨0, 0, 0⟩ claimed =
      some (counts, { escalated (currentRecipients store) env claimed missing with
        jobLease := ⟨some env.runId, held⟩ }) := by
    apply scan.trans
    simp only [Counts.plus, Nat.zero_add]
    rfl
  simp only [runEscalationJob, claim, loop, Option.map_some, Option.some.injEq, Prod.mk.injEq,
    true_and]
  have finished := finishJobRun_eq env counts fresh.jobRun _ rfl
  simp only [releaseLease, finishJobRun, escalated] at finished ⊢
  simp only [if_true, claimed, startJobRun, finished]

end Run

/-! ### The specification -/

def dueLevels (store : Store) (now : Date) (row : Incident) : List Nat :=
  (tiersDueFor row.batchRow.candidate (activeTiers store) now).map (·.level)

section Specification
variable (env : RunEnv) (store : Store)

/-- A candidate with a due tier moves its counter to the largest due level and is stamped with
the time of the run; every other row stays as it is. -/
def specifiedRow (row : Incident) : Incident :=
  match isCandidate row, (dueLevels store env.now row).getLast? with
  | true, some top =>
    { row with
      currentEscalationLevel := (dueLevels store env.now row).foldl max row.currentEscalationLevel
      lastEscalatedAt := some env.now
      updatedAt := env.ids.wall row.id top }
  | _, _ => row

/-- All candidates at once: one event for each due pair, one notification for each event and
recipient, one audit row for each event. -/
def specified : Store :=
  let due := allDue store env.now
  { store with
    incidents := store.incidents.map (specifiedRow env store)
    escalationEvents := store.escalationEvents ++ due.map (newEvent env)
    notificationLog := store.notificationLog ++
      due.flatMap (newNotifications (currentRecipients store) env)
    auditEvents := store.auditEvents ++ due.map (newAudit env)
    jobRuns := store.jobRuns ++ [completedRun env
      ⟨(candidates store).length, due.length,
        notificationCount (currentRecipients store) env due⟩]
    jobLease := ⟨none, none⟩ }

end Specification

section Rows
variable {env : RunEnv} {store : Store}

variable (env) in
/-- Rising bumps of one row end at the last of them. -/
theorem bumpAll_rising (dues : List Due) (row : Incident)
    (own : ∀ due ∈ dues, due.candidate.id = row.id)
    (above : ∀ due ∈ dues, row.currentEscalationLevel < due.tier.level)
    (rising : dues.Pairwise fun a b => a.tier.level < b.tier.level) :
    bumpAll env dues row =
      match dues.getLast? with
      | none => row
      | some top =>
        { row with
          currentEscalationLevel := top.tier.level
          lastEscalatedAt := some env.now
          updatedAt := env.ids.wall row.id top.tier.level } := by
  -- from the last pair back: the rows before it end at a lower level
  induction dues using List.reverseRecOn with
  | nil => rfl
  | append_singleton front top ih =>
    have id : row.id = top.candidate.id := (own top (by simp)).symm
    have higher := above top (by simp)
    rw [List.pairwise_append] at rising
    rw [bumpAll_append, ih (fun due member => own due (List.mem_append_left _ member))
      (fun due member => above due (List.mem_append_left _ member)) rising.1,
      List.getLast?_concat]
    cases before : front.getLast? with
    | none => simp [bumpAll, bumpRow, id, higher]
    | some last =>
      have less := rising.2.2 last (List.mem_of_getLast? before) top (by simp)
      simp [bumpAll, bumpRow, id, less]

/-- Pairs of a list of distinct rows touch a row only through its own pairs. -/
theorem bumpAll_duesOf (tiers : List Tier) (now : Date) (rows : List Incident)
    (ids : (rows.map Incident.id).Nodup) (row : Incident) (member : row ∈ rows) :
    bumpAll env (duesOf tiers now rows) row = bumpAll env (dueOf tiers now row.batchRow) row := by
  obtain ⟨front, rest, rfl⟩ := List.append_of_mem member
  simp only [List.map_append, List.map_cons, List.nodup_append, List.nodup_cons] at ids
  obtain ⟨_, ⟨later, _⟩, apart⟩ := ids
  -- the pairs of the rows on either side belong to other incidents
  have frontOther : ∀ due ∈ duesOf tiers now front, due.candidate.id ≠ row.id := by
    intro due chosen
    obtain ⟨other, among, same, _⟩ := (mem_duesOf _ _ _ _).mp chosen
    rw [same]
    exact apart other.id (List.mem_map.mpr ⟨other, among, rfl⟩) row.id (by simp)
  have restOther : ∀ due ∈ duesOf tiers now rest, due.candidate.id ≠ row.id := by
    intro due chosen equal
    obtain ⟨other, among, same, _⟩ := (mem_duesOf _ _ _ _).mp chosen
    rw [same] at equal
    exact later (List.mem_map.mpr ⟨other, among, equal⟩)
  rw [List.append_cons, duesOf_append, duesOf_append, bumpAll_append, bumpAll_append,
    bumpAll_other env _ row frontOther]
  have single : duesOf tiers now [row] = dueOf tiers now row.batchRow := by simp [duesOf]
  rw [single, bumpAll_other]
  intro due chosen
  rw [(bumpAll_same env _ row).id]
  exact restOther due chosen

theorem candidates_ids (keyed : store.UniqueIds) : ((candidates store).map Incident.id).Nodup :=
  ((Keyset.sortOn_perm _ _).map _).nodup_iff.mpr (ids_filter keyed.incidents _)

theorem bumpAll_eq_specifiedRow (keyed : store.UniqueIds) (tiers : DistinctActive store)
    (row : Incident) (member : row ∈ store.incidents) :
    bumpAll env (allDue store env.now) row = specifiedRow env store row := by
  by_cases candidate : isCandidate row = true
  · have own : ∀ due ∈ dueOf (activeTiers store) env.now row.batchRow,
        due.candidate = row.batchRow.candidate ∧
          due.tier ∈ tiersDueFor row.batchRow.candidate (activeTiers store) env.now := by
      intro due chosen
      simp only [dueOf, List.mem_map] at chosen
      obtain ⟨tier, isDue, rfl⟩ := chosen
      exact ⟨rfl, isDue⟩
    have ids : ∀ due ∈ dueOf (activeTiers store) env.now row.batchRow,
        due.candidate.id = row.id := fun due chosen => by rw [(own due chosen).1]; rfl
    -- the pairs of one candidate rise in level and all lie above its counter
    have rising := bumpAll_rising env (dueOf (activeTiers store) env.now row.batchRow) row
      ids
      (fun due chosen => by
        obtain ⟨tier, _, _, above, _, equal⟩ := (mem_tiersDueFor _ _ _ _).mp (own due chosen).2
        rw [equal]
        exact above)
      (by
        rw [dueOf, List.pairwise_map]
        exact tiersDueFor_ascending _ _ _ tiers)
    have level := bumpAll_level env _ row ids
    have levels : (dueOf (activeTiers store) env.now row.batchRow).map (·.tier.level) =
        dueLevels store env.now row := by
      simp only [dueOf, dueLevels, List.map_map, Function.comp_def]
    have last : (dueLevels store env.now row).getLast? =
        (dueOf (activeTiers store) env.now row.batchRow).getLast?.map (·.tier.level) := by
      rw [← levels, List.getLast?_map]
    rw [allDue, bumpAll_duesOf _ _ _ (candidates_ids keyed) row
      ((mem_candidates store row).mpr ⟨member, candidate⟩)]
    rw [levels] at level
    simp only [specifiedRow, candidate, last]
    cases top : (dueOf (activeTiers store) env.now row.batchRow).getLast? with
    | none => simpa [top] using rising
    | some due =>
      simp only [top] at rising
      rw [rising] at level
      simp only [Option.map_some, ← level]
      exact rising
  · rw [allDue, bumpAll_other env _ row]
    · simp [specifiedRow, candidate]
    · intro due chosen equal
      obtain ⟨other, among, same, _⟩ := (mem_duesOf _ _ _ _).mp chosen
      obtain ⟨stored, isOther⟩ := (mem_candidates store other).mp among
      rw [same] at equal
      exact candidate (eq_of_id_eq keyed.incidents stored member equal ▸ isOther)

end Rows

end IncidentApi.Properties
