import IncidentApi.Properties.History
import IncidentApi.Properties.JobLease

/-!
# The accounts of a job run

A run counts what its committed batches wrote, and writes the counts into its `JobRun` row when it
finishes. A statement that throws between the claim and the release still leads there; a claim that
throws does not.
-/
namespace IncidentApi.Properties

/-! ### What a run has scanned -/

/-- The page a run read last, the pages it is done with, and the rows that its statements have put
into the tables. -/
structure Scan where
  page : List BatchRow
  done : List (List BatchRow)
  events : List EscalationEvent
  notifications : List NotificationLog

def Scan.start : Scan := ⟨[], [], [], []⟩

/-- A page is done when its transaction commits, or at once when nothing of it is due. -/
def Scan.after (config : JobConfig) (store : Store) (run : Run) (reading : Reading) (scan : Scan) :
    Scan :=
  match run.phase with
  | .scanning =>
    let read := findBatch config store run.cursor
    if read = [] then scan
    else if read.flatMap (dueOf run.tiers reading.now) = [] then
      { scan with page := read, done := scan.done ++ [read] }
    else { scan with page := read }
  | .batch batch =>
    if batch.todo = [] then { scan with done := scan.done ++ [scan.page] } else scan
  | _ => scan

/-- With what a statement has appended to the tables. -/
def Scan.stored (before after : Store) (scan : Scan) : Scan :=
  { scan with
    events := scan.events ++ after.escalationEvents.drop before.escalationEvents.length
    notifications :=
      scan.notifications ++ after.notificationLog.drop before.notificationLog.length }

/-- The service, with the scan of each run; no step reads it. -/
structure ScannedSystem where
  sys : System
  scans : Nat → Scan

def ScannedSystem.after (config : JobConfig) (state : ScannedSystem) (next : System) :
    Action → Nat → Scan
  | .job k reading =>
    match state.sys.runs[k]? with
    | some run =>
      Function.update state.scans k
        (((state.scans k).after config state.sys.store run reading).stored state.sys.store
          next.store)
    | none => state.scans
  | _ => state.scans

def scanningStep (config : JobConfig) (state : ScannedSystem) (action : Action) :
    Option ScannedSystem :=
  (step config state.sys action).map fun next => ⟨next, state.after config next action⟩

def ScannedSystem.boot (store : Store) (issued : List Id) : ScannedSystem :=
  ⟨.boot store issued, fun _ => .start⟩

/-! ### Ledgers -/

/-- The counters of a run are what it has committed and scanned, and what it has committed is all
that it has stored, and is stored still. -/
structure Ledger (store : Store) (run : Run) (scan : Scan) : Prop where
  escalated : run.counts.escalated = run.committed.length
  notified : run.counts.notified = (run.committed.map (·.notifications.length)).sum
  scanned : run.counts.scanned = (scan.done.map List.length).sum
  page : ∀ batch, run.phase = .batch batch → batch.length = scan.page.length
  ready : ∀ batch, run.phase = .batch batch → batch.todo = [] → batch.statement = .select
  refused : run.phase = .claiming ∨ run.phase = .finishing .skippedLocked →
    run.counts = ⟨0, 0, 0⟩
  inserted : scan.events = run.committed.map (·.event)
  sent : scan.notifications = run.committed.flatMap (·.notifications)
  events : (run.committed.map (·.event)).Sublist store.escalationEvents
  notifications : (run.committed.flatMap fun made => made.notifications.map (·.key)).Sublist
    (store.notificationLog.map (·.key))

section Statement
variable {config : JobConfig} {others : List Write} {store after : Store} {run next : Run}
  {reading : Reading} {scan : Scan}

theorem Scan.stored_same (events : after.escalationEvents = store.escalationEvents)
    (notifications : after.notificationLog = store.notificationLog) :
    scan.stored store after = scan := by
  simp [Scan.stored, events, notifications]

/-- A statement that leaves counters and tables alone, whatever page it has read. -/
theorem Ledger.moved (ledger : Ledger store run scan) (page : List BatchRow)
    (counts : next.counts = run.counts)
    (committed : next.committed = run.committed)
    (events : after.escalationEvents = store.escalationEvents)
    (notifications : after.notificationLog = store.notificationLog)
    (opened : ∀ batch, next.phase = .batch batch →
      batch.length = page.length ∧ (batch.todo = [] → batch.statement = .select))
    (refused : next.phase = .claiming ∨ next.phase = .finishing .skippedLocked →
      run.phase = .claiming ∨ run.phase = .finishing .skippedLocked) :
    Ledger after next (Scan.stored store after { scan with page := page }) := by
  rw [Scan.stored_same events notifications]
  constructor
  · rw [counts, committed, ledger.escalated]
  · rw [counts, committed, ledger.notified]
  · rw [counts, ledger.scanned]
  · exact fun batch phase => (opened batch phase).1
  · exact fun batch phase => (opened batch phase).2
  · exact fun phase => counts.trans (ledger.refused (refused phase))
  · rw [committed, ← ledger.inserted]
  · rw [committed, ← ledger.sent]
  · rw [committed, events]
    exact ledger.events
  · rw [committed, notifications]
    exact ledger.notifications

theorem afterBatch_counts (config : JobConfig) (run : Run) (length : Nat) (last : BatchRow)
    (escalations : List Escalation) :
    (afterBatch config run length last escalations).counts =
        run.counts.plus length escalations.length
          (escalations.map (·.notifications.length)).sum ∧
      ((afterBatch config run length last escalations).phase = .finishing .completed ∨
        (afterBatch config run length last escalations).phase = .renewing) := by
  unfold afterBatch
  split
  · exact ⟨rfl, .inl rfl⟩
  · exact ⟨rfl, .inr rfl⟩

theorem afterBatch_nothing (config : JobConfig) (run : Run) (length : Nat) (last : BatchRow) :
    { afterBatch config run length last [] with committed := run.committed ++ [] } =
      afterBatch config run length last [] := by
  unfold afterBatch
  split <;> simp

/-- A page that is done, with what its transaction has committed. -/
theorem Ledger.done (ledger : Ledger store run scan) (config : JobConfig) (page : List BatchRow)
    (last : BatchRow) (escalations : List Escalation)
    (events : after.escalationEvents = store.escalationEvents ++ escalations.map (·.event))
    (notifications : after.notificationLog =
      store.notificationLog ++ escalations.flatMap (·.notifications)) :
    Ledger after
      { afterBatch config run page.length last escalations with
        committed := run.committed ++ escalations }
      (Scan.stored store after { scan with page := page, done := scan.done ++ [page] }) := by
  obtain ⟨counts, phase⟩ := afterBatch_counts config run page.length last escalations
  -- The page is done: the run renews its lease or completes, with no transaction open.
  have closed : ∀ batch,
      (afterBatch config run page.length last escalations).phase ≠ .batch batch := by
    intro batch
    rcases phase with completed | renewing
    · simp [completed]
    · simp [renewing]
  constructor
  · rw [counts, List.length_append, ← ledger.escalated]
    rfl
  · rw [counts, List.map_append, List.sum_append, ← ledger.notified]
    rfl
  · rw [counts, Scan.stored, List.map_append, List.sum_append, ← ledger.scanned]
    rfl
  · intro batch opened
    exact absurd opened (closed batch)
  · intro batch opened
    exact absurd opened (closed batch)
  · intro idle
    rcases phase with completed | renewing
    · simp [completed] at idle
    · simp [renewing] at idle
  · rw [Scan.stored, events, List.drop_left, ledger.inserted, List.map_append]
  · rw [Scan.stored, notifications, List.drop_left, ledger.sent, List.flatMap_append]
  · rw [events, List.map_append]
    exact ledger.events.append (.refl _)
  · rw [notifications, List.flatMap_append, List.map_append, List.map_flatMap]
    exact ledger.notifications.append (.refl _)

/-- A statement of a batch: it commits, stays inside the transaction, or throws. -/
theorem Ledger.batchStep {batch : Batch} (ledger : Ledger store run scan)
    (phase : run.phase = .batch batch)
    (stepped : batchStep config others store run batch reading = some (after, next)) :
    Ledger after next (Scan.stored store after
      (if batch.todo = [] then { scan with done := scan.done ++ [scan.page] } else scan)) := by
  have length := ledger.page batch phase
  have stays : ∀ kept : Batch, kept.length = batch.length →
      (kept.todo = [] → kept.statement = .select) →
      Ledger store { run with phase := .batch kept } (scan.stored store store) := by
    intro kept same ready
    refine ledger.moved scan.page rfl rfl rfl rfl ?_ (by simp)
    rintro other opened
    obtain rfl := Phase.batch.inj opened
    exact ⟨same.trans length, ready⟩
  by_cases done : batch.todo = []
  · unfold IncidentApi.batchStep at stepped
    simp only [done, Option.some.injEq, Prod.mk.injEq] at stepped
    obtain ⟨rfl, rfl⟩ := stepped
    rw [if_pos done, length]
    -- between two pairs no row is waiting
    have idle := ledger.ready batch phase done
    refine ledger.done config scan.page batch.last batch.escalations ?_ ?_
    · rw [view_events, batchEvents, idle]
      exact congrArg _ (List.append_nil _)
    · rw [view_log, idle]
      exact congrArg _ (List.append_nil _)
  · rw [if_neg done]
    cases batchStep_effect phase stepped with
    | outside _ _ closed => simp [open_of_phase phase] at closed
    | opened _ scanning => simp [phase] at scanning
    | committed other _ isBatch commits =>
      obtain rfl := Phase.batch.inj (phase.symm.trans isBatch)
      exact absurd commits done
    | violated other event =>
      exact ledger.moved scan.page rfl rfl rfl rfl (by simp) (by simp)
    | vanished other _ _ isBatch _ statement =>
      obtain rfl := Phase.batch.inj (phase.symm.trans isBatch)
      exact stays _ rfl fun _ => statement
    | conflicted other _ _ _ isBatch | bumped other _ _ _ _ _ isBatch =>
      obtain rfl := Phase.batch.inj (phase.symm.trans isBatch)
      exact stays _ rfl fun _ => rfl
    | selected other _ _ _ isBatch | inserted other _ _ _ isBatch | notified other _ _ _ isBatch
    | audited other _ _ _ _ isBatch =>
      obtain rfl := Phase.batch.inj (phase.symm.trans isBatch)
      exact stays _ rfl fun empty => absurd empty done

/-- The scan has read a page: there is none left, nothing on it is due, or a batch is opened. -/
theorem Ledger.scanStep (ledger : Ledger store run scan) (phase : run.phase = .scanning)
    (stepped : runStep config others store run reading = some (after, next)) :
    Ledger after next (Scan.stored store after (scan.after config store run reading)) := by
  simp only [IncidentApi.runStep, phase] at stepped
  simp only [Scan.after, phase]
  cases last : (findBatch config store run.cursor).getLast? with
  | none =>
    simp only [last, Option.some.injEq, Prod.mk.injEq] at stepped
    obtain ⟨rfl, rfl⟩ := stepped
    -- an empty page ends the scan and is not counted
    rw [if_pos (List.getLast?_eq_none_iff.mp last)]
    exact ledger.moved scan.page rfl rfl rfl rfl (by simp) (by simp)
  | some row =>
    have read : findBatch config store run.cursor ≠ [] := by
      intro empty
      simp [empty] at last
    rw [if_neg read]
    cases due : (findBatch config store run.cursor).flatMap (dueOf run.tiers reading.now) with
    -- a page of which nothing is due is done with at once
    | nil =>
      simp only [last, due, Option.some.injEq, Prod.mk.injEq] at stepped
      obtain ⟨rfl, rfl⟩ := stepped
      have done : Ledger store _ (Scan.stored store store
          { scan with page := findBatch config store run.cursor, done := _ }) :=
        ledger.done config (findBatch config store run.cursor) row [] (by simp) (by simp)
      rwa [afterBatch_nothing config] at done
    | cons first rest =>
      simp only [last, due, Option.some.injEq, Prod.mk.injEq] at stepped
      obtain ⟨rfl, rfl⟩ := stepped
      rw [if_neg (List.cons_ne_nil _ _)]
      refine ledger.moved _ rfl rfl rfl rfl ?_ (by simp)
      rintro batch opened
      obtain rfl := Phase.batch.inj opened
      exact ⟨rfl, fun _ => rfl⟩

/-- One statement of a run. -/
theorem Ledger.runStep (ledger : Ledger store run scan)
    (stepped : runStep config others store run reading = some (after, next)) :
    Ledger after next (Scan.stored store after (scan.after config store run reading)) := by
  cases phase : run.phase with
  | batch batch =>
    simp only [IncidentApi.runStep, phase] at stepped
    simpa only [Scan.after, phase] using ledger.batchStep phase stepped
  | scanning => exact ledger.scanStep phase stepped
  | claiming =>
    simp only [IncidentApi.runStep, phase] at stepped
    simp only [Scan.after, phase]
    split at stepped <;> simp only [Option.some.injEq, Prod.mk.injEq] at stepped <;>
      obtain ⟨rfl, rfl⟩ := stepped
    -- Outside the transactions a run counts nothing: the ledger moves along with its phase.
    · exact ledger.moved scan.page rfl rfl rfl rfl (by simp) fun _ => .inl phase
    next claim =>
      split at claim
      · cases claim
      · have tables := claimLease_ok claim
        exact ledger.moved scan.page rfl rfl tables.events tables.notifications (by simp) (by simp)
  | loadingTiers | loadingHigh | loadingCritical =>
    simp only [IncidentApi.runStep, phase, Option.some.injEq, Prod.mk.injEq] at stepped
    obtain ⟨rfl, rfl⟩ := stepped
    simp only [Scan.after, phase]
    exact ledger.moved scan.page rfl rfl rfl rfl (by simp) (by simp)
  | renewing =>
    simp only [IncidentApi.runStep, phase, Option.some.injEq, Prod.mk.injEq] at stepped
    obtain ⟨rfl, rfl⟩ := stepped
    simp only [Scan.after, phase]
    have tables := renewLease_tables config run.runId reading.now store
    exact ledger.moved scan.page rfl rfl tables.events tables.notifications (by simp) (by simp)
  | releasing =>
    simp only [IncidentApi.runStep, phase, Option.some.injEq, Prod.mk.injEq] at stepped
    obtain ⟨rfl, rfl⟩ := stepped
    simp only [Scan.after, phase]
    have tables := releaseLease_tables run.runId store
    exact ledger.moved scan.page rfl rfl tables.events tables.notifications (by simp) (by simp)
  | finishing outcome =>
    simp only [IncidentApi.runStep, phase, Option.some.injEq, Prod.mk.injEq] at stepped
    obtain ⟨rfl, rfl⟩ := stepped
    simp only [Scan.after, phase]
    refine ledger.moved scan.page rfl rfl rfl rfl ?_ ?_ <;> split <;> simp
  | finished =>
    simp [IncidentApi.runStep, phase] at stepped

/-! ### The `JobRun` row -/

/-- The run is past `finish`. -/
def isOver (run : Run) : Bool :=
  match run.phase with
  | .releasing | .finished => true
  | _ => false

/-- What a statement of a run does to the `JobRun` rows. -/
inductive JobRunEffect (store : Store) (run : Run) (reading : Reading) : Store → Run → Prop
  | kept (after : Store) (next : Run) (rows : after.jobRuns = store.jobRuns)
      (name : next.jobRunId = run.jobRunId) (before : isOver run = false)
      (pending : isOver next = false) : JobRunEffect store run reading after next
  | finished (outcome : JobOutcome) (phase : run.phase = .finishing outcome) :
      JobRunEffect store run reading
        (finishJobRun run.jobRunId outcome
          (if outcome = .skippedLocked then ⟨0, 0, 0⟩ else run.counts)
          (if outcome = .failed then some "error" else none) reading.wall store)
        { run with phase := if outcome = .skippedLocked then .finished else .releasing }
  | released (phase : run.phase = .releasing) :
      JobRunEffect store run reading (releaseLease run.runId store) { run with phase := .finished }

theorem claimLease_jobRuns {runId : Id} {now : Date} {claimed : Store}
    (claim : claimLease config runId now store = some claimed) :
    claimed.jobRuns = store.jobRuns := by
  unfold claimLease at claim
  split at claim
  · rw [← Option.some.inj claim]
  · cases claim

theorem renewLease_jobRuns (runId : Id) (now : Date) :
    (renewLease config runId now store).jobRuns = store.jobRuns := by
  unfold renewLease
  split <;> rfl

theorem releaseLease_jobRuns (runId : Id) :
    (releaseLease runId store).jobRuns = store.jobRuns := by
  unfold releaseLease
  split <;> rfl

theorem batchStep_jobRuns {batch : Batch} (phase : run.phase = .batch batch)
    (stepped : batchStep config others store run batch reading = some (after, next)) :
    JobRunEffect store run reading after next := by
  have before : isOver run = false := by simp [isOver, phase]
  by_cases done : batch.todo = []
  · unfold IncidentApi.batchStep at stepped
    simp only [done, Option.some.injEq, Prod.mk.injEq] at stepped
    obtain ⟨rfl, rfl⟩ := stepped
    refine .kept _ _ (by rw [view_eq]) ?_ before ?_
    · unfold afterBatch
      split <;> rfl
    · rcases (afterBatch_counts config run batch.length batch.last batch.escalations).2 with
        completed | renewing
      · simp [isOver, completed]
      · simp [isOver, renewing]
  · cases batchStep_effect phase stepped with
    | outside _ _ closed => simp [open_of_phase phase] at closed
    | committed other _ isBatch commits =>
      obtain rfl := Phase.batch.inj (phase.symm.trans isBatch)
      exact absurd commits done
    | _ => exact .kept _ _ rfl rfl before rfl

theorem runStep_jobRuns
    (stepped : runStep config others store run reading = some (after, next)) :
    JobRunEffect store run reading after next := by
  cases phase : run.phase with
  | batch batch =>
    simp only [IncidentApi.runStep, phase] at stepped
    exact batchStep_jobRuns phase stepped
  | finishing outcome =>
    simp only [IncidentApi.runStep, phase, Option.some.injEq, Prod.mk.injEq] at stepped
    obtain ⟨rfl, rfl⟩ := stepped
    exact .finished outcome phase
  | releasing =>
    simp only [IncidentApi.runStep, phase, Option.some.injEq, Prod.mk.injEq] at stepped
    obtain ⟨rfl, rfl⟩ := stepped
    exact .released phase
  | finished => simp [IncidentApi.runStep, phase] at stepped
  | renewing =>
    simp only [IncidentApi.runStep, phase, Option.some.injEq, Prod.mk.injEq] at stepped
    obtain ⟨rfl, rfl⟩ := stepped
    -- The lease renewed, the tiers or the recipients loaded: the table of job runs is not looked
    -- at.
    exact .kept _ _ (renewLease_jobRuns _ _) rfl (by simp [isOver, phase]) rfl
  | loadingTiers | loadingHigh | loadingCritical =>
    simp only [IncidentApi.runStep, phase, Option.some.injEq, Prod.mk.injEq] at stepped
    obtain ⟨rfl, rfl⟩ := stepped
    exact .kept _ _ rfl rfl (by simp [isOver, phase]) rfl
  | claiming =>
    simp only [IncidentApi.runStep, phase] at stepped
    split at stepped <;> simp only [Option.some.injEq, Prod.mk.injEq] at stepped <;>
      obtain ⟨rfl, rfl⟩ := stepped
    · exact .kept _ _ rfl rfl (by simp [isOver, phase]) rfl
    next claim =>
      split at claim
      · cases claim
      · exact .kept _ _ (claimLease_jobRuns claim) rfl (by simp [isOver, phase]) rfl
  | scanning =>
    have before : isOver run = false := by simp [isOver, phase]
    simp only [IncidentApi.runStep, phase] at stepped
    split at stepped
    · simp only [Option.some.injEq, Prod.mk.injEq] at stepped
      obtain ⟨rfl, rfl⟩ := stepped
      exact .kept _ _ rfl rfl before rfl
    -- An empty page ends the loop, and so does a short one after its batch.
    next last _ =>
      split at stepped <;> simp only [Option.some.injEq, Prod.mk.injEq] at stepped <;>
        obtain ⟨rfl, rfl⟩ := stepped
      · unfold afterBatch
        split <;> exact .kept _ _ rfl rfl before rfl
      · exact .kept _ _ rfl rfl before rfl

/-- A closed row that shows the counts. -/
structure ClosedAs (counts : Counts) (row : JobRun) : Prop where
  finished : row.finishedAt.isSome = true
  outcome : row.outcome.isSome = true
  scanned : row.scanned = counts.scanned
  escalated : row.escalated = counts.escalated
  notified : row.notified = counts.notified

/-- The row of a run is open until the run is past `finish`, then closed with its counts. A run that
has ended either was refused the lease or does not own it. -/
structure Entered (store : Store) (run : Run) : Prop where
  pending : isOver run = false →
    ∃ row ∈ store.jobRuns, row.id = run.jobRunId ∧ row.finishedAt = none
  closed : isOver run = true → ∃ row ∈ store.jobRuns, row.id = run.jobRunId ∧
    ClosedAs run.counts row ∧ (run.phase = .finished → row.outcome = some .skippedLocked ∨
      store.jobLease.ownerRunId ≠ some run.runId)

theorem Entered.runStep (entered : Entered store run) (ledger : Ledger store run scan)
    (stepped : runStep config others store run reading = some (after, next)) :
    Entered after next := by
  cases runStep_jobRuns stepped with
  | kept _ _ rows name before pending =>
    constructor
    · intro _
      rw [rows, name]
      exact entered.pending before
    · intro past
      simp [pending] at past
  | finished outcome phase =>
    -- The row is there and RUNNING up to now, so the conditional update finds it.
    obtain ⟨row, stored, own, still⟩ := entered.pending (by simp [isOver, phase])
    have past : isOver { run with
        phase := if outcome = .skippedLocked then Phase.finished else .releasing } = true := by
      simp only [isOver]
      split <;> simp_all
    refine ⟨fun before => by simp [past] at before, fun _ => ?_⟩
    refine ⟨_, List.mem_map.mpr ⟨row, stored, rfl⟩, ?_⟩
    rw [if_pos ⟨own, still⟩]
    refine ⟨own, ?_, ?_⟩
    · by_cases skipped : outcome = .skippedLocked
      · subst skipped
        -- A run that did not get the lease has counted nothing.
        rw [if_pos rfl, ← ledger.refused (.inr phase)]
        exact ⟨rfl, rfl, rfl, rfl, rfl⟩
      · refine ⟨rfl, rfl, ?_, ?_, ?_⟩ <;> simp only [if_neg skipped]
    · intro ended
      left
      -- Only a skipped run is over at once; any other has the lease to release.
      by_contra other
      have running : outcome ≠ .skippedLocked := fun skipped => other (congrArg some skipped)
      simp [running] at ended
  | released phase =>
    obtain ⟨row, stored, own, shows, -⟩ := entered.closed (by simp [isOver, phase])
    refine ⟨fun before => by simp [isOver] at before, fun _ => ⟨row, ?_, own, shows, fun _ => ?_⟩⟩
    · rw [releaseLease_jobRuns]
      exact stored
    -- Either the run no longer owns the lease, or the release has just emptied it.
    · right
      unfold releaseLease
      split
      · simp
      next foreign => exact foreign

/-! ### Other steps -/

/-- What a step that is not the run's own leaves of its rows and its lease. -/
structure Keeps (run : Run) (old new : Store) : Prop where
  rows : ∀ row ∈ old.jobRuns, row.id = run.jobRunId → row ∈ new.jobRuns
  owner : new.jobLease.ownerRunId = some run.runId → old.jobLease.ownerRunId = some run.runId
  events : old.escalationEvents.Sublist new.escalationEvents
  notifications : (old.notificationLog.map (·.key)).Sublist (new.notificationLog.map (·.key))

theorem Ledger.keeps (ledger : Ledger store run scan) (keeps : Keeps run store after) :
    Ledger after run scan :=
  { ledger with
    events := ledger.events.trans keeps.events
    notifications := ledger.notifications.trans keeps.notifications }

theorem Entered.keeps (entered : Entered store run) (keeps : Keeps run store after) :
    Entered after run := by
  constructor
  · intro before
    obtain ⟨row, stored, own, still⟩ := entered.pending before
    exact ⟨row, keeps.rows row stored own, own, still⟩
  · intro past
    obtain ⟨row, stored, own, shows, lease⟩ := entered.closed past
    refine ⟨row, keeps.rows row stored own, own, shows, fun ended => ?_⟩
    exact (lease ended).imp_right fun released owns => released (keeps.owner owns)

/-- A statement of another run, which has other ids. -/
theorem runStep_keeps {other : Run} (rowName : run.jobRunId ≠ other.jobRunId)
    (fresh : run.phase = .claiming → reading.id ≠ other.runId)
    (stepped : runStep config others store run reading = some (after, next)) :
    Keeps other store after where
  rows := by
    intro row stored own
    cases runStep_jobRuns stepped with
    | kept _ _ rows => exact rows ▸ stored
    | finished outcome phase =>
      -- `finishJobRun` updates the row of its own id, which is not the other's.
      refine List.mem_map.mpr ⟨row, stored, if_neg ?_⟩
      rintro ⟨same, -⟩
      exact rowName (same.symm.trans own)
    | released phase =>
      rw [releaseLease_jobRuns]
      exact stored
  owner := by
    cases runStep_lease stepped with
    | claimed _ _ phase _ _ lease =>
      intro owns
      rw [lease] at owns
      -- The claim writes the claiming run's own id into the lease, which is not the other's either.
      exact absurd (Option.some.inj owns) (fresh phase)
    | refused => exact id
    | renewed =>
      unfold renewLease
      split <;> exact id
    | released =>
      unfold releaseLease
      split
      · simp
      · exact id
    | passed _ _ _ lease => exact lease ▸ id
  events := by
    cases runStep_effect stepped with
    | outside _ _ _ _ tables => rw [tables.events]
    -- Rows are only ever appended, and only at a commit.
    | committed batch => exact view_events batch store ▸ List.sublist_append_left _ _
    | _ => exact .refl _
  notifications := by
    cases runStep_effect stepped with
    | outside _ _ _ _ tables => rw [tables.notifications]
    | committed batch =>
      rw [view_log, List.map_append]
      exact List.sublist_append_left _ _
    | _ => exact .refl _

end Statement

/-! ### Steps of the service -/

theorem create_jobRuns (store : Store) (actor : Actor) (input : CreateIncidentRequest)
    (image : Upload) (id : Id) (now wall : Date) (ids : Nat → Id) :
    (create store actor input image id now wall ids).2.jobRuns = store.jobRuns := by
  have inserted : ∀ imagePath,
      (create.insert store actor input id now wall ids imagePath).2.jobRuns = store.jobRuns := by
    intro imagePath
    simp only [create.insert]
    split <;> rfl
  unfold create
  split
  · rfl
  · split
    · rfl
    · exact inserted none
  · exact inserted _

/-- An action, as far as the runs and their rows go. -/
inductive AccountStep (config : JobConfig) (sys : System) (action : Action) (next : System) : Prop
  | still (runs : next.runs = sys.runs) (rows : next.store.jobRuns = sys.store.jobRuns)
      (lease : next.store.jobLease = sys.store.jobLease)
      (history : SameHistory sys.store next.store) (apart : Action.ofJob action = false)
  | started (jobRunId : Id) (startedAt : Date) (isStart : action = .startRun jobRunId startedAt)
      (store : next.store = startJobRun jobRunId startedAt sys.store)
      (runs : next.runs = sys.runs ++ [newRun jobRunId])
  | ran (k : Nat) (reading : Reading) (run after : Run) (isJob : action = .job k reading)
      (found : sys.runs[k]? = some run) (runs : next.runs = sys.runs.set k after)
      (stepped : runStep config (sys.othersWrites k) sys.store run reading =
        some (next.store, after))
  | dropped (k : Nat) (run after : Run) (isDrop : action = .interrupt k ∧ after = interruptRun run ∨
        action = .crash k ∧ after = { run with phase := .finished, failure := some .interrupted })
      (found : sys.runs[k]? = some run) (runs : next.runs = sys.runs.set k after)
      (store : next.store = sys.store)

theorem step_account {config : JobConfig} {sys next : System} {action : Action}
    (stepped : step config sys action = some next) : AccountStep config sys action next := by
  by_cases job : Action.ofJob action = true
  · cases action with
    | startRun jobRunId startedAt =>
      obtain rfl := Option.some.inj stepped
      exact .started jobRunId startedAt rfl rfl rfl
    | job k reading =>
      obtain ⟨run, found, running⟩ := Option.bind_eq_some_iff.mp stepped
      split at running
      · simp at running
      · obtain ⟨⟨store, after⟩, moved, rfl⟩ := Option.map_eq_some_iff.mp running
        exact .ran k reading run after rfl found rfl moved
    | interrupt k =>
      obtain ⟨run, found, rfl⟩ := Option.map_eq_some_iff.mp stepped
      exact .dropped k run _ (.inl ⟨rfl, rfl⟩) found rfl rfl
    | crash k =>
      obtain ⟨run, found, rfl⟩ := Option.map_eq_some_iff.mp stepped
      exact .dropped k run _ (.inr ⟨rfl, rfl⟩) found rfl rfl
    | _ => simp [Action.ofJob] at job
  · have service : Action.ofJob action = false := by simpa using job
    have frame := step_service service stepped
    -- Requests write neither of the two tables of the job.
    have apart : next.store.jobRuns = sys.store.jobRuns ∧
        next.store.jobLease = sys.store.jobLease := by
      cases step_effect service stepped with
      | created => exact ⟨create_jobRuns _ _ _ _ _ _ _ _, create_lease _ _ _ _ _ _ _ _⟩
      | committed k now wall ids request mutation after found free decided written =>
        obtain ⟨_, rfl⟩ := commitMutation_ok _ _ _ _ _ _ _ written
        exact ⟨rfl, rfl⟩
      | committedClearance k now wall ids request affected after found read free changes written =>
        obtain ⟨_, rfl, _⟩ := commitClearance_ok written
        exact ⟨rfl, rfl⟩
      | _ => exact ⟨rfl, rfl⟩
    exact .still frame.runs apart.1 apart.2 frame.history service

/-! ### Names -/

/-- The database gives a `JobRun` an id of its own, and `newId()` a claim. -/
def FreshJobIds (state : ScannedSystem) (action : Action) : Prop :=
  (∀ jobRunId startedAt, action = .startRun jobRunId startedAt →
    jobRunId ∉ state.sys.store.jobRuns.map (·.id)) ∧
  ∀ k reading run, action = .job k reading → state.sys.runs[k]? = some run →
    run.phase = .claiming → ∀ other ∈ state.sys.runs, reading.id ≠ other.runId

structure JobNames (sys : System) : Prop where
  distinct : (sys.runs.map (·.jobRunId)).Nodup
  stored : ∀ run ∈ sys.runs, run.jobRunId ∈ sys.store.jobRuns.map (·.id)

theorem map_set_same {S T : Type} (f : S → T) {slots : List S} {k : Nat} {slot new : S}
    (found : slots[k]? = some slot) (same : f new = f slot) :
    (slots.set k new).map f = slots.map f := by
  obtain ⟨bound, rfl⟩ := List.getElem?_eq_some_iff.mp found
  rw [List.map_set, same, ← List.getElem_map f (h := by simpa using bound), List.set_getElem_self]

theorem JobNames.apart {sys : System} (names : JobNames sys) {j k : Nat} {run other : Run}
    (found : sys.runs[j]? = some run) (present : sys.runs[k]? = some other) (differ : j ≠ k) :
    run.jobRunId ≠ other.jobRunId := by
  intro same
  have first : (sys.runs.map (·.jobRunId))[j]? = some run.jobRunId := by
    rw [List.getElem?_map, found, Option.map_some]
  have second : (sys.runs.map (·.jobRunId))[k]? = some run.jobRunId := by
    rw [List.getElem?_map, present, Option.map_some, same]
  exact differ ((List.getElem?_inj (List.getElem?_eq_some_iff.mp first).1 names.distinct).mp
    (first.trans second.symm))

theorem JobRunEffect.names {store after : Store} {run next : Run} {reading : Reading}
    (effect : JobRunEffect store run reading after next) :
    next.jobRunId = run.jobRunId ∧
      after.jobRuns.map (·.id) = store.jobRuns.map (·.id) := by
  cases effect with
  | kept _ _ rows name => exact ⟨name, by rw [rows]⟩
  | finished outcome phase =>
    refine ⟨rfl, ?_⟩
    simp only [finishJobRun, List.map_map]
    refine List.map_congr_left fun row _ => ?_
    simp only [Function.comp_apply]
    split <;> rfl
  | released phase => exact ⟨rfl, by rw [releaseLease_jobRuns]⟩

theorem interruptRun_names (run : Run) : (interruptRun run).jobRunId = run.jobRunId := by
  unfold interruptRun
  split <;> rfl

theorem JobNames.step {config : JobConfig} {state : ScannedSystem} {next : System} {action : Action}
    (names : JobNames state.sys) (fresh : FreshJobIds state action)
    (stepped : step config state.sys action = some next) : JobNames next := by
  cases step_account stepped with
  | still runs rows =>
    constructor
    · rw [runs]
      exact names.distinct
    · rw [runs, rows]
      exact names.stored
  | started jobRunId startedAt isStart store runs =>
    -- A new id: no earlier run's row, and so no earlier run, has it.
    have unused := fresh.1 jobRunId startedAt isStart
    constructor
    · rw [runs, List.map_append, List.map_singleton]
      refine List.nodup_append.mpr ⟨names.distinct, List.nodup_singleton _, ?_⟩
      rintro name old _ only rfl
      obtain ⟨run, member, rfl⟩ := List.mem_map.mp old
      have same : run.jobRunId = jobRunId := List.mem_singleton.mp only
      exact unused (same ▸ names.stored run member)
    · rw [runs, store]
      intro run member
      simp only [startJobRun, List.map_append, List.mem_append]
      rcases List.mem_append.mp member with old | new
      · exact .inl (names.stored run old)
      · rw [List.mem_singleton.mp new]
        exact .inr (by simp [newRun])
  | ran k reading run after isJob found runs moved =>
    obtain ⟨name, rows⟩ := (runStep_jobRuns moved).names
    constructor
    · rw [runs, map_set_same (·.jobRunId) found name]
      exact names.distinct
    · rw [runs, rows]
      exact Pool.forall_set names.stored k
        (name ▸ names.stored run (List.mem_of_getElem? found))
  | dropped k run after isDrop found runs store =>
    have name : after.jobRunId = run.jobRunId := by
      rcases isDrop with ⟨-, rfl⟩ | ⟨-, rfl⟩
      · exact interruptRun_names run
      -- Interrupted or dropped, a run keeps the id of its row.
      · rfl
    constructor
    · rw [runs, map_set_same (·.jobRunId) found name]
      exact names.distinct
    · rw [runs, store]
      exact Pool.forall_set names.stored k
        (name ▸ names.stored run (List.mem_of_getElem? found))

/-! ### Every run -/

/-- The run is inside the `try` of `runEscalationJob`: it has claimed the lease and is not yet
finishing. -/
def insideTry (run : Run) : Bool :=
  match run.phase with
  | .loadingTiers | .loadingHigh | .loadingCritical | .scanning | .batch _ | .renewing => true
  | _ => false

/-- A statement of the run throws inside the `try` or not at all, and its process lives. -/
def ThrowsInside (k : Nat) (state : ScannedSystem) (action : Action) : Prop :=
  FreshJobIds state action ∧ action ≠ .crash k ∧ (action = .interrupt k →
    ∀ run, state.sys.runs[k]? = some run → insideTry run = true)

structure Balanced (k : Nat) (state : ScannedSystem) : Prop where
  names : JobNames state.sys
  unread : state.sys.runs.length ≤ k → state.scans k = .start
  run : ∀ run, state.sys.runs[k]? = some run →
    Ledger state.sys.store run (state.scans k) ∧ Entered state.sys.store run

theorem interruptRun_inside {run : Run} (inside : insideTry run = true) :
    interruptRun run = { run with phase := .finishing .failed, failure := some .interrupted } := by
  cases phase : run.phase <;> simp_all [insideTry, interruptRun]

theorem isOver_inside {run : Run} (inside : insideTry run = true) : isOver run = false := by
  cases phase : run.phase <;> simp_all [insideTry, isOver]

theorem newRun_accounts (jobRunId : Id) (startedAt : Date) (store : Store) :
    Ledger (startJobRun jobRunId startedAt store) (newRun jobRunId) .start ∧
      Entered (startJobRun jobRunId startedAt store) (newRun jobRunId) := by
  constructor
  · constructor <;> simp [newRun, Scan.start]
  · refine ⟨fun _ => ⟨_, List.mem_append_right _ (List.mem_singleton_self _), rfl, rfl⟩, ?_⟩
    simp [newRun, isOver]

theorem Balanced.keeps {k : Nat} {state next : ScannedSystem} (balanced : Balanced k state)
    (names : JobNames next.sys) (scans : next.scans k = state.scans k)
    (length : next.sys.runs.length = state.sys.runs.length)
    (same : next.sys.runs[k]? = state.sys.runs[k]?)
    (keeps : ∀ run, state.sys.runs[k]? = some run → Keeps run state.sys.store next.sys.store) :
    Balanced k next where
  names := names
  unread late := scans.trans (balanced.unread (length ▸ late))
  run run found := by
    rw [same] at found
    obtain ⟨ledger, entered⟩ := balanced.run run found
    exact ⟨scans ▸ ledger.keeps (keeps run found), entered.keeps (keeps run found)⟩

/-- The run has moved, and its balance is drawn again. -/
theorem Balanced.moved {k : Nat} {state : ScannedSystem} {sys : System} {scans : Nat → Scan}
    {run after : Run} (names : JobNames sys) (found : state.sys.runs[k]? = some run)
    (runs : sys.runs = state.sys.runs.set k after)
    (drawn : Ledger sys.store after (scans k) ∧ Entered sys.store after) :
    Balanced k ⟨sys, scans⟩ := by
  have bound := (List.getElem?_eq_some_iff.mp found).1
  refine ⟨names, fun late => absurd late ?_, fun current now => ?_⟩
  · rw [runs, List.length_set]
    exact Nat.not_le.mpr bound
  · rw [runs, List.getElem?_set_self bound] at now
    exact Option.some.inj now ▸ drawn

/-- A run has started, this one or another. -/
theorem Balanced.started {k : Nat} {state : ScannedSystem} (balanced : Balanced k state)
    {sys : System} (names : JobNames sys) {jobRunId : Id} {startedAt : Date}
    (store : sys.store = startJobRun jobRunId startedAt state.sys.store)
    (runs : sys.runs = state.sys.runs ++ [newRun jobRunId]) : Balanced k ⟨sys, state.scans⟩ := by
  refine ⟨names, fun late => ?_, fun run found => ?_⟩
  · rw [runs, List.length_append] at late
    exact balanced.unread (Nat.le_of_add_right_le late)
  · rw [runs, List.getElem?_append] at found
    dsimp only
    rw [store]
    split at found
    · obtain ⟨ledger, entered⟩ := balanced.run run found
      have keeps : Keeps run state.sys.store (startJobRun jobRunId startedAt state.sys.store) :=
        ⟨fun row stored _ => List.mem_append_left _ stored, id, .refl _, .refl _⟩
      exact ⟨ledger.keeps keeps, entered.keeps keeps⟩
    next late =>
      obtain rfl := List.mem_singleton.mp (List.mem_of_getElem? found)
      rw [balanced.unread (Nat.le_of_not_lt late)]
      exact newRun_accounts jobRunId startedAt state.sys.store

/-- A run that throws inside the `try` goes on to `finish` with what it has counted. -/
theorem interruptRun_accounts {store : Store} {run : Run} {scan : Scan}
    (ledger : Ledger store run scan) (entered : Entered store run)
    (inside : insideTry run = true) :
    Ledger store (interruptRun run) scan ∧ Entered store (interruptRun run) := by
  have before := isOver_inside inside
  have stays : Scan.stored store store scan = scan := Scan.stored_same rfl rfl
  rw [interruptRun_inside inside]
  constructor
  · rw [← stays]
    exact ledger.moved scan.page rfl rfl rfl rfl (by simp) (by simp)
  · exact ⟨fun _ => entered.pending before, by simp [isOver]⟩

theorem Balanced.step {config : JobConfig} {k : Nat} {state next : ScannedSystem} {action : Action}
    (balanced : Balanced k state) (inside : ThrowsInside k state action)
    (stepped : scanningStep config state action = some next) : Balanced k next := by
  obtain ⟨sys, moved, rfl⟩ := Option.map_eq_some_iff.mp stepped
  have names := balanced.names.step inside.1 moved
  cases step_account moved with
  | still runs rows lease history apart =>
    have scans : state.after config sys action = state.scans := by
      cases action <;> first | rfl | simp [Action.ofJob] at apart
    -- Nothing of any run moves and nothing is taken from the tables.
    refine balanced.keeps names (congrFun scans k) (by rw [runs]) (by rw [runs]) fun run found => ?_
    exact ⟨fun row stored _ => rows ▸ stored, fun owns => lease ▸ owns,
      history.events ▸ .refl _, history.notifications ▸ .refl _⟩
  | started jobRunId startedAt isStart store runs =>
    have scans : state.after config sys action = state.scans := by rw [isStart]; rfl
    rw [scans]
    exact balanced.started names store runs
  | ran j reading run after isJob found runs effect =>
    have scans : state.after config sys action = Function.update state.scans j
        (((state.scans j).after config state.sys.store run reading).stored state.sys.store
          sys.store) := by
      simp only [ScannedSystem.after, isJob, found]
    rw [scans]
    -- The run that moved keeps its own account; for any other, its step takes away nothing that
    -- counts.
    by_cases own : j = k
    · subst own
      obtain ⟨ledger, entered⟩ := balanced.run run found
      refine Balanced.moved names found runs ?_
      rw [Function.update_self]
      exact ⟨ledger.runStep effect, entered.runStep ledger effect⟩
    · refine balanced.keeps names (Function.update_of_ne (Ne.symm own) ..)
        (by rw [runs, List.length_set]) (by rw [runs, List.getElem?_set_ne own])
        fun other present => ?_
      exact runStep_keeps (balanced.names.apart found present own)
        (fun claiming => inside.1.2 j reading run isJob found claiming other
          (List.mem_of_getElem? present)) effect
  | dropped j run after isDrop found runs store =>
    have scans : state.after config sys action = state.scans := by
      rcases isDrop with ⟨rfl, -⟩ | ⟨rfl, -⟩ <;> rfl
    rw [scans]
    by_cases own : j = k
    · subst own
      -- Interrupted, it goes on into its `finally`; `inside` rules out that the whole process is
      -- gone.
      rcases isDrop with ⟨interrupted, rfl⟩ | ⟨crashed, -⟩
      · obtain ⟨ledger, entered⟩ := balanced.run run found
        refine Balanced.moved names found runs ?_
        rw [store]
        exact interruptRun_accounts ledger entered (inside.2.2 interrupted run found)
      · exact absurd crashed inside.2.1
    · refine balanced.keeps names rfl (by rw [runs, List.length_set])
        (by rw [runs, List.getElem?_set_ne own]) fun other present => ?_
      dsimp only at store ⊢
      rw [store]
      exact ⟨fun row stored _ => stored, id, .refl _, .refl _⟩

theorem Balanced.boot (k : Nat) (start : Store) (issued : List Id) :
    Balanced k (ScannedSystem.boot start issued) where
  names := ⟨List.nodup_nil, by simp [ScannedSystem.boot, System.boot]⟩
  unread _ := rfl
  run run found := by simp [ScannedSystem.boot, System.boot] at found

/-- The row of a run that has ended: closed, with the numbers of what the run has committed and
scanned. What it has committed is what its statements have stored, neither less nor more. The lease
is not the run's. -/
structure Accounted (state : ScannedSystem) (k : Nat) (run : Run) (row : JobRun) : Prop where
  own : row.id = run.jobRunId
  finished : row.finishedAt.isSome = true
  outcome : row.outcome.isSome = true
  escalated : row.escalated = run.committed.length
  notified : row.notified = (run.committed.map (·.notifications.length)).sum
  scanned : row.scanned = ((state.scans k).done.map List.length).sum
  inserted : (state.scans k).events = run.committed.map (·.event)
  sent : (state.scans k).notifications = run.committed.flatMap (·.notifications)
  events : (run.committed.map (·.event)).Sublist state.sys.store.escalationEvents
  notifications : (run.committed.flatMap fun made => made.notifications.map (·.key)).Sublist
    (state.sys.store.notificationLog.map (·.key))
  lease : row.outcome = some .skippedLocked ∨
    state.sys.store.jobLease.ownerRunId ≠ some run.runId

theorem Balanced.accounted {k : Nat} {state : ScannedSystem} (balanced : Balanced k state)
    {run : Run} (found : state.sys.runs[k]? = some run) (ended : run.phase = .finished) :
    ∃ row ∈ state.sys.store.jobRuns, Accounted state k run row := by
  obtain ⟨ledger, entered⟩ := balanced.run run found
  obtain ⟨row, stored, own, shows, lease⟩ := entered.closed (by simp [isOver, ended])
  exact ⟨row, stored, own, shows.finished, shows.outcome, shows.escalated.trans ledger.escalated,
    shows.notified.trans ledger.notified, shows.scanned.trans ledger.scanned, ledger.inserted,
    ledger.sent, ledger.events, ledger.notifications, lease ended⟩

theorem runs_statement (config : JobConfig) {k : Nat} {state : ScannedSystem}
    {run next : Run} {store : Store} (reading : Reading) (found : state.sys.runs[k]? = some run)
    (idle : drawsEventId run = false)
    (moved : runStep config (state.sys.othersWrites k) state.sys.store run reading =
      some (store, next)) :
    ∃ after, scanningStep config state (.job k reading) = some after ∧
      after.sys.runs[k]? = some next := by
  have bound := (List.getElem?_eq_some_iff.mp found).1
  let moves : System := { state.sys with store := store, runs := state.sys.runs.set k next }
  refine ⟨⟨moves, state.after config moves (.job k reading)⟩, ?_, List.getElem?_set_self bound⟩
  simp only [scanningStep, step, found, Option.bind_some, idle, moved, Bool.false_eq_true,
    false_and, if_false, Option.map_some, moves]

/-- After a throw inside the `try`, `finish` and the release are all that is left of the run. -/
theorem throw_ends (config : JobConfig) {k : Nat} {state : ScannedSystem} {run : Run}
    (found : state.sys.runs[k]? = some run) (inside : insideTry run = true)
    (first second : Reading) :
    ∃ ended done, Machine.exec (scanningStep config) (fun _ _ => true) state
        [.interrupt k, .job k first, .job k second] = some ended ∧
      ended.sys.runs[k]? = some done ∧ done.phase = .finished := by
  have bound := (List.getElem?_eq_some_iff.mp found).1
  let failing : Run := { run with phase := .finishing .failed, failure := some .interrupted }
  obtain ⟨thrown, throws, failed⟩ : ∃ thrown, scanningStep config state (.interrupt k) =
      some thrown ∧ thrown.sys.runs[k]? = some failing := by
    let throws : System := { state.sys with runs := state.sys.runs.set k failing }
    refine ⟨⟨throws, state.after config throws (.interrupt k)⟩, ?_,
      List.getElem?_set_self bound⟩
    simp only [scanningStep, step, found, Option.map_some, interruptRun_inside inside]
    rfl
  obtain ⟨closed, closes, releasing⟩ := runs_statement config first failed rfl rfl
  obtain ⟨ended, ends, finished⟩ := runs_statement config second releasing rfl rfl
  refine ⟨ended, _, ?_, finished, rfl⟩
  simp only [Machine.exec, if_true, throws, closes, ends, Option.bind_some]

/-! ### A claim that throws -/

/-- The run has ended and its row is still open. -/
def LeftOpen (k : Nat) (name : Id) (state : ScannedSystem) : Prop :=
  JobNames state.sys ∧
    (∃ run, state.sys.runs[k]? = some run ∧ run.jobRunId = name ∧ run.phase = .finished) ∧
    ∃ row ∈ state.sys.store.jobRuns, row.id = name ∧ row.finishedAt = none

theorem LeftOpen.step {config : JobConfig} {k : Nat} {name : Id} {state next : ScannedSystem}
    {action : Action} (left : LeftOpen k name state) (fresh : FreshJobIds state action)
    (stepped : scanningStep config state action = some next) : LeftOpen k name next := by
  obtain ⟨sys, moved, rfl⟩ := Option.map_eq_some_iff.mp stepped
  obtain ⟨names, ⟨run, found, rfl, ended⟩, row, stored, own, still⟩ := left
  refine ⟨names.step fresh moved, ?_⟩
  cases step_account moved with
  -- Run `k` is at its end, so no step moves it, and what others do keeps its row RUNNING.
  | still runs rows =>
    dsimp only
    rw [runs, rows]
    exact ⟨⟨run, found, rfl, ended⟩, row, stored, own, still⟩
  | started jobRunId startedAt isStart store runs =>
    dsimp only
    have bound := (List.getElem?_eq_some_iff.mp found).1
    rw [runs, store, List.getElem?_append_left bound]
    exact ⟨⟨run, found, rfl, ended⟩, row, List.mem_append_left _ stored, own, still⟩
  | ran j reading other after isJob present runs effect =>
    by_cases same : j = k
    · subst same
      obtain rfl := Option.some.inj (present.symm.trans found)
      simp [runStep, ended] at effect
    -- `finishJobRun` of another run is about another row.
    · have keeps := runStep_keeps (names.apart present found same)
        (fun claiming => fresh.2 j reading other isJob present claiming run
          (List.mem_of_getElem? found)) effect
      dsimp only
      rw [runs, List.getElem?_set_ne same]
      exact ⟨⟨run, found, rfl, ended⟩, row, keeps.rows row stored own, own, still⟩
  | dropped j other after isDrop present runs store =>
    dsimp only
    rw [runs, store]
    refine ⟨?_, row, stored, own, still⟩
    by_cases same : j = k
    · subst same
      obtain rfl := Option.some.inj (present.symm.trans found)
      have bound := (List.getElem?_eq_some_iff.mp found).1
      refine ⟨after, List.getElem?_set_self bound, ?_⟩
      rcases isDrop with ⟨-, rfl⟩ | ⟨-, rfl⟩
      · refine ⟨interruptRun_names other, ?_⟩
        simp [interruptRun, ended]
      · exact ⟨rfl, rfl⟩
    · rw [List.getElem?_set_ne same]
      exact ⟨run, found, rfl, ended⟩

/-- The claim is made outside the `try`. -/
theorem claim_throw_leaves_open {config : JobConfig} {k : Nat}
    {state next later : ScannedSystem} {run : Run} (balanced : Balanced k state)
    (found : state.sys.runs[k]? = some run) (claiming : run.phase = .claiming)
    (thrown : scanningStep config state (.interrupt k) = some next)
    (reached : Machine.Reaches (scanningStep config) FreshJobIds next later) :
    ∃ row ∈ later.sys.store.jobRuns, row.id = run.jobRunId ∧ row.finishedAt = none := by
  refine (reached.invariant (LeftOpen k run.jobRunId) ?_ (fun before action after _ left fresh
    stepped => left.step fresh stepped) later).2.2
  obtain ⟨sys, moved, rfl⟩ := Option.map_eq_some_iff.mp thrown
  have fresh : FreshJobIds state (.interrupt k) := by
    constructor
    · intro _ _ isStart
      cases isStart
    · intro _ _ _ isJob
      cases isJob
  have names := balanced.names.step fresh moved
  obtain ⟨-, entered⟩ := balanced.run run found
  obtain ⟨row, stored, own, still⟩ := entered.pending (by simp [isOver, claiming])
  have bound := (List.getElem?_eq_some_iff.mp found).1
  simp only [step, found, Option.map_some, Option.some.injEq] at moved
  subst moved
  refine ⟨names, ⟨interruptRun run, List.getElem?_set_self bound, interruptRun_names run, ?_⟩,
    row, stored, own, still⟩
  simp [interruptRun, claiming]

/-! ### Every throw -/

/-- A run whose throws all lie inside the `try` is accounted for when it has ended, and every such
throw leads there. A run whose claim throws is not: its row stays open. -/
theorem throws_accounted_inside_try (config : JobConfig) (start : Store) (issued : List Id)
    (k : Nat) (state : ScannedSystem)
    (reached : Machine.Reaches (scanningStep config) (ThrowsInside k)
      (ScannedSystem.boot start issued) state)
    (run : Run) (found : state.sys.runs[k]? = some run) :
    (run.phase = .finished → ∃ row ∈ state.sys.store.jobRuns, Accounted state k run row) ∧
    (insideTry run = true → ∀ first second, ∃ ended done,
      Machine.exec (scanningStep config) (fun _ _ => true) state
        [.interrupt k, .job k first, .job k second] = some ended ∧
      ended.sys.runs[k]? = some done ∧ done.phase = .finished) ∧
    (run.phase = .claiming → ∀ next, scanningStep config state (.interrupt k) = some next →
      ∀ later, Machine.Reaches (scanningStep config) FreshJobIds next later →
        ∃ row ∈ later.sys.store.jobRuns, row.id = run.jobRunId ∧ row.finishedAt = none) := by
  have balanced : Balanced k state :=
    reached.invariant (Balanced k) (.boot k start issued)
      (fun _ _ _ _ balanced inside stepped => balanced.step inside stepped) state
  refine ⟨balanced.accounted found, ?_, ?_⟩
  · intro inside first second
    exact throw_ends config found inside first second
  · intro claiming next thrown later onward
    exact claim_throw_leaves_open balanced found claiming thrown onward

def throwsInside (k : Nat) (state : ScannedSystem) (action : Action) : Bool :=
  (match action with
  | .startRun jobRunId _ => jobRunId ∉ state.sys.store.jobRuns.map (·.id)
  | .job _ reading => state.sys.runs.all fun run => reading.id != run.runId
  | .interrupt j => j != k || (state.sys.runs[k]?).all insideTry
  | .crash j => j != k
  | _ => true)

theorem throwsInside_sound (k : Nat) (state : ScannedSystem) (action : Action)
    (passed : throwsInside k state action = true) : ThrowsInside k state action := by
  refine ⟨⟨?_, ?_⟩, ?_, ?_⟩
  · rintro jobRunId startedAt rfl
    exact of_decide_eq_true passed
  · rintro j reading run rfl _ _ other among
    simpa using List.all_eq_true.mp passed other among
  · rintro rfl
    simp [throwsInside] at passed
  · rintro rfl run found
    simpa [throwsInside, found] using passed

def hasEnded (run : Run) : Bool :=
  match run.phase with
  | .finished => true
  | _ => false

theorem hasEnded_phase {run : Run} (ended : hasEnded run = true) : run.phase = .finished := by
  cases phase : run.phase <;> simp_all [hasEnded]

/-- The first page commits, and a statement of the second one throws. -/
def throwsOnSecondPage : List Action :=
  .startRun "j0" 900000 :: jobSteps 1 900000 "r0" ++ jobSteps 10 900000 "e0" ++
    jobSteps 4 1800000 "e1" ++ [.interrupt 0] ++ jobSteps 2 1800000 "w0"

theorem throws_accounted_inside_try_sample :
    ∃ state run, Machine.exec (scanningStep sampleConfig) (throwsInside 0)
        (ScannedSystem.boot sampleStore []) throwsOnSecondPage = some state ∧
      state.sys.runs[0]? = some run ∧ run.committed.length = 1 ∧
      (state.scans 0).done.map List.length = [1] ∧
      ∃ row ∈ state.sys.store.jobRuns, Accounted state 0 run row := by
  have ran : (Machine.exec (scanningStep sampleConfig) (throwsInside 0)
      (ScannedSystem.boot sampleStore []) throwsOnSecondPage).any (fun state =>
        (state.sys.runs[0]?).any fun run => decide (hasEnded run = true ∧
          run.committed.length = 1 ∧ (state.scans 0).done.map List.length = [1])) = true := by
    decide
  obtain ⟨state, executed, facts⟩ := Option.any_eq_true _ _ |>.mp ran
  obtain ⟨run, found, fields⟩ := Option.any_eq_true _ _ |>.mp facts
  obtain ⟨ended, committed, scanned⟩ := of_decide_eq_true fields
  refine ⟨state, run, executed, found, committed, scanned, ?_⟩
  exact (throws_accounted_inside_try sampleConfig sampleStore [] 0 state
    (Machine.reaches_of_exec _ (throwsInside_sound 0) _ _ _ executed) run found).1
    (hasEnded_phase ended)

/-- A statement of the run throws after its `JobRun` row is there and before `finish`. -/
def ThrowsAfterStart (k : Nat) (state : ScannedSystem) (action : Action) : Prop :=
  FreshJobIds state action ∧ action ≠ .crash k ∧ (action = .interrupt k →
    ∀ run, state.sys.runs[k]? = some run → run.phase = .claiming ∨ insideTry run = true)

/-- The claim of a run throws, and the run ends with its row open. -/
theorem claim_throw_unaccounted :
    ¬ ∀ (config : JobConfig) (start : Store) (issued : List Id) (k : Nat) (state : ScannedSystem),
      Machine.Reaches (scanningStep config) (ThrowsAfterStart k) (ScannedSystem.boot start issued)
        state →
      ∀ run, state.sys.runs[k]? = some run → run.phase = .finished →
        ∃ row ∈ state.sys.store.jobRuns, Accounted state k run row := by
  intro accounted
  -- The run has only written its row; the claim, outside the `try`, throws.
  let started : ScannedSystem :=
    ⟨{ System.boot staffedStore [] with
      store := startJobRun "j0" 0 staffedStore, runs := [newRun "j0"] }, fun _ => .start⟩
  let thrown : ScannedSystem :=
    ⟨{ started.sys with runs := [interruptRun (newRun "j0")] }, fun _ => .start⟩
  have starts : Machine.Reaches (scanningStep sampleConfig) (ThrowsAfterStart 0)
      (ScannedSystem.boot staffedStore []) started := by
    refine .next _ _ (.startRun "j0" 0) .start ⟨⟨?_, ?_⟩, ?_, ?_⟩ rfl
    · rintro jobRunId startedAt _
      exact List.not_mem_nil
    · rintro k reading run isJob
      cases isJob
    · rintro isCrash
      cases isCrash
    · rintro isInterrupt
      cases isInterrupt
  have throws : Machine.Reaches (scanningStep sampleConfig) (ThrowsAfterStart 0)
      (ScannedSystem.boot staffedStore []) thrown := by
    refine .next _ _ (.interrupt 0) starts ⟨⟨?_, ?_⟩, ?_, ?_⟩ rfl
    · rintro jobRunId startedAt isStart
      cases isStart
    · rintro k reading run isJob
      cases isJob
    · rintro isCrash
      cases isCrash
    · rintro _ run found
      exact .inl (Option.some.inj found ▸ rfl)
  obtain ⟨row, stored, closed⟩ :=
    accounted sampleConfig staffedStore [] 0 thrown throws (interruptRun (newRun "j0")) rfl rfl
  obtain rfl := List.mem_singleton.mp stored
  exact absurd closed.finished (by decide)

end IncidentApi.Properties
