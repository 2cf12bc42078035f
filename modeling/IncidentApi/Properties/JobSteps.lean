import IncidentApi.Properties.Frames

/-!
# What one statement of a run does

`RunEffect` says once what each kind of statement can do to the store and to its run, with the
conditions it was taken under; the invariants of the job are proved by its cases.
-/
namespace IncidentApi.Properties

/-! ### What a batch has written -/

/-- The event of the pair in progress, once its insert has returned a row. -/
def insertedBy : Statement → List EscalationEvent
  | .select => []
  | .conflict _ => []
  | .notify inserted => [inserted]
  | .audit inserted _ => [inserted]
  | .bump inserted _ _ => [inserted]

/-- The event id the pair in progress has drawn. -/
def drawnBy : Statement → List Id
  | .select => []
  | .conflict drawn => [drawn.id]
  | .notify inserted => [inserted.id]
  | .audit inserted _ => [inserted.id]
  | .bump inserted _ _ => [inserted.id]

def rowsBy : Statement → List NotificationLog
  | .audit _ rows => rows
  | .bump _ rows _ => rows
  | _ => []

def recordsBy : Statement → List AuditEvent
  | .bump _ _ record => [record]
  | _ => []

@[simp] theorem rowsBy_select : rowsBy .select = [] := rfl

@[simp] theorem recordsBy_select : recordsBy .select = [] := rfl

def batchEvents (batch : Batch) : List EscalationEvent :=
  batch.escalations.map (·.event) ++ insertedBy batch.statement

def batchDrawn (batch : Batch) : List Id :=
  batch.escalations.map (·.event.id) ++ drawnBy batch.statement

theorem eventsOf_batch (batch : Batch) : eventsOf batch.writes = batchEvents batch := by
  have done : ∀ escalations : List Escalation,
      eventsOf (escalations.flatMap (·.writes batch.now)) = escalations.map (·.event) := by
    intro escalations
    induction escalations with
    | nil => rfl
    | cons first rest ih =>
      rw [List.flatMap_cons, eventsOf_append, ih]
      cases bumped : first.bumped <;> simp [Escalation.writes, eventsOf, bumped]
  rw [Batch.writes, eventsOf_append, done, batchEvents]
  cases batch.statement <;> rfl

theorem notificationsOf_batch (batch : Batch) : notificationsOf batch.writes =
    batch.escalations.flatMap (·.notifications) ++ rowsBy batch.statement := by
  have done : ∀ escalations : List Escalation,
      notificationsOf (escalations.flatMap (·.writes batch.now)) =
        escalations.flatMap (·.notifications) := by
    intro escalations
    induction escalations with
    | nil => rfl
    | cons first rest ih =>
      rw [List.flatMap_cons, notificationsOf_append, ih]
      cases bumped : first.bumped <;> simp [Escalation.writes, notificationsOf, bumped]
  rw [Batch.writes, notificationsOf_append, done]
  cases batch.statement <;> simp [Statement.writes, notificationsOf, rowsBy]

theorem auditsOf_batch (batch : Batch) : auditsOf batch.writes =
    batch.escalations.map (·.audit) ++ recordsBy batch.statement := by
  have done : ∀ escalations : List Escalation,
      auditsOf (escalations.flatMap (·.writes batch.now)) = escalations.map (·.audit) := by
    intro escalations
    induction escalations with
    | nil => rfl
    | cons first rest ih =>
      rw [List.flatMap_cons, auditsOf_append, ih]
      cases bumped : first.bumped <;> simp [Escalation.writes, auditsOf, bumped]
  rw [Batch.writes, auditsOf_append, done]
  cases batch.statement <;> rfl

theorem view_eq (batch : Batch) (store : Store) :
    batch.view store =
      { store with
        incidents := store.incidents.map (bumpedBy batch.writes)
        escalationEvents := store.escalationEvents ++ batchEvents batch
        notificationLog := store.notificationLog ++
          (batch.escalations.flatMap (·.notifications) ++ rowsBy batch.statement)
        auditEvents := store.auditEvents ++
          (batch.escalations.map (·.audit) ++ recordsBy batch.statement) } := by
  rw [Batch.view, applyAll_eq, eventsOf_batch, notificationsOf_batch, auditsOf_batch]

def runEvents (run : Run) : List EscalationEvent := (run.open?.map batchEvents).getD []

def runDrawn (run : Run) : List Id := (run.open?.map batchDrawn).getD []

theorem eventsOf_run (run : Run) : eventsOf run.writes = runEvents run := by
  unfold Run.writes runEvents
  cases run.open? with
  | none => rfl
  | some batch => exact eventsOf_batch batch

theorem eventsOf_runs (runs : List Run) :
    eventsOf (runs.flatMap Run.writes) = runs.flatMap runEvents := by
  induction runs with
  | nil => rfl
  | cons run rest ih => rw [List.flatMap_cons, eventsOf_append, ih, eventsOf_run, List.flatMap_cons]

theorem any_pendingKey (writes : List Write) (key : Id × Nat × Nat) :
    writes.any (pendingKey key) = false ↔ ∀ event ∈ eventsOf writes, event.key ≠ key := by
  induction writes with
  | nil => simp [eventsOf]
  | cons write rest ih =>
    cases write <;> simp_all [pendingKey, eventsOf]

/-! ### One statement -/

/-- A run that is still reading its tiers and recipients. -/
def isLoading (run : Run) : Bool :=
  match run.phase with
  | .claiming | .loadingTiers | .loadingHigh | .loadingCritical => true
  | _ => false

/-- The tables other than `JobRun` and `JobLease`. -/
structure SameTables (old new : Store) : Prop where
  users : new.users = old.users
  incidents : new.incidents = old.incidents
  tiers : new.escalationTiers = old.escalationTiers
  events : new.escalationEvents = old.escalationEvents
  notifications : new.notificationLog = old.notificationLog
  audits : new.auditEvents = old.auditEvents
  notes : new.notes = old.notes

theorem SameTables.refl (store : Store) : SameTables store store :=
  ⟨rfl, rfl, rfl, rfl, rfl, rfl, rfl⟩

inductive RunEffect (config : JobConfig) (others : List Write) (store : Store) (run : Run)
    (reading : Reading) : Store → Run → Prop
  | outside (after : Store) (next : Run) (closed : run.open? = none) (still : next.open? = none)
      (tables : SameTables store after) (log : next.committed = run.committed)
      (failure : next.failure = run.failure)
      (recipients : isLoading run = true ∨ next.recipients = run.recipients)
      (loading : isLoading next = true → isLoading run = true)
      (tiers : next.tiers = run.tiers ∨ next.tiers = activeTiers store) :
      RunEffect config others store run reading after next
  | opened (batch : Batch) (scanning : run.phase = .scanning)
      (todo : batch.todo =
        (findBatch config store run.cursor).flatMap (dueOf run.tiers reading.now))
      (statement : batch.statement = .select) (escalations : batch.escalations = [])
      (now : batch.now = reading.now) :
      RunEffect config others store run reading store { run with phase := .batch batch }
  | committed (batch : Batch) (next : Run) (phase : run.phase = .batch batch)
      (done : batch.todo = []) (still : next.open? = none)
      (log : next.committed = run.committed ++ batch.escalations)
      (failure : next.failure = run.failure) (recipients : next.recipients = run.recipients)
      (loading : isLoading next = false) (tiers : next.tiers = run.tiers) :
      RunEffect config others store run reading (batch.view store) next
  | vanished (batch : Batch) (due : Due) (rest : List Due) (phase : run.phase = .batch batch)
      (todo : batch.todo = due :: rest) (statement : batch.statement = .select)
      (absent : (batch.view store).incidents.find? (stillCandidate due) = none) :
      RunEffect config others store run reading store
        { run with phase := .batch { batch with todo := rest } }
  | selected (batch : Batch) (due : Due) (rest : List Due) (row : Incident)
      (phase : run.phase = .batch batch) (todo : batch.todo = due :: rest)
      (statement : batch.statement = .select)
      (found : (batch.view store).incidents.find? (stillCandidate due) = some row) :
      RunEffect config others store run reading store
        { run with phase := .batch { batch with
            statement := .conflict (eventFor due row batch.now reading.id) } }
  | conflicted (batch : Batch) (due : Due) (rest : List Due) (event : EscalationEvent)
      (phase : run.phase = .batch batch) (todo : batch.todo = due :: rest)
      (statement : batch.statement = .conflict event)
      (present : (batch.view store).escalationEvents.any (·.key = event.key) = true) :
      RunEffect config others store run reading store
        { run with phase := .batch { batch with todo := rest, statement := .select } }
  | violated (batch : Batch) (event : EscalationEvent) (phase : run.phase = .batch batch)
      (statement : batch.statement = .conflict event)
      (clash : (batch.view store).escalationEvents.any (·.id = event.id) = true) :
      RunEffect config others store run reading store
        { run with phase := .finishing .failed, failure := some .uniqueViolation }
  | inserted (batch : Batch) (due : Due) (rest : List Due) (event : EscalationEvent)
      (phase : run.phase = .batch batch) (todo : batch.todo = due :: rest)
      (statement : batch.statement = .conflict event)
      (alone : others.any (pendingKey event.key) = false)
      (absent : (batch.view store).escalationEvents.any (·.key = event.key) = false) :
      RunEffect config others store run reading store
        { run with phase := .batch { batch with statement := .notify event } }
  | notified (batch : Batch) (due : Due) (rest : List Due) (event : EscalationEvent)
      (phase : run.phase = .batch batch) (todo : batch.todo = due :: rest)
      (statement : batch.statement = .notify event) :
      RunEffect config others store run reading store
        { run with phase := .batch { batch with
            statement := .audit event
              (skipDuplicates (batch.view store).notificationLog
                (notificationsFor event.id (run.recipients.get due.candidate.severity) batch.now
                  reading.notificationIds)) } }
  | audited (batch : Batch) (due : Due) (rest : List Due) (event : EscalationEvent)
      (rows : List NotificationLog) (phase : run.phase = .batch batch)
      (todo : batch.todo = due :: rest) (statement : batch.statement = .audit event rows) :
      RunEffect config others store run reading store
        { run with phase := .batch { batch with
            statement := .bump event rows
              ((escalatedRecord due event.id batch.now).row reading.auditId) } }
  | bumped (batch : Batch) (due : Due) (rest : List Due) (event : EscalationEvent)
      (rows : List NotificationLog) (record : AuditEvent) (phase : run.phase = .batch batch)
      (todo : batch.todo = due :: rest) (statement : batch.statement = .bump event rows record)
      (alone : others.any (locksRow due.candidate.id) = false) :
      RunEffect config others store run reading store
        { run with phase := .batch { batch with
            todo := rest
            statement := .select
            escalations := batch.escalations ++
              [⟨due, event, rows, record,
                if (batch.view store).incidents.any fun row =>
                  row.id = due.candidate.id && row.currentEscalationLevel < due.tier.level
                then some reading.wall else none⟩] } }

section Effect
variable {config : JobConfig} {others : List Write} {store after : Store} {run next : Run}
  {reading : Reading}

variable (config run) in
theorem afterBatch_effect (length : Nat) (last : BatchRow) (escalations : List Escalation) :
    let done := afterBatch config run length last escalations
    done.open? = none ∧ isLoading done = false ∧ done.committed = run.committed ∧
      done.failure = run.failure ∧ done.recipients = run.recipients ∧ done.tiers = run.tiers := by
  simp only [afterBatch]
  split <;> exact ⟨rfl, rfl, rfl, rfl, rfl, rfl⟩

theorem batchStep_effect {batch : Batch} (phase : run.phase = .batch batch)
    (stepped : batchStep config others store run batch reading = some (after, next)) :
    RunEffect config others store run reading after next := by
  unfold batchStep at stepped
  split at stepped
  -- the commit
  next todo =>
    simp only [Option.some.injEq, Prod.mk.injEq] at stepped
    obtain ⟨rfl, rfl⟩ := stepped
    obtain ⟨still, loading, log, failure, recipients, tiers⟩ :=
      afterBatch_effect config run batch.length batch.last batch.escalations
    exact .committed batch _ phase todo still (by simp) failure recipients loading tiers
  next due rest todo statement =>
    split at stepped <;> simp only [Option.some.injEq, Prod.mk.injEq] at stepped <;>
      obtain ⟨rfl, rfl⟩ := stepped
    next absent => exact .vanished batch due rest phase todo statement absent
    next row found => exact .selected batch due rest row phase todo statement found
  next due rest event todo statement =>
    split at stepped
    · simp at stepped
    next alone =>
      split at stepped
      next present =>
        simp only [Option.some.injEq, Prod.mk.injEq] at stepped
        obtain ⟨rfl, rfl⟩ := stepped
        exact .conflicted batch due rest event phase todo statement present
      next absent =>
        split at stepped <;> simp only [Option.some.injEq, Prod.mk.injEq] at stepped <;>
          obtain ⟨rfl, rfl⟩ := stepped
        next clash => exact .violated batch event phase statement clash
        · exact .inserted batch due rest event phase todo statement (by simpa using alone)
            (by simpa using absent)
  next due rest event todo statement =>
    simp only [Option.some.injEq, Prod.mk.injEq] at stepped
    obtain ⟨rfl, rfl⟩ := stepped
    exact .notified batch due rest event phase todo statement
  next due rest event rows todo statement =>
    simp only [Option.some.injEq, Prod.mk.injEq] at stepped
    obtain ⟨rfl, rfl⟩ := stepped
    exact .audited batch due rest event rows phase todo statement
  next due rest event rows record todo statement =>
    split at stepped
    · simp at stepped
    next alone =>
      simp only [Option.some.injEq, Prod.mk.injEq] at stepped
      obtain ⟨rfl, rfl⟩ := stepped
      exact .bumped batch due rest event rows record phase todo statement (by simpa using alone)

theorem claimLease_ok {config : JobConfig} {runId : Id} {now : Date} {store claimed : Store}
    (claim : claimLease config runId now store = some claimed) : SameTables store claimed := by
  unfold claimLease at claim
  split at claim
  · obtain rfl := Option.some.inj claim
    exact ⟨rfl, rfl, rfl, rfl, rfl, rfl, rfl⟩
  · simp at claim

theorem renewLease_tables (config : JobConfig) (runId : Id) (now : Date) (store : Store) :
    SameTables store (renewLease config runId now store) := by
  unfold renewLease
  split <;> exact ⟨rfl, rfl, rfl, rfl, rfl, rfl, rfl⟩

theorem releaseLease_tables (runId : Id) (store : Store) :
    SameTables store (releaseLease runId store) := by
  unfold releaseLease
  split <;> exact ⟨rfl, rfl, rfl, rfl, rfl, rfl, rfl⟩

private theorem isLoading_phase {phase : Phase} (h : run.phase = phase) :
    isLoading run = isLoading { run with phase := phase } := by
  simp [isLoading, h]

private theorem open_phase {phase : Phase} (h : run.phase = phase) :
    run.open? = Run.open? { run with phase := phase } := by
  simp [Run.open?, h]

theorem runStep_effect
    (stepped : runStep config others store run reading = some (after, next)) :
    RunEffect config others store run reading after next := by
  unfold runStep at stepped
  split at stepped
  next phase =>
    split at stepped <;> simp only [Option.some.injEq, Prod.mk.injEq] at stepped <;>
      obtain ⟨rfl, rfl⟩ := stepped
    · exact .outside _ _ (open_phase phase) rfl (.refl _) rfl rfl (.inr rfl)
        (fun loading => absurd loading (by simp [isLoading])) (.inl rfl)
    next claimed claim =>
      split at claim
      · simp at claim
      · exact .outside _ _ (open_phase phase) rfl (claimLease_ok claim) rfl rfl (.inr rfl)
          (fun _ => isLoading_phase phase) (.inl rfl)
  next phase =>
    simp only [Option.some.injEq, Prod.mk.injEq] at stepped
    obtain ⟨rfl, rfl⟩ := stepped
    exact .outside _ _ (open_phase phase) rfl (.refl _) rfl rfl (.inr rfl)
      (fun _ => isLoading_phase phase) (.inr rfl)
  next phase =>
    simp only [Option.some.injEq, Prod.mk.injEq] at stepped
    obtain ⟨rfl, rfl⟩ := stepped
    exact .outside _ _ (open_phase phase) rfl (.refl _) rfl rfl (.inl (isLoading_phase phase))
      (fun _ => isLoading_phase phase) (.inl rfl)
  next phase =>
    simp only [Option.some.injEq, Prod.mk.injEq] at stepped
    obtain ⟨rfl, rfl⟩ := stepped
    exact .outside _ _ (open_phase phase) rfl (.refl _) rfl rfl (.inl (isLoading_phase phase))
      (fun _ => isLoading_phase phase) (.inl rfl)
  next phase =>
    dsimp only at stepped
    split at stepped
    next empty =>
      simp only [Option.some.injEq, Prod.mk.injEq] at stepped
      obtain ⟨rfl, rfl⟩ := stepped
      exact .outside _ _ (open_phase phase) rfl (.refl _) rfl rfl (.inr rfl)
        (fun loading => absurd loading (by simp [isLoading])) (.inl rfl)
    next last found =>
      split at stepped <;> simp only [Option.some.injEq, Prod.mk.injEq] at stepped <;>
        obtain ⟨rfl, rfl⟩ := stepped
      · obtain ⟨still, loading, log, failure, recipients, tiers⟩ :=
          afterBatch_effect config run
            (findBatch config store run.cursor).length last []
        exact .outside _ _ (open_phase phase) still (.refl _) log failure (.inr recipients)
          (fun loads => absurd loads (by simp [loading])) (.inl tiers)
      · exact .opened _ phase rfl rfl rfl rfl
  -- statements inside a transaction
  next batch phase => exact batchStep_effect phase stepped
  next phase =>
    simp only [Option.some.injEq, Prod.mk.injEq] at stepped
    obtain ⟨rfl, rfl⟩ := stepped
    exact .outside _ _ (open_phase phase) rfl (renewLease_tables _ _ _ _) rfl rfl (.inr rfl)
      (fun loading => absurd loading (by simp [isLoading])) (.inl rfl)
  next outcome phase =>
    simp only [Option.some.injEq, Prod.mk.injEq] at stepped
    obtain ⟨rfl, rfl⟩ := stepped
    have tables : SameTables store (finishJobRun run.jobRunId outcome
        (if outcome = .skippedLocked then ⟨0, 0, 0⟩ else run.counts)
        (if outcome = .failed then some "error" else none) reading.wall store) :=
      ⟨rfl, rfl, rfl, rfl, rfl, rfl, rfl⟩
    -- a run that was not admitted has no lease to release
    by_cases skipped : outcome = .skippedLocked
    · exact .outside _ _ (open_phase phase) (by simp [Run.open?, skipped]) tables rfl rfl
        (.inr rfl) (fun loading => absurd loading (by simp [isLoading, skipped])) (.inl rfl)
    · exact .outside _ _ (open_phase phase) (by simp [Run.open?, skipped]) tables rfl rfl
        (.inr rfl) (fun loading => absurd loading (by simp [isLoading, skipped])) (.inl rfl)
  next phase =>
    simp only [Option.some.injEq, Prod.mk.injEq] at stepped
    obtain ⟨rfl, rfl⟩ := stepped
    exact .outside _ _ (open_phase phase) rfl (releaseLease_tables _ _) rfl rfl (.inr rfl)
      (fun loading => absurd loading (by simp [isLoading])) (.inl rfl)
  -- a finished run has no statement left
  next phase => simp at stepped

/-- A run that stops short: its open transaction is undone. -/
structure RunDropped (run next : Run) : Prop where
  still : next.open? = none
  log : next.committed = run.committed
  failure : next.failure = run.failure ∨ next.failure = some .interrupted
  recipients : next.recipients = run.recipients
  loading : isLoading next = true → isLoading run = true
  tiers : next.tiers = run.tiers

theorem interruptRun_dropped (run : Run) : RunDropped run (interruptRun run) := by
  unfold interruptRun
  split
  next phase => exact ⟨rfl, rfl, .inr rfl, rfl, fun _ => isLoading_phase phase, rfl⟩
  -- the phases that end in `finished`, `releasing` or `finishing`
  all_goals first
    | exact ⟨rfl, rfl, .inr rfl, rfl, fun loading => absurd loading (by simp [isLoading]), rfl⟩
    | skip
  next phase => exact ⟨open_phase phase, rfl, .inl rfl, rfl, id, rfl⟩

theorem crash_dropped (run : Run) :
    RunDropped run { run with phase := .finished, failure := some .interrupted } :=
  ⟨rfl, rfl, .inr rfl, rfl, fun loading => absurd loading (by simp [isLoading]), rfl⟩

end Effect

/-! ### Steps of the system -/

/-- A run that has not claimed its lease. -/
def newRun (jobRunId : Id) : Run :=
  ⟨jobRunId, "", [], ⟨[], []⟩, none, ⟨0, 0, 0⟩, .claiming, [], none⟩

inductive JobEffect (config : JobConfig) (sys : System) (action : Action) : System → Prop
  | started (jobRunId : Id) (startedAt : Date) :
      JobEffect config sys action { sys with
        store := startJobRun jobRunId startedAt sys.store
        runs := sys.runs ++ [newRun jobRunId] }
  | stepped (k : Nat) (run next : Run) (store : Store) (reading : Reading)
      (isJob : action = .job k reading) (found : sys.runs[k]? = some run)
      (drawn : drawsEventId run = true → reading.id ∉ sys.issued)
      (effect : RunEffect config (sys.othersWrites k) sys.store run reading store next) :
      JobEffect config sys action { sys with
        store := store
        runs := sys.runs.set k next
        issued := if drawsEventId run then reading.id :: sys.issued else sys.issued }
  | dropped (k : Nat) (run next : Run) (found : sys.runs[k]? = some run)
      (effect : RunDropped run next) :
      JobEffect config sys action { sys with runs := sys.runs.set k next }

theorem step_job {config : JobConfig} {sys next : System} {action : Action}
    (job : Action.ofJob action = true) (stepped : step config sys action = some next) :
    JobEffect config sys action next := by
  cases action with
  | startRun jobRunId startedAt =>
    obtain rfl := Option.some.inj stepped
    exact .started jobRunId startedAt
  | job k reading =>
    obtain ⟨run, found, running⟩ := Option.bind_eq_some_iff.mp stepped
    split at running
    · simp at running
    next fresh =>
      obtain ⟨⟨store, after⟩, moved, rfl⟩ := Option.map_eq_some_iff.mp running
      exact .stepped k run after store reading rfl found (fun drawn old => fresh ⟨drawn, old⟩)
        (runStep_effect moved)
  | interrupt k =>
    obtain ⟨run, found, rfl⟩ := Option.map_eq_some_iff.mp stepped
    exact .dropped k run _ found (interruptRun_dropped run)
  | crash k =>
    obtain ⟨run, found, rfl⟩ := Option.map_eq_some_iff.mp stepped
    exact .dropped k run _ found (crash_dropped run)
  | _ => simp [Action.ofJob] at job

/-- A property of every open batch: a step keeps it of the batches it finds, and the statement of
a run establishes it of its own. -/
theorem step_batches {config : JobConfig} {sys next : System} {action : Action}
    {holds : Batch → Prop} (stepped : step config sys action = some next)
    (others : ∀ run ∈ sys.runs, ∀ batch, run.open? = some batch → holds batch)
    (own : ∀ k run after reading, action = .job k reading → sys.runs[k]? = some run →
      RunEffect config (sys.othersWrites k) sys.store run reading next.store after →
      ∀ batch, after.open? = some batch → holds batch) :
    ∀ run ∈ next.runs, ∀ batch, run.open? = some batch → holds batch := by
  by_cases job : Action.ofJob action = true
  · cases step_job job stepped with
    | started jobRunId startedAt =>
      intro run member
      rcases List.mem_append.mp member with old | last
      · exact others run old
      · obtain rfl := List.mem_singleton.mp last
        intro batch opened
        simp [Run.open?, newRun] at opened
    | stepped k run after store reading isJob found drawn effect =>
      exact Pool.forall_set others k (own k run after reading isJob found effect)
    | dropped k run after found dropped =>
      refine Pool.forall_set others k fun batch opened => ?_
      simp [dropped.still] at opened
  · rw [(step_service (by simpa using job) stepped).runs]
    exact others

end IncidentApi.Properties
