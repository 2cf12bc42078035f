import IncidentApi.Properties.JobSteps
import IncidentApi.Properties.Refinement
import IncidentApi.Library.Machine

/-!
# A run alone is one schedule of the system

`runEscalationJob` runs the statements of the job in one go, `step` interleaves them with
everything else. Where no other run has a transaction open, the system can start a run and take
its steps one after another, and it ends in the store that `runEscalationJob` computes: what is
proved about the undisturbed run holds of that schedule.
-/
namespace IncidentApi.Properties

/-- The columns of a system that the steps of one run change. -/
structure Scene where
  store : Store
  run : Run
  issued : List Id

/-- The scene played by a run that was started last. -/
def Scene.on (scene : Scene) (base : System) : System :=
  { base with store := scene.store, runs := base.runs ++ [scene.run], issued := scene.issued }

/-- Run `k` starts and takes its steps, and nothing else happens. -/
def onlyRun (k : Nat) (sys : System) : Action → Prop
  | .startRun _ _ => sys.runs.length = k
  | .job acting _ => acting = k
  | _ => False

/-- No run has uncommitted writes or locks. -/
def Quiet (sys : System) : Prop := sys.runs.flatMap Run.writes = []

def Proceeds (config : JobConfig) (base : System) (source target : Scene) : Prop :=
  Machine.Reaches (step config) (onlyRun base.runs.length) (source.on base) (target.on base)

section Steps
variable {config : JobConfig} {base : System}

theorem Proceeds.refl (scene : Scene) : Proceeds config base scene scene := .start

theorem Proceeds.trans {first second third : Scene} (left : Proceeds config base first second)
    (right : Proceeds config base second third) : Proceeds config base first third :=
  Machine.Reaches.trans left right

/-- In a quiet system the last run meets nobody's writes. -/
theorem Scene.othersWrites (quiet : Quiet base) (scene : Scene) :
    (scene.on base).othersWrites base.runs.length = [] := by
  have others : (base.runs ++ [scene.run]).eraseIdx base.runs.length = base.runs := by
    rw [List.eraseIdx_append_of_length_le (Nat.le_refl _), Nat.sub_self]
    simp
  rw [System.othersWrites, Scene.on, others]
  exact quiet

/-- One statement of the last run. -/
theorem proceeds_statement (quiet : Quiet base) {scene : Scene} {store : Store} {next : Run}
    (reading : Reading)
    (ran : runStep config [] scene.store scene.run reading = some (store, next))
    (unissued : drawsEventId scene.run = true → reading.id ∉ scene.issued) :
    Proceeds config base scene
      ⟨store, next,
        if drawsEventId scene.run then reading.id :: scene.issued else scene.issued⟩ := by
  refine .next (scene.on base) _ (.job base.runs.length reading) .start rfl ?_
  have found : (scene.on base).runs[base.runs.length]? = some scene.run := by
    simp [Scene.on]
  have fresh : ¬(drawsEventId scene.run = true ∧ reading.id ∈ (scene.on base).issued) :=
    fun both => unissued both.1 both.2
  have replaced : (base.runs ++ [scene.run]).set base.runs.length next = base.runs ++ [next] := by
    rw [List.set_append_right _ _ (Nat.le_refl _), Nat.sub_self]
    rfl
  have others := scene.othersWrites quiet
  simp only [step, found, Option.bind_some, if_neg fresh, others]
  have moved : runStep config [] (scene.on base).store scene.run reading = some (store, next) := ran
  rw [moved]
  simp only [Option.map_some, Scene.on, replaced]

/-- A statement that asks for no event id. -/
theorem proceeds_silent (quiet : Quiet base) {scene : Scene} {store : Store} {next : Run}
    (reading : Reading) (silent : drawsEventId scene.run = false)
    (ran : runStep config [] scene.store scene.run reading = some (store, next)) :
    Proceeds config base scene ⟨store, next, scene.issued⟩ := by
  have moved := proceeds_statement quiet reading ran (by simp [silent])
  simpa [silent] using moved

/-! ### One pair -/

theorem applyAll_append (store : Store) (first second : List Write) :
    store.applyAll (first ++ second) = (store.applyAll first).applyAll second :=
  List.foldl_append

/-- What the environment answers the statements of one pair. -/
def pairReading (env : RunEnv) (due : Due) : Reading :=
  ⟨env.now, env.ids.wall due.candidate.id due.tier.level,
    env.ids.event due.candidate.id due.tier.level, env.ids.audit due.candidate.id due.tier.level,
    env.ids.notification due.candidate.id due.tier.level, false⟩

/-- A scene inside a batch transaction. -/
def atBatch (store : Store) (run : Run) (batch : Batch) (issued : List Id) : Scene :=
  ⟨store, { run with phase := .batch batch }, issued⟩

/-- The writes of the pairs a batch has finished. -/
def escalationWrites (now : Date) (escalations : List Escalation) : List Write :=
  escalations.flatMap (·.writes now)

/-- The notifications that a batch adds to the counts of its run. -/
def notifiedBy (escalations : List Escalation) : Nat :=
  (escalations.map (·.notifications.length)).sum

theorem escalationWrites_append (now : Date) (first second : List Escalation) :
    escalationWrites now (first ++ second) =
      escalationWrites now first ++ escalationWrites now second :=
  List.flatMap_append

theorem batch_view (store : Store) (batch : Batch) :
    batch.view store =
      (store.applyAll (escalationWrites batch.now batch.escalations)).applyAll
        batch.statement.writes := by
  rw [Batch.view, Batch.writes, applyAll_append]
  rfl

theorem insertEvent_id {store : Store} {due : Due} {now : Date} {eventId : Id}
    {event : EscalationEvent} (inserted : insertEvent store due now eventId = some event) :
    event.id = eventId := by
  simp only [insertEvent] at inserted
  split at inserted
  · simp at inserted
  · split at inserted
    · simp at inserted
    · obtain rfl := Option.some.inj inserted
      rfl

/-- A pair adds at most the event that carries its own id. -/
theorem escalateOne_events (recipients : Recipients) (env : RunEnv) (store : Store) (due : Due) :
    ∀ event ∈ (escalateOne recipients env store due).1.escalationEvents,
      event ∈ store.escalationEvents ∨ event.id = (newEvent env due).id := by
  intro event member
  simp only [escalateOne] at member
  split at member
  · exact .inl member
  next inserted found =>
    simp only [Write.apply, List.mem_append, List.mem_singleton] at member
    rcases member with old | rfl
    · exact .inl old
    · exact .inr (insertEvent_id found)

section Pair
variable (env : RunEnv) (store : Store) (run : Run) (length : Nat) (last : BatchRow) (due : Due)
  (rest : List Due) (escalations : List Escalation)

/-- The four statements after the check of the unique keys: notifications, audit row, bump. -/
private theorem inserted_proceeds (quiet : Quiet base) (issued : List Id) (row : Incident)
    (selected : (store.applyAll (escalationWrites env.now escalations)).incidents.find?
      (stillCandidate due) = some row) :
    let view := store.applyAll (escalationWrites env.now escalations)
    let event := eventFor due row env.now (env.ids.event due.candidate.id due.tier.level)
    let rows := skipDuplicates (Write.apply view (.event event)).notificationLog
      (notificationsFor event.id (run.recipients.get due.candidate.severity) env.now
        (env.ids.notification due.candidate.id due.tier.level))
    let audit := (escalatedRecord due event.id env.now).row
      (env.ids.audit due.candidate.id due.tier.level)
    Proceeds config base
      (atBatch store run ⟨env.now, length, last, due :: rest, .notify event, escalations⟩ issued)
      (atBatch store run ⟨env.now, length, last, rest, .select, escalations ++
        [⟨due, event, rows, audit, some (env.ids.wall due.candidate.id due.tier.level)⟩]⟩
        issued) := by
  intro view event rows audit
  have notified : Proceeds config base
      (atBatch store run ⟨env.now, length, last, due :: rest, .notify event, escalations⟩ issued)
      (atBatch store run ⟨env.now, length, last, due :: rest, .audit event rows, escalations⟩
        issued) := by
    apply proceeds_silent quiet (pairReading env due) rfl
    simp only [atBatch, runStep, batchStep, batch_view]
    rfl
  have recorded : Proceeds config base
      (atBatch store run ⟨env.now, length, last, due :: rest, .audit event rows, escalations⟩
        issued)
      (atBatch store run ⟨env.now, length, last, due :: rest, .bump event rows audit, escalations⟩
        issued) :=
    proceeds_silent quiet (pairReading env due) rfl rfl
  have bumped : Proceeds config base
      (atBatch store run ⟨env.now, length, last, due :: rest, .bump event rows audit, escalations⟩
        issued)
      (atBatch store run ⟨env.now, length, last, rest, .select, escalations ++
        [⟨due, event, rows, audit, some (env.ids.wall due.candidate.id due.tier.level)⟩]⟩
        issued) := by
    apply proceeds_silent quiet (pairReading env due) rfl
    -- the row that was selected is still below the level
    have matched : view.incidents.any (fun row =>
        row.id = due.candidate.id && row.currentEscalationLevel < due.tier.level) = true := by
      have held := (stillCandidate_iff due row).mp (List.find?_some selected)
      refine List.any_eq_true.mpr ⟨row, List.mem_of_find?_eq_some selected, ?_⟩
      simp [held.1, held.2.2.1]
    have same : ((view.applyAll [.event event, .notifications rows, .audit audit]).incidents.any
        fun row => row.id = due.candidate.id && row.currentEscalationLevel < due.tier.level) =
          true := matched
    simp only [atBatch, runStep, batchStep, batch_view, Statement.writes, List.any_nil,
      Bool.false_eq_true, if_false]
    rw [if_pos same]
    rfl
  exact notified.trans (recorded.trans bumped)

/-- A turn of the loop in `escalateBatch`, statement by statement. -/
theorem pair_proceeds (quiet : Quiet base) (issued : List Id)
    (unissued : (newEvent env due).id ∉ issued)
    (unused : ∀ event ∈ (store.applyAll (escalationWrites env.now escalations)).escalationEvents,
      event.id ≠ (newEvent env due).id) :
    ∃ more : List Escalation,
      Proceeds config base
        (atBatch store run ⟨env.now, length, last, due :: rest, .select, escalations⟩ issued)
        (atBatch store run ⟨env.now, length, last, rest, .select, escalations ++ more⟩
          ((newEvent env due).id :: issued)) ∧
      escalateOne run.recipients env (store.applyAll (escalationWrites env.now escalations)) due =
        (store.applyAll (escalationWrites env.now (escalations ++ more)), more.length,
          notifiedBy more) := by
  set view := store.applyAll (escalationWrites env.now escalations) with viewed
  cases selected : view.incidents.find? (stillCandidate due) with
  | none =>
    -- the re-check of the `INSERT … SELECT` finds no row
    refine ⟨[], ?_, ?_⟩
    · rw [List.append_nil]
      refine proceeds_statement quiet (pairReading env due) ?_ fun _ => unissued
      simp only [atBatch, runStep, batchStep, batch_view, ← viewed]
      have found : (view.applyAll Statement.select.writes).incidents.find? (stillCandidate due) =
        none := selected
      rw [found]
    · simp [escalateOne, insertEvent, selected, notifiedBy, ← viewed]
  | some row =>
    set event := eventFor due row env.now (env.ids.event due.candidate.id due.tier.level)
      with defined
    have started : Proceeds config base
        (atBatch store run ⟨env.now, length, last, due :: rest, .select, escalations⟩ issued)
        (atBatch store run ⟨env.now, length, last, due :: rest, .conflict event, escalations⟩
          ((newEvent env due).id :: issued)) := by
      refine proceeds_statement quiet (pairReading env due) ?_ fun _ => unissued
      simp only [atBatch, runStep, batchStep, batch_view, ← viewed]
      have found : (view.applyAll Statement.select.writes).incidents.find? (stillCandidate due) =
        some row := selected
      rw [found]
      rfl
    by_cases present : view.escalationEvents.any (·.key = event.key) = true
    · -- `ON CONFLICT DO NOTHING`
      refine ⟨[], started.trans ?_, ?_⟩
      · rw [List.append_nil]
        apply proceeds_silent quiet (pairReading env due) rfl
        have conflict : (view.applyAll (Statement.conflict event).writes).escalationEvents.any
          (·.key = event.key) = true := present
        simp only [atBatch, runStep, batchStep, batch_view, ← viewed, conflict, List.any_nil,
          Bool.false_eq_true, if_false, if_true]
      · simp only [escalateOne, insertEvent, selected, ← defined, present, if_true,
          List.append_nil, ← viewed]
        rfl
    · have free : Proceeds config base
          (atBatch store run ⟨env.now, length, last, due :: rest, .conflict event, escalations⟩
            ((newEvent env due).id :: issued))
          (atBatch store run ⟨env.now, length, last, due :: rest, .notify event, escalations⟩
            ((newEvent env due).id :: issued)) := by
        apply proceeds_silent quiet (pairReading env due) rfl
        have conflict : (view.applyAll (Statement.conflict event).writes).escalationEvents.any
            (·.key = event.key) = false := Bool.eq_false_iff.mpr present
        have primary : (view.applyAll (Statement.conflict event).writes).escalationEvents.any
            (·.id = event.id) = false := by
          simp only [List.any_eq_false, decide_eq_true_eq]
          exact unused
        simp only [atBatch, runStep, batchStep, batch_view, ← viewed, conflict, primary,
          List.any_nil, Bool.false_eq_true, if_false]
      refine ⟨_, started.trans (free.trans
        (inserted_proceeds env store run length last due rest escalations quiet _ row selected)),
        ?_⟩
      rw [escalationWrites_append, applyAll_append, ← viewed]
      simp only [escalateOne, insertEvent, selected, ← defined, present]
      rfl

end Pair

/-! ### A batch -/

section Batch
variable (env : RunEnv) (store : Store) (run : Run) (length : Nat) (last : BatchRow)

/-- The ids a list of pairs would draw are new to the service and to the table, and distinct. -/
structure Drawable (issued : List Id) (store : Store) (dues : List Due) : Prop where
  unissued : ∀ due ∈ dues, (newEvent env due).id ∉ issued
  unused : ∀ due ∈ dues, ∀ event ∈ store.escalationEvents, event.id ≠ (newEvent env due).id
  distinct : (dues.map fun due => (newEvent env due).id).Nodup

variable {env} in
/-- What a list of pairs adds leaves the ids of other pairs drawable. -/
theorem Drawable.later {issued drawn : List Id} {store next : Store} {done dues : List Due}
    (drawable : Drawable env issued store (done ++ dues))
    (ids : ∀ id ∈ drawn, (∃ due ∈ done, id = (newEvent env due).id) ∨ id ∈ issued)
    (events : ∀ event ∈ next.escalationEvents,
      event ∈ store.escalationEvents ∨ ∃ due ∈ done, event.id = (newEvent env due).id) :
    Drawable env drawn next dues := by
  have distinct := drawable.distinct
  rw [List.map_append, List.nodup_append] at distinct
  have apart : ∀ first ∈ done, ∀ later ∈ dues, (newEvent env first).id ≠ (newEvent env later).id :=
    fun first before later after => distinct.2.2 _ (List.mem_map.mpr ⟨first, before, rfl⟩) _
      (List.mem_map.mpr ⟨later, after, rfl⟩)
  refine ⟨fun due member drew => ?_, fun due member event present => ?_, distinct.2.1⟩
  · rcases ids _ drew with ⟨first, before, same⟩ | old
    · exact apart first before due member same.symm
    · exact drawable.unissued due (List.mem_append_right _ member) old
  · rcases events event present with old | ⟨first, before, same⟩
    · exact drawable.unused due (List.mem_append_right _ member) event old
    · exact fun equal => apart first before due member (same.symm.trans equal)

variable {env store} in
theorem Drawable.lease {issued : List Id} {dues : List Due}
    (drawable : Drawable env issued store dues) (lease : JobLease) :
    Drawable env issued { store with jobLease := lease } dues :=
  ⟨drawable.unissued, drawable.unused, drawable.distinct⟩

variable {env} in
/-- Pairs of one incident differ in level, so their ids do. -/
theorem Pending.eventIds_nodup {recipients : Recipients} {store : Store} {dues : List Due}
    (pending : Pending recipients env store dues) :
    (dues.map fun due => (newEvent env due).id).Nodup := by
  refine List.pairwise_map.mpr (pending.ascending.imp_of_mem fun {a b} ha hb rises equal => ?_)
  obtain ⟨incident, level⟩ := pending.injective a ha b hb equal
  exact absurd (rises incident) (by omega)

variable {env} in
theorem Drawable.front {issued : List Id} {store : Store} {first second : List Due}
    (drawable : Drawable env issued store (first ++ second)) : Drawable env issued store first where
  unissued due member := drawable.unissued due (List.mem_append_left _ member)
  unused due member := drawable.unused due (List.mem_append_left _ member)
  distinct := by
    have distinct := drawable.distinct
    rw [List.map_append] at distinct
    exact distinct.of_append_left

theorem escalateBatch_events (recipients : Recipients) (dues : List Due) (store : Store) :
    ∀ event ∈ (escalateBatch recipients env store dues).1.escalationEvents,
      event ∈ store.escalationEvents ∨ ∃ due ∈ dues, event.id = (newEvent env due).id := by
  induction dues generalizing store with
  | nil => exact fun event member => .inl member
  | cons due rest ih =>
    intro event member
    rcases ih _ event member with old | ⟨later, among, same⟩
    · rcases escalateOne_events recipients env store due event old with old | same
      · exact .inl old
      · exact .inr ⟨due, List.mem_cons_self, same⟩
    · exact .inr ⟨later, List.mem_cons_of_mem _ among, same⟩

/-- The loop of a batch transaction, up to its commit. -/
theorem todo_proceeds (quiet : Quiet base) (todo : List Due) (escalations : List Escalation)
    (issued : List Id)
    (drawable : Drawable env issued
      (store.applyAll (escalationWrites env.now escalations)) todo) :
    ∃ (more : List Escalation) (drawn : List Id),
      Proceeds config base
        (atBatch store run ⟨env.now, length, last, todo, .select, escalations⟩ issued)
        (atBatch store run ⟨env.now, length, last, [], .select, escalations ++ more⟩ drawn) ∧
      escalateBatch run.recipients env (store.applyAll (escalationWrites env.now escalations))
        todo =
        (store.applyAll (escalationWrites env.now (escalations ++ more)), more.length,
          notifiedBy more) ∧
      ∀ id ∈ drawn, (∃ due ∈ todo, id = (newEvent env due).id) ∨ id ∈ issued := by
  induction todo generalizing escalations issued with
  | nil =>
    refine ⟨[], issued, ?_, ?_, fun id member => .inr member⟩
    · rw [List.append_nil]
      exact .refl _
    · rw [List.append_nil]
      rfl
  | cons due rest ih =>
    obtain ⟨one, first, computed⟩ := pair_proceeds env store run length last due rest escalations
      quiet issued (drawable.unissued due List.mem_cons_self)
      (drawable.unused due List.mem_cons_self)
    -- The other pairs ask for other ids than the first, which has made no event of theirs.
    have onward : Drawable env ((newEvent env due).id :: issued)
        (store.applyAll (escalationWrites env.now (escalations ++ one))) rest := by
      have added := escalateOne_events run.recipients env
        (store.applyAll (escalationWrites env.now escalations)) due
      rw [computed] at added
      have whole : Drawable env issued (store.applyAll (escalationWrites env.now escalations))
        ([due] ++ rest) := drawable
      refine whole.later (fun id member => ?_) fun event member => ?_
      · exact (List.mem_cons.mp member).imp_left fun same => ⟨due, List.mem_singleton_self _, same⟩
      · exact (added event member).imp_right fun same =>
          ⟨due, List.mem_singleton_self _, same⟩
    obtain ⟨more, drawn, others, batch, ids⟩ := ih (escalations ++ one) _ onward
    rw [List.append_assoc] at others batch
    refine ⟨one ++ more, drawn, first.trans others, ?_, fun id member => ?_⟩
    · simp only [escalateBatch, computed, batch, notifiedBy, List.map_append, List.sum_append,
        List.length_append]
    · rcases ids id member with ⟨later, among, same⟩ | old
      · exact .inl ⟨later, List.mem_cons_of_mem _ among, same⟩
      · rcases List.mem_cons.mp old with same | old
        · exact .inl ⟨due, List.mem_cons_self, same⟩
        · exact .inr old

end Batch

/-! ### The scan -/

section Scan
variable {env : RunEnv} {tiers : List Tier} {recipients : Recipients}

theorem afterBatch_phase (run : Run) (phase : Phase) (length : Nat) (last : BatchRow)
    (escalations : List Escalation) :
    afterBatch config { run with phase := phase } length last escalations =
      afterBatch config run length last escalations := by
  unfold afterBatch
  split <;> rfl

/-- A run about to read a page, as the loop of `runEscalationJob` stands. -/
structure Scanning (env : RunEnv) (tiers : List Tier) (recipients : Recipients) (cursor : Cursor)
    (counts : Counts) (run : Run) : Prop where
  phase : run.phase = .scanning
  jobRunId : run.jobRunId = env.jobRunId
  runId : run.runId = env.runId
  tiers : run.tiers = tiers
  recipients : run.recipients = recipients
  cursor : run.cursor = cursor
  counts : run.counts = counts

/-- A run whose scan has ended. -/
structure Scanned (env : RunEnv) (counts : Counts) (run : Run) : Prop where
  phase : run.phase = .finishing .completed
  jobRunId : run.jobRunId = env.jobRunId
  runId : run.runId = env.runId
  counts : run.counts = counts

/-- What the environment answers the statements outside the batch transactions. -/
def jobReading (env : RunEnv) : Reading :=
  ⟨env.now, env.finishedAt, env.runId, env.runId, id, false⟩

/-- One page: the run reads it, and its batch commits what `escalateBatch` computes. -/
theorem page_proceeds (quiet : Quiet base) {cursor : Cursor} {counts : Counts} {run : Run}
    (ready : Scanning env tiers recipients cursor counts run) (store : Store) (last : BatchRow)
    (more : (findBatch config store cursor).getLast? = some last) (issued : List Id)
    (drawable : Drawable env issued store
      ((findBatch config store cursor).flatMap (dueOf tiers env.now))) :
    let batch := findBatch config store cursor
    let computed := escalateBatch recipients env store (batch.flatMap (dueOf tiers env.now))
    ∃ (escalations : List Escalation) (drawn : List Id),
      Proceeds config base ⟨store, run, issued⟩
        ⟨computed.1, { afterBatch config run batch.length last escalations with
          committed := run.committed ++ escalations }, drawn⟩ ∧
      escalations.length = computed.2.1 ∧ notifiedBy escalations = computed.2.2 ∧
      ∀ id ∈ drawn, (∃ due ∈ batch.flatMap (dueOf tiers env.now), id = (newEvent env due).id) ∨
        id ∈ issued := by
  intro batch computed
  have silent : drawsEventId run = false := by simp [drawsEventId, ready.phase]
  cases todo : batch.flatMap (dueOf tiers env.now) with
  | nil =>
    -- no pair is due, so no transaction is opened
    have read : Proceeds config base ⟨store, run, issued⟩
        ⟨store, afterBatch config run batch.length last [], issued⟩ := by
      apply proceeds_silent quiet (jobReading env) silent
      simp only [runStep, ready.phase, ready.cursor, ready.tiers, more, jobReading]
      rw [todo]
    refine ⟨[], issued, ?_, ?_, ?_, fun id member => .inr member⟩
    · have kept : { afterBatch config run batch.length last [] with
          committed := run.committed ++ [] } = afterBatch config run batch.length last [] := by
        unfold afterBatch
        split <;> simp
      rw [kept]
      simpa [computed, todo, escalateBatch] using read
    all_goals simp [computed, todo, escalateBatch, notifiedBy]
  | cons due rest =>
    have read : Proceeds config base ⟨store, run, issued⟩
        ⟨store, { run with
          phase := .batch ⟨env.now, batch.length, last, due :: rest, .select, []⟩ }, issued⟩ := by
      apply proceeds_silent quiet (jobReading env) silent
      simp only [runStep, ready.phase, ready.cursor, ready.tiers, more, jobReading]
      rw [todo]
    have start : Drawable env issued (store.applyAll (escalationWrites env.now [])) (due :: rest) :=
      todo ▸ drawable
    obtain ⟨escalations, drawn, loop, batched, ids⟩ :=
      todo_proceeds env store run batch.length last quiet (due :: rest) [] issued start
    have result : computed = (store.applyAll (escalationWrites env.now escalations),
        escalations.length, notifiedBy escalations) := by
      simp only [computed, todo, ← ready.recipients]
      exact batched
    refine ⟨escalations, drawn, read.trans (loop.trans ?_), ?_, ?_, ids⟩
    · rw [List.nil_append, result]
      apply proceeds_silent quiet (jobReading env) rfl
      simp only [atBatch, runStep, batchStep, batch_view, afterBatch_phase]
      rfl
    all_goals rw [result]

/-- The scan, page after page. -/
theorem scan_proceeds (quiet : Quiet base) (fuel : Nat) (cursor : Cursor) (counts counted : Counts)
    (store final : Store) (run : Run) (issued : List Id)
    (ready : Scanning env tiers recipients cursor counts run)
    (pending : Pending recipients env store (duesOf tiers env.now (remaining store cursor)))
    (drawable : Drawable env issued store (duesOf tiers env.now (remaining store cursor)))
    (owned : store.jobLease.ownerRunId = some env.runId)
    (ran : scanLoop config env tiers recipients fuel cursor counts store = some (counted, final)) :
    ∃ (scanned : Run) (drawn : List Id), Scanned env counted scanned ∧
      Proceeds config base ⟨store, run, issued⟩ ⟨final, scanned, drawn⟩ := by
  induction fuel generalizing cursor counts store run issued with
  | zero => simp [scanLoop] at ran
  | succ fuel ih =>
    simp only [scanLoop] at ran
    cases more : (findBatch config store cursor).getLast? with
    | none =>
      -- the page is empty
      rw [more] at ran
      simp only [Option.some.injEq, Prod.mk.injEq] at ran
      obtain ⟨rfl, rfl⟩ := ran
      refine ⟨{ run with phase := .finishing .completed }, issued,
        ⟨rfl, ready.jobRunId, ready.runId, ready.counts⟩, ?_⟩
      apply proceeds_silent quiet (jobReading env) (by simp [drawsEventId, ready.phase])
      simp only [runStep, ready.phase, ready.cursor, more]
    | some row =>
      rw [more] at ran
      dsimp only at ran
      have nonempty : (remaining store cursor).take config.batchSize ≠ [] := by
        intro empty
        simp [findBatch_eq, empty] at more
      obtain ⟨front, last, page⟩ :=
        (List.eq_nil_or_concat ((remaining store cursor).take config.batchSize)).resolve_left
          nonempty
      rw [List.concat_eq_append] at page
      have split : remaining store cursor =
          (front ++ [last]) ++ (remaining store cursor).drop config.batchSize := by
        rw [← page, List.take_append_drop]
      generalize (remaining store cursor).drop config.batchSize = rest at split
      have found : findBatch config store cursor = (front ++ [last]).map (·.batchRow) := by
        rw [findBatch_eq, page]
      have final_row : row = last.batchRow := by
        rw [found] at more
        simpa using more.symm
      subst final_row
      have flat : (findBatch config store cursor).flatMap (dueOf tiers env.now) =
          duesOf tiers env.now (front ++ [last]) := by
        rw [found, List.flatMap_map]
        rfl
      have parts := drawable
      rw [split, duesOf_append] at parts
      have frontPending := pending
      rw [split, duesOf_append] at frontPending
      obtain ⟨escalations, drawn, moved, new, notified, ids⟩ :=
        page_proceeds quiet ready store last.batchRow more issued (flat ▸ parts.front)
      have added := escalateBatch_events env recipients (duesOf tiers env.now (front ++ [last]))
        store
      rw [flat] at moved new notified ids ran
      rw [escalateBatch_eq _ frontPending.front] at moved new notified ran added
      rw [← new, ← notified] at ran
      split at ran
      next short =>
        -- a short page is the last one
        simp only [Option.some.injEq, Prod.mk.injEq] at ran
        obtain ⟨rfl, rfl⟩ := ran
        refine ⟨_, drawn, ⟨?_, ?_, ?_, ?_⟩, moved⟩ <;> simp only [afterBatch, if_pos short]
        · exact ready.jobRunId
        · exact ready.runId
        · rw [ready.counts]
          rfl
      next full =>
        set batched := escalated recipients env store
          (unescalated store (duesOf tiers env.now (front ++ [last]))) with defined
        have kept : batched.jobLease.ownerRunId = some env.runId := owned
        rw [renewLease_eq _ kept] at ran
        obtain ⟨onward, restPending, _⟩ := page_onward split pending
          ⟨some env.runId, some (env.now + config.leaseMs)⟩
        rw [← defined] at onward restPending
        have restDrawable : Drawable env drawn
            { batched with jobLease := ⟨some env.runId, some (env.now + config.leaseMs)⟩ }
            (duesOf tiers env.now rest) := parts.later ids added
        obtain ⟨scanned, later, ended, rest_moved⟩ := ih (cursorOf last.batchRow) _ _
          { run with
            committed := run.committed ++ escalations
            cursor := cursorOf last.batchRow
            counts := run.counts.plus (findBatch config store cursor).length escalations.length
              (notifiedBy escalations)
            phase := .scanning }
          drawn
          ⟨rfl, ready.jobRunId, ready.runId, ready.tiers, ready.recipients, rfl, by
            rw [ready.counts]⟩
          (by rw [onward]; exact restPending) (by rw [onward]; exact restDrawable) rfl ran
        refine ⟨scanned, later, ended, moved.trans (Proceeds.trans ?_ rest_moved)⟩
        refine proceeds_silent quiet (jobReading env) ?_ ?_
        · simp [afterBatch, full, drawsEventId]
        · simp only [afterBatch, if_neg full, runStep, ready.runId, jobReading,
            renewLease_eq _ kept]
          rfl

end Scan

/-! ### The run -/

/-- A run that has claimed the lease and read its tiers and recipients. -/
def readyRun (env : RunEnv) (store : Store) : Run :=
  { newRun env.jobRunId with
    runId := env.runId
    tiers := activeTiers store
    recipients := currentRecipients store
    phase := .scanning }

/-- The claim of the lease and the three reads before the loop. -/
theorem loading_proceeds (quiet : Quiet base) (env : RunEnv) (store claimed : Store)
    (claim : claimLease config env.runId env.now store = some claimed) (issued : List Id) :
    Proceeds config base ⟨store, newRun env.jobRunId, issued⟩
      ⟨claimed, readyRun env claimed, issued⟩ := by
  have owner : Proceeds config base ⟨store, newRun env.jobRunId, issued⟩
      ⟨claimed, { newRun env.jobRunId with runId := env.runId, phase := .loadingTiers },
        issued⟩ := by
    apply proceeds_silent quiet (jobReading env) rfl
    simp only [runStep, newRun, jobReading, Bool.false_eq_true, if_false, claim]
  have tiers : Proceeds config base
      ⟨claimed, { newRun env.jobRunId with runId := env.runId, phase := .loadingTiers }, issued⟩
      ⟨claimed, { readyRun env claimed with
        recipients := ⟨[], []⟩, phase := .loadingHigh }, issued⟩ :=
    proceeds_silent quiet (jobReading env) rfl rfl
  have high : Proceeds config base
      ⟨claimed, { readyRun env claimed with
        recipients := ⟨[], []⟩, phase := .loadingHigh }, issued⟩
      ⟨claimed, { readyRun env claimed with
        recipients := ⟨recipientsFor claimed .high, []⟩, phase := .loadingCritical }, issued⟩ :=
    proceeds_silent quiet (jobReading env) rfl rfl
  have critical : Proceeds config base
      ⟨claimed, { readyRun env claimed with
        recipients := ⟨recipientsFor claimed .high, []⟩, phase := .loadingCritical }, issued⟩
      ⟨claimed, readyRun env claimed, issued⟩ :=
    proceeds_silent quiet (jobReading env) rfl rfl
  exact owner.trans (tiers.trans (high.trans critical))

/-- A run that meets no other transaction and no failure is one of the schedules of the system: it
starts, takes its steps one after another, and leaves the store of `runEscalationJob`. -/
theorem uninterrupted_run_is_schedule (config : JobConfig) (env : RunEnv) (fuel : Nat)
    (sys : System) (quiet : Quiet sys) (keyed : sys.store.UniqueIds)
    (tiers : DistinctActive sys.store) (fresh : FreshIds env sys.store)
    (unissued : ∀ due ∈ allDue sys.store env.now, (newEvent env due).id ∉ sys.issued)
    (result : EscalationRunResult) (final : Store)
    (ran : runEscalationJob config env fuel sys.store = some (result, final)) :
    ∃ (run : Run) (drawn : List Id), run.phase = .finished ∧
      Machine.Reaches (step config) (onlyRun sys.runs.length) sys
        { sys with store := final, runs := sys.runs ++ [run], issued := drawn } := by
  set started := startJobRun env.jobRunId env.startedAt sys.store with defined
  have first : Machine.Reaches (step config) (onlyRun sys.runs.length) sys
      ((Scene.mk started (newRun env.jobRunId) sys.issued).on sys) :=
    .next sys _ (.startRun env.jobRunId env.startedAt) .start rfl rfl
  simp only [runEscalationJob, ← defined] at ran
  cases claim : claimLease config env.runId env.now started with
  | none =>
    -- Somebody holds the lease: the run closes its row as skipped and is over.
    rw [claim] at ran
    simp only [Option.some.injEq, Prod.mk.injEq] at ran
    obtain ⟨rfl, rfl⟩ := ran
    have skipped : Proceeds config sys ⟨started, newRun env.jobRunId, sys.issued⟩
        ⟨started, { newRun env.jobRunId with phase := .finishing .skippedLocked }, sys.issued⟩ := by
      apply proceeds_silent quiet (jobReading env) rfl
      simp only [runStep, newRun, jobReading, claim]
      rfl
    have closed : Proceeds config sys
        ⟨started, { newRun env.jobRunId with phase := .finishing .skippedLocked }, sys.issued⟩
        ⟨finishJobRun env.jobRunId .skippedLocked ⟨0, 0, 0⟩ none env.finishedAt started,
          { newRun env.jobRunId with phase := .finished }, sys.issued⟩ :=
      proceeds_silent quiet (jobReading env) rfl rfl
    exact ⟨_, sys.issued, rfl, first.trans (skipped.trans closed)⟩
  | some claimed =>
    rw [claim] at ran
    -- The claim changed the lease alone: what was due when the run started is due still.
    have held : claimed =
        { started with jobLease := ⟨some env.runId, some (env.now + config.leaseMs)⟩ } := by
      unfold claimLease at claim
      split at claim
      · exact (Option.some.inj claim).symm
      · simp at claim
    obtain ⟨⟨counts, scanned⟩, scan, finished⟩ := Option.map_eq_some_iff.mp ran
    simp only [Prod.mk.injEq] at finished
    obtain ⟨rfl, rfl⟩ := finished
    have loaded := loading_proceeds quiet env started claimed claim sys.issued
    subst held
    -- Nothing that the invariant of the loop reads was changed by the start of the run.
    have pending : Pending (currentRecipients sys.store) env started (allDue sys.store env.now) :=
      have held := pending_allDue keyed tiers fresh
      ⟨held.ids, held.answers, held.ascending, held.distinct, held.unused, held.injective⟩
    have drawable : Drawable env sys.issued started (allDue sys.store env.now) :=
      ⟨unissued, fresh.unusedEvent, pending.eventIds_nodup⟩
    obtain ⟨run, drawn, ended, looped⟩ := scan_proceeds quiet fuel none ⟨0, 0, 0⟩ counts _ scanned
      (readyRun env _) sys.issued ⟨rfl, rfl, rfl, rfl, rfl, rfl, rfl⟩ (pending.lease _)
      (drawable.lease _) rfl scan
    have closed : Proceeds config sys ⟨scanned, run, drawn⟩
        ⟨finishJobRun env.jobRunId .completed counts none env.finishedAt scanned,
          { run with phase := .releasing }, drawn⟩ := by
      refine proceeds_silent quiet (jobReading env) ?_ ?_
      · simp [drawsEventId, ended.phase]
      · simp only [runStep, ended.phase, ended.jobRunId, ended.counts, jobReading]
        rfl
    have released : Proceeds config sys
        ⟨finishJobRun env.jobRunId .completed counts none env.finishedAt scanned,
          { run with phase := .releasing }, drawn⟩
        ⟨releaseLease env.runId
            (finishJobRun env.jobRunId .completed counts none env.finishedAt scanned),
          { run with phase := .finished }, drawn⟩ := by
      apply proceeds_silent quiet (jobReading env) rfl
      simp only [runStep, ended.runId]
    exact ⟨{ run with phase := .finished }, drawn, rfl,
      first.trans (loaded.trans (looped.trans (closed.trans released)))⟩

end Steps

/-- Where the counters agree with the events and the lease is free, the system can run the job to
its end and meets the specification. -/
theorem specification_is_scheduled (config : JobConfig) (env : RunEnv) (sys : System)
    (quiet : Quiet sys) (keyed : sys.store.UniqueIds) (tiers : DistinctActive sys.store)
    (agree : CountersAgree sys.store) (fresh : FreshIds env sys.store)
    (free : leaseFree sys.store.jobLease env.now = true)
    (unissued : ∀ due ∈ allDue sys.store env.now, (newEvent env due).id ∉ sys.issued) :
    ∃ (run : Run) (drawn : List Id), run.phase = .finished ∧
      Machine.Reaches (step config) (onlyRun sys.runs.length) sys
        { sys with
          store := specified env sys.store
          runs := sys.runs ++ [run]
          issued := drawn } :=
  uninterrupted_run_is_schedule config env _ sys quiet keyed tiers fresh unissued _ _
    (runEscalationJob_specified config keyed tiers agree fresh free _ (Nat.lt_succ_self _))

/-- The uninterrupted run of the sample, statement by statement: both incidents are escalated. -/
theorem specification_is_scheduled_sample :
    ∃ (run : Run) (drawn : List Id), run.phase = .finished ∧
      Machine.Reaches (step sampleConfig) (onlyRun 0) (System.boot sampleStore [])
        { System.boot sampleStore [] with
          store := specified (sampleEnv "r" 1800000) sampleStore
          runs := [run]
          issued := drawn } ∧
      (specified (sampleEnv "r" 1800000) sampleStore).escalationEvents.length = 2 := by
  obtain ⟨run, drawn, finished, reached⟩ := specification_is_scheduled sampleConfig
    (sampleEnv "r" 1800000) (System.boot sampleStore []) rfl ⟨by decide, by decide⟩
    (show DistinctTiers sampleStore by decide).active
    (fun _ _ _ event member => absurd member List.not_mem_nil) (by decide) (by decide) (by decide)
  exact ⟨run, drawn, finished, reached, by decide⟩

end IncidentApi.Properties
