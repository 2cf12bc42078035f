import IncidentApi.Properties.JobSteps

/-!
# The escalation history

The invariant of the events, notifications and audit rows that runs leave behind, kept by every
step from any database. The key of an event is taken once, among what is stored and what open
transactions hold; the id an insert draws belongs to one transaction until it commits; and an
escalation that commits brings its notifications and its audit row with it.
-/
namespace IncidentApi.Properties

/-! ### `createMany` with `skipDuplicates` -/

theorem skipDuplicates_sublist (existing rows : List NotificationLog) :
    (skipDuplicates existing rows).Sublist rows := by
  induction rows generalizing existing with
  | nil => exact .slnil
  | cons row rest ih =>
    unfold skipDuplicates
    split
    · exact (ih existing).cons row
    · exact (ih _).cons_cons row

/-- A key that no existing row has is inserted once, however often the rows name it. -/
theorem count_skipDuplicates (existing rows : List NotificationLog) (key : Id × Id) :
    ((skipDuplicates existing rows).map (·.key)).count key =
      if key ∈ existing.map (·.key) then 0 else if key ∈ rows.map (·.key) then 1 else 0 := by
  induction rows generalizing existing with
  | nil => simp [skipDuplicates]
  | cons row rest ih =>
    unfold skipDuplicates
    split
    -- a row of that key exists: the new one is skipped
    next taken =>
      obtain ⟨other, stored, same⟩ := List.any_eq_true.mp taken
      have mem : row.key ∈ existing.map (·.key) :=
        List.mem_map.mpr ⟨other, stored, of_decide_eq_true same⟩
      rw [ih existing]
      by_cases own : key = row.key
      · simp only [own, mem, if_true]
      · simp only [List.map_cons, List.mem_cons, own, false_or]
    -- the row is inserted and counts as existing for the rest
    next free =>
      have absent : row.key ∉ existing.map (·.key) := by
        intro mem
        obtain ⟨other, stored, same⟩ := List.mem_map.mp mem
        exact free (List.any_eq_true.mpr ⟨other, stored, decide_eq_true same⟩)
      rw [List.map_cons, List.count_cons, ih]
      by_cases own : key = row.key
      · simp [own, absent]
      · simp [own, Ne.symm own]

/-! ### Complete escalations -/

/-- The notifications of an event: one for each recipient. -/
structure NotifiedOnce (recipients : List Id) (event : EscalationEvent)
    (rows : List NotificationLog) : Prop where
  owned : ∀ row ∈ rows, row.escalationEventId = event.id
  once : ∀ recipient, (rows.map (·.key)).count (event.id, recipient) =
    if recipient ∈ recipients then 1 else 0

theorem notifiedOnce_of_fresh {existing : List NotificationLog} {event : EscalationEvent}
    (recipients : List Id) (now : Date) (ids : Id → Id)
    (fresh : ∀ row ∈ existing, row.escalationEventId ≠ event.id) :
    NotifiedOnce recipients event
      (skipDuplicates existing (notificationsFor event.id recipients now ids)) where
  owned row member := by
    obtain ⟨recipient, _, rfl⟩ :=
      List.mem_map.mp ((skipDuplicates_sublist _ _).subset member)
    rfl
  once recipient := by
    rw [count_skipDuplicates, if_neg]
    · simp [notificationsFor, NotificationLog.key]
    · intro stored
      obtain ⟨row, member, same⟩ := List.mem_map.mp stored
      exact fresh row member (congrArg Prod.fst same)

/-- An escalation with everything that goes with it. -/
structure Made (recipients : Recipients) (made : Escalation) : Prop where
  notified : NotifiedOnce (recipients.get made.due.candidate.severity) made.event
    made.notifications
  reported : reportedEvent made.audit = some made.event.id

/-- What the statement in progress has prepared for the first pair of `todo`. -/
def Progress (recipients : Recipients) : List Due → Statement → Prop
  | [], statement => statement = .select
  | due :: _, .audit event rows =>
    NotifiedOnce (recipients.get due.candidate.severity) event rows
  | due :: _, .bump event rows record =>
    NotifiedOnce (recipients.get due.candidate.severity) event rows ∧
      reportedEvent record = some event.id
  | _ :: _, _ => True

theorem progress_select (recipients : Recipients) (todo : List Due) :
    Progress recipients todo .select := by
  cases todo <;> simp [Progress]

structure BatchMade (recipients : Recipients) (batch : Batch) : Prop where
  done : ∀ made ∈ batch.escalations, Made recipients made
  progress : Progress recipients batch.todo batch.statement

structure RunMade (run : Run) : Prop where
  batch : ∀ batch, run.open? = some batch → BatchMade run.recipients batch
  loading : isLoading run = true → run.committed = []

/-- The committed form of `Made`: the event is stored, with one notification for each recipient
and one audit row. -/
structure Complete (recipients : Recipients) (store : Store) (made : Escalation) : Prop where
  event : made.event ∈ store.escalationEvents
  notified : ∀ recipient,
    (store.notificationLog.map (·.key)).count (made.event.id, recipient) =
      if recipient ∈ recipients.get made.due.candidate.severity then 1 else 0
  reported : (store.auditEvents.filterMap reportedEvent).count made.event.id = 1

/-! ### The history of a system -/

/-- The event ids a store mentions. -/
def mentions (store : Store) : List Id :=
  store.escalationEvents.map (·.id) ++ store.notificationLog.map (·.escalationEventId) ++
    store.auditEvents.filterMap reportedEvent

/-- The escalations a run has committed, with the recipients it loaded. -/
def runCommitted (run : Run) : List (Recipients × Escalation) :=
  run.committed.map fun made => (run.recipients, made)

def allCommitted (sys : System) : List (Recipients × Escalation) :=
  sys.runs.flatMap runCommitted

/-- The stored events and those of the open transactions. -/
def allEvents (sys : System) : List EscalationEvent :=
  sys.store.escalationEvents ++ sys.runs.flatMap runEvents

def allDrawn (sys : System) : List Id := sys.runs.flatMap runDrawn

/-- Where the rows of the history come from. -/
structure Origins (start : Store) (sys : System) : Prop where
  events : ∀ event ∈ sys.store.escalationEvents,
    event ∈ start.escalationEvents ∨ ∃ entry ∈ allCommitted sys, entry.2.event = event
  notifications : ∀ row ∈ sys.store.notificationLog,
    row.key ∈ start.notificationLog.map (·.key) ∨
      ∃ entry ∈ allCommitted sys, row.escalationEventId = entry.2.event.id
  audits : ∀ row ∈ sys.store.auditEvents, row.type = .incidentEscalated →
    row ∈ start.auditEvents ∨
      ∃ entry ∈ allCommitted sys, reportedEvent row = some entry.2.event.id

structure HistoryInvariant (start : Store) (sys : System) : Prop where
  keys : ((allEvents sys).map (·.key)).Nodup
  drawn : (allDrawn sys).Nodup
  drawnIssued : ∀ id ∈ allDrawn sys, id ∈ sys.issued
  drawnFresh : ∀ id ∈ allDrawn sys, id ∉ mentions sys.store
  mentionedIssued : ∀ id ∈ mentions sys.store, id ∈ sys.issued
  made : ∀ run ∈ sys.runs, RunMade run
  complete : ∀ entry ∈ allCommitted sys, Complete entry.1 sys.store entry.2
  failure : ∀ run ∈ sys.runs, run.failure ≠ some .uniqueViolation
  origins : Origins start sys

/-! ### Requests -/

theorem SameHistory.key_mem {old new : Store} (same : SameHistory old new) {row : NotificationLog}
    (member : row ∈ new.notificationLog) : ∃ other ∈ old.notificationLog, other.key = row.key := by
  have mem : row.key ∈ new.notificationLog.map (·.key) := List.mem_map.mpr ⟨row, member, rfl⟩
  rw [same.notifications] at mem
  exact List.mem_map.mp mem

theorem filterMap_unrelated {rows : List AuditEvent} (unrelated : Unrelated rows) :
    rows.filterMap reportedEvent = [] := by
  apply List.filterMap_eq_nil_iff.mpr
  intro row member
  simp [reportedEvent, unrelated row member]

theorem SameHistory.reports {old new : Store} (same : SameHistory old new) :
    new.auditEvents.filterMap reportedEvent = old.auditEvents.filterMap reportedEvent := by
  obtain ⟨rows, added, unrelated⟩ := same.audits
  rw [added, List.filterMap_append, filterMap_unrelated unrelated, List.append_nil]

theorem SameHistory.mentions {old new : Store} (same : SameHistory old new) :
    mentions new = mentions old := by
  have ids : new.notificationLog.map (·.escalationEventId) =
      old.notificationLog.map (·.escalationEventId) := by
    have firsts := congrArg (List.map Prod.fst) same.notifications
    simpa only [List.map_map, Function.comp_def, NotificationLog.key] using firsts
  rw [Properties.mentions, Properties.mentions, same.events, ids, same.reports]

theorem SameHistory.complete {old new : Store} (same : SameHistory old new)
    {recipients : Recipients} {made : Escalation} (complete : Complete recipients old made) :
    Complete recipients new made where
  event := same.events ▸ complete.event
  notified := same.notifications ▸ complete.notified
  reported := same.reports ▸ complete.reported

theorem HistoryInvariant.service {start : Store} {sys next : System}
    (inv : HistoryInvariant start sys) (frame : ServiceFrame sys next) :
    HistoryInvariant start next := by
  obtain ⟨runs, issued, history⟩ := frame
  have committed : allCommitted next = allCommitted sys := by rw [allCommitted, runs, allCommitted]
  have drawn : allDrawn next = allDrawn sys := by rw [allDrawn, runs, allDrawn]
  have events : allEvents next = allEvents sys := by
    rw [allEvents, history.events, runs, allEvents]
  refine ⟨events ▸ inv.keys, drawn ▸ inv.drawn, ?_, ?_, ?_, runs ▸ inv.made, ?_,
    runs ▸ inv.failure, ⟨?_, ?_, ?_⟩⟩
  · rw [drawn, issued]
    exact inv.drawnIssued
  · rw [drawn, history.mentions]
    exact inv.drawnFresh
  · rw [issued, history.mentions]
    exact inv.mentionedIssued
  · rw [committed]
    exact fun entry member => history.complete (inv.complete entry member)
  · rw [history.events, committed]
    exact inv.origins.events
  · intro row member
    obtain ⟨other, stored, same⟩ := history.key_mem member
    rw [committed, ← same]
    have owner : row.escalationEventId = other.escalationEventId :=
      (congrArg Prod.fst same).symm
    rw [owner]
    exact inv.origins.notifications other stored
  -- A request's rows are of other types than ESCALATED.
  · intro row member escalated
    obtain ⟨rows, added, unrelated⟩ := history.audits
    rw [added] at member
    rw [committed]
    rcases List.mem_append.mp member with old | new
    · exact inv.origins.audits row old escalated
    · exact absurd escalated (unrelated row new)

/-! ### Statements of a run -/

/-- A statement as the history sees it: it drops some of what its transaction held, draws an id,
inserts an event, or commits. -/
inductive HistoryEffect (others : List Write) (store : Store) (run : Run) (drawn : Option Id) :
    Store → Run → Prop
  | kept (after : Store) (next : Run) (tables : SameTables store after)
      (events : (runEvents next).Sublist (runEvents run))
      (ids : (runDrawn next).Sublist (runDrawn run))
      (log : runCommitted next = runCommitted run) :
      HistoryEffect others store run drawn after next
  | drew (next : Run) (id : Id) (asked : drawn = some id) (events : runEvents next = runEvents run)
      (ids : runDrawn next = runDrawn run ++ [id])
      (log : runCommitted next = runCommitted run) :
      HistoryEffect others store run drawn store next
  | inserted (next : Run) (event : EscalationEvent)
      (events : runEvents next = runEvents run ++ [event]) (ids : runDrawn next = runDrawn run)
      (log : runCommitted next = runCommitted run)
      (alone : ∀ other ∈ eventsOf others, other.key ≠ event.key)
      (absent : ∀ other ∈ store.escalationEvents ++ runEvents run, other.key ≠ event.key) :
      HistoryEffect others store run drawn store next
  | committed (batch : Batch) (next : Run) (opened : run.open? = some batch)
      (done : batch.todo = []) (still : next.open? = none)
      (log : runCommitted next =
        runCommitted run ++ batch.escalations.map fun made => (run.recipients, made)) :
      HistoryEffect others store run drawn (batch.view store) next

theorem runEvents_batch {run : Run} {batch : Batch} (opened : run.open? = some batch) :
    runEvents run = batchEvents batch := by
  simp [runEvents, opened]

theorem runDrawn_batch {run : Run} {batch : Batch} (opened : run.open? = some batch) :
    runDrawn run = batchDrawn batch := by
  simp [runDrawn, opened]

theorem runEvents_closed {run : Run} (closed : run.open? = none) : runEvents run = [] := by
  simp [runEvents, closed]

theorem runDrawn_closed {run : Run} (closed : run.open? = none) : runDrawn run = [] := by
  simp [runDrawn, closed]

theorem open_of_phase {run : Run} {batch : Batch} (phase : run.phase = .batch batch) :
    run.open? = some batch := by
  simp [Run.open?, phase]

/-- What holds of a batch holds of every batch that its run has open. -/
theorem forall_open {P : Batch → Prop} {run : Run} {batch : Batch} (holds : P batch) :
    ∀ other, Run.open? { run with phase := .batch batch } = some other → P other := by
  intro other isOpen
  obtain rfl := Option.some.inj isOpen
  exact holds

theorem runCommitted_congr {run next : Run} (log : next.committed = run.committed)
    (recipients : run.committed = [] ∨ next.recipients = run.recipients) :
    runCommitted next = runCommitted run := by
  rcases recipients with empty | same
  · simp [runCommitted, log, empty]
  · rw [runCommitted, log, same, runCommitted]

theorem view_events (batch : Batch) (store : Store) :
    (batch.view store).escalationEvents = store.escalationEvents ++ batchEvents batch := by
  rw [view_eq]

/-- A statement that inserts no event, draws no id and commits nothing. -/
theorem HistoryEffect.within {others : List Write} {store : Store} {run : Run} {drawn : Option Id}
    {batch next : Batch} (phase : run.phase = .batch batch)
    (events : (batchEvents next).Sublist (batchEvents batch))
    (ids : (batchDrawn next).Sublist (batchDrawn batch)) :
    HistoryEffect others store run drawn store { run with phase := .batch next } := by
  refine .kept _ _ (.refl _) ?_ ?_ rfl
  · rw [runEvents_batch (open_of_phase phase)]
    exact events
  · rw [runDrawn_batch (open_of_phase phase)]
    exact ids

/-- What a statement of the run asks `newId()` for an event, if it does. -/
def drawnFor (run : Run) (reading : Reading) : Option Id :=
  if drawsEventId run then some reading.id else none

theorem RunEffect.history {config : JobConfig} {others : List Write} {store after : Store}
    {run next : Run} {reading : Reading} (made : RunMade run)
    (effect : RunEffect config others store run reading after next) :
    HistoryEffect others store run (drawnFor run reading) after next := by
  cases effect with
  | outside _ _ closed still tables log failure recipients loading tiers =>
    -- Nothing is open before or after: no event in preparation and no id drawn.
    refine .kept after next tables ?_ ?_ (runCommitted_congr log (recipients.imp_left made.loading))
    · rw [runEvents_closed still]
      exact List.nil_sublist _
    · rw [runDrawn_closed still]
      exact List.nil_sublist _
  | opened batch scanning todo statement escalations =>
    refine .kept _ _ (.refl _) ?_ ?_ rfl
    · simp [runEvents, Run.open?, batchEvents, insertedBy, statement, escalations]
    · simp [runDrawn, Run.open?, batchDrawn, drawnBy, statement, escalations]
  | committed batch _ phase done still log failure recipients loading tiers =>
    refine .committed batch next (open_of_phase phase) done still ?_
    rw [runCommitted, log, recipients, List.map_append, runCommitted]
  | vanished batch due rest phase todo statement absent =>
    exact .within phase (.refl _) (.refl _)
  | selected batch due rest row phase todo statement found =>
    refine .drew _ reading.id ?_ ?_ ?_ rfl
    -- `select` is the one statement that asks for an id.
    · have draws : drawsEventId run = true := by
        obtain ⟨now, length, last, pairs, current, escalations⟩ := batch
        simp only at todo statement
        simp [drawsEventId, phase, todo, statement]
      rw [drawnFor, if_pos draws]
    · rw [runEvents_batch (open_of_phase phase)]
      simp [runEvents, Run.open?, batchEvents, insertedBy, statement]
    · rw [runDrawn_batch (open_of_phase phase)]
      simp [runDrawn, Run.open?, batchDrawn, drawnBy, statement, eventFor]
  | conflicted batch due rest event phase todo statement present =>
    refine .within phase ?_ ?_
    · simp [batchEvents, insertedBy, statement]
    · simp [batchDrawn, drawnBy, statement]
  | violated batch event phase statement clash =>
    refine .kept _ _ (.refl _) ?_ ?_ rfl
    · simp [runEvents, Run.open?]
    · simp [runDrawn, Run.open?]
  | inserted batch due rest event phase todo statement alone absent =>
    -- The insert passed the key check against the visible rows, so the key is new to store and
    -- batch.
    refine .inserted _ event ?_ ?_ rfl ((any_pendingKey _ _).mp alone) ?_
    · rw [runEvents_batch (open_of_phase phase)]
      simp [runEvents, Run.open?, batchEvents, insertedBy, statement]
    · rw [runDrawn_batch (open_of_phase phase)]
      simp [runDrawn, Run.open?, batchDrawn, drawnBy, statement]
    · rw [runEvents_batch (open_of_phase phase), ← view_events]
      simpa using absent
  | notified batch due rest event phase todo statement =>
    refine .within phase ?_ ?_
    · simp [batchEvents, insertedBy, statement]
    · simp [batchDrawn, drawnBy, statement]
  | audited batch due rest event rows phase todo statement =>
    refine .within phase ?_ ?_
    · simp [batchEvents, insertedBy, statement]
    · simp [batchDrawn, drawnBy, statement]
  | bumped batch due rest event rows record phase todo statement alone =>
    refine .within phase ?_ ?_
    · simp [batchEvents, insertedBy, statement]
    · simp [batchDrawn, drawnBy, statement]

/-! ### What a transaction prepares -/

theorem view_log (batch : Batch) (store : Store) :
    (batch.view store).notificationLog = store.notificationLog ++
      (batch.escalations.flatMap (·.notifications) ++ rowsBy batch.statement) := by
  rw [view_eq]

theorem view_audits (batch : Batch) (store : Store) :
    (batch.view store).auditEvents = store.auditEvents ++
      (batch.escalations.map (·.audit) ++ recordsBy batch.statement) := by
  rw [view_eq]

/-- An id that only the pair in progress has drawn appears in no notification it can see. -/
theorem view_unowned {recipients : Recipients} {batch : Batch} {store : Store} {id : Id}
    (made : BatchMade recipients batch) (empty : rowsBy batch.statement = [])
    (other : id ∉ batch.escalations.map (·.event.id)) (unmentioned : id ∉ mentions store) :
    ∀ row ∈ (batch.view store).notificationLog, row.escalationEventId ≠ id := by
  intro row member owner
  rw [view_log, empty, List.append_nil] at member
  rcases List.mem_append.mp member with stored | own
  · refine unmentioned (List.mem_append_left _ (List.mem_append_right _ ?_))
    exact List.mem_map.mpr ⟨row, stored, owner⟩
  · obtain ⟨escalation, among, mine⟩ := List.mem_flatMap.mp own
    have same := (made.done escalation among).notified.owned row mine
    exact other (List.mem_map.mpr ⟨escalation, among, same.symm.trans owner⟩)

theorem RunEffect.made {config : JobConfig} {others : List Write} {store after : Store}
    {run next : Run} {reading : Reading} (made : RunMade run) (distinct : (runDrawn run).Nodup)
    (unmentioned : ∀ id ∈ runDrawn run, id ∉ mentions store)
    (effect : RunEffect config others store run reading after next) : RunMade next := by
  cases effect with
  | outside _ _ closed still tables log failure recipients loading tiers =>
    refine ⟨fun batch opened => ?_, fun loads => log.trans (made.loading (loading loads))⟩
    rw [still] at opened
    simp at opened
  | committed batch _ phase done still log failure recipients loading tiers =>
    refine ⟨fun batch opened => ?_, fun loads => ?_⟩
    · rw [still] at opened
      simp at opened
    · rw [loading] at loads
      simp at loads
  | violated batch event phase statement clash =>
    exact ⟨fun batch opened => by simp [Run.open?] at opened, by simp [isLoading]⟩
  | opened batch scanning todo statement escalations =>
    refine ⟨forall_open ?_, by simp [isLoading]⟩
    exact ⟨by simp [escalations], statement ▸ progress_select _ _⟩
  | vanished batch due rest phase todo statement absent =>
    have old := made.batch batch (open_of_phase phase)
    refine ⟨forall_open ?_, by simp [isLoading]⟩
    exact ⟨old.done, by simpa only [statement] using progress_select run.recipients rest⟩
  | selected batch due rest row phase todo statement found =>
    have old := made.batch batch (open_of_phase phase)
    refine ⟨forall_open ?_, by simp [isLoading]⟩
    exact ⟨old.done, by simp [todo, Progress]⟩
  | conflicted batch due rest event phase todo statement present =>
    have old := made.batch batch (open_of_phase phase)
    refine ⟨forall_open ?_, by simp [isLoading]⟩
    exact ⟨old.done, progress_select _ _⟩
  | inserted batch due rest event phase todo statement alone absent =>
    have old := made.batch batch (open_of_phase phase)
    refine ⟨forall_open ?_, by simp [isLoading]⟩
    exact ⟨old.done, by simp [todo, Progress]⟩
  | notified batch due rest event phase todo statement =>
    have old := made.batch batch (open_of_phase phase)
    rw [runDrawn_batch (open_of_phase phase)] at distinct unmentioned
    have own : event.id ∈ batchDrawn batch := by simp [batchDrawn, drawnBy, statement]
    have other : event.id ∉ batch.escalations.map (·.event.id) := by
      rw [batchDrawn, statement, drawnBy, List.nodup_append] at distinct
      exact fun again => distinct.2.2 _ again _ List.mem_cons_self rfl
    refine ⟨forall_open ?_, by simp [isLoading]⟩
    refine ⟨old.done, ?_⟩
    simp only [todo, Progress]
    -- `skipDuplicates` skips nothing: the event is new to the log
    exact notifiedOnce_of_fresh _ _ _
      (view_unowned old (by simp [statement, rowsBy]) other (unmentioned _ own))
  | audited batch due rest event rows phase todo statement =>
    have old := made.batch batch (open_of_phase phase)
    have progress := old.progress
    rw [todo, statement] at progress
    refine ⟨forall_open ?_, by simp [isLoading]⟩
    refine ⟨old.done, ?_⟩
    simp only [todo, Progress]
    exact ⟨progress, reportedEvent_escalated _ _ _ _⟩
  | bumped batch due rest event rows record phase todo statement alone =>
    have old := made.batch batch (open_of_phase phase)
    have progress := old.progress
    rw [todo, statement] at progress
    refine ⟨forall_open ?_, by simp [isLoading]⟩
    refine ⟨fun escalation among => ?_, progress_select _ _⟩
    rcases List.mem_append.mp among with early | last
    · exact old.done escalation early
    · obtain rfl := List.mem_singleton.mp last
      exact ⟨progress.1, progress.2⟩

/-- The insert of an event meets no row of the same id. -/
theorem RunEffect.failure {config : JobConfig} {others : List Write} {store after : Store}
    {run next : Run} {reading : Reading} (distinct : (runDrawn run).Nodup)
    (unmentioned : ∀ id ∈ runDrawn run, id ∉ mentions store)
    (effect : RunEffect config others store run reading after next)
    (clean : run.failure ≠ some .uniqueViolation) : next.failure ≠ some .uniqueViolation := by
  cases effect with
  | outside _ _ closed still tables log failure => exact failure ▸ clean
  | committed batch _ phase done still log failure => exact failure ▸ clean
  | violated batch event phase statement clash =>
    rw [runDrawn_batch (open_of_phase phase)] at distinct unmentioned
    have own : event.id ∈ batchDrawn batch := by simp [batchDrawn, drawnBy, statement]
    obtain ⟨other, stored, same⟩ := List.any_eq_true.mp clash
    simp only [decide_eq_true_eq] at same
    rw [view_events, batchEvents, statement, insertedBy, List.append_nil] at stored
    -- no stored row mentions an id an open transaction has drawn, and its own pairs drew others
    rcases List.mem_append.mp stored with old | mine
    · refine absurd ?_ (unmentioned _ own)
      exact List.mem_append_left _ (List.mem_append_left _ (List.mem_map.mpr ⟨other, old, same⟩))
    · obtain ⟨escalation, among, rfl⟩ := List.mem_map.mp mine
      rw [batchDrawn, statement, drawnBy, List.nodup_append] at distinct
      -- a finished pair of the same transaction drew another id
      refine absurd rfl (distinct.2.2 event.id ?_ _ List.mem_cons_self)
      exact List.mem_map.mpr ⟨escalation, among, same⟩
  | _ => exact clean

/-! ### What a transaction commits -/

section Commit
variable {recipients : Recipients} {batch : Batch} {store : Store}

theorem BatchMade.settled (made : BatchMade recipients batch) (done : batch.todo = []) :
    batch.statement = .select := by
  have progress := made.progress
  rw [done] at progress
  exact progress

theorem BatchMade.reports (made : BatchMade recipients batch) :
    (batch.escalations.map (·.audit)).filterMap reportedEvent =
      batch.escalations.map (·.event.id) := by
  rw [List.filterMap_map, ← List.filterMap_eq_map]
  exact List.filterMap_congr fun escalation among => (made.done escalation among).reported

theorem batchDrawn_settled (settled : batch.statement = .select) :
    batchDrawn batch = batch.escalations.map (·.event.id) := by
  rw [batchDrawn, settled, drawnBy, List.append_nil]

theorem batchEvents_settled (settled : batch.statement = .select) :
    batchEvents batch = batch.escalations.map (·.event) := by
  rw [batchEvents, settled, insertedBy, List.append_nil]

/-- A commit adds mentions of the ids its transaction drew, and no others. -/
theorem mem_mentions_view (made : BatchMade recipients batch) (done : batch.todo = []) {id : Id}
    (mentioned : id ∈ mentions (batch.view store)) :
    id ∈ mentions store ∨ id ∈ batchDrawn batch := by
  have settled := made.settled done
  simp only [mentions, view_events, view_log, view_audits, settled, rowsBy_select, recordsBy_select,
    batchEvents_settled settled, List.append_nil, List.map_append, List.filterMap_append,
    made.reports, List.map_map, List.mem_append] at mentioned
  rw [batchDrawn_settled settled]
  -- events, notifications and audit rows, each stored before or made by the transaction
  rcases mentioned with ((stored | own) | (stored | own)) | (stored | own)
  · exact Or.inl (List.mem_append_left _ (List.mem_append_left _ stored))
  · exact Or.inr own
  · exact Or.inl (List.mem_append_left _ (List.mem_append_right _ stored))
  · obtain ⟨row, among, rfl⟩ := List.mem_map.mp own
    obtain ⟨escalation, member, mine⟩ := List.mem_flatMap.mp among
    refine Or.inr (List.mem_map.mpr ⟨escalation, member, ?_⟩)
    exact ((made.done escalation member).notified.owned row mine).symm
  · exact Or.inl (List.mem_append_right _ stored)
  · exact Or.inr own

/-- What was complete stays complete when a transaction commits that drew other ids. -/
theorem Complete.view {old : Recipients} {escalation : Escalation}
    (complete : Complete old store escalation) (made : BatchMade recipients batch)
    (done : batch.todo = []) (other : escalation.event.id ∉ batchDrawn batch) :
    Complete old (batch.view store) escalation where
  event := view_events batch store ▸ List.mem_append_left _ complete.event
  notified recipient := by
    have settled := made.settled done
    rw [view_log, settled, rowsBy_select, List.append_nil, List.map_append, List.count_append,
      complete.notified, List.count_eq_zero.mpr, Nat.add_zero]
    intro mem
    obtain ⟨row, among, same⟩ := List.mem_map.mp mem
    obtain ⟨own, member, mine⟩ := List.mem_flatMap.mp among
    have owner := (made.done own member).notified.owned row mine
    rw [batchDrawn_settled settled] at other
    exact other (List.mem_map.mpr ⟨own, member, owner.symm.trans (congrArg Prod.fst same)⟩)
  reported := by
    have settled := made.settled done
    rw [view_audits, settled, recordsBy_select, List.append_nil, List.filterMap_append,
      made.reports, List.count_append, complete.reported, ← batchDrawn_settled settled,
      List.count_eq_zero.mpr other]

/-- What a transaction made is complete once it has committed. -/
theorem BatchMade.complete (made : BatchMade recipients batch) (done : batch.todo = [])
    (distinct : (batchDrawn batch).Nodup)
    (unmentioned : ∀ id ∈ batchDrawn batch, id ∉ mentions store) {escalation : Escalation}
    (member : escalation ∈ batch.escalations) :
    Complete recipients (batch.view store) escalation := by
  have settled := made.settled done
  rw [batchDrawn_settled settled] at distinct unmentioned
  have own : escalation.event.id ∈ batch.escalations.map (·.event.id) :=
    List.mem_map.mpr ⟨escalation, member, rfl⟩
  have fresh := unmentioned _ own
  refine ⟨?_, fun recipient => ?_, ?_⟩
  · rw [view_events, batchEvents_settled settled]
    exact List.mem_append_right _ (List.mem_map.mpr ⟨escalation, member, rfl⟩)
  · have stored :
        (store.notificationLog.map (·.key)).count (escalation.event.id, recipient) = 0 := by
      refine List.count_eq_zero.mpr fun mem => fresh ?_
      obtain ⟨row, among, same⟩ := List.mem_map.mp mem
      refine List.mem_append_left _ (List.mem_append_right _ ?_)
      exact List.mem_map.mpr ⟨row, among, congrArg Prod.fst same⟩
    rw [view_log, settled, rowsBy_select, List.append_nil, List.map_append, List.count_append,
      -- every notification of the batch names its event, so those of this event are its own
      stored, Nat.zero_add, List.map_flatMap,
      Pool.count_flatMap_owned Prod.fst (·.event.id) _ _ distinct ?_ member rfl]
    · exact (made.done escalation member).notified.once recipient
    · intro other among key mem
      obtain ⟨row, mine, rfl⟩ := List.mem_map.mp mem
      exact (made.done other among).notified.owned row mine
  · rw [view_audits, settled, recordsBy_select, List.append_nil, List.filterMap_append,
      made.reports, List.count_append,
      List.count_eq_zero.mpr fun mem => fresh (List.mem_append_right _ mem),
      Nat.zero_add, List.count_eq_one_of_mem distinct own]

end Commit

/-! ### The invariant over a statement -/

section Moved
variable {others : List Write} {store after : Store} {run next : Run} {drawn : Option Id}

theorem HistoryEffect.keys (effect : HistoryEffect others store run drawn after next)
    (rest : List EscalationEvent) (elsewhere : eventsOf others = rest)
    (distinct : ((store.escalationEvents ++ (runEvents run ++ rest)).map (·.key)).Nodup) :
    ((after.escalationEvents ++ (runEvents next ++ rest)).map (·.key)).Nodup := by
  cases effect with
  | kept _ _ tables events ids log =>
    rw [tables.events]
    exact distinct.sublist (((events.append_right rest).append_left _).map _)
  | drew _ id asked events ids log =>
    rw [events]
    exact distinct
  | inserted _ event events ids log alone absent =>
    rw [events, List.append_assoc, List.singleton_append, ← List.append_assoc]
    -- the key is checked against the view and against the open transactions of the others
    refine (List.perm_middle.map _).nodup_iff.mpr (List.nodup_cons.mpr ⟨?_, ?_⟩)
    · intro again
      obtain ⟨other, among, same⟩ := List.mem_map.mp again
      rcases List.mem_append.mp among with own | old
      · exact absent other own same
      · exact alone other (elsewhere ▸ old) same
    · rwa [List.append_assoc]
  | committed batch _ opened done still log =>
    rwa [view_events, runEvents_closed still, List.nil_append, List.append_assoc,
      ← runEvents_batch opened]

theorem HistoryEffect.drawnNodup (effect : HistoryEffect others store run drawn after next)
    (rest : List Id) (fresh : ∀ id ∈ drawn, id ∉ runDrawn run ++ rest)
    (distinct : (runDrawn run ++ rest).Nodup) : (runDrawn next ++ rest).Nodup := by
  cases effect with
  | kept _ _ tables events ids log => exact distinct.sublist (ids.append_right rest)
  | drew _ id asked events ids log =>
    rw [ids, List.append_assoc, List.singleton_append]
    exact List.perm_middle.nodup_iff.mpr (List.nodup_cons.mpr ⟨fresh id asked, distinct⟩)
  | inserted _ event events ids log alone absent => rwa [ids]
  | committed batch _ opened done still log =>
    rw [runDrawn_closed still]
    exact distinct.sublist (List.sublist_append_right _ _)

/-- An id a run has drawn was drawn before, or is the answer to this statement. -/
theorem HistoryEffect.mem_drawn (effect : HistoryEffect others store run drawn after next) {id : Id}
    (member : id ∈ runDrawn next) :
    id ∈ runDrawn run ∨ drawn = some id := by
  cases effect with
  | kept _ _ tables events ids log => exact Or.inl (ids.subset member)
  | drew _ last asked events ids log =>
    rw [ids] at member
    apply (List.mem_append.mp member).imp_right
    intro new
    rw [List.mem_singleton.mp new, asked]
  | inserted _ event events ids log alone absent => exact Or.inl (ids ▸ member)
  | committed batch _ opened done still log =>
    rw [runDrawn_closed still] at member
    simp at member

theorem SameTables.mentions {old new : Store} (tables : SameTables old new) :
    mentions new = mentions old := by
  rw [Properties.mentions, tables.events, tables.notifications, tables.audits, Properties.mentions]

theorem SameTables.complete {old new : Store} (tables : SameTables old new)
    {recipients : Recipients} {made : Escalation} (complete : Complete recipients old made) :
    Complete recipients new made where
  event := tables.events ▸ complete.event
  notified := tables.notifications ▸ complete.notified
  reported := tables.audits ▸ complete.reported

theorem HistoryEffect.mem_mentions (effect : HistoryEffect others store run drawn after next)
    (made : RunMade run) {id : Id} (mentioned : id ∈ mentions after) :
    id ∈ mentions store ∨ id ∈ runDrawn run ∧ runDrawn next = [] := by
  cases effect with
  | kept _ _ tables events ids log => exact Or.inl (tables.mentions ▸ mentioned)
  | drew _ id asked events ids log => exact Or.inl mentioned
  | inserted _ event events ids log alone absent => exact Or.inl mentioned
  | committed batch _ opened done still log =>
    apply (mem_mentions_view (made.batch batch opened) done mentioned).imp_right
    intro own
    exact ⟨runDrawn_batch opened ▸ own, runDrawn_closed still⟩

/-- The committed escalations of a run only grow. -/
theorem HistoryEffect.log (effect : HistoryEffect others store run drawn after next) :
    (runCommitted run).Sublist (runCommitted next) := by
  cases effect with
  | kept _ _ tables events ids log => exact log ▸ .refl _
  | drew _ id asked events ids log => exact log ▸ .refl _
  | inserted _ event events ids log alone absent => exact log ▸ .refl _
  | committed batch _ opened done still log => exact log ▸ List.sublist_append_left _ _

theorem HistoryEffect.complete (effect : HistoryEffect others store run drawn after next)
    (made : RunMade run) (distinct : (runDrawn run).Nodup)
    (unmentioned : ∀ id ∈ runDrawn run, id ∉ mentions store)
    (rest : List (Recipients × Escalation))
    (complete : ∀ entry ∈ runCommitted run ++ rest, Complete entry.1 store entry.2) :
    ∀ entry ∈ runCommitted next ++ rest, Complete entry.1 after entry.2 := by
  cases effect with
  | kept _ _ tables events ids log =>
    rw [log]
    exact fun entry member => tables.complete (complete entry member)
  | drew _ id asked events ids log => rwa [log]
  | inserted _ event events ids log alone absent => rwa [log]
  | committed batch _ opened done still log =>
    have own := made.batch batch opened
    rw [runDrawn_batch opened] at distinct unmentioned
    -- the events of earlier escalations are stored, so their ids are none of the drawn ones
    have kept : ∀ entry ∈ runCommitted run ++ rest,
        Complete entry.1 (batch.view store) entry.2 := by
      intro entry member
      have old := complete entry member
      refine old.view own done fun drawn => unmentioned _ drawn ?_
      exact List.mem_append_left _ (List.mem_append_left _ (List.mem_map.mpr ⟨_, old.event, rfl⟩))
    intro entry member
    rw [log, List.append_assoc] at member
    rcases List.mem_append.mp member with early | later
    · exact kept entry (List.mem_append_left _ early)
    · rcases List.mem_append.mp later with new | elsewhere
      · obtain ⟨escalation, among, rfl⟩ := List.mem_map.mp new
        exact own.complete done distinct unmentioned among
      · exact kept entry (List.mem_append_right _ elsewhere)

/-- A row a statement adds to the history belongs to an escalation its run has committed. -/
structure RowsFrom (store after : Store) (log : List (Recipients × Escalation)) : Prop where
  events : ∀ event ∈ after.escalationEvents,
    event ∈ store.escalationEvents ∨ ∃ entry ∈ log, entry.2.event = event
  notifications : ∀ row ∈ after.notificationLog,
    row ∈ store.notificationLog ∨ ∃ entry ∈ log, row.escalationEventId = entry.2.event.id
  audits : ∀ row ∈ after.auditEvents,
    row ∈ store.auditEvents ∨ ∃ entry ∈ log, reportedEvent row = some entry.2.event.id

theorem SameTables.rows {old new : Store} (tables : SameTables old new)
    (log : List (Recipients × Escalation)) : RowsFrom old new log where
  events _ member := Or.inl (tables.events ▸ member)
  notifications _ member := Or.inl (tables.notifications ▸ member)
  audits _ member := Or.inl (tables.audits ▸ member)

theorem HistoryEffect.rows (effect : HistoryEffect others store run drawn after next)
    (made : RunMade run) : RowsFrom store after (runCommitted next) := by
  cases effect with
  | kept _ _ tables events ids log => exact tables.rows _
  | drew _ id asked events ids log => exact (SameTables.refl store).rows _
  | inserted _ event events ids log alone absent => exact (SameTables.refl store).rows _
  | committed batch _ opened done still log =>
    -- A batch that is done has no statement half way, so its rows are those of its escalations.
    have own := made.batch batch opened
    have settled := own.settled done
    have entry : ∀ escalation ∈ batch.escalations,
        (run.recipients, escalation) ∈ runCommitted next := by
      intro escalation among
      rw [log]
      exact List.mem_append_right _ (List.mem_map.mpr ⟨escalation, among, rfl⟩)
    refine ⟨fun event member => ?_, fun row member => ?_, fun row member => ?_⟩
    · rw [view_events, batchEvents_settled settled] at member
      apply (List.mem_append.mp member).imp_right
      intro mine
      obtain ⟨escalation, among, rfl⟩ := List.mem_map.mp mine
      exact ⟨_, entry escalation among, rfl⟩
    · rw [view_log, settled, rowsBy_select, List.append_nil] at member
      apply (List.mem_append.mp member).imp_right
      intro mine
      obtain ⟨escalation, among, inside⟩ := List.mem_flatMap.mp mine
      exact ⟨_, entry escalation among, (own.done escalation among).notified.owned row inside⟩
    · rw [view_audits, settled, recordsBy_select, List.append_nil] at member
      apply (List.mem_append.mp member).imp_right
      intro mine
      obtain ⟨escalation, among, rfl⟩ := List.mem_map.mp mine
      exact ⟨_, entry escalation among, (own.done escalation among).reported⟩

end Moved

theorem Origins.extend {start : Store} {sys next : System} (origins : Origins start sys)
    (rows : RowsFrom sys.store next.store (allCommitted next))
    (log : allCommitted sys ⊆ allCommitted next) : Origins start next where
  events event member := by
    rcases rows.events event member with old | new
    · exact (origins.events event old).imp_right fun ⟨entry, among, same⟩ =>
        ⟨entry, log among, same⟩
    · exact Or.inr new
  notifications row member := by
    rcases rows.notifications row member with old | new
    · exact (origins.notifications row old).imp_right fun ⟨entry, among, same⟩ =>
        ⟨entry, log among, same⟩
    · exact Or.inr new
  audits row member escalated := by
    rcases rows.audits row member with old | new
    · exact (origins.audits row old escalated).imp_right fun ⟨entry, among, same⟩ =>
        ⟨entry, log among, same⟩
    · exact Or.inr new

/-- Replacing one run by what a statement made of it keeps the invariant. -/
theorem HistoryInvariant.moved {start : Store} {sys : System} (inv : HistoryInvariant start sys)
    {k : Nat} {run next : Run} {after : Store} {drawn : Option Id} {issued : List Id}
    (found : sys.runs[k]? = some run)
    (effect : HistoryEffect (sys.othersWrites k) sys.store run drawn after next)
    (made : RunMade next) (clean : next.failure ≠ some .uniqueViolation)
    (more : sys.issued ⊆ issued)
    (asked : ∀ id ∈ drawn, id ∉ sys.issued ∧ id ∈ issued) :
    HistoryInvariant start
      { sys with store := after, runs := sys.runs.set k next, issued := issued } := by
  have old : RunMade run := inv.made run (List.mem_of_getElem? found)
  have mem_drawn := fun id => Pool.mem_flatMap_of_getElem? runDrawn found id
  have mem_log := fun entry => Pool.mem_flatMap_of_getElem? runCommitted found entry
  have drawnNodup : (runDrawn run ++ (sys.runs.eraseIdx k).flatMap runDrawn).Nodup :=
    (Pool.perm_of_getElem? runDrawn found).nodup_iff.mp inv.drawn
  have unmentioned : ∀ id ∈ runDrawn run, id ∉ mentions sys.store := fun id own =>
    inv.drawnFresh id ((mem_drawn id).mpr (Or.inl own))
  have ownNodup := (List.nodup_append.mp drawnNodup).1
  have grown : allCommitted sys ⊆ (sys.runs.set k next).flatMap runCommitted := by
    intro entry member
    apply (Pool.mem_flatMap_set runCommitted found next entry).mpr
    exact ((mem_log entry).mp member).imp_left fun own => effect.log.subset own
  have complete := effect.complete old ownNodup unmentioned
    ((sys.runs.eraseIdx k).flatMap runCommitted) fun entry member =>
      inv.complete entry ((mem_log entry).mpr (List.mem_append.mp member))
  -- an id drawn elsewhere is not the one this statement drew
  have wasDrawn : ∀ id ∈ (sys.runs.set k next).flatMap runDrawn,
      id ∈ allDrawn sys ∨ drawn = some id := by
    intro id member
    rcases (Pool.mem_flatMap_set runDrawn found next id).mp member with own | elsewhere
    · exact (effect.mem_drawn own).imp_left fun own => (mem_drawn id).mpr (Or.inl own)
    · exact Or.inl ((mem_drawn id).mpr (Or.inr elsewhere))
  refine ⟨?_, ?_, ?_, ?_, ?_, Pool.forall_set inv.made k made, ?_,
    Pool.forall_set inv.failure k clean, inv.origins.extend ?_ grown⟩
  · have perm := (Pool.perm_of_getElem? runEvents found).append_left sys.store.escalationEvents
    have keys := effect.keys _ (eventsOf_runs _) ((perm.map _).nodup_iff.mp inv.keys)
    have perm' := (Pool.perm_set runEvents found next).append_left after.escalationEvents
    exact (perm'.map _).nodup_iff.mpr keys
  · refine (Pool.perm_set runDrawn found next).nodup_iff.mpr
      (effect.drawnNodup _ (fun id draws again => (asked id draws).1 ?_) drawnNodup)
    exact inv.drawnIssued _ ((mem_drawn _).mpr (List.mem_append.mp again))
  · intro id member
    rcases wasDrawn id member with before | draws
    · exact more (inv.drawnIssued id before)
    · exact (asked id draws).2
  · intro id member mentioned
    -- a mention is old, or the statement is the commit and its run holds no id any more
    rcases effect.mem_mentions old mentioned with before | ⟨own, emptied⟩
    · rcases wasDrawn id member with early | draws
      · exact inv.drawnFresh id early before
      · exact (asked id draws).1 (inv.mentionedIssued id before)
    · rcases (Pool.mem_flatMap_set runDrawn found next id).mp member with again | elsewhere
      · rw [emptied] at again
        simp at again
      · exact (List.nodup_append.mp drawnNodup).2.2 id own id elsewhere rfl
  · intro id mentioned
    rcases effect.mem_mentions old mentioned with before | ⟨own, _⟩
    · exact more (inv.mentionedIssued id before)
    · exact more (inv.drawnIssued id ((mem_drawn id).mpr (Or.inl own)))
  · intro entry member
    refine complete entry (List.mem_append.mpr ?_)
    exact (Pool.mem_flatMap_set runCommitted found next entry).mp member
  · have rows := effect.rows old
    have widen : runCommitted next ⊆ (sys.runs.set k next).flatMap runCommitted := fun entry own =>
      (Pool.mem_flatMap_set runCommitted found next entry).mpr (Or.inl own)
    exact ⟨fun event member => (rows.events event member).imp_right
        fun ⟨entry, own, same⟩ => ⟨entry, widen own, same⟩,
      fun row member => (rows.notifications row member).imp_right
        fun ⟨entry, own, same⟩ => ⟨entry, widen own, same⟩,
      fun row member => (rows.audits row member).imp_right
        fun ⟨entry, own, same⟩ => ⟨entry, widen own, same⟩⟩

theorem RunDropped.history {others : List Write} {store : Store} {run next : Run}
    (dropped : RunDropped run next) : HistoryEffect others store run none store next := by
  refine .kept store next (.refl store) ?_ ?_ (runCommitted_congr dropped.log
    (.inr dropped.recipients))
  · rw [runEvents_closed dropped.still]
    exact List.nil_sublist _
  · rw [runDrawn_closed dropped.still]
    exact List.nil_sublist _

theorem RunDropped.made {run next : Run} (dropped : RunDropped run next) (made : RunMade run) :
    RunMade next := by
  refine ⟨fun batch opened => ?_, fun loads => dropped.log.trans (made.loading
    (dropped.loading loads))⟩
  rw [dropped.still] at opened
  simp at opened

theorem HistoryInvariant.started {start : Store} {sys : System} (inv : HistoryInvariant start sys)
    (jobRunId : Id) (startedAt : Date) :
    HistoryInvariant start { sys with
      store := startJobRun jobRunId startedAt sys.store
      runs := sys.runs ++ [newRun jobRunId] } := by
  have added {T : Type} (items : Run → List T) (empty : items (newRun jobRunId) = []) :
      (sys.runs ++ [newRun jobRunId]).flatMap items = sys.runs.flatMap items := by
    rw [List.flatMap_append, List.flatMap_singleton, empty, List.append_nil]
  have among {property : Run → Prop} (old : ∀ run ∈ sys.runs, property run)
      (new : property (newRun jobRunId)) : ∀ run ∈ sys.runs ++ [newRun jobRunId], property run := by
    intro run member
    rcases List.mem_append.mp member with early | last
    · exact old run early
    · exact List.mem_singleton.mp last ▸ new
  have made : RunMade (newRun jobRunId) :=
    ⟨fun batch opened => by simp [Run.open?, newRun] at opened, fun _ => rfl⟩
  have events := added runEvents rfl
  have drawn := added runDrawn rfl
  have log := added runCommitted rfl
  -- a run that has just started holds nothing
  refine ⟨?_, ?_, ?_, ?_, inv.mentionedIssued, among inv.made made, ?_,
    among inv.failure (by simp [newRun]), inv.origins.extend ?_ ?_⟩
  · rw [allEvents, events]
    exact inv.keys
  · rw [allDrawn, drawn]
    exact inv.drawn
  · rw [allDrawn, drawn]
    exact inv.drawnIssued
  · rw [allDrawn, drawn]
    exact inv.drawnFresh
  · rw [allCommitted, log]
    intro entry member
    have complete := inv.complete entry member
    exact ⟨complete.event, complete.notified, complete.reported⟩
  · exact ⟨fun _ => Or.inl, fun _ => Or.inl, fun _ => Or.inl⟩
  · rw [allCommitted, allCommitted, log]
    exact fun _ => id

/-- Every action keeps the invariant. -/
theorem HistoryInvariant.step {config : JobConfig} {start : Store} {sys next : System}
    {action : Action} (inv : HistoryInvariant start sys)
    (stepped : step config sys action = some next) : HistoryInvariant start next := by
  by_cases job : Action.ofJob action = true
  · rcases step_job job stepped with _ |
      ⟨k, run, after, store, reading, isJob, found, fresh, effect⟩ |
      ⟨k, run, after, found, dropped⟩
    · exact inv.started _ _
    · have made := inv.made run (List.mem_of_getElem? found)
      -- What the run has drawn no other has, and nothing stored mentions it before the commit.
      have mem_drawn := fun id => Pool.mem_flatMap_of_getElem? runDrawn found id
      have distinct := (List.nodup_append.mp
        ((Pool.perm_of_getElem? runDrawn found).nodup_iff.mp inv.drawn)).1
      have unmentioned : ∀ id ∈ runDrawn run, id ∉ mentions sys.store := fun id own =>
        inv.drawnFresh id ((mem_drawn id).mpr (Or.inl own))
      refine inv.moved found (effect.history made) (effect.made made distinct unmentioned)
        (effect.failure distinct unmentioned
          (inv.failure run (List.mem_of_getElem? found))) ?_ fun id draws => ?_
      · intro id old
        split
        · exact List.mem_cons_of_mem _ old
        · exact old
      · unfold drawnFor at draws
        split at draws
        next asks =>
          obtain rfl := Option.some.inj draws
          rw [if_pos asks]
          exact ⟨fresh asks, List.mem_cons_self⟩
        · simp at draws
    · have made := inv.made run (List.mem_of_getElem? found)
      refine inv.moved found dropped.history (dropped.made made) ?_ (List.Subset.refl _)
        fun id draws => by simp at draws
      rcases dropped.failure with same | interrupted
      · exact same ▸ inv.failure run (List.mem_of_getElem? found)
      · simp [interrupted]
  · exact inv.service (step_service (by simpa using job) stepped)

end IncidentApi.Properties
