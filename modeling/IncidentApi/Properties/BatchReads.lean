import IncidentApi.Properties.CycleRows
import IncidentApi.Properties.ExactlyOnce

/-!
# What batches have read

An event mixes what its batch read with the row its insert found. Each pair of an open batch was
read from a candidate in the pair's cycle, against the tiers its run has loaded; what has happened
to the incident since is what its cycle keeps.
-/
namespace IncidentApi.Properties

/-! ### The lists a run loads -/

/-- The tiers and recipients of a run after a statement. -/
inductive ListsEffect (store : Store) (run : Run) : List Tier → Recipients → Prop
  | kept : ListsEffect store run run.tiers run.recipients
  | tiers (phase : run.phase = .loadingTiers) :
      ListsEffect store run (activeTiers store) run.recipients
  | high (phase : run.phase = .loadingHigh) :
      ListsEffect store run run.tiers { run.recipients with high := recipientsFor store .high }
  | critical (phase : run.phase = .loadingCritical) :
      ListsEffect store run run.tiers
        { run.recipients with critical := recipientsFor store .critical }

theorem ListsEffect.of_same {store : Store} {run next : Run} (tiers : next.tiers = run.tiers)
    (recipients : next.recipients = run.recipients) :
    ListsEffect store run next.tiers next.recipients := by
  rw [tiers, recipients]
  exact .kept

theorem ListsEffect.tiersKept {store : Store} {run : Run} {tiers : List Tier}
    {recipients : Recipients} (lists : ListsEffect store run tiers recipients) :
    tiers = run.tiers ∨ isLoading run = true := by
  cases lists with
  | tiers phase => exact Or.inr (by simp [isLoading, phase])
  | _ => exact Or.inl rfl

theorem afterBatch_lists (config : JobConfig) (store : Store) (run : Run) (length : Nat)
    (last : BatchRow) (escalations : List Escalation) :
    let done := afterBatch config run length last escalations
    ListsEffect store run done.tiers done.recipients := by
  obtain ⟨_, _, _, _, recipients, tiers⟩ := afterBatch_effect config run length last escalations
  exact .of_same tiers recipients

theorem runStep_lists {config : JobConfig} {others : List Write} {store after : Store}
    {run next : Run} {reading : Reading}
    (stepped : runStep config others store run reading = some (after, next)) :
    ListsEffect store run next.tiers next.recipients := by
  unfold runStep at stepped
  split at stepped
  · split at stepped <;> obtain ⟨rfl, rfl⟩ := Prod.mk.inj (Option.some.inj stepped) <;> exact .kept
  next phase =>
    obtain ⟨rfl, rfl⟩ := Prod.mk.inj (Option.some.inj stepped)
    exact .tiers phase
  next phase =>
    obtain ⟨rfl, rfl⟩ := Prod.mk.inj (Option.some.inj stepped)
    exact .high phase
  next phase =>
    obtain ⟨rfl, rfl⟩ := Prod.mk.inj (Option.some.inj stepped)
    exact .critical phase
  next phase =>
    dsimp only at stepped
    split at stepped
    · obtain ⟨rfl, rfl⟩ := Prod.mk.inj (Option.some.inj stepped)
      exact .kept
    next last found =>
      split at stepped <;> obtain ⟨rfl, rfl⟩ := Prod.mk.inj (Option.some.inj stepped)
      · exact afterBatch_lists config store run _ last []
      · exact .kept
  -- no statement of a transaction touches the lists
  next batch phase =>
    cases batchStep_effect phase stepped with
    | outside _ _ closed => simp [Run.open?, phase] at closed
    | committed _ _ _ _ _ _ _ recipients _ tiers => exact .of_same tiers recipients
    | _ => exact .kept
  · obtain ⟨rfl, rfl⟩ := Prod.mk.inj (Option.some.inj stepped)
    exact .kept
  · obtain ⟨rfl, rfl⟩ := Prod.mk.inj (Option.some.inj stepped)
    exact .kept
  · obtain ⟨rfl, rfl⟩ := Prod.mk.inj (Option.some.inj stepped)
    exact .kept
  · simp at stepped

theorem step_lists {config : JobConfig} {sys next : System} {k : Nat} {reading : Reading}
    {run after : Run} (stepped : step config sys (.job k reading) = some next)
    (found : sys.runs[k]? = some run) (moved : next.runs[k]? = some after) :
    ListsEffect sys.store run after.tiers after.recipients := by
  obtain ⟨other, same, running⟩ := Option.bind_eq_some_iff.mp stepped
  obtain rfl := Option.some.inj (same.symm.trans found)
  split at running
  · simp at running
  · obtain ⟨⟨store, result⟩, ran, rfl⟩ := Option.map_eq_some_iff.mp running
    obtain ⟨bound, _⟩ := List.getElem?_eq_some_iff.mp found
    rw [List.getElem?_set_self bound] at moved
    exact Option.some.inj moved ▸ runStep_lists ran

/-! ### Pairs and events -/

/-- A pair of a batch: read from a candidate at some state of the run, and due for a tier of its
severity. -/
structure DueRead (passed : System → Prop) (tiers : List Tier) (now : Date) (due : Due) : Prop where
  tier : ∃ tier ∈ tiers, tier.severity = due.candidate.severity ∧ tier.level = due.tier.level ∧
    tier.thresholdMinutes = due.tier.thresholdMinutes
  elapsed : dueAt due ≤ now
  read : ∃ state, passed state ∧ ∃ row ∈ state.store.incidents, isCandidate row = true ∧
    row.batchRow.candidate = due.candidate

/-- An event of that pair: its severity is no higher than the one that was read, and the same if
every insert finds the severity as it was read. -/
structure EventRead (passed : System → Prop) (tiers : List Tier) (asRead : Prop) (due : Due)
    (event : EscalationEvent) : Prop where
  pair : DueRead passed tiers event.triggeredAt due
  key : event.key = dueKey due
  instant : event.dueAt = dueAt due
  high : event.severityAtEscalation.inHighBand = true
  below : severityRank event.severityAtEscalation ≤ severityRank due.candidate.severity
  same : asRead → event.severityAtEscalation = due.candidate.severity

theorem DueRead.mono {passed more : System → Prop} {tiers : List Tier} {now : Date} {due : Due}
    (read : DueRead passed tiers now due) (further : ∀ state, passed state → more state) :
    DueRead more tiers now due := by
  obtain ⟨tier, elapsed, state, visited, row⟩ := read
  exact ⟨tier, elapsed, state, further state visited, row⟩

theorem EventRead.mono {passed more : System → Prop} {tiers : List Tier} {asRead : Prop}
    {due : Due} {event : EscalationEvent} (read : EventRead passed tiers asRead due event)
    (further : ∀ state, passed state → more state) : EventRead more tiers asRead due event :=
  { read with pair := read.pair.mono further }

/-- What an open batch has read and inserted. -/
structure BatchRead (passed : System → Prop) (tiers : List Tier) (asRead : Prop) (batch : Batch) :
    Prop where
  todo : ∀ due ∈ batch.todo, DueRead passed tiers batch.now due
  progress : ∀ due rest, batch.todo = due :: rest → ∀ event ∈ Statement.event? batch.statement,
    EventRead passed tiers asRead due event
  done : ∀ made ∈ batch.escalations, EventRead passed tiers asRead made.due made.event

structure RunRead (passed : System → Prop) (asRead : Prop) (run : Run) : Prop where
  batch : ∀ batch, run.open? = some batch → BatchRead passed run.tiers asRead batch
  committed : ∀ made ∈ run.committed, EventRead passed run.tiers asRead made.due made.event
  loading : isLoading run = true → run.committed = []

theorem RunRead.mono {passed more : System → Prop} {asRead : Prop} {run : Run}
    (read : RunRead passed asRead run) (further : ∀ state, passed state → more state) :
    RunRead more asRead run := by
  constructor
  · intro batch opened
    obtain ⟨todo, progress, done⟩ := read.batch batch opened
    exact ⟨fun due member => (todo due member).mono further,
      fun due rest pending event current => (progress due rest pending event current).mono further,
      fun made among => (done made among).mono further⟩
  · exact fun made among => (read.committed made among).mono further
  · exact read.loading

theorem candidate_of_scan {config : JobConfig} {store : Store} {cursor : Cursor}
    {tiers : List Tier} {now : Date} {due : Due}
    (member : due ∈ (findBatch config store cursor).flatMap (dueOf tiers now)) :
    ∃ row ∈ store.incidents, isCandidate row = true ∧ row.batchRow.candidate = due.candidate ∧
      due.tier ∈ tiersDueFor due.candidate tiers now := by
  obtain ⟨scanned, among, isDue⟩ := List.mem_flatMap.mp member
  obtain ⟨tier, crossed, rfl⟩ := List.mem_map.mp isDue
  rw [findBatch_eq] at among
  obtain ⟨row, taken, rfl⟩ := List.mem_map.mp among
  have chosen := List.take_subset _ _ taken
  simp only [remaining, Keyset.mem_sortOn, List.mem_filter, Bool.and_eq_true] at chosen
  exact ⟨row, chosen.1, chosen.2.1, rfl, crossed⟩

/-! ### One statement -/

/-- The insert of a batch finds its incident with the severity that the batch has read. -/
def findsAsRead (store : Store) (batch : Batch) : Bool :=
  match batch.todo, batch.statement with
  | due :: _, .select =>
    ((batch.view store).incidents.find? (stillCandidate due)).all
      (·.severity = due.candidate.severity)
  | _, _ => true

def insertsAsRead (sys : System) : Action → Bool
  | .job k _ => ((sys.runs[k]?).bind Run.open?).all (findsAsRead sys.store)
  | _ => true

section Statement
variable {passed : System → Prop} {asRead : Prop} {store : Store} {tiers : List Tier}

theorem dueRead_of_scan {config : JobConfig} {cursor : Cursor} {now : Date} {due : Due}
    {state : System} (here : passed state) (current : state.store = store)
    (member : due ∈ (findBatch config store cursor).flatMap (dueOf tiers now)) :
    DueRead passed tiers now due := by
  obtain ⟨row, stored, candidate, named, isDue⟩ := candidate_of_scan member
  obtain ⟨tier, among, severity, _, elapsed, crossed⟩ := (mem_tiersDueFor _ _ _ _).mp isDue
  refine ⟨⟨tier, among, severity, ?_, ?_⟩, ?_, state, here, row, current ▸ stored, candidate, named⟩
  · rw [crossed]
  · rw [crossed]
  · have minutes : (tier.thresholdMinutes : Int) * minuteMs ≤
        now - due.candidate.highSeveritySince := of_decide_eq_true elapsed
    rw [dueAt, crossed]
    exact Int.add_le_of_le_sub_left minutes

/-- The event of the row that the insert finds. -/
theorem DueRead.event {batch : Batch} {due : Due} {rest : List Due} {row : Incident}
    (read : DueRead passed tiers batch.now due)
    (kept : ∀ state, passed state → ∀ old ∈ state.store.incidents, ∀ new ∈ store.incidents,
      new.id = old.id → CycleKept old new)
    (todo : batch.todo = due :: rest) (statement : batch.statement = .select)
    (found : (batch.view store).incidents.find? (stillCandidate due) = some row)
    (finds : asRead → findsAsRead store batch = true) (eventId : Id) :
    EventRead passed tiers asRead due (eventFor due row batch.now eventId) := by
  obtain ⟨named, cycle, _, _, _, high⟩ :=
    (stillCandidate_iff due row).mp (List.find?_some found)
  refine ⟨read, ?_, rfl, high, ?_, ?_⟩
  · simp only [EscalationEvent.key, eventFor, dueKey, named, cycle]
  · obtain ⟨state, visited, old, before, candidate, same⟩ := read.read
    have member := List.mem_of_find?_eq_some found
    rw [view_incidents] at member
    obtain ⟨new, stored, rfl⟩ := List.mem_map.mp member
    have columns := bumpedBy_same batch.writes new
    have id : old.id = due.candidate.id := congrArg EscalationCandidate.id same
    have since := congrArg EscalationCandidate.escalationCycle same
    have severity : old.severity = due.candidate.severity :=
      congrArg EscalationCandidate.severity same
    rw [columns.id] at named
    rw [columns.cycle] at cycle
    rw [columns.severity] at high
    -- still in the cycle of the pair, and in the band
    have both := (kept state visited old before new stored (named.trans id.symm)).band
      (cycle.trans since.symm) high
    simp only [eventFor, columns.severity]
    exact severity ▸ both.2
  · intro holds
    have passes := finds holds
    simp only [findsAsRead, todo, statement, found, Option.all_some, decide_eq_true_eq] at passes
    exact passes

/-- A statement that draws no event, and leaves what is done. -/
theorem BatchRead.proceed {batch next : Batch} (read : BatchRead passed tiers asRead batch)
    (todo : next.todo ⊆ batch.todo) (now : next.now = batch.now)
    (escalations : next.escalations = batch.escalations)
    (progress : ∀ due rest, next.todo = due :: rest →
      ∀ event ∈ Statement.event? next.statement, EventRead passed tiers asRead due event) :
    BatchRead passed tiers asRead next :=
  ⟨fun due member => now ▸ read.todo due (todo member), progress,
    fun made among => read.done made (escalations ▸ among)⟩

/-- A statement that stays with its pair and its event. -/
theorem BatchRead.onward {batch next : Batch} (read : BatchRead passed tiers asRead batch)
    (todo : next.todo = batch.todo) (now : next.now = batch.now)
    (escalations : next.escalations = batch.escalations)
    (same : Statement.event? next.statement = Statement.event? batch.statement) :
    BatchRead passed tiers asRead next := by
  refine read.proceed (fun _ => todo ▸ id) now escalations ?_
  intro due rest pending event current
  exact read.progress due rest (todo ▸ pending) event (same ▸ current)

theorem RunEffect.read {config : JobConfig} {others : List Write} {after : Store}
    {run next : Run} {reading : Reading} {state : System} (read : RunRead passed asRead run)
    (here : passed state) (current : state.store = store)
    (kept : ∀ state, passed state → ∀ old ∈ state.store.incidents, ∀ new ∈ store.incidents,
      new.id = old.id → CycleKept old new)
    (finds : asRead → (run.open?).all (findsAsRead store) = true)
    (lists : ListsEffect store run next.tiers next.recipients)
    (effect : RunEffect config others store run reading after next) :
    RunRead passed asRead next := by
  -- a statement inside the transaction shows in the batch alone
  have within {batch later : Batch} (phase : run.phase = .batch batch)
      (moved : BatchRead passed run.tiers asRead batch →
        BatchRead passed run.tiers asRead later) :
      RunRead passed asRead { run with phase := .batch later } := by
    refine ⟨forall_open ?_, read.committed, fun loads => by simp [isLoading] at loads⟩
    exact moved (read.batch batch (open_of_phase phase))
  cases effect with
  | outside _ _ closed still tables log failure recipients loading tiers =>
    refine ⟨fun batch opened => by simp [still] at opened, fun made among => ?_, fun loads => ?_⟩
    · rw [log] at among
      rcases lists.tiersKept with same | loads
      · exact same ▸ read.committed made among
      · simp [read.loading loads] at among
    · rw [log]
      exact read.loading (loading loads)
  | committed batch _ phase done still log failure recipients loading same =>
    have own := read.batch batch (open_of_phase phase)
    refine ⟨fun batch opened => by simp [still] at opened, fun made among => ?_,
      fun loads => by simp [loading] at loads⟩
    rw [same]
    rcases List.mem_append.mp (log ▸ among) with early | late
    · exact read.committed made early
    · exact own.done made late
  | violated batch event phase statement clash =>
    exact ⟨fun batch opened => by simp [Run.open?] at opened, read.committed,
      fun loads => by simp [isLoading] at loads⟩
  | opened batch scanning todo statement escalations now =>
    refine ⟨forall_open ?_, read.committed, fun loads => by simp [isLoading] at loads⟩
    refine ⟨fun due member => ?_, by simp [statement, Statement.event?], by simp [escalations]⟩
    rw [now]
    exact dueRead_of_scan here current (todo ▸ member)
  | vanished batch due rest phase todo statement absent =>
    apply within phase
    intro own
    refine own.proceed (todo ▸ List.subset_cons_self due rest) rfl rfl ?_
    simp [statement, Statement.event?]
  | selected batch due rest row phase todo statement found =>
    apply within phase
    intro own
    refine own.proceed (fun _ => id) rfl rfl ?_
    intro other others pending event drawn
    obtain rfl := Option.some.inj drawn
    obtain ⟨rfl, rfl⟩ := List.cons.inj (todo.symm.trans pending)
    refine (own.todo due (by simp [todo])).event kept todo statement found (fun holds => ?_) _
    simpa [open_of_phase phase] using finds holds
  | conflicted batch due rest event phase todo statement present =>
    apply within phase
    intro own
    refine own.proceed (todo ▸ List.subset_cons_self due rest) rfl rfl ?_
    simp [Statement.event?]
  | inserted batch due rest event phase todo statement alone absent =>
    apply within phase
    intro own
    exact own.onward rfl rfl rfl (by simp [statement, Statement.event?])
  | notified batch due rest event phase todo statement =>
    apply within phase
    intro own
    exact own.onward rfl rfl rfl (by simp [statement, Statement.event?])
  | audited batch due rest event rows phase todo statement =>
    apply within phase
    intro own
    exact own.onward rfl rfl rfl (by simp [statement, Statement.event?])
  | bumped batch due rest event rows record phase todo statement alone =>
    apply within phase
    intro own
    have made := own.progress due rest todo event (by simp [statement, Statement.event?])
    refine ⟨fun other member => own.todo other (by simp [todo, member]),
      by simp [Statement.event?], fun other among => ?_⟩
    rcases List.mem_append.mp among with early | last
    · exact own.done other early
    · obtain rfl := List.mem_singleton.mp last
      exact made

end Statement

/-! ### Every reachable state -/

theorem reached_reads {config : JobConfig} {start : Store} {issued : List Id}
    (unique : start.UniqueIds) {allowed : System → Action → Prop}
    (notAhead : ∀ sys action, allowed sys action → OnCommit IfMatchNotAhead sys action)
    {sys : System}
    (reached : Machine.Reaches (step config) allowed (System.boot start issued) sys) :
    ∀ run ∈ sys.runs, RunRead (Machine.Passes (step config) allowed (System.boot start issued) sys)
      (∀ sys action, allowed sys action → insertsAsRead sys action = true) run := by
  refine reached.invariant (fun sys => ∀ run ∈ sys.runs, RunRead
    (Machine.Passes (step config) allowed (System.boot start issued) sys)
    (∀ sys action, allowed sys action → insertsAsRead sys action = true) run)
    (by simp [System.boot]) ?_ sys
  intro before action after earlier reads permitted stepped
  have further : ∀ state, Machine.Passes (step config) allowed (System.boot start issued) before
      state → Machine.Passes (step config) allowed (System.boot start issued) after state :=
    fun _ passed => passed.next permitted stepped
  have others := fun run member => (reads run member).mono further
  by_cases job : Action.ofJob action = true
  · rcases step_job job stepped with _ |
      ⟨k, run, next, store, reading, isJob, found, fresh, effect⟩ |
      ⟨k, run, next, found, dropped⟩
    · intro run member
      rcases List.mem_append.mp member with old | last
      · exact others run old
      · obtain rfl := List.mem_singleton.mp last
        exact ⟨fun batch opened => by simp [Run.open?, newRun] at opened, by simp [newRun],
          fun _ => rfl⟩
    · subst isJob
      apply Pool.forall_set others k
      obtain ⟨bound, _⟩ := List.getElem?_eq_some_iff.mp found
      have lists := step_lists stepped found (List.getElem?_set_self bound)
      have own := reads run (List.mem_of_getElem? found)
      refine RunRead.mono (effect.read own earlier.passes rfl ?_ ?_ lists) further
      -- the incident has been followed since the batch was read
      · rintro state ⟨toState, onward⟩ old stored new member named
        exact (cycleMoves notAhead).reached (reached_snapshots unique toState) onward stored member
          named
      · intro holds
        have passes := holds before _ permitted
        simpa [insertsAsRead, found] using passes
    · apply Pool.forall_set others k
      have old := others run (List.mem_of_getElem? found)
      refine ⟨fun batch opened => by simp [dropped.still] at opened, fun made among => ?_,
        fun loads => ?_⟩
      · rw [dropped.tiers]
        exact old.committed made (dropped.log ▸ among)
      · rw [dropped.log]
        exact old.loading (dropped.loading loads)
  · rw [(step_service (by simpa using job) stepped).runs]
    exact others

end IncidentApi.Properties
