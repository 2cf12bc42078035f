import IncidentApi.Library.Lease
import IncidentApi.Properties.Suppression

/-!
# The lease of the escalation job

Each step of the service is a step of the lease protocol of `Lease`, or leaves the lease row and
its holders alone. So at most one run is between its claim and its release while every run renews
in time, and the lease of a run that has stopped is there for the first claim after its expiry.
-/
namespace IncidentApi.Properties

/-! ### What one statement does to the lease -/

/-- The run is between its successful claim and its release. -/
def holdsLease (run : Run) : Bool :=
  match run.phase with
  | .claiming | .finishing .skippedLocked | .finished => false
  | _ => true

/-- The next statement of the run claims, renews or releases the lease. -/
def usesLease (run : Run) : Bool :=
  match run.phase with
  | .claiming | .renewing | .releasing => true
  | _ => false

inductive LeaseEffect (config : JobConfig) (store : Store) (run : Run) (reading : Reading) :
    Store → Run → Prop
  | claimed (after : Store) (next : Run) (phase : run.phase = .claiming)
      (unlocked : reading.lockTaken = false) (free : leaseFree store.jobLease reading.now = true)
      (lease : after.jobLease = ⟨some reading.id, some (reading.now + config.leaseMs)⟩)
      (name : next.runId = reading.id) (held : holdsLease next = true) :
      LeaseEffect config store run reading after next
  | refused (next : Run) (phase : run.phase = .claiming)
      (taken : reading.lockTaken = true ∨ leaseFree store.jobLease reading.now = false)
      (idle : holdsLease next = false) : LeaseEffect config store run reading store next
  | renewed (next : Run) (phase : run.phase = .renewing) (name : next.runId = run.runId)
      (held : holdsLease next = true) :
      LeaseEffect config store run reading (renewLease config run.runId reading.now store) next
  | released (next : Run) (phase : run.phase = .releasing) (idle : holdsLease next = false) :
      LeaseEffect config store run reading (releaseLease run.runId store) next
  | passed (after : Store) (next : Run) (apart : usesLease run = false)
      (lease : after.jobLease = store.jobLease) (name : next.runId = run.runId)
      (held : holdsLease next = holdsLease run) : LeaseEffect config store run reading after next

section Effect
variable {config : JobConfig} {others : List Write} {store after : Store} {run next : Run}
  {reading : Reading}

theorem afterBatch_holds (config : JobConfig) (run : Run) (length : Nat) (last : BatchRow)
    (escalations : List Escalation) :
    (afterBatch config run length last escalations).runId = run.runId ∧
      holdsLease (afterBatch config run length last escalations) = true := by
  unfold afterBatch
  split <;> exact ⟨rfl, rfl⟩

/-- A statement of a batch has nothing to do with the lease. -/
theorem batchStep_lease {batch : Batch}
    (stepped : batchStep config others store run batch reading = some (after, next)) :
    after.jobLease = store.jobLease ∧ next.runId = run.runId ∧ holdsLease next = true := by
  unfold batchStep at stepped
  -- Statements of a transaction write incidents, events and logs; the lease is of another table.
  have view : (batch.view store).jobLease = store.jobLease := by rw [view_eq]
  dsimp only at stepped
  split at stepped
  · simp only [Option.some.injEq, Prod.mk.injEq] at stepped
    obtain ⟨rfl, rfl⟩ := stepped
    exact ⟨view, afterBatch_holds _ _ _ _ _⟩
  · split at stepped <;> simp only [Option.some.injEq, Prod.mk.injEq] at stepped <;>
      obtain ⟨rfl, rfl⟩ := stepped <;> exact ⟨rfl, rfl, rfl⟩
  · split at stepped
    · simp at stepped
    · split at stepped
      · simp only [Option.some.injEq, Prod.mk.injEq] at stepped
        obtain ⟨rfl, rfl⟩ := stepped
        exact ⟨rfl, rfl, rfl⟩
      · split at stepped <;> simp only [Option.some.injEq, Prod.mk.injEq] at stepped <;>
          obtain ⟨rfl, rfl⟩ := stepped <;> exact ⟨rfl, rfl, rfl⟩
  · simp only [Option.some.injEq, Prod.mk.injEq] at stepped
    obtain ⟨rfl, rfl⟩ := stepped
    exact ⟨rfl, rfl, rfl⟩
  · simp only [Option.some.injEq, Prod.mk.injEq] at stepped
    obtain ⟨rfl, rfl⟩ := stepped
    exact ⟨rfl, rfl, rfl⟩
  · split at stepped
    · simp at stepped
    · simp only [Option.some.injEq, Prod.mk.injEq] at stepped
      obtain ⟨rfl, rfl⟩ := stepped
      exact ⟨rfl, rfl, rfl⟩

/-- A statement that only reads, and moves the run on between its claim and its release. -/
theorem LeaseEffect.read_only {moved : Run} (stepped : some (store, moved) = some (after, next))
    (apart : usesLease run = false) (name : moved.runId = run.runId)
    (held : holdsLease moved = holdsLease run) :
    LeaseEffect config store run reading after next := by
  simp only [Option.some.injEq, Prod.mk.injEq] at stepped
  obtain ⟨rfl, rfl⟩ := stepped
  exact .passed _ _ apart rfl name held

theorem runStep_lease
    (stepped : runStep config others store run reading = some (after, next)) :
    LeaseEffect config store run reading after next := by
  unfold runStep at stepped
  split at stepped
  next phase =>
    split at stepped <;> simp only [Option.some.injEq, Prod.mk.injEq] at stepped <;>
      obtain ⟨rfl, rfl⟩ := stepped
    next refusal =>
      -- no lease for this run: another process has the advisory lock, or the row is not free
      refine .refused _ phase ?_ rfl
      split at refusal
      next taken => exact Or.inl taken
      · right
        unfold claimLease at refusal
        split at refusal
        · simp at refusal
        next busy => simpa using busy
    next claimed claim =>
      split at claim
      · simp at claim
      next unlocked =>
        unfold claimLease at claim
        split at claim
        next free =>
          obtain rfl := Option.some.inj claim
          exact .claimed _ _ phase (by simpa using unlocked) free rfl rfl rfl
        · simp at claim
  next phase =>
    exact .read_only stepped (by simp [usesLease, phase]) rfl (by simp [holdsLease, phase])
  next phase =>
    exact .read_only stepped (by simp [usesLease, phase]) rfl (by simp [holdsLease, phase])
  next phase =>
    exact .read_only stepped (by simp [usesLease, phase]) rfl (by simp [holdsLease, phase])
  next phase =>
    have own : holdsLease run = true := by simp [holdsLease, phase]
    dsimp only at stepped
    split at stepped
    · simp only [Option.some.injEq, Prod.mk.injEq] at stepped
      obtain ⟨rfl, rfl⟩ := stepped
      exact .passed _ _ (by simp [usesLease, phase]) rfl rfl own.symm
    · split at stepped <;> simp only [Option.some.injEq, Prod.mk.injEq] at stepped <;>
        obtain ⟨rfl, rfl⟩ := stepped
      · obtain ⟨name, held⟩ := afterBatch_holds config run
          (findBatch config store run.cursor).length _ []
        exact .passed _ _ (by simp [usesLease, phase]) rfl name
          (held.trans own.symm)
      · exact .passed _ _ (by simp [usesLease, phase]) rfl rfl own.symm
  next batch phase =>
    obtain ⟨lease, name, held⟩ := batchStep_lease stepped
    have own : holdsLease run = true := by simp [holdsLease, phase]
    exact .passed _ _ (by simp [usesLease, phase]) lease name (held.trans own.symm)
  next phase =>
    simp only [Option.some.injEq, Prod.mk.injEq] at stepped
    obtain ⟨rfl, rfl⟩ := stepped
    exact .renewed _ phase rfl rfl
  next outcome phase =>
    simp only [Option.some.injEq, Prod.mk.injEq] at stepped
    obtain ⟨rfl, rfl⟩ := stepped
    refine .passed _ _ (by simp [usesLease, phase]) rfl rfl ?_
    cases outcome <;> simp [holdsLease, phase]
  next phase =>
    simp only [Option.some.injEq, Prod.mk.injEq] at stepped
    obtain ⟨rfl, rfl⟩ := stepped
    exact .released _ phase rfl
  next phase => simp at stepped

end Effect

/-! ### What one step does to the lease -/

theorem create_lease (store : Store) (actor : Actor) (input : CreateIncidentRequest)
    (image : Upload) (id : Id) (now wall : Date) (ids : Nat → Id) :
    (create store actor input image id now wall ids).2.jobLease = store.jobLease := by
  have inserted : ∀ imagePath,
      (create.insert store actor input id now wall ids imagePath).2.jobLease = store.jobLease := by
    intro imagePath
    simp only [create.insert]
    split <;> rfl
  unfold create
  split
  · rfl
  · split
    · rfl
    · exact inserted none
  · exact inserted _

/-- The lease row and the runs after a step. -/
inductive LeaseStep (config : JobConfig) (sys : System) (action : Action) (next : System) : Prop
  | still (lease : next.store.jobLease = sys.store.jobLease) (runs : next.runs = sys.runs)
      (apart : ∀ k reading, action ≠ .job k reading)
  | started (lease : next.store.jobLease = sys.store.jobLease) (run : Run)
      (runs : next.runs = sys.runs ++ [run]) (idle : holdsLease run = false)
      (apart : ∀ k reading, action ≠ .job k reading)
  | ran (k : Nat) (reading : Reading) (run after : Run) (isJob : action = .job k reading)
      (found : sys.runs[k]? = some run) (runs : next.runs = sys.runs.set k after)
      (effect : LeaseEffect config sys.store run reading next.store after)
  | dropped (k : Nat) (run after : Run) (found : sys.runs[k]? = some run)
      (lease : next.store.jobLease = sys.store.jobLease) (runs : next.runs = sys.runs.set k after)
      (name : after.runId = run.runId)
      (held : holdsLease after = true → holdsLease run = true)
      (apart : ∀ k reading, action ≠ .job k reading)

theorem interruptRun_lease (run : Run) : (interruptRun run).runId = run.runId ∧
    (holdsLease (interruptRun run) = true → holdsLease run = true) := by
  unfold interruptRun holdsLease
  split <;> simp_all

theorem step_lease {config : JobConfig} {sys next : System} {action : Action}
    (stepped : step config sys action = some next) : LeaseStep config sys action next := by
  by_cases job : Action.ofJob action = true
  · cases action with
    | startRun jobRunId startedAt =>
      obtain rfl := Option.some.inj stepped
      exact .started rfl _ rfl rfl (by simp)
    | job k reading =>
      obtain ⟨run, found, running⟩ := Option.bind_eq_some_iff.mp stepped
      split at running
      · simp at running
      · obtain ⟨⟨store, after⟩, moved, rfl⟩ := Option.map_eq_some_iff.mp running
        exact .ran k reading run after rfl found rfl (runStep_lease moved)
    | interrupt k =>
      obtain ⟨run, found, rfl⟩ := Option.map_eq_some_iff.mp stepped
      obtain ⟨name, held⟩ := interruptRun_lease run
      exact .dropped k run _ found rfl rfl name held (by simp)
    | crash k =>
      obtain ⟨run, found, rfl⟩ := Option.map_eq_some_iff.mp stepped
      exact .dropped k run _ found rfl rfl rfl (by simp [holdsLease]) (by simp)
    | _ => simp [Action.ofJob] at job
  -- No operation of the service writes the lease.
  · have apart : ∀ k reading, action ≠ .job k reading := by
      rintro k reading rfl
      exact job rfl
    have service : Action.ofJob action = false := by simpa using job
    refine .still ?_ (step_service service stepped).runs apart
    cases step_effect service stepped with
    | created userId input image id now wall ids actor => exact create_lease _ _ _ _ _ _ _ _
    | committed k now wall ids request mutation after found free decided written =>
      obtain ⟨_, rfl⟩ := commitMutation_ok _ _ _ _ _ _ _ written
      rfl
    | committedClearance k now wall ids request affected after found read free changes written =>
      obtain ⟨_, rfl, _⟩ := commitClearance_ok written
      rfl
    | _ => rfl

/-! ### The protocol -/

/-- The system, with the clock reading of each run's last claim or renewal. -/
structure Timed where
  sys : System
  renewed : Nat → Date

/-- The step claims or renews the lease for the run. -/
def renewsAt (sys next : System) (k : Nat) : Bool :=
  (sys.runs[k]?).any (fun run =>
    match run.phase with
    | .claiming | .renewing => true
    | _ => false) && (next.runs[k]?).any holdsLease

def renewals (state : Timed) (next : System) : Action → Nat → Date
  | .job k reading =>
    if renewsAt state.sys next k then Function.update state.renewed k reading.now
    else state.renewed
  | _ => state.renewed

def timedStep (config : JobConfig) (state : Timed) (action : Action) : Option Timed :=
  (step config state.sys action).map fun next => ⟨next, renewals state next action⟩

def expiry (config : JobConfig) (instant : Date) : Date := instant + config.leaseMs

def heldName (run : Run) : Option Id := if holdsLease run then some run.runId else none

def holderNames (runs : List Run) (k : Nat) : Option Id := (runs[k]?).bind heldName

def leaseOf (state : Timed) : Lease.State Nat Id Date where
  row := ⟨state.sys.store.jobLease.ownerRunId, state.sys.store.jobLease.heldUntil⟩
  name := holderNames state.sys.runs
  renewed := state.renewed

theorem holderNames_set {runs : List Run} {k : Nat} {run : Run} (found : runs[k]? = some run)
    (after : Run) :
    holderNames (runs.set k after) = Function.update (holderNames runs) k (heldName after) := by
  have inside := (List.getElem?_eq_some_iff.mp found).1
  funext j
  by_cases same : j = k
  · rw [same, Function.update_self, holderNames, List.getElem?_set_self inside]
    rfl
  · rw [Function.update_of_ne same, holderNames, List.getElem?_set_ne (Ne.symm same)]
    rfl

theorem holderNames_append (runs : List Run) {run : Run} (idle : holdsLease run = false) :
    holderNames (runs ++ [run]) = holderNames runs := by
  funext j
  simp only [holderNames]
  rcases Nat.lt_trichotomy j runs.length with below | rfl | above
  · rw [List.getElem?_append_left below]
  · simp [heldName, idle]
  · rw [List.getElem?_eq_none (by simp; omega), List.getElem?_eq_none (by omega)]

/-- A set of a run under the same name leaves the names alone. -/
theorem holderNames_same {runs : List Run} {k : Nat} {run after : Run}
    (found : runs[k]? = some run) (name : heldName after = heldName run) :
    holderNames (runs.set k after) = holderNames runs := by
  rw [holderNames_set found, name]
  have own : holderNames runs k = heldName run := by rw [holderNames, found]; rfl
  rw [← own, Function.update_eq_self]

theorem leaseFree_iff (lease : JobLease) (now : Date) :
    leaseFree lease now = true ↔
      (⟨lease.ownerRunId, lease.heldUntil⟩ : Lease.Row Id Date).Free now := by
  unfold leaseFree Lease.Row.Free
  cases lease.heldUntil <;> simp

/-- The protocol event that a step of the service is. -/
def IsEvent (state : Timed) (action : Action) : Lease.Event Nat Id Date → Prop
  | .claim who name now => ∃ reading run, action = .job who reading ∧
      state.sys.runs[who]? = some run ∧ run.phase = .claiming ∧ reading.lockTaken = false ∧
      leaseFree state.sys.store.jobLease now = true ∧ reading.id = name ∧ reading.now = now
  | .renew who now => ∃ reading run, action = .job who reading ∧
      state.sys.runs[who]? = some run ∧ run.phase = .renewing ∧ reading.now = now
  | .release who => ∃ reading run, action = .job who reading ∧
      state.sys.runs[who]? = some run ∧ run.phase = .releasing
  | .stop who => ∀ reading, action ≠ .job who reading

theorem renewals_apart {state : Timed} {next : System} {action : Action}
    (apart : ∀ k reading, action ≠ .job k reading) :
    renewals state next action = state.renewed := by
  cases action with
  | job k reading => exact absurd rfl (apart k reading)
  | _ => rfl

section Simulation
variable {config : JobConfig} {state : Timed} {next : System}

theorem leaseOf_eq {renewed : Nat → Date} {view : Lease.State Nat Id Date}
    (row : (⟨next.store.jobLease.ownerRunId, next.store.jobLease.heldUntil⟩ : Lease.Row Id Date) =
      view.row) (names : holderNames next.runs = view.name) (times : renewed = view.renewed) :
    leaseOf ⟨next, renewed⟩ = view := by
  rw [leaseOf, row, names, times]

/-- A statement of a run, as a step of the protocol. -/
theorem effect_simulates {k : Nat} {reading : Reading} {run after : Run}
    (found : state.sys.runs[k]? = some run) (runs : next.runs = state.sys.runs.set k after)
    (effect : LeaseEffect config state.sys.store run reading next.store after) :
    leaseOf ⟨next, renewals state next (.job k reading)⟩ = leaseOf state ∨
      ∃ event, IsEvent state (.job k reading) event ∧ Lease.Step (expiry config) (leaseOf state)
        event (leaseOf ⟨next, renewals state next (.job k reading)⟩) := by
  have inside := (List.getElem?_eq_some_iff.mp found).1
  have names : holderNames next.runs =
      Function.update (holderNames state.sys.runs) k (heldName after) := by
    rw [runs, holderNames_set found]
  have own : (leaseOf state).name k = heldName run := by
    change holderNames state.sys.runs k = heldName run
    rw [holderNames, found]
    rfl
  have stands : next.runs[k]? = some after := by rw [runs, List.getElem?_set_self inside]
  have time : renewals state next (.job k reading) =
      if renewsAt state.sys next k then Function.update state.renewed k reading.now
      else state.renewed := rfl
  -- the clock of a run that holds no lease afterwards is not set
  have quiet : holdsLease after = false → renewsAt state.sys next k = false := by
    intro idle
    simp [renewsAt, stands, idle]
  generalize stored : next.store = store at effect
  cases effect with
  | claimed _ _ phase unlocked free lease name held =>
    refine Or.inr ⟨.claim k reading.id reading.now,
      ⟨reading, run, rfl, found, phase, unlocked, free, rfl, rfl⟩, ?_⟩
    have renews : renewsAt state.sys next k = true := by simp [renewsAt, found, phase, stands, held]
    have equal : leaseOf ⟨next, renewals state next (.job k reading)⟩ =
        { row := ⟨some reading.id, some (expiry config reading.now)⟩
          name := Function.update (leaseOf state).name k (some reading.id)
          renewed := Function.update (leaseOf state).renewed k reading.now } := by
      apply leaseOf_eq
      · rw [stored, lease]
        rfl
      · rw [names, heldName, if_pos held, name]
        rfl
      · rw [time, if_pos renews]
        rfl
    rw [equal]
    exact .claimed k reading.id reading.now ((leaseFree_iff _ _).mp free)
  | refused _ phase taken idle =>
    have claimer : holdsLease run = false := by simp [holdsLease, phase]
    refine Or.inl (leaseOf_eq (by rw [stored]; rfl) ?_ (by rw [time, quiet idle]; rfl))
    rw [runs]
    exact holderNames_same found (by simp [heldName, idle, claimer])
  | renewed _ phase name held =>
    have holder : holdsLease run = true := by simp [holdsLease, phase]
    have renews : renewsAt state.sys next k = true := by simp [renewsAt, found, phase, stands, held]
    refine Or.inr ⟨.renew k reading.now, ⟨reading, run, rfl, found, phase, rfl⟩, ?_⟩
    have equal : leaseOf ⟨next, renewals state next (.job k reading)⟩ =
        { row := if (leaseOf state).row.owner = some run.runId then
            ⟨some run.runId, some (expiry config reading.now)⟩ else (leaseOf state).row
          name := (leaseOf state).name
          renewed := Function.update (leaseOf state).renewed k reading.now } := by
      apply leaseOf_eq
      · rw [stored, renewLease]
        by_cases owner : state.sys.store.jobLease.ownerRunId = some run.runId
        · simp [leaseOf, owner, expiry]
        · simp [leaseOf, owner]
      · rw [runs]
        exact holderNames_same found (by simp [heldName, held, holder, name])
      · rw [time, if_pos renews]
        rfl
    rw [equal]
    exact .renewed k run.runId reading.now (by rw [own, heldName, if_pos holder])
  | released _ phase idle =>
    have holder : holdsLease run = true := by simp [holdsLease, phase]
    refine Or.inr ⟨.release k, ⟨reading, run, rfl, found, phase⟩, ?_⟩
    have equal : leaseOf ⟨next, renewals state next (.job k reading)⟩ =
        { row := if (leaseOf state).row.owner = some run.runId then ⟨none, none⟩
            else (leaseOf state).row
          name := Function.update (leaseOf state).name k none
          renewed := (leaseOf state).renewed } := by
      apply leaseOf_eq
      · rw [stored, releaseLease]
        by_cases owner : state.sys.store.jobLease.ownerRunId = some run.runId
        · simp [leaseOf, owner]
        · simp [leaseOf, owner]
      · rw [names, heldName, idle]
        rfl
      · rw [time, quiet idle]
        rfl
    rw [equal]
    exact .released k run.runId (by rw [own, heldName, if_pos holder])
  | passed _ _ apart lease name held =>
    have alone : renewsAt state.sys next k = false := by
      cases phase : run.phase <;> simp_all [renewsAt, usesLease]
    refine Or.inl (leaseOf_eq (by rw [stored, lease]; rfl) ?_ (by rw [time, alone]; rfl))
    rw [runs]
    exact holderNames_same found (by simp [heldName, held, name])

/-- Each step of the service is a step of the protocol, or none. -/
theorem timedStep_simulates {action : Action} {after : Timed}
    (stepped : timedStep config state action = some after) :
    leaseOf after = leaseOf state ∨ ∃ event, IsEvent state action event ∧
      Lease.Step (expiry config) (leaseOf state) event (leaseOf after) := by
  obtain ⟨next, moved, rfl⟩ := Option.map_eq_some_iff.mp stepped
  cases step_lease moved with
  | still lease runs apart =>
    left
    rw [renewals_apart apart]
    exact leaseOf_eq (by rw [lease]; rfl) (by rw [runs]; rfl) rfl
  | started lease run runs idle apart =>
    left
    rw [renewals_apart apart]
    exact leaseOf_eq (by rw [lease]; rfl) (by rw [runs, holderNames_append _ idle]; rfl) rfl
  | ran k reading run after isJob found runs effect =>
    subst isJob
    exact effect_simulates found runs effect
  | dropped k run after found lease runs name held apart =>
    rw [renewals_apart apart]
    -- an interrupted run may still release the lease; a crashed one has stopped holding it
    by_cases holds : holdsLease after = true
    · left
      refine leaseOf_eq (by rw [lease]; rfl) ?_ rfl
      rw [runs]
      exact holderNames_same found (by simp [heldName, holds, held holds, name])
    · refine Or.inr ⟨.stop k, apart k, ?_⟩
      have equal : leaseOf ⟨next, state.renewed⟩ =
          { leaseOf state with name := Function.update (leaseOf state).name k none } := by
        apply leaseOf_eq
        · rw [lease]
          rfl
        · rw [runs, holderNames_set found, heldName, if_neg holds]
          rfl
        · rfl
      rw [equal]
      exact .stopped k

end Simulation

/-! ### Exclusion -/

/-- Before the step, the time of no run that holds the lease is up: each will renew or release less
than a lease after its last claim or renewal. -/
def InTime (config : JobConfig) (state : Timed) (action : Action) : Prop :=
  ∀ k reading, action = .job k reading → ∀ holder run, state.sys.runs[holder]? = some run →
    holdsLease run = true → reading.now < state.renewed holder + config.leaseMs

def Timed.boot (store : Store) (issued : List Id) : Timed := ⟨.boot store issued, fun _ => 0⟩

theorem punctual_of_inTime {config : JobConfig} {state : Timed} {action : Action}
    (inTime : InTime config state action) {k : Nat} {reading : Reading}
    (isJob : action = .job k reading) :
    Lease.Punctual (expiry config) (leaseOf state) reading.now := by
  intro holder name holds
  obtain ⟨run, found, named⟩ := Option.bind_eq_some_iff.mp holds
  unfold heldName at named
  split at named
  next held => exact inTime k reading isJob holder run found held
  · simp at named

theorem reached_exclusive {config : JobConfig} {start : Store} {issued : List Id} {state : Timed}
    (reached : Machine.Reaches (timedStep config) (InTime config) (Timed.boot start issued)
      state) : Lease.Exclusive (expiry config) (leaseOf state) := by
  have boot : Lease.Exclusive (expiry config) (leaseOf (Timed.boot start issued)) := by
    intro holder name holds
    simp [leaseOf, Timed.boot, System.boot, holderNames] at holds
  refine reached.invariant (fun state => Lease.Exclusive (expiry config) (leaseOf state)) boot ?_
    state
  intro before action after _ exclusive inTime stepped
  rcases timedStep_simulates stepped with same | ⟨event, isEvent, moved⟩
  · exact same ▸ exclusive
  · apply moved.exclusive ?_ exclusive
    rintro who name now rfl
    obtain ⟨reading, run, isJob, _, _, _, _, _, rfl⟩ := isEvent
    exact punctual_of_inTime inTime isJob

/-! ### Recovery -/

/-- `newId()` gives a run that claims the lease an id that no other run has. -/
def FreshRunIds (state : Timed) (action : Action) : Prop :=
  ∀ k reading run, action = .job k reading → state.sys.runs[k]? = some run →
    run.phase = .claiming → ∀ other ∈ state.sys.runs, other.runId ≠ reading.id

theorem fresh_event {state : Timed} {action : Action} (fresh : FreshRunIds state action)
    {event : Lease.Event Nat Id Date} (isEvent : IsEvent state action event) :
    ∀ who name now, event = .claim who name now →
      ∀ other, (leaseOf state).name other ≠ some name := by
  rintro who name now rfl other holds
  obtain ⟨reading, run, isJob, found, phase, _, _, rfl, _⟩ := isEvent
  obtain ⟨holder, among, named⟩ := Option.bind_eq_some_iff.mp holds
  unfold heldName at named
  split at named
  · exact fresh who reading run isJob found phase holder (List.mem_of_getElem? among)
      (Option.some.inj named)
  · simp at named

theorem reached_recorded {config : JobConfig} {start : Store} {issued : List Id} {state : Timed}
    (reached : Machine.Reaches (timedStep config) FreshRunIds (Timed.boot start issued) state) :
    Lease.Distinct (leaseOf state) ∧ Lease.Recorded (expiry config) (leaseOf state) := by
  have boot : Lease.Distinct (leaseOf (Timed.boot start issued)) ∧
      Lease.Recorded (expiry config) (leaseOf (Timed.boot start issued)) := by
    constructor
    · intro who other name holds
      simp [leaseOf, Timed.boot, System.boot, holderNames] at holds
    · intro who name holds
      simp [leaseOf, Timed.boot, System.boot, holderNames] at holds
  refine reached.invariant (fun state => Lease.Distinct (leaseOf state) ∧
    Lease.Recorded (expiry config) (leaseOf state)) boot ?_ state
  rintro before action after _ ⟨distinct, recorded⟩ fresh stepped
  rcases timedStep_simulates stepped with same | ⟨event, isEvent, moved⟩
  · exact same ▸ ⟨distinct, recorded⟩
  · have unused := fresh_event fresh isEvent
    exact ⟨moved.distinct unused distinct, moved.recorded distinct unused recorded⟩

/-- The run does not renew or release the lease, and no other claim is granted: it meets the
advisory lock or the lease. -/
def Deserted (k : Nat) (state : Timed) (action : Action) : Prop :=
  ∀ j reading run, action = .job j reading → state.sys.runs[j]? = some run →
    (run.phase = .claiming →
      reading.lockTaken = true ∨ leaseFree state.sys.store.jobLease reading.now = false) ∧
    (j = k → run.phase ≠ .renewing ∧ run.phase ≠ .releasing)

/-- While its owner does nothing for it and no claim is granted, the lease stays as it is. -/
theorem deserted_row {config : JobConfig} {state later : Timed} {k : Nat} {name : Id}
    (distinct : Lease.Distinct (leaseOf state)) (holds : (leaseOf state).name k = some name)
    (owner : (leaseOf state).row.owner = some name)
    (reached : Machine.Reaches (timedStep config) (Deserted k) state later) :
    (leaseOf later).row = (leaseOf state).row ∧
      ∀ who held, (leaseOf later).name who = some held → (leaseOf state).name who = some held := by
  refine reached.invariant (fun later => (leaseOf later).row = (leaseOf state).row ∧
    ∀ who held, (leaseOf later).name who = some held → (leaseOf state).name who = some held)
    ⟨rfl, fun _ _ => id⟩ ?_ later
  rintro before action after _ ⟨row, names⟩ deserted stepped
  rcases timedStep_simulates stepped with same | ⟨event, isEvent, moved⟩
  · exact same ▸ ⟨row, names⟩
  -- a claim that the protocol sees was granted, and those are excluded
  have noClaim : ∀ who name now, event ≠ .claim who name now := by
    rintro who name now rfl
    obtain ⟨reading, run, isJob, found, phase, unlocked, free, _, rfl⟩ := isEvent
    rcases (deserted who reading run isJob found).1 phase with taken | busy
    · rw [unlocked] at taken
      simp at taken
    · rw [free] at busy
      simp at busy
  refine ⟨?_, fun who held isHolder => names who held (moved.holders noClaim isHolder)⟩
  rw [← row]
  by_contra changed
  rcases moved.row_changes changed with
    ⟨who, name, now, isClaim, _⟩ | ⟨who, held, use, own, isOwner⟩
  · exact noClaim who name now isClaim
  · -- the one who changed it is the owner, so it is the deserter
    rw [row, owner] at isOwner
    have same : who = k :=
      distinct who k held (names who held own) (by rw [holds, isOwner])
    rcases use with ⟨now, rfl⟩ | rfl
    · obtain ⟨reading, run, isJob, found, phase, _⟩ := isEvent
      exact ((deserted who reading run isJob found).2 same).1 phase
    · obtain ⟨reading, run, isJob, found, phase⟩ := isEvent
      exact ((deserted who reading run isJob found).2 same).2 phase

/-! ### The job -/

def OneHolder (sys : System) : Prop :=
  ∀ (k j : Nat) (first second : Run), sys.runs[k]? = some first → sys.runs[j]? = some second →
    holdsLease first = true → holdsLease second = true → k = j

theorem oneHolder_of_exclusive {config : JobConfig} {state : Timed}
    (exclusive : Lease.Exclusive (expiry config) (leaseOf state)) : OneHolder state.sys := by
  intro k j first second foundFirst foundSecond holdsFirst holdsSecond
  have name : ∀ {i : Nat} {run : Run}, state.sys.runs[i]? = some run → holdsLease run = true →
      (leaseOf state).name i = some run.runId := by
    intro i run found holds
    change holderNames state.sys.runs i = some run.runId
    rw [holderNames, found, Option.bind_some, heldName, if_pos holds]
  have alone := (exclusive j _ (name foundSecond holdsSecond)).2
  exact alone k (by rw [name foundFirst holdsFirst, Option.isSome_some])

/-- A statement of a run on the lease that is not a claim, and finds another owner. -/
theorem foreign_leaves_row {config : JobConfig} {sys next : System} {k : Nat} {reading : Reading}
    {run : Run} (found : sys.runs[k]? = some run)
    (use : run.phase = .renewing ∨ run.phase = .releasing)
    (foreign : sys.store.jobLease.ownerRunId ≠ some run.runId)
    (stepped : step config sys (.job k reading) = some next) :
    next.store.jobLease = sys.store.jobLease := by
  cases step_lease stepped with
  | still lease _ _ => exact lease
  | started lease _ _ _ _ => exact lease
  | dropped _ _ _ _ lease _ _ _ _ => exact lease
  | ran j other started after isJob foundStarted runs effect =>
    injection isJob with same sameReading
    subst same sameReading
    obtain rfl : run = started := Option.some.inj (found.symm.trans foundStarted)
    generalize stored : next.store = store at effect
    -- both updates ask for the row of this run's id, which is not there
    cases effect with
    | claimed _ _ phase =>
      rcases use with phase' | phase' <;> rw [phase] at phase' <;> simp at phase'
    | refused => rfl
    | renewed => rw [renewLease, if_neg foreign]
    | released => rw [releaseLease, if_neg foreign]
    | passed _ _ _ lease => exact lease

/-- The claim of a run succeeds when neither the advisory lock nor the lease is in its way. -/
theorem claim_granted {config : JobConfig} {sys next : System} {k : Nat} {reading : Reading}
    {run : Run} (found : sys.runs[k]? = some run) (phase : run.phase = .claiming)
    (unlocked : reading.lockTaken = false)
    (free : leaseFree sys.store.jobLease reading.now = true)
    (stepped : step config sys (.job k reading) = some next) :
    ∃ winner, next.runs[k]? = some winner ∧ holdsLease winner = true ∧
      next.store.jobLease = ⟨some winner.runId, some (reading.now + config.leaseMs)⟩ := by
  cases step_lease stepped with
  | still _ _ apart => exact absurd rfl (apart k reading)
  | started _ _ _ _ apart => exact absurd rfl (apart k reading)
  | dropped _ _ _ _ _ _ _ _ apart => exact absurd rfl (apart k reading)
  | ran j other started after isJob foundStarted runs effect =>
    injection isJob with same sameReading
    subst same sameReading
    obtain rfl : run = started := Option.some.inj (found.symm.trans foundStarted)
    have inside := (List.getElem?_eq_some_iff.mp found).1
    refine ⟨after, by rw [runs, List.getElem?_set_self inside], ?_⟩
    generalize next.store = store at effect ⊢
    cases effect with
    | claimed _ _ _ _ _ lease name held => exact ⟨held, by rw [lease, name]⟩
    | refused _ _ taken =>
      rcases taken with locked | busy
      · rw [unlocked] at locked
        simp at locked
      · rw [free] at busy
        simp at busy
    | renewed _ other => rw [phase] at other; simp at other
    | released _ other => rw [phase] at other; simp at other
    | passed _ _ apart => simp [usesLease, phase] at apart

/-- Among runs that renew or release in time one at most holds the lease; who does not own the
lease neither renews nor releases it; and a claim is granted once the time of an owner that has
done nothing more is up, unless another claim or the advisory lock came before. -/
theorem job_lease_excludes_and_recovers (config : JobConfig) (start : Store) (issued : List Id) :
    (∀ state, Machine.Reaches (timedStep config) (InTime config) (Timed.boot start issued) state →
      OneHolder state.sys) ∧
    (∀ (sys next : System) (k : Nat) (reading : Reading) (run : Run),
      sys.runs[k]? = some run → (run.phase = .renewing ∨ run.phase = .releasing) →
      sys.store.jobLease.ownerRunId ≠ some run.runId →
      step config sys (.job k reading) = some next →
      next.store.jobLease = sys.store.jobLease) ∧
    (∀ state later, Machine.Reaches (timedStep config) FreshRunIds (Timed.boot start issued)
        state → ∀ (k : Nat) (owner : Run), state.sys.runs[k]? = some owner →
      holdsLease owner = true → state.sys.store.jobLease.ownerRunId = some owner.runId →
      Machine.Reaches (timedStep config) (Deserted k) state later →
      ∀ (j : Nat) (claimer : Run) (reading : Reading) (after : Timed),
        later.sys.runs[j]? = some claimer → claimer.phase = .claiming →
        reading.lockTaken = false → state.renewed k + config.leaseMs ≤ reading.now →
        timedStep config later (.job j reading) = some after →
        ∃ winner, after.sys.runs[j]? = some winner ∧ holdsLease winner = true ∧
          after.sys.store.jobLease =
            ⟨some winner.runId, some (reading.now + config.leaseMs)⟩) := by
  refine ⟨fun state reached => oneHolder_of_exclusive (reached_exclusive reached),
    fun sys next k reading run found use foreign stepped =>
      foreign_leaves_row found use foreign stepped, ?_⟩
  intro state later reached k owner found holds owns deserted j claimer reading after foundClaimer
    phase unlocked late stepped
  obtain ⟨distinct, recorded⟩ := reached_recorded reached
  have name : (leaseOf state).name k = some owner.runId := by
    change holderNames state.sys.runs k = some owner.runId
    rw [holderNames, found, Option.bind_some, heldName, if_pos holds]
  obtain ⟨row, _⟩ := deserted_row distinct name owns deserted
  -- the lease still tells the end of the owner's time, and that is over
  have until_ : (leaseOf later).row.heldUntil = some (state.renewed k + config.leaseMs) := by
    rw [row]
    exact recorded k owner.runId name owns
  have free : leaseFree later.sys.store.jobLease reading.now = true := by
    rw [leaseFree_iff]
    intro instant among
    rw [show later.sys.store.jobLease.heldUntil = _ from until_, Option.mem_some_iff] at among
    exact among ▸ late
  obtain ⟨next, moved, rfl⟩ := Option.map_eq_some_iff.mp stepped
  exact claim_granted foundClaimer phase unlocked free moved

def freshRunIds (state : Timed) : Action → Bool
  | .job _ reading => state.sys.runs.all fun run => run.runId != reading.id
  | _ => true

theorem freshRunIds_sound (state : Timed) (action : Action)
    (passed : freshRunIds state action = true) : FreshRunIds state action := by
  rintro k reading run rfl _ _ other among
  have differ := List.all_eq_true.mp passed other among
  simpa using differ

def inTime (config : JobConfig) (state : Timed) : Action → Bool
  | .job _ reading => state.sys.runs.zipIdx.all fun (run, holder) =>
    !holdsLease run || reading.now < state.renewed holder + config.leaseMs
  | _ => true

theorem inTime_sound {config : JobConfig} (state : Timed) (action : Action)
    (passed : inTime config state action = true) : InTime config state action := by
  rintro k reading rfl holder run found holds
  have own := List.all_eq_true.mp passed (run, holder) (List.mem_zipIdx_iff_getElem?.mpr found)
  simpa [holds] using own

/-- The first of two runs claims at 0, and stops there. -/
def claimAndStop : List Action := [.startRun "j0" 0, .startRun "j1" 0] ++ jobSteps 1 0 "r0"

/-- The first run goes on to its release. -/
def claimAndRelease : List Action := claimAndStop ++ jobSteps 6 1000 "r0"

/-- Who holds the lease after these actions, in a sample run in time. -/
def holdersAfter (actions : List Action) : Option (List Bool) :=
  (Machine.exec (timedStep sampleConfig) (inTime sampleConfig) (Timed.boot staffedStore [])
    actions).map fun state => state.sys.runs.map holdsLease

/-- Two runs have the lease in turn, and never both. Of two others the first stops with the lease,
and the second claims it as soon as its time is over. -/
theorem job_lease_excludes_and_recovers_sample :
    (holdersAfter claimAndStop = some [true, false] ∧
      holdersAfter (claimAndRelease ++ [.job 1 (sampleReading 2000 "r1")]) = some [false, true] ∧
      ∀ actions state, Machine.exec (timedStep sampleConfig) (inTime sampleConfig)
        (Timed.boot staffedStore []) actions = some state → OneHolder state.sys) ∧
    ∃ state later after winner,
      Machine.exec (timedStep sampleConfig) freshRunIds (Timed.boot staffedStore []) claimAndStop =
        some state ∧
      timedStep sampleConfig state (.crash 0) = some later ∧
      timedStep sampleConfig later (.job 1 (sampleReading 300000 "r1")) = some after ∧
      after.sys.runs[1]? = some winner ∧ holdsLease winner = true ∧
      after.sys.store.jobLease = ⟨some winner.runId, some 600000⟩ := by
  refine ⟨⟨by decide, by decide, fun actions state executed => ?_⟩, ?_⟩
  · exact (job_lease_excludes_and_recovers sampleConfig staffedStore []).1 state
      (Machine.reaches_of_exec _ inTime_sound _ _ _ executed)
  -- The owner stops with the lease and crashes; the second run claims after the lease has run out.
  have ran : (Machine.exec (timedStep sampleConfig) freshRunIds (Timed.boot staffedStore [])
      claimAndStop).any (fun state =>
        (state.sys.runs[0]?).any (fun owner => decide (holdsLease owner = true ∧
          state.sys.store.jobLease.ownerRunId = some owner.runId ∧ state.renewed 0 = 0)) &&
        (timedStep sampleConfig state (.crash 0)).any fun later =>
          (later.sys.runs[1]?).any (fun claimer => usesLease claimer && !holdsLease claimer) &&
          (timedStep sampleConfig later (.job 1 (sampleReading 300000 "r1"))).isSome) = true := by
    decide
  obtain ⟨state, executed, facts⟩ := Option.any_eq_true _ _ |>.mp ran
  obtain ⟨own, onward⟩ := Bool.and_eq_true _ _ |>.mp facts
  obtain ⟨owner, found, kept⟩ := Option.any_eq_true _ _ |>.mp own
  obtain ⟨holds, owns, clock⟩ := of_decide_eq_true kept
  obtain ⟨later, crashed, then_⟩ := Option.any_eq_true _ _ |>.mp onward
  obtain ⟨second, moved⟩ := Bool.and_eq_true _ _ |>.mp then_
  obtain ⟨claimer, foundClaimer, idle⟩ := Option.any_eq_true _ _ |>.mp second
  have phase : claimer.phase = .claiming := by
    revert idle
    unfold usesLease holdsLease
    cases claimer.phase <;> simp
  obtain ⟨after, stepped⟩ := Option.isSome_iff_exists.mp moved
  have deserted : Deserted 0 state (.crash 0) := by
    intro j reading run isJob
    simp at isJob
  obtain ⟨winner, stands, wins, lease⟩ :=
    (job_lease_excludes_and_recovers sampleConfig staffedStore []).2.2 state later
      (Machine.reaches_of_exec _ freshRunIds_sound _ _ _ executed) 0 owner found holds owns
      (.next state later (.crash 0) .start deserted crashed) 1 claimer
      (sampleReading 300000 "r1") after foundClaimer phase rfl
      (by rw [clock]; decide) stepped
  exact ⟨state, later, after, winner, executed, crashed, stepped, stands, wins, lease⟩

end IncidentApi.Properties
