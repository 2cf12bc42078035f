import IncidentApi.Scheduler
import IncidentApi.Properties.JobAccounts
import IncidentApi.Library.Growth

/-!
# One scheduled run for each process, and none cut off

The `running` flag keeps a scheduler from having two runs in flight, and is cleared however a run
ends. A shutdown stops the timer before it waits, so the run that it waits for is the last. Runs of
`runNow` are neither counted nor waited for.
-/
namespace IncidentApi.Properties

open Growth

/-! ### One scheduler -/

/-- The flag, the promise and the promises so far agree. -/
structure InStep (scheduler : Scheduler) : Prop where
  flag : scheduler.running = scheduler.inFlight.isSome
  pending : ∀ p, scheduler.inFlight = some p ↔
    ∃ tick, scheduler.ticks[p]? = some tick ∧ tick.isSettled = false

/-- Every promise of the scheduler has settled. -/
def AllSettled (scheduler : Scheduler) : Prop := ∀ tick ∈ scheduler.ticks, tick.isSettled = true

section Schedulers
variable {scheduler : Scheduler}

theorem InStep.idle_iff (inStep : InStep scheduler) :
    scheduler.inFlight = none ↔ AllSettled scheduler := by
  constructor
  · intro idle tick member
    obtain ⟨p, found⟩ := List.mem_iff_getElem?.mp member
    by_contra unsettled
    have pending := (inStep.pending p).mpr ⟨tick, found, by simpa using unsettled⟩
    rw [idle] at pending
    cases pending
  · intro settled
    cases flight : scheduler.inFlight with
    | none => rfl
    | some p =>
      obtain ⟨tick, found, unsettled⟩ := (inStep.pending p).mp flight
      rw [settled tick (List.mem_of_getElem? found)] at unsettled
      cases unsettled

theorem InStep.unique (inStep : InStep scheduler) {p q : Nat} {tick other : Tick}
    (first : scheduler.ticks[p]? = some tick) (unsettled : tick.isSettled = false)
    (second : scheduler.ticks[q]? = some other) (too : other.isSettled = false) : p = q := by
  have one := (inStep.pending p).mpr ⟨tick, first, unsettled⟩
  have two := (inStep.pending q).mpr ⟨other, second, too⟩
  exact Option.some.inj (one.symm.trans two)

theorem InStep.main (isTest : Bool) : InStep (main isTest).scheduler := by
  constructor <;> cases isTest <;> simp [IncidentApi.main, startScheduler]

theorem InStep.stop (inStep : InStep scheduler) : InStep (stopScheduler scheduler) := by
  unfold stopScheduler
  split <;> exact ⟨inStep.flag, inStep.pending⟩

theorem stopScheduler_ticks (scheduler : Scheduler) :
    (stopScheduler scheduler).ticks = scheduler.ticks := by
  unfold stopScheduler
  split <;> rfl

theorem InStep.tick (inStep : InStep scheduler) : InStep scheduler.tick := by
  unfold Scheduler.tick
  split
  · exact inStep
  next idle =>
    have none : scheduler.inFlight = none := by
      have flag := inStep.flag
      rw [Bool.not_eq_true] at idle
      rw [idle] at flag
      simpa using flag.symm
    refine ⟨rfl, fun p => ?_⟩
    simp only [Option.some.injEq]
    constructor
    · rintro rfl
      exact ⟨.starting, by simp, rfl⟩
    · rintro ⟨tick, found, unsettled⟩
      rw [List.getElem?_append] at found
      split at found
      · -- an earlier promise would be in flight
        have flight := (inStep.pending p).mpr ⟨tick, found, unsettled⟩
        rw [none] at flight
        cases flight
      next beyond =>
        have inside := (List.getElem?_eq_some_iff.mp found).1
        simp only [List.length_singleton] at inside
        omega

/-- A promise in flight moves on. -/
theorem InStep.move (inStep : InStep scheduler) {p : Nat} {old new : Tick}
    (found : scheduler.ticks[p]? = some old) (before : old.isSettled = false)
    (after : new.isSettled = false) :
    InStep { scheduler with ticks := scheduler.ticks.set p new } := by
  refine ⟨inStep.flag, fun q => ?_⟩
  rw [inStep.pending q]
  have inside := (List.getElem?_eq_some_iff.mp found).1
  by_cases same : p = q
  · subst same
    constructor
    · exact fun _ => ⟨new, List.getElem?_set_self inside, after⟩
    · exact fun _ => ⟨old, found, before⟩
  · rw [List.getElem?_set_ne same]

theorem InStep.settle (inStep : InStep scheduler) {p : Nat} {old : Tick}
    (found : scheduler.ticks[p]? = some old) (before : old.isSettled = false) (k : Option Nat) :
    InStep (scheduler.settle p k) := by
  refine ⟨rfl, fun q => ?_⟩
  have inside := (List.getElem?_eq_some_iff.mp found).1
  simp only [Scheduler.settle, reduceCtorEq, false_iff, not_exists, not_and]
  intro tick stands
  by_cases same : p = q
  · subst same
    rw [List.getElem?_set_self inside] at stands
    exact Option.some.inj stands ▸ by simp [Tick.isSettled]
  · rw [List.getElem?_set_ne same] at stands
    intro unsettled
    exact same (inStep.unique found before stands unsettled)

end Schedulers

/-! ### Runs -/

/-- The run is there and over. -/
def Over (system : System) (k : Nat) : Prop :=
  ∃ run, system.runs[k]? = some run ∧ run.hasFinished = true

/-- A run that is over stays over. -/
def StaysOver (old new : Run) : Prop := old.hasFinished = true → new.hasFinished = true

/-- The same runs, further on. -/
structure RunsMove (old new : System) : Prop where
  grows : Grows StaysOver old.runs new.runs
  length : new.runs.length = old.runs.length

section Systems
variable {config : JobConfig} {system after : System}

theorem Over.grows {k : Nat} (closed : Over system k)
    (grows : Grows StaysOver system.runs after.runs) : Over after k := by
  obtain ⟨run, found, finished⟩ := closed
  obtain ⟨later, stands, stays⟩ := grows k run found
  exact ⟨later, stands, stays finished⟩

theorem StaysOver.refl (run : Run) : StaysOver run run := id

theorem hasFinished_iff {run : Run} : run.hasFinished = true ↔ run.phase = .finished := by
  unfold Run.hasFinished
  split <;> simp_all

theorem interruptRun_over (run : Run) : StaysOver run (interruptRun run) := by
  intro finished
  rw [hasFinished_iff] at finished
  simp [interruptRun, finished, hasFinished_iff]

theorem step_runs {action : Action} (service : action.ofProcess = false)
    (stepped : step config system action = some after) : RunsMove system after := by
  cases step_account stepped with
  | still runs => exact ⟨by rw [runs]; exact .refl StaysOver.refl _, by rw [runs]⟩
  | started jobRunId startedAt isStart =>
    rw [isStart] at service
    cases service
  | ran k reading run next isJob found runs moved =>
    refine ⟨runs ▸ .of_set StaysOver.refl found fun finished => ?_, by rw [runs, List.length_set]⟩
    -- a run that is over takes no step
    rw [hasFinished_iff] at finished
    simp [runStep, finished] at moved
  | dropped k run next isDrop found runs store =>
    refine ⟨runs ▸ .of_set StaysOver.refl found ?_, by rw [runs, List.length_set]⟩
    rcases isDrop with ⟨_, rfl⟩ | ⟨rfl, _⟩
    · exact interruptRun_over run
    · cases service

theorem crashRun_over (run : Run) : (crashRun run).hasFinished = true := by
  unfold crashRun
  split
  next finished => exact finished
  · rfl

theorem crashRuns_move (ks : List Nat) (system : System) :
    RunsMove system (crashRuns ks system) := by
  refine ⟨fun k run found => ⟨_, by rw [crashRuns, List.getElem?_mapIdx, found]; rfl, ?_⟩,
    by rw [crashRuns, List.length_mapIdx]⟩
  split
  · exact fun _ => crashRun_over run
  · exact id

theorem crashRuns_over {ks : List Nat} {k : Nat} (among : k ∈ ks)
    (started : k < system.runs.length) : Over (crashRuns ks system) k := by
  refine ⟨crashRun system.runs[k], ?_, crashRun_over _⟩
  rw [crashRuns, List.getElem?_mapIdx, List.getElem?_eq_getElem started, Option.map_some,
    if_pos among]

/-- Only the crashed runs end. -/
theorem over_crashRuns_iff {ks : List Nat} (started : ∀ k ∈ ks, k < system.runs.length) {k : Nat} :
    Over (crashRuns ks system) k ↔ Over system k ∨ k ∈ ks := by
  constructor
  · rintro ⟨run, found, finished⟩
    by_cases among : k ∈ ks
    · exact .inr among
    · rw [crashRuns, List.getElem?_mapIdx, Option.map_eq_some_iff] at found
      obtain ⟨run, found, rfl⟩ := found
      rw [if_neg among] at finished
      exact .inl ⟨run, found, finished⟩
  · rintro (ended | among)
    · exact ended.grows (crashRuns_move ks system).grows
    · exact crashRuns_over among (started k among)

end Systems

/-! ### Processes -/

/-- The process is to run it: its scheduler has started it and waits, or an admin asked for it. -/
def Owns (process : Process) (k : Nat) : Prop :=
  .running k ∈ process.scheduler.ticks ∨ k ∈ process.requested

structure ProcessInvariant (system : System) (process : Process) : Prop where
  inStep : InStep process.scheduler
  stopped : ∀ awaited ∈ process.shutdowns, process.scheduler.timer = false ∧
    (process.scheduler.inFlight = none ∨ process.scheduler.inFlight = awaited)
  promised : ∀ p, some p ∈ process.shutdowns → ∃ tick, process.scheduler.ticks[p]? = some tick
  exited : process.life = .exited → process.scheduler.inFlight = none
  started : ∀ k, Owns process k → k < system.runs.length
  closed : ∀ k, .settled (some k) ∈ process.scheduler.ticks → Over system k
  gone : process.life ≠ .alive → ∀ k, Owns process k → Over system k

theorem mem_runs {process : Process} {k : Nat} : k ∈ process.runs ↔
    .running k ∈ process.scheduler.ticks ∨ .settled (some k) ∈ process.scheduler.ticks := by
  unfold Process.runs
  rw [List.mem_filterMap]
  constructor
  · rintro ⟨tick, member, same⟩
    cases tick with
    | running j => exact .inl (Option.some.inj same ▸ member)
    | settled run =>
      obtain rfl : run = some k := same
      exact .inr member
    | starting => cases same
    | refused => cases same
  · rintro (member | member)
    · exact ⟨_, member, rfl⟩
    · exact ⟨_, member, rfl⟩

section Processes
variable {system after : System} {process : Process}

theorem ProcessInvariant.grows (inv : ProcessInvariant system process)
    (grows : Grows StaysOver system.runs after.runs) : ProcessInvariant after process where
  inStep := inv.inStep
  stopped := inv.stopped
  promised := inv.promised
  exited := inv.exited
  started k owns := Nat.lt_of_lt_of_le (inv.started k owns) grows.length_le
  closed k member := (inv.closed k member).grows grows
  gone dead k owns := (inv.gone dead k owns).grows grows

theorem ProcessInvariant.main (isTest : Bool) : ProcessInvariant system (main isTest) := by
  refine ⟨.main isTest, List.forall_mem_nil _, ?_, ?_, ?_, ?_, ?_⟩ <;>
    cases isTest <;> simp [IncidentApi.main, startScheduler, Owns]

theorem ProcessInvariant.tick (inv : ProcessInvariant system process)
    (alive : process.life = .alive) (timer : process.scheduler.timer = true) :
    ProcessInvariant system { process with scheduler := process.scheduler.tick } := by
  have ticks : ∀ tick ∈ process.scheduler.tick.ticks, tick ∈ process.scheduler.ticks ∨
      tick = .starting := by
    intro tick member
    unfold Scheduler.tick at member
    split at member
    · exact .inl member
    · exact (List.mem_append.mp member).imp_right List.mem_singleton.mp
  -- no timer is left once a shutdown has begun
  have serving : ∀ awaited, awaited ∉ process.shutdowns := by
    intro awaited member
    rw [(inv.stopped awaited member).1] at timer
    cases timer
  refine ⟨inv.inStep.tick, fun awaited member => absurd member (serving awaited),
    fun p member => absurd member (serving _), by simp [alive], fun k owns => ?_,
    fun k member => ?_, fun dead => absurd alive dead⟩
  · exact inv.started k (owns.imp_left fun member => (ticks _ member).resolve_right nofun)
  · exact inv.closed k ((ticks _ member).resolve_right nofun)

theorem ProcessInvariant.shutdown (inv : ProcessInvariant system process)
    (alive : process.life = .alive) : ProcessInvariant system process.shutdown := by
  have ticks := stopScheduler_ticks process.scheduler
  have stops : (stopScheduler process.scheduler).timer = false ∧
      (stopScheduler process.scheduler).inFlight = process.scheduler.inFlight := by
    unfold stopScheduler
    split
    · exact ⟨rfl, rfl⟩
    next off => exact ⟨by simpa using off, rfl⟩
  refine ⟨inv.inStep.stop, fun awaited member => ⟨stops.1, ?_⟩, fun p member => ?_,
    by simp [Process.shutdown, alive], fun k owns => inv.started k (owns.imp_left (ticks ▸ ·)),
    fun k member => inv.closed k (ticks ▸ member), fun dead => absurd alive dead⟩
  · rcases List.mem_append.mp member with earlier | last
    · simp only [Process.shutdown, stops.2]
      exact (inv.stopped awaited earlier).2
    · exact .inr (List.mem_singleton.mp last).symm
  · rcases List.mem_append.mp member with earlier | last
    · simp only [Process.shutdown, ticks]
      exact inv.promised p earlier
    -- what is awaited is the promise in flight
    · obtain ⟨tick, found, _⟩ := (inv.inStep.stop.pending p).mp (List.mem_singleton.mp last).symm
      exact ⟨tick, found⟩

/-- A shutdown is past its `await` exactly when nothing is in flight. -/
theorem ProcessInvariant.drained_iff (inv : ProcessInvariant system process)
    {awaited : Option Nat} (waits : awaited ∈ process.shutdowns) :
    process.drained awaited = true ↔ AllSettled process.scheduler := by
  have flight := (inv.stopped awaited waits).2
  cases awaited with
  | none =>
    have idle : process.scheduler.inFlight = none := flight.elim id id
    simpa [Process.drained] using inv.inStep.idle_iff.mp idle
  | some p =>
    obtain ⟨tick, found⟩ := inv.promised p waits
    have drained : process.drained (some p) = tick.isSettled := by
      simp [Process.drained, found]
    rw [drained]
    constructor
    · intro settled
      refine inv.inStep.idle_iff.mp (flight.resolve_right fun pending => ?_)
      obtain ⟨other, stands, unsettled⟩ := (inv.inStep.pending p).mp pending
      obtain rfl := Option.some.inj (found.symm.trans stands)
      rw [settled] at unsettled
      cases unsettled
    · exact fun all => all tick (List.mem_of_getElem? found)

/-- A promise moves on; what it names of runs must be right. -/
theorem ProcessInvariant.move (inv : ProcessInvariant system process)
    (alive : process.life = .alive) {p : Nat} {old new : Tick}
    (found : process.scheduler.ticks[p]? = some old) (before : old.isSettled = false)
    (after : new.isSettled = false) (started : ∀ k, new = .running k → k < system.runs.length) :
    ProcessInvariant system { process with
      scheduler := { process.scheduler with ticks := process.scheduler.ticks.set p new } } := by
  have inside := (List.getElem?_eq_some_iff.mp found).1
  refine ⟨inv.inStep.move found before after, inv.stopped, fun q member => ?_, by simp [alive],
    fun k owns => ?_, fun k member => ?_, fun dead => absurd alive dead⟩
  · obtain ⟨tick, stands⟩ := inv.promised q member
    have bound : q < (process.scheduler.ticks.set p new).length := by
      rw [List.length_set]
      exact (List.getElem?_eq_some_iff.mp stands).1
    exact ⟨_, List.getElem?_eq_getElem bound⟩
  · rcases owns with member | asked
    · rcases Pool.mem_set member with same | other
      · exact started k same.symm
      · exact inv.started k (.inl other)
    · exact inv.started k (.inr asked)
  · rcases Pool.mem_set member with rfl | other
    · cases after
    · exact inv.closed k other

theorem ProcessInvariant.settle (inv : ProcessInvariant system process)
    (alive : process.life = .alive) {p : Nat} {old : Tick}
    (found : process.scheduler.ticks[p]? = some old) (before : old.isSettled = false)
    {run : Option Nat} (closed : ∀ k, run = some k → Over system k) :
    ProcessInvariant system { process with scheduler := process.scheduler.settle p run } := by
  refine ⟨inv.inStep.settle found before run, fun awaited member => ⟨?_, .inl rfl⟩,
    fun q member => ?_, by simp [alive], fun k owns => ?_, fun k member => ?_,
    fun dead => absurd alive dead⟩
  · exact (inv.stopped awaited member).1
  · obtain ⟨tick, stands⟩ := inv.promised q member
    have bound : q < (process.scheduler.ticks.set p (.settled run)).length := by
      rw [List.length_set]
      exact (List.getElem?_eq_some_iff.mp stands).1
    exact ⟨_, List.getElem?_eq_getElem bound⟩
  · rcases owns with member | asked
    · exact inv.started k (.inl ((Pool.mem_set member).resolve_left nofun))
    · exact inv.started k (.inr asked)
  · rcases Pool.mem_set member with same | other
    · exact closed k (Tick.settled.inj same).symm
    · exact inv.closed k other

theorem ProcessInvariant.request (inv : ProcessInvariant system process)
    (alive : process.life = .alive) {k : Nat} (started : k < system.runs.length) :
    ProcessInvariant system { process with requested := process.requested ++ [k] } := by
  refine ⟨inv.inStep, inv.stopped, inv.promised, inv.exited, fun j owns => ?_, inv.closed,
    fun dead => absurd alive dead⟩
  rcases owns with running | asked
  · exact inv.started j (.inl running)
  · rcases List.mem_append.mp asked with earlier | last
    · exact inv.started j (.inr earlier)
    · exact List.mem_singleton.mp last ▸ started

/-- Once nothing of the scheduler is in flight, its runs are over. -/
theorem ProcessInvariant.all_over (inv : ProcessInvariant system process)
    (settled : AllSettled process.scheduler) : ∀ k ∈ process.runs, Over system k := by
  intro k started
  rcases mem_runs.mp started with running | ended
  · cases settled _ running
  · exact inv.closed k ended

end Processes

/-! ### The fleet -/

structure FleetInvariant (fleet : Fleet) : Prop where
  processes : ∀ process ∈ fleet.processes, ProcessInvariant fleet.system process
  owned : ∀ k run, fleet.system.runs[k]? = some run → run.hasFinished = false →
    ∃ process ∈ fleet.processes, process.life = .alive ∧ Owns process k

section Fleets
variable {config : JobConfig} {fleet next : Fleet}

theorem unfinished_before {old new : List Run} (grows : Grows StaysOver old new) {k : Nat}
    {run : Run} (stands : new[k]? = some run) (unfinished : run.hasFinished = false)
    (inside : k < old.length) : old[k].hasFinished = false := by
  obtain ⟨later, same, stays⟩ := grows k _ (List.getElem?_eq_getElem inside)
  obtain rfl := Option.some.inj (same.symm.trans stands)
  by_contra finished
  rw [stays (by simpa using finished)] at unfinished
  cases unfinished

theorem FleetInvariant.moves (inv : FleetInvariant fleet) {system : System}
    (moves : RunsMove fleet.system system) : FleetInvariant { fleet with system := system } := by
  refine ⟨fun process member => (inv.processes process member).grows moves.grows,
    fun k run stands unfinished => ?_⟩
  have inside : k < fleet.system.runs.length := by
    rw [← moves.length]
    exact (List.getElem?_eq_some_iff.mp stands).1
  exact inv.owned k _ (List.getElem?_eq_getElem inside)
    (unfinished_before moves.grows stands unfinished inside)

/-- The runs move on, and one process changes; it keeps those of its runs that are not over, and
has those that are new. -/
theorem FleetInvariant.change (inv : FleetInvariant fleet) {system : System} {i : Nat}
    {process new : Process} (grows : Grows StaysOver fleet.system.runs system.runs)
    (found : fleet.processes[i]? = some process)
    (fresh : ∀ k, fleet.system.runs.length ≤ k → k < system.runs.length →
      new.life = .alive ∧ Owns new k)
    (holds : ProcessInvariant system process → ProcessInvariant system new)
    (keeps : process.life = .alive → ∀ k, ¬ Over system k → Owns process k →
      new.life = .alive ∧ Owns new k) :
    FleetInvariant (Fleet.setProcess { fleet with system := system } i new) := by
  have processes : ∀ other ∈ fleet.processes, ProcessInvariant system other :=
    fun other member => (inv.processes other member).grows grows
  have bound := (List.getElem?_eq_some_iff.mp found).1
  refine ⟨Pool.forall_set processes i (holds (processes _ (List.mem_of_getElem? found))),
    fun k run stands unfinished => ?_⟩
  have unover : ¬ Over system k := by
    rintro ⟨other, there, finished⟩
    obtain rfl := Option.some.inj (there.symm.trans stands)
    rw [finished] at unfinished
    cases unfinished
  by_cases inside : k < fleet.system.runs.length
  case neg =>
    exact ⟨new, List.mem_set bound new, fresh k (by omega) (List.getElem?_eq_some_iff.mp stands).1⟩
  -- an older run stays with whoever had it
  have before := unfinished_before grows stands unfinished inside
  obtain ⟨owner, member, alive, owns⟩ :=
    inv.owned k _ (List.getElem?_eq_getElem inside) before
  by_cases own : owner = process
  · subst own
    exact ⟨new, List.mem_set bound new, keeps alive k unover owns⟩
  · exact ⟨owner, Pool.mem_set_of_ne found member own, alive, owns⟩

/-- One process changes, and no run does. -/
theorem FleetInvariant.process (inv : FleetInvariant fleet) {i : Nat} {process new : Process}
    (found : fleet.processes[i]? = some process)
    (holds : ProcessInvariant fleet.system new)
    (keeps : process.life = .alive → ∀ k, ¬ Over fleet.system k → Owns process k →
      new.life = .alive ∧ Owns new k) :
    FleetInvariant (fleet.setProcess i new) :=
  inv.change (.refl StaysOver.refl _) found (fun k beyond inside => by omega) (fun _ => holds) keeps

theorem alive_ok {i : Nat} {act : Process → Option Fleet}
    (stepped : fleetStep.alive fleet i act = some next) :
    ∃ process, fleet.processes[i]? = some process ∧ process.life = .alive ∧
      act process = some next := by
  obtain ⟨process, found, acted⟩ := Option.bind_eq_some_iff.mp stepped
  split at acted
  next lives => exact ⟨process, found, lives, acted⟩
  · simp at acted

theorem FleetInvariant.start (inv : FleetInvariant fleet) {i p : Nat} {jobRunId : Id}
    {startedAt : Date} {process : Process} {system : System}
    (found : fleet.processes[i]? = some process) (alive : process.life = .alive)
    (asked : process.scheduler.ticks[p]? = some .starting)
    (inserted : step config fleet.system (.startRun jobRunId startedAt) = some system) :
    FleetInvariant (Fleet.setProcess { fleet with system := system } i { process with
      scheduler := { process.scheduler with
        ticks := process.scheduler.ticks.set p (.running fleet.system.runs.length) } }) := by
  obtain rfl := Option.some.inj inserted
  have bound := (List.getElem?_eq_some_iff.mp asked).1
  refine inv.change ((Grows.refl StaysOver.refl _).append _) found (fun k beyond inside => ?_)
    (fun holds => holds.move alive asked rfl rfl fun k same => ?_)
    fun _ k _ owns => ⟨alive, owns.imp_left (Pool.mem_set_of_ne asked · nofun)⟩
  · rw [List.length_append, List.length_singleton] at inside
    obtain rfl : k = fleet.system.runs.length := by omega
    exact ⟨alive, .inl (List.mem_set bound _)⟩
  · obtain rfl := Tick.running.inj same
    rw [List.length_append, List.length_singleton]
    omega

theorem FleetInvariant.request (inv : FleetInvariant fleet) {i : Nat} {jobRunId : Id}
    {startedAt : Date} {process : Process} {system : System}
    (found : fleet.processes[i]? = some process) (alive : process.life = .alive)
    (inserted : step config fleet.system (.startRun jobRunId startedAt) = some system) :
    FleetInvariant (Fleet.setProcess { fleet with system := system } i
      { process with requested := process.requested ++ [fleet.system.runs.length] }) := by
  obtain rfl := Option.some.inj inserted
  refine inv.change ((Grows.refl StaysOver.refl _).append _) found (fun k beyond inside => ?_)
    (fun holds => holds.request alive ?_)
    fun _ k _ owns => ⟨alive, owns.imp_right (List.mem_append_left _)⟩
  · rw [List.length_append, List.length_singleton] at inside
    obtain rfl : k = fleet.system.runs.length := by omega
    exact ⟨alive, .inr (List.mem_append_right _ (List.mem_singleton_self _))⟩
  · rw [List.length_append, List.length_singleton]
    omega

/-- A process ends, and with it what it was to run. -/
theorem FleetInvariant.ends (inv : FleetInvariant fleet) {i : Nat} {process : Process}
    (found : fleet.processes[i]? = some process) {ks : List Nat} {life : Life}
    (idle : life = .exited → process.scheduler.inFlight = none)
    (crashed : ∀ k, Owns process k → Over (crashRuns ks fleet.system) k) :
    FleetInvariant (Fleet.setProcess { fleet with system := crashRuns ks fleet.system } i
      { process with life := life }) := by
  have moves := crashRuns_move ks fleet.system
  refine inv.change moves.grows found (fun k beyond inside => ?_) (fun after => ?_)
    fun _ k unover owns => absurd (crashed k owns) unover
  · rw [moves.length] at inside
    omega
  · exact ⟨after.inStep, after.stopped, after.promised, idle, after.started, after.closed,
      fun _ => crashed⟩

theorem FleetInvariant.step {action : FleetAction} (inv : FleetInvariant fleet)
    (stepped : fleetStep config fleet action = some next) : FleetInvariant next := by
  cases action with
  | boot isTest =>
    obtain rfl := Option.some.inj stepped
    refine ⟨fun process member => ?_, fun k run stands unfinished => ?_⟩
    · rcases List.mem_append.mp member with earlier | last
      · exact inv.processes process earlier
      · obtain rfl := List.mem_singleton.mp last
        exact .main isTest
    · obtain ⟨process, member, rest⟩ := inv.owned k run stands unfinished
      exact ⟨process, List.mem_append_left _ member, rest⟩
  | service action =>
    simp only [fleetStep] at stepped
    split at stepped
    · simp at stepped
    next outside =>
      obtain ⟨system, moved, rfl⟩ := Option.map_eq_some_iff.mp stepped
      exact inv.moves (step_runs (by simpa using outside) moved)
  | tick i =>
    obtain ⟨process, found, alive, acted⟩ := alive_ok stepped
    split at acted
    next timer =>
      obtain rfl := Option.some.inj acted
      have holds := inv.processes process (List.mem_of_getElem? found)
      refine inv.process found (holds.tick alive timer) fun _ k _ owns =>
        ⟨alive, owns.imp_left fun running => ?_⟩
      unfold Scheduler.tick
      split
      · exact running
      · exact List.mem_append_left _ running
    · simp at acted
  | start i p jobRunId startedAt =>
    obtain ⟨process, found, alive, acted⟩ := alive_ok stepped
    split at acted
    next asked =>
      obtain ⟨system, inserted, rfl⟩ := Option.map_eq_some_iff.mp acted
      exact inv.start found alive asked inserted
    · simp at acted
  | refuse i p =>
    obtain ⟨process, found, alive, acted⟩ := alive_ok stepped
    split at acted
    next asked =>
      obtain rfl := Option.some.inj acted
      have holds := inv.processes process (List.mem_of_getElem? found)
      exact inv.process found (holds.move alive asked rfl rfl nofun)
        fun _ k _ owns => ⟨alive, owns.imp_left (Pool.mem_set_of_ne asked · nofun)⟩
    · simp at acted
  | settle i p =>
    obtain ⟨process, found, alive, acted⟩ := alive_ok stepped
    have holds := inv.processes process (List.mem_of_getElem? found)
    split at acted
    next refused =>
      obtain rfl := Option.some.inj acted
      exact inv.process found (holds.settle alive refused rfl nofun)
        fun _ k _ owns => ⟨alive, owns.imp_left (Pool.mem_set_of_ne refused · nofun)⟩
    next k started =>
      split at acted
      next finished =>
        obtain rfl := Option.some.inj acted
        have closed : Over fleet.system k := (Option.any_eq_true ..).mp finished
        refine inv.process found (holds.settle alive started rfl fun j same =>
          Option.some.inj same ▸ closed) fun _ j unover owns =>
            ⟨alive, owns.imp_left fun running => ?_⟩
        refine Pool.mem_set_of_ne started running fun same => unover ?_
        exact Tick.running.inj same ▸ closed
      · simp at acted
    · simp at acted
  | signal i =>
    obtain ⟨process, found, alive, acted⟩ := alive_ok stepped
    obtain rfl := Option.some.inj acted
    have holds := inv.processes process (List.mem_of_getElem? found)
    refine inv.process found (holds.shutdown alive) fun _ k _ owns =>
      ⟨alive, owns.imp_left fun running => ?_⟩
    exact (stopScheduler_ticks process.scheduler).symm ▸ running
  | runNow i jobRunId startedAt =>
    obtain ⟨process, found, alive, acted⟩ := alive_ok stepped
    obtain ⟨system, inserted, rfl⟩ := Option.map_eq_some_iff.mp acted
    exact inv.request found alive inserted
  | exit i j =>
    obtain ⟨process, found, alive, acted⟩ := alive_ok stepped
    obtain ⟨awaited, waits, done⟩ := Option.bind_eq_some_iff.mp acted
    split at done
    next drained =>
      obtain rfl := Option.some.inj done
      have holds := inv.processes process (List.mem_of_getElem? found)
      have settled := (holds.drained_iff (List.mem_of_getElem? waits)).mp drained
      -- the scheduler has nothing left to run, and the rest is cut off
      refine inv.ends found (fun _ => holds.inStep.idle_iff.mpr settled) fun k owns => ?_
      rcases owns with running | asked
      · cases settled _ running
      · exact crashRuns_over asked (holds.started k (.inr asked))
    · simp at done
  | kill i =>
    obtain ⟨process, found, alive, acted⟩ := alive_ok stepped
    obtain rfl := Option.some.inj acted
    have holds := inv.processes process (List.mem_of_getElem? found)
    refine inv.ends found nofun fun k owns => crashRuns_over ?_ (holds.started k owns)
    exact List.mem_append.mpr (owns.imp_left fun running => mem_runs.mpr (.inl running))

theorem FleetInvariant.boot (start : Store) (issued : List Id) :
    FleetInvariant (Fleet.boot start issued) :=
  ⟨List.forall_mem_nil _, fun k run found => by simp [Fleet.boot, System.boot] at found⟩

theorem reached_fleet {start : Store} {issued : List Id}
    (reached : Machine.Reaches (fleetStep config) Machine.anyAction (Fleet.boot start issued)
      fleet) : FleetInvariant fleet :=
  reached.invariant FleetInvariant (.boot start issued)
    fun _ _ _ _ inv _ stepped => inv.step stepped

end Fleets

/-! ### Ticks -/

section Ticks
variable {fleet : Fleet} {scheduler : Scheduler}

theorem tick_starts (inStep : InStep scheduler) (settled : AllSettled scheduler) :
    scheduler.tick = { scheduler with
      running := true
      inFlight := some scheduler.ticks.length
      ticks := scheduler.ticks ++ [.starting] } := by
  have idle : scheduler.running = false := by
    rw [inStep.flag, inStep.idle_iff.mpr settled]
    rfl
  rw [Scheduler.tick, idle]
  rfl

theorem tick_waits (inStep : InStep scheduler) (pending : ¬ AllSettled scheduler) :
    scheduler.tick = scheduler := by
  have flag : scheduler.running = true := by
    rw [inStep.flag, Option.isSome_iff_ne_none]
    exact fun idle => pending (inStep.idle_iff.mp idle)
  rw [Scheduler.tick, if_pos flag]

/-- A promise can settle once its run is over, or if there is none. -/
theorem settle_ready (config : JobConfig) {i p : Nat} {process : Process} {tick : Tick}
    (found : fleet.processes[i]? = some process) (alive : process.life = .alive)
    (asked : process.scheduler.ticks[p]? = some tick)
    (settles : tick = .refused ∨ ∃ k, tick = .running k ∧ Over fleet.system k) :
    ∃ run, fleetStep config fleet (.settle i p) =
      some (fleet.withScheduler i process (process.scheduler.settle p run)) := by
  rcases settles with rfl | ⟨k, rfl, run, stands, finished⟩
  · exact ⟨none, by simp [fleetStep, fleetStep.alive, found, alive, asked]⟩
  · exact ⟨some k, by simp [fleetStep, fleetStep.alive, found, alive, asked, stands, finished]⟩

end Ticks

/-- However many processes run and whatever becomes of their runs: every run that is not over is the
one run of the scheduler of a process that is alive, or an admin asked such a process for it. A tick
starts a run exactly if none of the scheduler's own is in flight, and as soon as that is over,
whatever its outcome, or could not be started, its promise can settle, and the next tick starts
another. -/
theorem one_scheduled_run_for_each_process (config : JobConfig) (start : Store) (issued : List Id)
    (fleet : Fleet)
    (reached : Machine.Reaches (fleetStep config) Machine.anyAction (Fleet.boot start issued)
      fleet) :
    (∀ k run, fleet.system.runs[k]? = some run → run.hasFinished = false →
      ∃ process ∈ fleet.processes, process.life = .alive ∧ Owns process k) ∧
    (∀ process ∈ fleet.processes, ∀ k j, .running k ∈ process.scheduler.ticks →
      .running j ∈ process.scheduler.ticks → k = j) ∧
    ∀ i process, fleet.processes[i]? = some process → process.life = .alive →
      (process.scheduler.timer = true →
        ∃ next, fleetStep config fleet (.tick i) = some next ∧
          (AllSettled process.scheduler → next = fleet.withScheduler i process
            { process.scheduler with
              running := true
              inFlight := some process.scheduler.ticks.length
              ticks := process.scheduler.ticks ++ [.starting] }) ∧
          (¬ AllSettled process.scheduler → next = fleet)) ∧
      ∀ p tick, process.scheduler.ticks[p]? = some tick →
        (tick = .refused ∨ ∃ k, tick = .running k ∧ Over fleet.system k) →
        ∃ next later, fleetStep config fleet (.settle i p) = some next ∧
          next.processes[i]? = some later ∧ AllSettled later.scheduler := by
  have inv := reached_fleet reached
  refine ⟨inv.owned, fun process member k j first second => ?_,
    fun i process found alive => ⟨fun timer => ?_, fun p tick asked settles => ?_⟩⟩
  -- Two running ticks stand at one place of the list, where at most one is unsettled.
  · obtain ⟨p, one⟩ := List.mem_iff_getElem?.mp first
    obtain ⟨q, two⟩ := List.mem_iff_getElem?.mp second
    have same := (inv.processes process member).inStep.unique one rfl two rfl
    subst same
    exact Tick.running.inj (Option.some.inj (one.symm.trans two))
  · have inStep := (inv.processes process (List.mem_of_getElem? found)).inStep
    refine ⟨fleet.withScheduler i process process.scheduler.tick,
      by simp [fleetStep, fleetStep.alive, found, alive, timer], fun settled => ?_,
      fun pending => ?_⟩
    -- A tick starts a run exactly if all earlier ones have settled; otherwise it changes nothing at
    -- all.
    · rw [tick_starts inStep settled]
    · have own : fleet.processes.set i process = fleet.processes := by
        obtain ⟨bound, rfl⟩ := List.getElem?_eq_some_iff.mp found
        exact List.set_getElem_self bound
      rw [tick_waits inStep pending, Fleet.withScheduler, Fleet.setProcess, own]
  · have inStep := (inv.processes process (List.mem_of_getElem? found)).inStep
    obtain ⟨run, stepped⟩ := settle_ready config found alive asked settles
    have unsettled : tick.isSettled = false := by
      rcases settles with rfl | ⟨k, rfl, _⟩ <;> rfl
    refine ⟨_, _, stepped, List.getElem?_set_self (List.getElem?_eq_some_iff.mp found).1, ?_⟩
    -- With the one unsettled tick settled, `inFlight` is empty, which means that all have.
    exact (inStep.settle asked unsettled run).idle_iff.mp rfl

/-- The first tick is refused by the database, the second starts a run and the third waits. -/
def ticking : List FleetAction :=
  [.boot false, .tick 0, .refuse 0 0, .settle 0 0, .tick 0, .start 0 1 "run" 0, .tick 0]

theorem one_scheduled_run_for_each_process_sample :
    ∃ fleet, Machine.exec (fleetStep sampleConfig) (fun _ _ => true) (Fleet.boot sampleStore [])
        ticking = some fleet ∧
      ∃ process ∈ fleet.processes, process.life = .alive ∧ Owns process 0 := by
  have ran : ((Machine.exec (fleetStep sampleConfig) (fun _ _ => true) (Fleet.boot sampleStore [])
      ticking).bind fun fleet => (fleet.system.runs[0]?).map Run.hasFinished) = some false := by
    decide
  obtain ⟨fleet, executed, ran⟩ := Option.bind_eq_some_iff.mp ran
  obtain ⟨run, found, unfinished⟩ := Option.map_eq_some_iff.mp ran
  refine ⟨fleet, executed, ?_⟩
  exact (one_scheduled_run_for_each_process sampleConfig sampleStore [] fleet
    (Machine.reaches_of_exec (fun _ _ => true) (fun _ _ _ => trivial) _ _ _ executed)).1 0 run found
    unfinished

/-! ### Shutdown -/

/-- A process that is shutting down goes on doing so, and starts no run. -/
def Stopping (old new : Process) : Prop :=
  old.shutdowns ≠ [] → new.shutdowns ≠ [] ∧
    new.scheduler.ticks.length = old.scheduler.ticks.length

theorem Stopping.refl (process : Process) : Stopping process process := fun stops => ⟨stops, rfl⟩

theorem Stopping.trans {first second third : Process} (left : Stopping first second)
    (right : Stopping second third) : Stopping first third := by
  intro stops
  obtain ⟨still, same⟩ := left stops
  obtain ⟨later, also⟩ := right still
  exact ⟨later, also.trans same⟩

theorem fleetStep_stopping {config : JobConfig} {fleet next : Fleet} {action : FleetAction}
    (inv : FleetInvariant fleet) (stepped : fleetStep config fleet action = some next) :
    Grows Stopping fleet.processes next.processes := by
  -- what most actions do to a process
  have same {i : Nat} {process new : Process} (found : fleet.processes[i]? = some process)
      (shutdowns : new.shutdowns = process.shutdowns)
      (ticks : new.scheduler.ticks.length = process.scheduler.ticks.length) :
      Grows Stopping fleet.processes (fleet.processes.set i new) :=
    .of_set Stopping.refl found fun stops => ⟨shutdowns ▸ stops, ticks⟩
  cases action with
  | boot isTest =>
    obtain rfl := Option.some.inj stepped
    exact (Grows.refl Stopping.refl _).append _
  | service action =>
    simp only [fleetStep] at stepped
    split at stepped
    · simp at stepped
    · obtain ⟨system, _, rfl⟩ := Option.map_eq_some_iff.mp stepped
      exact .refl Stopping.refl _
  | tick i =>
    obtain ⟨process, found, alive, acted⟩ := alive_ok stepped
    split at acted
    next timer =>
      obtain rfl := Option.some.inj acted
      refine .of_set Stopping.refl found fun stops => ?_
      -- the timer of a process that shuts down is gone
      obtain ⟨awaited, waits⟩ := List.exists_mem_of_ne_nil _ stops
      have holds := inv.processes process (List.mem_of_getElem? found)
      rw [(holds.stopped awaited waits).1] at timer
      cases timer
    · simp at acted
  | start i p jobRunId startedAt =>
    obtain ⟨process, found, alive, acted⟩ := alive_ok stepped
    split at acted
    · obtain ⟨system, inserted, rfl⟩ := Option.map_eq_some_iff.mp acted
      exact same found rfl (List.length_set ..)
    · simp at acted
  | refuse i p =>
    obtain ⟨process, found, alive, acted⟩ := alive_ok stepped
    split at acted
    · obtain rfl := Option.some.inj acted
      exact same found rfl (List.length_set ..)
    · simp at acted
  | settle i p =>
    obtain ⟨process, found, alive, acted⟩ := alive_ok stepped
    split at acted
    · obtain rfl := Option.some.inj acted
      exact same found rfl (List.length_set ..)
    · split at acted
      · obtain rfl := Option.some.inj acted
        exact same found rfl (List.length_set ..)
      · simp at acted
    · simp at acted
  | runNow i jobRunId startedAt =>
    obtain ⟨process, found, alive, acted⟩ := alive_ok stepped
    obtain ⟨system, inserted, rfl⟩ := Option.map_eq_some_iff.mp acted
    exact same found rfl rfl
  | signal i =>
    obtain ⟨process, found, alive, acted⟩ := alive_ok stepped
    obtain rfl := Option.some.inj acted
    refine .of_set Stopping.refl found fun stops => ⟨by simp [Process.shutdown], ?_⟩
    exact congrArg List.length (stopScheduler_ticks process.scheduler)
  | exit i j =>
    obtain ⟨process, found, alive, acted⟩ := alive_ok stepped
    obtain ⟨awaited, waits, done⟩ := Option.bind_eq_some_iff.mp acted
    split at done
    · obtain rfl := Option.some.inj done
      exact same found rfl rfl
    · simp at done
  | kill i =>
    obtain ⟨process, found, alive, acted⟩ := alive_ok stepped
    obtain rfl := Option.some.inj acted
    exact same found rfl rfl

/-- A shutdown can be completed exactly when nothing that the scheduler has started is in flight, so
that none of its runs is cut off; those that an admin asked for are. From the signal on the
scheduler starts no other. -/
theorem shutdown_awaits_the_scheduled_run (config : JobConfig) (start : Store) (issued : List Id)
    (fleet : Fleet)
    (reached : Machine.Reaches (fleetStep config) Machine.anyAction (Fleet.boot start issued)
      fleet) :
    (∀ i process, fleet.processes[i]? = some process → process.life = .alive →
      ∀ j awaited, process.shutdowns[j]? = some awaited →
        ((fleetStep config fleet (.exit i j)).isSome ↔ AllSettled process.scheduler) ∧
        ∀ next, fleetStep config fleet (.exit i j) = some next →
          (∀ k ∈ process.runs, Over fleet.system k) ∧
          ∀ k, Over next.system k ↔ Over fleet.system k ∨ k ∈ process.requested) ∧
    (∀ process ∈ fleet.processes, process.life = .exited →
      AllSettled process.scheduler ∧
        ∀ k, k ∈ process.runs ∨ k ∈ process.requested → Over fleet.system k) ∧
    ∀ later, Machine.Reaches (fleetStep config) Machine.anyAction fleet later →
      ∀ (i : Nat) (process : Process), fleet.processes[i]? = some process → process.shutdowns ≠ [] →
        ∃ after : Process, later.processes[i]? = some after ∧ after.shutdowns ≠ [] ∧
          after.scheduler.ticks.length = process.scheduler.ticks.length := by
  have inv := reached_fleet reached
  refine ⟨fun i process found alive j awaited waits => ?_, fun process member exited => ?_,
    fun later between i process found stops => ?_⟩
  -- The wait is over exactly when everything awaited has settled, which is when the runs are over.
  · have holds := inv.processes process (List.mem_of_getElem? found)
    have drained := holds.drained_iff (List.mem_of_getElem? waits)
    constructor
    · rw [← drained]
      simp [fleetStep, fleetStep.alive, found, alive, waits]
    · intro next stepped
      simp only [fleetStep, fleetStep.alive, found, alive, waits, Option.bind_some, if_true]
        at stepped
      split at stepped
      next done =>
        obtain rfl := Option.some.inj stepped
        -- The runs it awaited were over; those an admin asked for are cut off by the exit.
        exact ⟨holds.all_over (drained.mp done), fun k =>
          over_crashRuns_iff fun k asked => holds.started k (.inr asked)⟩
      · simp at stepped
  · have holds := inv.processes process member
    have settled := holds.inStep.idle_iff.mp (holds.exited exited)
    refine ⟨settled, fun k own => ?_⟩
    rcases own with started | asked
    · exact holds.all_over settled k started
    · exact holds.gone (by simp [exited]) k (.inr asked)
  -- A process that is stopping has no timer left: no later step adds a tick.
  · have grows : FleetInvariant later ∧ Grows Stopping fleet.processes later.processes := by
      refine between.invariant
        (fun later => FleetInvariant later ∧ Grows Stopping fleet.processes later.processes)
        ⟨inv, .refl Stopping.refl _⟩ ?_
      intro before action after _ holds _ stepped
      exact ⟨holds.1.step stepped,
        holds.2.trans (fun _ _ _ => Stopping.trans) (fleetStep_stopping holds.1 stepped)⟩
    obtain ⟨after, stands, stopping⟩ := grows.2 i process found
    exact ⟨after, stands, stopping stops⟩

/-- While the process waits for its run, which throws, an admin asks it for another. -/
def drainingRun : List FleetAction :=
  ticking ++ [.signal 0, .runNow 0 "asked" 1, .service (.interrupt 0), .settle 0 1]

theorem shutdown_awaits_the_scheduled_run_sample :
    ∃ fleet next, Machine.exec (fleetStep sampleConfig) (fun _ _ => true)
        (Fleet.boot sampleStore []) drainingRun = some fleet ∧
      fleetStep sampleConfig fleet (.exit 0 0) = some next ∧
      Over fleet.system 0 ∧ ¬ Over fleet.system 1 ∧ Over next.system 1 := by
  have ran : (Machine.exec (fleetStep sampleConfig) (fun _ _ => true) (Fleet.boot sampleStore [])
      drainingRun).any (fun fleet => decide (fleet.system.runs.map Run.hasFinished = [true, false] ∧
        fleet.processes.map (fun process => (process.life, process.shutdowns, process.runs,
          process.requested)) = [(.alive, [some 1], [0], [1])] ∧
        (fleetStep sampleConfig fleet (.exit 0 0)).isSome = true)) = true := by decide
  obtain ⟨fleet, executed, facts⟩ := Option.any_eq_true _ _ |>.mp ran
  obtain ⟨finished, processes, exits⟩ := of_decide_eq_true facts
  obtain ⟨process, only, columns⟩ := List.map_eq_singleton_iff.mp processes
  obtain ⟨alive, shutdowns, runs, requested⟩ :
      process.life = .alive ∧ process.shutdowns = [some 1] ∧ process.runs = [0] ∧
        process.requested = [1] := by simpa using columns
  obtain ⟨next, exited⟩ := Option.isSome_iff_exists.mp exits
  have settled := (shutdown_awaits_the_scheduled_run sampleConfig sampleStore [] fleet
    (Machine.reaches_of_exec (fun _ _ => true) (fun _ _ _ => trivial) _ _ _ executed)).1 0 process
    (by rw [only]; rfl) alive 0 (some 1) (by rw [shutdowns]; rfl)
  obtain ⟨before, ends⟩ := settled.2 next exited
  refine ⟨fleet, next, executed, exited, before 0 (by rw [runs]; exact List.mem_singleton_self 0),
    ?_, (ends 1).mpr (.inr (by rw [requested]; exact List.mem_singleton_self 1))⟩
  -- The run that the admin asked for is still going when the other has ended.
  rintro ⟨run, found, isOver⟩
  have unfinished := congrArg (·[1]?) finished
  simp only [List.getElem?_map, found, Option.map_some, isOver] at unfinished
  cases unfinished

end IncidentApi.Properties
