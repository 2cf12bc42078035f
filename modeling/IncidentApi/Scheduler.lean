import IncidentApi.Concurrency

/-!
# The scheduler and the processes it runs in

`scheduler.ts`, and `main` and `shutdown` of `main.ts`. Any number of processes share the database;
each starts job runs from its own timer and waits for the one in flight before it exits. It also
starts those that an admin asks for, which the scheduler knows nothing of.
-/
namespace IncidentApi

/-! ### One scheduler -/

/-- The promise that a tick leaves behind; a run is known by its index. -/
inductive Tick where
  /-- `jobRunRepository.start` has not answered yet. -/
  | starting
  | running (k : Nat)
  /-- `start` threw, and so did `runEscalationJob`. -/
  | refused
  /-- `finally` is done; `k` is the run, if there was one. -/
  | settled (k : Option Nat)
  deriving DecidableEq

def Tick.isSettled : Tick → Bool
  | .settled _ => true
  | _ => false

structure Scheduler where
  /-- `timer` is not null. -/
  timer : Bool
  running : Bool
  /-- The promise, by its index. -/
  inFlight : Option Nat
  /-- Every promise so far, in order. -/
  ticks : List Tick

def startScheduler (scheduler : Scheduler) : Scheduler :=
  if scheduler.timer then scheduler else { scheduler with timer := true }

def stopScheduler (scheduler : Scheduler) : Scheduler :=
  if scheduler.timer then { scheduler with timer := false } else scheduler

/-- The callback of the interval. -/
def Scheduler.tick (scheduler : Scheduler) : Scheduler :=
  if scheduler.running then scheduler
  else
    { scheduler with
      running := true
      inFlight := some scheduler.ticks.length
      ticks := scheduler.ticks ++ [.starting] }

/-- The `finally` of promise `p`. -/
def Scheduler.settle (scheduler : Scheduler) (p : Nat) (k : Option Nat) : Scheduler :=
  { scheduler with
    running := false
    inFlight := none
    ticks := scheduler.ticks.set p (.settled k) }

/-! ### Processes -/

inductive Life where
  | alive | exited | killed
  deriving DecidableEq

structure Process where
  scheduler : Scheduler
  /-- The runs of `runNow`. -/
  requested : List Nat
  /-- The calls of `shutdown`, one for each signal, with the promise that `drainScheduler` found. -/
  shutdowns : List (Option Nat)
  life : Life

/-- `main`: `NODE_ENV` decides whether the scheduler is started. -/
def main (isTest : Bool) : Process :=
  let scheduler : Scheduler := ⟨false, false, none, []⟩
  ⟨if isTest then scheduler else startScheduler scheduler, [], [], .alive⟩

/-- `shutdown` up to the promise it awaits. -/
def Process.shutdown (process : Process) : Process :=
  { process with
    scheduler := stopScheduler process.scheduler
    shutdowns := process.shutdowns ++ [(stopScheduler process.scheduler).inFlight] }

/-- `await inFlight` is over. -/
def Process.drained (process : Process) : Option Nat → Bool
  | none => true
  | some p => (process.scheduler.ticks[p]?).any Tick.isSettled

/-- The runs that the scheduler has started. -/
def Process.runs (process : Process) : List Nat :=
  process.scheduler.ticks.filterMap fun
    | .running k => some k
    | .settled k => k
    | _ => none

structure Fleet where
  system : System
  processes : List Process

inductive FleetAction where
  | boot (isTest : Bool)
  | tick (i : Nat)
  /-- `jobRunRepository.start` of promise `p` answers. -/
  | start (i p : Nat) (jobRunId : Id) (startedAt : Date)
  | refuse (i p : Nat)
  | settle (i p : Nat)
  /-- `POST /jobs/escalation/run`, as `jobRunRepository.start` answers it; neither flag nor promise
  is asked. -/
  | runNow (i : Nat) (jobRunId : Id) (startedAt : Date)
  /-- `SIGTERM` or `SIGINT`. -/
  | signal (i : Nat)
  /-- What follows the `await` of shutdown `j`. -/
  | exit (i j : Nat)
  /-- The process is gone at once, with what it has in flight. -/
  | kill (i : Nat)
  /-- The requests, and the statements of the runs. -/
  | service (action : Action)

def Run.hasFinished (run : Run) : Bool :=
  match run.phase with
  | .finished => true
  | _ => false

def Fleet.setProcess (fleet : Fleet) (i : Nat) (process : Process) : Fleet :=
  { fleet with processes := fleet.processes.set i process }

def Fleet.withScheduler (fleet : Fleet) (i : Nat) (process : Process) (scheduler : Scheduler) :
    Fleet :=
  fleet.setProcess i { process with scheduler := scheduler }

/-- Job runs are started by ticks and by `runNow`, and end with their process. -/
def Action.ofProcess : Action → Bool
  | .startRun .. | .crash _ => true
  | _ => false

def crashRun (run : Run) : Run :=
  if run.hasFinished then run
  else { run with phase := .finished, failure := some .interrupted }

def crashRuns (ks : List Nat) (sys : System) : System :=
  { sys with runs := sys.runs.mapIdx fun k run => if k ∈ ks then crashRun run else run }

def fleetStep (config : JobConfig) (fleet : Fleet) : FleetAction → Option Fleet
  | .boot isTest => some { fleet with processes := fleet.processes ++ [main isTest] }
  | .service action =>
    if action.ofProcess then none
    else (step config fleet.system action).map fun system => { fleet with system := system }
  | .tick i => alive i fun process =>
    if process.scheduler.timer then
      some (fleet.withScheduler i process process.scheduler.tick)
    else none
  | .start i p jobRunId startedAt => alive i fun process =>
    if process.scheduler.ticks[p]? = some .starting then
      (step config fleet.system (.startRun jobRunId startedAt)).map fun system =>
        { fleet with system := system }.withScheduler i process
          { process.scheduler with
            ticks := process.scheduler.ticks.set p (.running fleet.system.runs.length) }
    else none
  | .refuse i p => alive i fun process =>
    if process.scheduler.ticks[p]? = some .starting then
      some (fleet.withScheduler i process
        { process.scheduler with ticks := process.scheduler.ticks.set p .refused })
    else none
  | .settle i p => alive i fun process =>
    match process.scheduler.ticks[p]? with
    | some .refused => some (fleet.withScheduler i process (process.scheduler.settle p none))
    | some (.running k) =>
      -- the promise of a run settles once the run is over
      if (fleet.system.runs[k]?).any Run.hasFinished then
        some (fleet.withScheduler i process (process.scheduler.settle p (some k)))
      else none
    | _ => none
  | .runNow i jobRunId startedAt => alive i fun process =>
    (step config fleet.system (.startRun jobRunId startedAt)).map fun system =>
      { fleet with system := system }.setProcess i
        { process with requested := process.requested ++ [fleet.system.runs.length] }
  | .signal i => alive i fun process => some (fleet.setProcess i process.shutdown)
  | .exit i j => alive i fun process =>
    (process.shutdowns[j]?).bind fun awaited =>
      if process.drained awaited then
        -- `process.exit` waits for no request
        some ({ fleet with system := crashRuns process.requested fleet.system }.setProcess i
          { process with life := .exited })
      else none
  | .kill i => alive i fun process =>
    let started := process.runs ++ process.requested
    some ({ fleet with system := crashRuns started fleet.system }.setProcess i
      { process with life := .killed })
where
  alive (i : Nat) (act : Process → Option Fleet) : Option Fleet :=
    (fleet.processes[i]?).bind fun process => if process.life = .alive then act process else none

def Fleet.boot (store : Store) (issued : List Id) : Fleet := ⟨.boot store issued, []⟩

end IncidentApi
